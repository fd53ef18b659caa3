-- SUMMARY: Entries of the tables of character sets.
import ConfigKit.Text.CodeRanges

/-!
# Named sets of characters

An entry in a table of character sets: the names that a set goes by, in their loose form, and its
members in the written form of `CodeRanges.ofTable`.
-/

namespace ConfigKit

namespace Unicode

/-- A set of characters under its names. The names are in lower case, without blanks, underscores and
hyphens. -/
structure NamedSet where
  names : List String
  rows : List String

namespace NamedSet

def members (s : NamedSet) : CodeRanges := CodeRanges.ofTable s.rows

def find? (table : List NamedSet) (name : String) : Option NamedSet :=
  table.find? (·.names.contains name)

/-- The members of the set in a table that goes by a name. -/
def members? (table : List NamedSet) (name : String) : Option CodeRanges :=
  (find? table name).map members

end NamedSet

end Unicode

end ConfigKit
