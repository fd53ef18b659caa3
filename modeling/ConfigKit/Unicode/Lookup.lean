-- SUMMARY: Finding a set of characters by its name, or by a property and a value.
import ConfigKit.Text.CodeRanges.Algebra
import ConfigKit.Unicode.Age
import ConfigKit.Unicode.Break
import ConfigKit.Unicode.Category
import ConfigKit.Unicode.Property
import ConfigKit.Unicode.Script
import ConfigKit.Unicode.ScriptExtension

/-!
# Sets of characters by name

`Unicode.named?` finds the set for a name such as `Greek`, `Lu` or `White_Space`, and
`Unicode.withValue?` the set for a property and a value, such as `sc` and `Greek`. Names are compared
loosely: case, blanks, underscores, hyphens and a leading `is` do not count.
-/

namespace ConfigKit

namespace Unicode

/-- The loose form of a name. Characters outside ASCII are dropped. A name that would be left with a
lone `c` keeps its `is`, since `isc` is a name in its own right. -/
def looseName (name : String) : String :=
  let loose (cs : List Char) : List Char :=
    (cs.filter fun c => c ≠ ' ' ∧ c ≠ '_' ∧ c ≠ '-' ∧ c.toNat ≤ 0x7F).map Char.toLower
  match name.toList with
  | i :: s :: rest =>
    if i.toLower = 'i' ∧ s.toLower = 's' then
      if loose rest = ['c'] then "isc" else String.ofList (loose rest)
    else String.ofList (loose (i :: s :: rest))
  | short => String.ofList (loose short)

/-- The groups of categories: their names, and the categories in them. -/
def categoryGroups : List (List String × List String) := [
  (["l", "letter"], ["lu", "ll", "lt", "lm", "lo"]),
  (["lc", "casedletter"], ["lu", "ll", "lt"]),
  (["m", "mark", "combiningmark"], ["mn", "mc", "me"]),
  (["n", "number"], ["nd", "nl", "no"]),
  (["p", "punctuation", "punct"], ["pc", "pd", "ps", "pe", "pi", "pf", "po"]),
  (["s", "symbol"], ["sm", "sc", "sk", "so"]),
  (["z", "separator"], ["zs", "zl", "zp"])]

/-- The characters in one of several categories. -/
def inCategories (names : List String) : CodeRanges :=
  .unions (names.filterMap (NamedSet.members? categories))

/-- The code points that are assigned to a character. -/
def assigned : CodeRanges := .unions (categories.map NamedSet.members)

/-- The set for a general category or a group of categories, under its loose name. -/
def category? (name : String) : Option CodeRanges :=
  if name = "any" then some .all
  else if name = "ascii" then some (.ofList [(0, 0x7F)])
  else if name = "assigned" then some assigned
  else if name = "cn" ∨ name = "unassigned" then some assigned.complement
  else if name = "c" ∨ name = "other" then
    some ((inCategories ["cc", "cf", "co"]).union assigned.complement)
  else
    match categoryGroups.find? (·.1.contains name) with
    | some (_, members) => some (inCategories members)
    | none => NamedSet.members? categories name

/-- The characters that had come with the version of Unicode of a loose name. -/
def age? (name : String) : Option CodeRanges :=
  if (NamedSet.find? ages name).isSome then
    let earlier := ages.takeWhile fun age => ¬ age.names.contains name
    some (.unions ((ages.take (earlier.length + 1)).map NamedSet.members))
  else none

/-- Whether a loose name means a category, though it is the short name of a property as well. -/
def isCategoryFirst (name : String) : Bool := name = "cf" ∨ name = "sc" ∨ name = "lc"

/-- The set that goes by a single name: a binary property, a category or a script. -/
def named? (name : String) : Option CodeRanges :=
  let name := looseName name
  let property := if isCategoryFirst name then none else NamedSet.members? properties name
  property <|> category? name <|> NamedSet.members? scripts name

/-- The characters for which a property has a value. -/
def withValue? (property value : String) : Option CodeRanges :=
  let property := looseName property
  let value := looseName value
  if property = "gc" ∨ property = "generalcategory" then category? value
  else if property = "sc" ∨ property = "script" then NamedSet.members? scripts value
  else if property = "scx" ∨ property = "scriptextensions" then
    NamedSet.members? scriptExtensions value
  else if property = "age" then age? value
  else if property = "gcb" ∨ property = "graphemeclusterbreak" then
    NamedSet.members? graphemeBreaks value
  else if property = "wb" ∨ property = "wordbreak" then NamedSet.members? wordBreaks value
  else if property = "sb" ∨ property = "sentencebreak" then NamedSet.members? sentenceBreaks value
  else none

/-- The set for a name that the tables hold. -/
def property (name : String) : CodeRanges := (named? name).getD .empty

def alphabetic : CodeRanges := property "alphabetic"

def alphanumeric : CodeRanges := alphabetic.union (inCategories ["nd", "nl", "no"])

def decimalDigits : CodeRanges := inCategories ["nd"]

def whiteSpace : CodeRanges := property "whitespace"

/-- The characters of words: letters, marks, decimal digits, connectors such as the underscore, and the
two characters that control joining. -/
def wordCharacters : CodeRanges :=
  .unions [alphabetic, inCategories ["mn", "mc", "me", "nd", "pc"], property "joincontrol"]

end Unicode

end ConfigKit
