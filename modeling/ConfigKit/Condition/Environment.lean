-- SUMMARY: Environments as functions: maps of texts, and a process environment whose values are bytes.
import ConfigKit.FieldMap.Family
import ConfigKit.Text.Utf8

/-!
# Environments

An environment tells the value of a variable, or that there is none. A map of texts is one. The process
environment is another: its values are bytes, read as text with U+FFFD for what is no text, and no
variable has a name that is empty or holds `=` or NUL.
-/

namespace ConfigKit

/-- A look-up of variables by name. -/
abbrev Environment := String → Option String

def TextMap.environment (m : TextMap) : Environment :=
  fun name => FieldMap.get? m name

/-- The variables of the process, with their bytes. -/
abbrev ProcessEnvironment := FieldMap String Bytes

namespace ProcessEnvironment

/-- Whether a variable can have this name. -/
def isUsable (name : String) : Bool :=
  !name.isEmpty && !name.toList.contains '=' && !name.toList.contains '\x00'

def set (process : ProcessEnvironment) (name : String) (value : Bytes) : ProcessEnvironment :=
  FieldMap.insert process name value

def unset (process : ProcessEnvironment) (name : String) : ProcessEnvironment :=
  FieldMap.filterKeys process (· ≠ name)

/-- The value of a variable as text. -/
def get? (process : ProcessEnvironment) (name : String) : Option String :=
  if isUsable name then
    (FieldMap.get? process name).map fun bytes => String.ofList (Utf8.decodeLossy bytes)
  else none

def environment (process : ProcessEnvironment) : Environment :=
  get? process

/-- The map of all variables with their values as text. -/
def texts (process : ProcessEnvironment) : TextMap :=
  FieldMap.ofList (process.entries.map fun entry =>
    (entry.1, String.ofList (Utf8.decodeLossy entry.2)))

end ProcessEnvironment

end ConfigKit
