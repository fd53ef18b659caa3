-- SUMMARY: Failures of all operations, their messages, and which of them are failures of input and output.
import ConfigKit.FileTree.OsError
import ConfigKit.Json.Fault
import ConfigKit.Pattern.Basic
import ConfigKit.Yaml.Fault
import ConfigKit.Yaml.Tree

/-!
# Failures

Every operation that can fail gives a `Failure`: what went wrong and, for files, where. `Failure.message`
words it and `Failure.isIo` tells failures of the file system, or of another source of bytes, from bad
input.
-/

namespace ConfigKit

/-- Why bytes could not be read or written. -/
inductive IoCause where
  | system (error : OsError)
  /-- What a source of bytes said when it failed. -/
  | reader (text : String)
  deriving DecidableEq

def IoCause.message : IoCause → String
  | .system error => error.message
  | .reader text => text

/-- Why the content of a file could not be had. -/
inductive FileCause where
  | io (cause : IoCause)
  | json (fault : Json.Fault)
  | yaml (fault : Yaml.Fault)

def FileCause.message : FileCause → String
  | .io cause => cause.message
  | .json fault => fault.message
  | .yaml fault => fault.message

/-- What went wrong. -/
inductive Failure where
  /-- An expression without its wrapper. -/
  | noWrapper (expression : String)
  /-- The body of an expression that is no condition. -/
  | noCondition (body : String)
  | pattern (fault : Pattern.Fault)
  /-- A mapping key that has no text. -/
  | key (key : Yaml.Tree)
  | json (fault : Json.Fault)
  | yaml (fault : Yaml.Fault)
  | io (path : String) (cause : IoCause)
  | notDirectory (path : String)
  | alreadyExists (path : String)
  /-- A failure while a file was read. -/
  | file (path : String) (cause : FileCause)

namespace Failure

/-- The words for a failure. -/
def message : Failure → String
  | .noWrapper expression => "Invalid expression: Missing $\x7b...\x7d wrapper: " ++ expression
  | .noCondition body => "Invalid condition: Expected [env.]NAME==VALUE or !=, got: " ++ body
  | .pattern fault => fault.message
  | .key value => "Invalid map key: " ++ value.description
  | .json fault => "JSON error: " ++ fault.message
  | .yaml fault => "YAML error: " ++ fault.message
  | .io path cause => "I/O error at " ++ path ++ ": " ++ cause.message
  | .notDirectory path => path ++ " not a directory"
  | .alreadyExists path => path ++ " already exists"
  | .file path cause => "file: [" ++ path ++ "], error: [" ++ cause.message ++ "]"

/-- Whether the failure is one of the file system, or of another source of bytes. -/
def isIo : Failure → Bool
  | .io _ _ => true
  | .notDirectory _ => true
  | .alreadyExists _ => true
  | .file _ (.io _) => true
  | _ => false

end Failure

end ConfigKit
