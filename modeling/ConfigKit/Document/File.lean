-- SUMMARY: Reading files as bytes, text, JSON and YAML, writing data into files, and passwords that are kept in files.
import ConfigKit.Document.Basic
import ConfigKit.FileTree.Outcome
import ConfigKit.Yaml.JsonTree

/-!
# Documents in files

Reading files as bytes, as JSON and as YAML, and writing data into files. A value is written only once its
whole text is there, so a value without text leaves the file as it was.
-/

namespace ConfigKit

namespace Document

def readBytes (tree : FileTree) (path : String) : Except Failure Bytes :=
  (tree.load path).mapError (Failure.ofSystem path)

/-! ## Passwords -/

/-- What a source of a password starts with if it names a file. -/
def fileSourcePrefix : String := "file:"

/-- The path that a source of a password names. -/
def passwordFile? (source : String) : Option String :=
  if fileSourcePrefix.toList.isPrefixOf source.toList then
    some (String.ofList (source.toList.drop fileSourcePrefix.length))
  else none

/-- The password of a source: the content of the file that it names, or the source itself. Broken parts
of the content are replaced. -/
def readPassword (tree : FileTree) (source : String) : Outcome String :=
  match passwordFile? source with
  | none => .unchanged tree (.ok source)
  | some path =>
    let text := (readBytes tree path).map fun bytes => String.ofList (Utf8.decodeLossy bytes)
    ⟨text, tree,
      [{ level := .debug, message := "reading password from file", fields := [("path", path)] }]⟩

/-! ## Reading -/

/-- Reads a file, and then its content. -/
def readContent {α : Type} (tree : FileTree) (path : String) (content : Bytes → Except FileCause α) :
    Outcome α :=
  let value := match tree.load path with
    | .error error => .error (.file path (.io (.system error)))
    | .ok bytes => (content bytes).mapError (.file path)
  ⟨value, tree, [{ level := .debug, message := "reading file", fields := [("path", path)] }]⟩

def readJsonFile (tree : FileTree) (shape : Shape) (path : String) : Outcome Datum :=
  readContent tree path fun bytes => (Json.decode shape bytes).mapError .json

def readJsonTreeFile (tree : FileTree) (path : String) : Outcome Yaml.Tree :=
  readContent tree path fun bytes => (Yaml.decodeJsonTree bytes).mapError .json

def readYamlFile (tree : FileTree) (shape : Shape) (path : String) : Outcome Datum :=
  readContent tree path fun bytes => (Yaml.decode shape bytes).mapError .yaml

def readTreeFile (tree : FileTree) (path : String) : Outcome Yaml.Tree :=
  readContent tree path fun bytes => (Yaml.decodeTree bytes).mapError .yaml

/-! ## Writing -/

/-- Writes bytes into a file, if there are any to write. -/
def writeContent (tree : FileTree) (path : String) (content : Except Failure Bytes) : Outcome Unit :=
  match content with
  | .error failure => .unchanged tree (.error failure)
  | .ok bytes =>
    let event : Event :=
      { level := .debug, message := "writing file"
        fields := [("path", path), ("bytes", toString bytes.length)] }
    match tree.store path bytes with
    | .error error => ⟨.error (.ofSystem path error), tree, [event]⟩
    | .ok tree => ⟨.ok (), tree, [event]⟩

def writeJsonFile (tree : FileTree) (layout : Json.Layout) (datum : Datum) (path : String) :
    Outcome Unit :=
  writeContent tree path (writeJson layout datum)

def writeYamlFile (tree : FileTree) (datum : Datum) (path : String) : Outcome Unit :=
  writeContent tree path (writeYaml datum)

end Document

end ConfigKit
