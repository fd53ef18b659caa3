-- SUMMARY: Reading documents in memory as a shape or a tree, writing data as bytes, and draining a source of bytes.
import ConfigKit.Event
import ConfigKit.Failure
import ConfigKit.Json.Decode
import ConfigKit.Yaml.Decode
import ConfigKit.Yaml.JsonTree
import ConfigKit.Yaml.Printer

/-!
# Documents in memory

Reading bytes as a shape, from JSON or YAML, and writing a datum as bytes. Written JSON ends with a line
feed in both layouts.
-/

namespace ConfigKit

namespace Document

def readJson (shape : Shape) (bytes : Bytes) : Except Failure Datum :=
  (Json.decode shape bytes).mapError .json

/-- Reads JSON as a set of values that are their own keys. -/
def readJsonSet {α : Type} [DecidableEq α] (item : Json.Reader α) (bytes : Bytes) :
    Except Failure (KeyedSet α α) :=
  (Json.decodeSet item bytes).mapError .json

def readJsonList {α : Type} (item : Json.Reader α) (bytes : Bytes) : Except Failure (List α) :=
  (Json.readDocument (Json.readList Json.maxDepth fun _ => item) bytes).mapError .json

def readJsonTree (bytes : Bytes) : Except Failure Yaml.Tree :=
  (Yaml.decodeJsonTree bytes).mapError .json

def readYaml (shape : Shape) (bytes : Bytes) : Except Failure Datum :=
  (Yaml.decode shape bytes).mapError .yaml

def readTree (bytes : Bytes) : Except Failure Yaml.Tree :=
  (Yaml.decodeTree bytes).mapError .yaml

/-- The JSON text of a datum in a layout, with a line feed at its end. -/
def jsonChars (layout : Json.Layout) (datum : Datum) : Except Failure (List Char) :=
  match datum.toJson? with
  | .ok value => .ok (value.render layout 0 ++ ['\n'])
  | .error fault => .error (.json fault)

def writeJson (layout : Json.Layout) (datum : Datum) : Except Failure Bytes :=
  (jsonChars layout datum).map Utf8.encodeChars

def writeYaml (datum : Datum) : Except Failure Bytes :=
  match Yaml.print datum with
  | .ok text => .ok (Utf8.encode text)
  | .error fault => .error (.yaml fault)

/-- The indented JSON text of a datum. A datum without JSON form gives the empty text and an event. -/
def prettyText (datum : Datum) : String × List Event :=
  match writeJson .indented datum with
  | .ok bytes =>
    match Utf8.decode? bytes with
    | some cs => (String.ofList cs, [])
    | none => ("", [])
  | .error failure =>
    ("", [{ level := .warn, message := "JSON serialization failed"
            fields := [("error", failure.message)] }])

/-! ## Sources of bytes -/

/-- What a source of bytes answers when it is asked for more. -/
inductive Delivery where
  /-- Some bytes; none of them says that the source is at its end. -/
  | chunk (bytes : Bytes)
  /-- Nothing this time. The source is asked again. -/
  | interrupted
  /-- A failure, with what the source says. -/
  | failed (text : String)

/-- All bytes of a source, unless it fails. -/
def drain : List Delivery → Except String Bytes
  | [] => .ok []
  | .chunk [] :: _ => .ok []
  | .chunk (byte :: bytes) :: more => do
    let rest ← drain more
    .ok (byte :: bytes ++ rest)
  | .interrupted :: more => drain more
  | .failed text :: _ => .error text

/-- The path that stands for a source of bytes in failures. -/
def sourcePath : String := "<reader>"

/-- Reads all bytes of a source, and then JSON as a shape from them. -/
def readSource (shape : Shape) (source : List Delivery) : Except Failure Datum :=
  match drain source with
  | .error text => .error (.io sourcePath (.reader text))
  | .ok bytes => readJson shape bytes

end Document

end ConfigKit
