-- SUMMARY: All operations as calls with their arguments, and the effect of a call on a file tree.
import ConfigKit.Condition.Solve
import ConfigKit.FileTree.Directory
import ConfigKit.FileTree.Listing
import ConfigKit.Proofs.Document.FileReading
import ConfigKit.Proofs.Yaml.KeyFailures

/-!
# Calls

A call is an operation with its arguments, and `Call.run` carries it out on a file tree. Computations are
the calls that need no tree: whatever they refuse is bad input, never a failure of the file system
(`Computation.isIo_eq_false`).
-/

namespace ConfigKit

/-! ## Ways of writing -/

namespace Document

/-- The event before some bytes are written into a file. -/
def writingEvent (path : String) (bytes : Bytes) : Event :=
  { level := .debug, message := "writing file"
    fields := [("path", path), ("bytes", toString bytes.length)] }

/-- What a datum is written as. -/
inductive Writing where
  | json (pretty : Bool)
  | yaml

namespace Writing

/-- The layout of JSON, with indentation or without. -/
def layout (pretty : Bool) : Json.Layout :=
  if pretty then .indented else .compact

/-- Writes bytes. -/
def toBytes : Writing → Datum → Except Failure Bytes
  | .json pretty, datum => writeJson (layout pretty) datum
  | .yaml, datum => writeYaml datum

/-- Writes a file. -/
def toFile : Writing → FileTree → Datum → String → Outcome Unit
  | .json pretty, tree, datum, path => writeJsonFile tree (layout pretty) datum path
  | .yaml, tree, datum, path => writeYamlFile tree datum path

theorem toFile_eq_writeContent (writing : Writing) (tree : FileTree) (datum : Datum) (path : String) :
    writing.toFile tree datum path = writeContent tree path (writing.toBytes datum) := by
  cases writing <;> rfl

variable {writing : Writing} {tree later : FileTree} {datum : Datum} {path : String} {bytes : Bytes}
  {failure : Failure} {error : OsError}

theorem toFile_of_formless (h : writing.toBytes datum = .error failure) :
    writing.toFile tree datum path = .unchanged tree (.error failure) := by
  rw [toFile_eq_writeContent, h]
  rfl

theorem toFile_of_refused (hbytes : writing.toBytes datum = .ok bytes)
    (hstore : tree.store path bytes = .error error) :
    writing.toFile tree datum path
      = ⟨.error (.io path (.system error)), tree, [writingEvent path bytes]⟩ := by
  rw [toFile_eq_writeContent, hbytes]
  simp only [writeContent, hstore]
  rfl

theorem toFile_of_stored (hbytes : writing.toBytes datum = .ok bytes)
    (hstore : tree.store path bytes = .ok later) :
    writing.toFile tree datum path = ⟨.ok (), later, [writingEvent path bytes]⟩ := by
  rw [toFile_eq_writeContent, hbytes]
  simp only [writeContent, hstore]
  rfl

end Writing

end Document

open Document

/-! ## Calls -/

/-- An operation on values in memory, with its arguments. -/
inductive Computation : Type → Type 1 where
  | condition (expression : String) : Computation Condition
  | pattern (text : String) : Computation Pattern
  | normalize (tree : Yaml.Tree) : Computation Json
  | read {α : Type} (reading : Reading α) (bytes : Bytes) : Computation α
  | readList {α : Type} (item : Json.Reader α) (bytes : Bytes) : Computation (List α)
  | readSet {α : Type} [DecidableEq α] (item : Json.Reader α) (bytes : Bytes) :
      Computation (KeyedSet α α)
  | write (writing : Writing) (datum : Datum) : Computation Bytes

/-- What a computation gives. -/
def Computation.result : {α : Type} → Computation α → Except Failure α
  | _, .condition expression => Condition.ofExpression expression
  | _, .pattern text => (Pattern.compile text).mapError .pattern
  | _, .normalize tree => tree.normalize
  | _, .read reading bytes => reading.ofBytes bytes
  | _, .readList item bytes => readJsonList item bytes
  | _, @readSet _ _ item bytes => readJsonSet item bytes
  | _, .write writing datum => writing.toBytes datum

/-- An operation with its arguments. -/
inductive Call : Type → Type 1 where
  | compute {α : Type} (computation : Computation α) : Call α
  | prettyText (datum : Datum) : Call String
  | readSource (shape : Shape) (source : List Delivery) : Call Datum
  | readBytes (path : String) : Call Bytes
  | readPassword (source : String) : Call String
  | listFiles (root ext : String) : Call (List String)
  | readFile {α : Type} (reading : Reading α) (path : String) : Call α
  | writeFile (writing : Writing) (datum : Datum) (path : String) : Call Unit
  | create (path : String) : Call Unit
  | createIfMissing (path : String) : Call Unit
  | delete (path : String) : Call Unit
  | deleteIfPresent (path : String) : Call Unit
  | ensureEmpty (path : String) : Call Unit

/-- Carries out a call on a file tree. -/
def Call.run : {α : Type} → Call α → FileTree → Outcome α
  | _, .compute computation, tree => .unchanged tree computation.result
  | _, .prettyText datum, tree => ⟨.ok (Document.prettyText datum).1, tree, (Document.prettyText datum).2⟩
  | _, .readSource shape source, tree => .unchanged tree (Document.readSource shape source)
  | _, .readBytes path, tree => .unchanged tree (Document.readBytes tree path)
  | _, .readPassword source, tree => Document.readPassword tree source
  | _, .listFiles root ext, tree => ⟨.ok (tree.listFiles root ext).1, tree, [(tree.listFiles root ext).2]⟩
  | _, .readFile reading path, tree => reading.ofFile tree path
  | _, .writeFile writing datum path, tree => writing.toFile tree datum path
  | _, .create path, tree => Directory.create tree path
  | _, .createIfMissing path, tree => Directory.createIfMissing tree path
  | _, .delete path, tree => Directory.delete tree path
  | _, .deleteIfPresent path, tree => Directory.deleteIfPresent tree path
  | _, .ensureEmpty path, tree => Directory.ensureEmpty tree path

/-! ## Failures of computations -/

variable {failure : Failure}

theorem Condition.isIo_of_ofExpression {expression : String}
    (h : ofExpression expression = .error failure) : failure.isIo = false := by
  unfold ofExpression at h
  split at h
  · cases h
    rfl
  · split at h
    · cases h
      rfl
    · cases h

namespace Document

theorem Reading.isIo_of_ofBytes {α : Type} (reading : Reading α) {bytes : Bytes}
    (h : reading.ofBytes bytes = .error failure) : failure.isIo = false := by
  cases reading <;>
  · obtain ⟨fault, -, rfl⟩ := mapError_eq_error_iff.mp h
    rfl

/-- The failure is a fault in the format of what is written. -/
def Writing.IsFault : Writing → Failure → Prop
  | .json _, failure => ∃ fault, failure = .json fault
  | .yaml, failure => ∃ fault, failure = .yaml fault

theorem Writing.isFault_of_toBytes {writing : Writing} {datum : Datum}
    (h : writing.toBytes datum = .error failure) : writing.IsFault failure := by
  cases writing with
  | json pretty =>
    rw [toBytes, writeJson, jsonChars] at h
    cases hvalue : datum.toJson? with
    | error fault =>
      rw [hvalue] at h
      cases h
      exact ⟨fault, rfl⟩
    | ok value =>
      rw [hvalue] at h
      cases h
  | yaml =>
    rw [toBytes, writeYaml] at h
    cases htext : Yaml.print datum with
    | error fault =>
      rw [htext] at h
      cases h
      exact ⟨fault, rfl⟩
    | ok text =>
      rw [htext] at h
      cases h

theorem Writing.isIo_of_toBytes {writing : Writing} {datum : Datum}
    (h : writing.toBytes datum = .error failure) : failure.isIo = false := by
  have hfault := isFault_of_toBytes h
  cases writing with
  | json pretty =>
    obtain ⟨fault, rfl⟩ := hfault
    rfl
  | yaml =>
    obtain ⟨fault, rfl⟩ := hfault
    rfl

end Document

/-- What a computation refuses is bad input. -/
theorem Computation.isIo_eq_false {α : Type} {computation : Computation α}
    (h : computation.result = .error failure) : failure.isIo = false := by
  cases computation with
  | condition expression => exact Condition.isIo_of_ofExpression h
  | pattern text =>
    obtain ⟨fault, -, rfl⟩ := mapError_eq_error_iff.mp h
    rfl
  | normalize tree =>
    obtain ⟨key, rfl⟩ := Yaml.Tree.normalize_error h
    rfl
  | read reading bytes => exact Reading.isIo_of_ofBytes reading h
  | readList item bytes =>
    obtain ⟨fault, -, rfl⟩ := mapError_eq_error_iff.mp h
    rfl
  | readSet item bytes =>
    obtain ⟨fault, -, rfl⟩ := mapError_eq_error_iff.mp h
    rfl
  | write writing datum => exact Writing.isIo_of_toBytes h

end ConfigKit
