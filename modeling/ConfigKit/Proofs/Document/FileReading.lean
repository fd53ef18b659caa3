-- SUMMARY: Reading a file agrees with reading its bytes, for every format and shape.
import ConfigKit.Document.File
import ConfigKit.Proofs.Results

/-!
# Reading files and reading bytes

A file is read in a format and as a shape or a tree, just as bytes in memory are. The main result
`ofFile_follows_ofBytes` says that the two agree for every file tree and path: they have the same values,
they refuse the same contents for the same cause, and a file that cannot be read at all gives the text of
the system. Reading leaves the tree as it is and reports one event.
-/

namespace ConfigKit

namespace Document

variable {α : Type} {tree : FileTree} {path : String}

/-! ## Ways of reading -/

/-- What is read: a document in a format, as a shape or as a whole tree. -/
inductive Reading : Type → Type where
  | json (shape : Shape) : Reading Datum
  | jsonTree : Reading Yaml.Tree
  | yaml (shape : Shape) : Reading Datum
  | yamlTree : Reading Yaml.Tree

namespace Reading

/-- Reads bytes in memory. -/
def ofBytes : {α : Type} → Reading α → Bytes → Except Failure α
  | _, .json shape, bytes => readJson shape bytes
  | _, .jsonTree, bytes => readJsonTree bytes
  | _, .yaml shape, bytes => readYaml shape bytes
  | _, .yamlTree, bytes => readTree bytes

/-- Reads a file. -/
def ofFile : {α : Type} → Reading α → FileTree → String → Outcome α
  | _, .json shape, tree, path => readJsonFile tree shape path
  | _, .jsonTree, tree, path => readJsonTreeFile tree path
  | _, .yaml shape, tree, path => readYamlFile tree shape path
  | _, .yamlTree, tree, path => readTreeFile tree path

/-- What a refusal of bytes starts with, before its cause. -/
def label : {α : Type} → Reading α → String
  | _, .json _ => "JSON error: "
  | _, .jsonTree => "JSON error: "
  | _, .yaml _ => "YAML error: "
  | _, .yamlTree => "YAML error: "

end Reading

/-! ## What a file that is read gives -/

/-- The event before a file is read. -/
def readingEvent (path : String) : Event :=
  { level := .debug, message := "reading file", fields := [("path", path)] }

theorem readBytes_eq_ok_iff {bytes : Bytes} :
    readBytes tree path = .ok bytes ↔ tree.load path = .ok bytes :=
  mapError_eq_ok_iff

theorem readBytes_eq_error_iff {failure : Failure} :
    readBytes tree path = .error failure ↔
      ∃ error, tree.load path = .error error ∧ failure = .io path (.system error) := by
  rw [readBytes, mapError_eq_error_iff]
  simp only [Failure.ofSystem, eq_comm]

theorem readContent_of_unreadable {error : OsError} (h : tree.load path = .error error)
    (content : Bytes → Except FileCause α) :
    readContent tree path content
      = ⟨.error (.file path (.io (.system error))), tree, [readingEvent path]⟩ := by
  simp only [readContent, h]
  rfl

theorem readContent_of_load {bytes : Bytes} (h : tree.load path = .ok bytes)
    (content : Bytes → Except FileCause α) :
    readContent tree path content
      = ⟨(content bytes).mapError (.file path), tree, [readingEvent path]⟩ := by
  simp only [readContent, h]
  rfl

/-- Reading a file is loading it and reading its content as the bytes in memory are read. A fault of the
content is told in the words that it has there, without the label. -/
structure ContentOf (reading : Reading α) where
  Fault : Type
  raw : Bytes → Except Fault α
  inFile : Fault → FileCause
  alone : Fault → Failure
  ofFile_eq : ∀ tree path,
    reading.ofFile tree path = readContent tree path fun bytes => (raw bytes).mapError inFile
  ofBytes_eq : ∀ bytes, reading.ofBytes bytes = (raw bytes).mapError alone
  message_alone : ∀ fault, (alone fault).message = reading.label ++ (inFile fault).message
  isIo_inFile : ∀ fault path, (Failure.file path (inFile fault)).isIo = false

/-- The content of a file in each way of reading. -/
def Reading.content : {α : Type} → (reading : Reading α) → ContentOf reading
  | _, .json shape => ⟨_, Json.decode shape, .json, .json,
      fun _ _ => rfl, fun _ => rfl, fun _ => rfl, fun _ _ => rfl⟩
  | _, .jsonTree => ⟨_, Yaml.decodeJsonTree, .json, .json,
      fun _ _ => rfl, fun _ => rfl, fun _ => rfl, fun _ _ => rfl⟩
  | _, .yaml shape => ⟨_, Yaml.decode shape, .yaml, .yaml,
      fun _ _ => rfl, fun _ => rfl, fun _ => rfl, fun _ _ => rfl⟩
  | _, .yamlTree => ⟨_, Yaml.decodeTree, .yaml, .yaml,
      fun _ _ => rfl, fun _ => rfl, fun _ => rfl, fun _ _ => rfl⟩

theorem ofFile_of_unreadable {error : OsError} (h : tree.load path = .error error)
    (reading : Reading α) :
    reading.ofFile tree path
      = ⟨.error (.file path (.io (.system error))), tree, [readingEvent path]⟩ := by
  rw [reading.content.ofFile_eq, readContent_of_unreadable h]

theorem ofFile_of_load {bytes : Bytes} (h : tree.load path = .ok bytes) (reading : Reading α) :
    reading.ofFile tree path
      = ⟨((reading.content.raw bytes).mapError reading.content.inFile).mapError (.file path), tree,
          [readingEvent path]⟩ := by
  rw [reading.content.ofFile_eq, readContent_of_load h]

variable {reading : Reading α}

theorem ofFile_eq_ok_iff {bytes : Bytes} (h : tree.load path = .ok bytes) (value : α) :
    (reading.ofFile tree path).result = .ok value ↔ reading.ofBytes bytes = .ok value := by
  rw [ofFile_of_load h, mapError_eq_ok_iff, mapError_eq_ok_iff, reading.content.ofBytes_eq,
    mapError_eq_ok_iff]

theorem ofFile_eq_error_iff {bytes : Bytes} (h : tree.load path = .ok bytes) (failure : Failure) :
    (reading.ofFile tree path).result = .error failure ↔
      ∃ fault, reading.content.raw bytes = .error fault ∧
        failure = .file path (reading.content.inFile fault) := by
  rw [ofFile_of_load h, mapError_eq_error_iff]
  constructor
  · rintro ⟨cause, hcause, rfl⟩
    obtain ⟨fault, hfault, rfl⟩ := mapError_eq_error_iff.mp hcause
    exact ⟨fault, hfault, rfl⟩
  · rintro ⟨fault, hfault, rfl⟩
    exact ⟨_, mapError_eq_error_iff.mpr ⟨fault, hfault, rfl⟩, rfl⟩

/-- A file is read if it has bytes that are read. -/
theorem ofFile_eq_ok_iff_readBytes {value : α} :
    (reading.ofFile tree path).result = .ok value ↔
      ∃ bytes, readBytes tree path = .ok bytes ∧ reading.ofBytes bytes = .ok value := by
  cases hload : tree.load path with
  | error error => simp [ofFile_of_unreadable hload, readBytes_eq_ok_iff, hload]
  | ok bytes => simp [ofFile_eq_ok_iff hload, readBytes_eq_ok_iff, hload]

/-- Reading a file leaves the tree as it is, and reports that the file is read. -/
theorem ofFile_leaves (reading : Reading α) (tree : FileTree) (path : String) :
    (reading.ofFile tree path).tree = tree ∧
      (reading.ofFile tree path).events = [readingEvent path] := by
  rw [reading.content.ofFile_eq]
  exact ⟨rfl, rfl⟩

/-! ## Agreement -/

/-- The failure is about a file, and gives the cause in these words. -/
def NamesFile (failure : Failure) (path cause : String) : Prop :=
  (∃ fileCause, failure = .file path fileCause) ∧
    failure.message = "file: [" ++ path ++ "], error: [" ++ cause ++ "]"

/-- At a path of a tree, reading the file agrees with reading its bytes. -/
structure AgreesAt (reading : Reading α) (tree : FileTree) (path : String) : Prop where
  tree_eq : (reading.ofFile tree path).tree = tree
  events_eq : (reading.ofFile tree path).events = [readingEvent path]
  /-- Where there are no bytes, the text of the system is the cause. -/
  unreadable : ∀ failure, readBytes tree path = .error failure →
    ∃ error : OsError, failure = .io path (.system error) ∧
      ∃ refusal, (reading.ofFile tree path).result = .error refusal ∧
        NamesFile refusal path error.message ∧ refusal.isIo = true
  readable : ∀ bytes, readBytes tree path = .ok bytes → ∀ value,
    (reading.ofFile tree path).result = .ok value ↔ reading.ofBytes bytes = .ok value
  /-- Bytes that are refused are refused for the same cause. -/
  refused : ∀ bytes, readBytes tree path = .ok bytes → ∀ failure,
    (reading.ofFile tree path).result = .error failure →
      ∃ cause refusal, reading.ofBytes bytes = .error refusal ∧
        refusal.message = reading.label ++ cause ∧
        NamesFile failure path cause ∧ failure.isIo = false

theorem ofFile_follows_ofBytes (reading : Reading α) (tree : FileTree) (path : String) :
    AgreesAt reading tree path where
  tree_eq := (ofFile_leaves reading tree path).1
  events_eq := (ofFile_leaves reading tree path).2
  unreadable failure hfailure := by
    obtain ⟨error, hload, rfl⟩ := readBytes_eq_error_iff.mp hfailure
    exact ⟨error, rfl, _, by rw [ofFile_of_unreadable hload], ⟨⟨_, rfl⟩, rfl⟩, rfl⟩
  readable bytes hbytes := ofFile_eq_ok_iff (readBytes_eq_ok_iff.mp hbytes)
  refused bytes hbytes failure hfailure := by
    have hload := readBytes_eq_ok_iff.mp hbytes
    obtain ⟨fault, hfault, rfl⟩ := (ofFile_eq_error_iff hload failure).mp hfailure
    have hmemory : reading.ofBytes bytes = .error (reading.content.alone fault) := by
      rw [reading.content.ofBytes_eq, hfault]
      rfl
    exact ⟨_, _, hmemory, reading.content.message_alone fault, ⟨⟨_, rfl⟩, rfl⟩,
      reading.content.isIo_inFile fault path⟩

end Document

end ConfigKit
