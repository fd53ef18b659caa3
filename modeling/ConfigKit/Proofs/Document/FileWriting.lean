-- SUMMARY: The three outcomes of writing a file, and what each of them leaves.
import ConfigKit.Proofs.Document.JsonLayouts
import ConfigKit.Proofs.Document.Refusals
import ConfigKit.Proofs.FileTree.Storing

/-!
# Writing files

A datum is first turned into bytes, and only then is a file opened for them. So there are three outcomes: the
datum has no text and nothing is done, the system refuses the path and nothing is changed, or the file has
just these bytes. Which data have no text depends on the format alone (`exists_toBytes_error_iff`). The main
result `writing_is_exact` says this for every way of writing, file tree, datum and path, links on the way
included.
-/

namespace ConfigKit

namespace Document

variable {writing : Writing} {tree : FileTree} {datum : Datum} {path : String} {bytes : Bytes}
  {failure : Failure}

/-! ## Data without text -/

/-- What stands in the way of writing a datum: in JSON a key without a name, in YAML bytes. -/
def Writing.Refuses : Writing → Datum → Prop
  | .json _, datum => ∃ key, datum.MeetsKey key ∧ key.Nameless
  | .yaml, datum => datum.HoldsBytes

theorem exists_writeYaml_error_iff (datum : Datum) :
    (∃ failure, writeYaml datum = .error failure) ↔ datum.HoldsBytes := by
  have hprint := Yaml.exists_print_iff datum
  rw [writeYaml]
  cases htext : Yaml.print datum with
  | error fault =>
    rw [htext] at hprint
    exact iff_of_true ⟨_, rfl⟩ (Classical.not_not.mp fun hnone => by simpa using hprint.mpr hnone)
  | ok text => exact iff_of_false (by simp) (hprint.mp ⟨text, htext⟩)

/-- A datum has no text in a format just where the format refuses it. -/
theorem exists_toBytes_error_iff (writing : Writing) (datum : Datum) :
    (∃ failure, writing.toBytes datum = .error failure) ↔ writing.Refuses datum := by
  cases writing with
  | json pretty => exact exists_writeJson_error_iff (Writing.layout pretty) datum
  | yaml => exact exists_writeYaml_error_iff datum

/-! ## Outcomes -/

/-- The tree after a file was written: the path leads to it, it is in the place of the file that the path
led to before or in a free place, and every other entry is as it was. -/
structure Rewrites (tree later : FileTree) (path : String) (bytes : Bytes) : Prop where
  readBytes : readBytes later path = .ok bytes
  place : ∃ location, tree.Receives path location ∧
    later.find .follow path = .ok (location, .file bytes) ∧
    ∀ other, other ≠ location → later.node? other = tree.node? other

theorem rewrites_of_store {later : FileTree} (h : tree.store path bytes = .ok later) :
    Rewrites tree later path bytes where
  readBytes := readBytes_eq_ok_iff.mpr (FileTree.stored_of_store h).load
  place := FileTree.exists_place_of_store h

theorem toFile_of_error (hbytes : writing.toBytes datum = .ok bytes)
    (h : (writing.toFile tree datum path).result = .error failure) :
    ∃ error, failure = .io path (.system error) ∧
      writing.toFile tree datum path = ⟨.error failure, tree, [writingEvent path bytes]⟩ := by
  cases hstore : tree.store path bytes with
  | error error =>
    rw [Writing.toFile_of_refused hbytes hstore] at h ⊢
    cases h
    exact ⟨error, rfl, rfl⟩
  | ok later =>
    rw [Writing.toFile_of_stored hbytes hstore] at h
    cases h

theorem toFile_succeeds_iff :
    (writing.toFile tree datum path).result = .ok () ↔
      ∃ bytes later, writing.toBytes datum = .ok bytes ∧ tree.store path bytes = .ok later := by
  constructor
  · intro h
    cases hbytes : writing.toBytes datum with
    | error refusal =>
      rw [Writing.toFile_of_formless hbytes] at h
      cases h
    | ok bytes =>
      cases hstore : tree.store path bytes with
      | error error =>
        rw [Writing.toFile_of_refused hbytes hstore] at h
        cases h
      | ok later => exact ⟨bytes, later, rfl, hstore⟩
  · rintro ⟨bytes, later, hbytes, hstore⟩
    rw [Writing.toFile_of_stored hbytes hstore]

theorem toFile_of_ok (h : (writing.toFile tree datum path).result = .ok ()) :
    ∃ bytes, writing.toBytes datum = .ok bytes ∧
      (writing.toFile tree datum path).events = [writingEvent path bytes] ∧
      Rewrites tree (writing.toFile tree datum path).tree path bytes := by
  obtain ⟨bytes, later, hbytes, hstore⟩ := toFile_succeeds_iff.mp h
  rw [Writing.toFile_of_stored hbytes hstore]
  exact ⟨bytes, hbytes, rfl, rewrites_of_store hstore⟩

/-- What writing a datum into a file comes to. -/
structure WritesExactly (writing : Writing) (tree : FileTree) (datum : Datum) (path : String) : Prop where
  formless_iff : (∃ failure, writing.toBytes datum = .error failure) ↔ writing.Refuses datum
  /-- A datum without text: the fault of the format is all there is, not even an event. -/
  formless : ∀ failure, writing.toBytes datum = .error failure →
    writing.IsFault failure ∧ writing.toFile tree datum path = .unchanged tree (.error failure)
  /-- A path that the system refuses is named, and the tree is as it was. -/
  refused : ∀ bytes failure, writing.toBytes datum = .ok bytes →
    (writing.toFile tree datum path).result = .error failure →
      ∃ error, failure = .io path (.system error) ∧
        writing.toFile tree datum path = ⟨.error failure, tree, [writingEvent path bytes]⟩
  succeeds_iff : (writing.toFile tree datum path).result = .ok () ↔
    (∃ bytes, writing.toBytes datum = .ok bytes) ∧
      ∃ place location, tree.locate .create path = .ok place ∧ place.Open location
  written : (writing.toFile tree datum path).result = .ok () →
    ∃ bytes, writing.toBytes datum = .ok bytes ∧
      (writing.toFile tree datum path).events = [writingEvent path bytes] ∧
      Rewrites tree (writing.toFile tree datum path).tree path bytes

theorem writing_is_exact (writing : Writing) (tree : FileTree) (datum : Datum) (path : String) :
    WritesExactly writing tree datum path where
  formless_iff := exists_toBytes_error_iff writing datum
  formless _ h := ⟨Writing.isFault_of_toBytes h, Writing.toFile_of_formless h⟩
  refused _ _ := toFile_of_error
  succeeds_iff := by
    rw [toFile_succeeds_iff]
    constructor
    · rintro ⟨bytes, later, hbytes, hstore⟩
      exact ⟨⟨bytes, hbytes⟩, FileTree.exists_store_iff.mp ⟨later, hstore⟩⟩
    · rintro ⟨⟨bytes, hbytes⟩, hopen⟩
      obtain ⟨later, hstore⟩ := FileTree.exists_store_iff.mpr hopen
      exact ⟨bytes, later, hbytes, hstore⟩
  written := toFile_of_ok

/-- Bytes have no text in YAML, and in JSON the text of a list of numbers. -/
example :
    (writeYaml (.bytes [1, 2])).toOption = none ∧
      (writeJson .compact (.bytes [1, 2])).toOption = some (Utf8.encode "[1,2]\n") := by
  refine ⟨?_, by decide +kernel⟩
  simp [writeYaml, Yaml.print, Yaml.datumChars, bind, Except.bind, Except.toOption]

end Document

end ConfigKit
