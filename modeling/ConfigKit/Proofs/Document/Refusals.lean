-- SUMMARY: Failures of input and output are told apart from bad input, for every call.
import ConfigKit.Proofs.Document.Calls

/-!
# Refusals

A call fails for one of two reasons. Either the system, a source of bytes or the check of a directory
refuses it (`Refused`), or its input is bad (`Faulty`). The main result `isIo_separates` says that
`Failure.isIo` tells the two apart for every call on every file tree. So a fault of a file's content
depends on nothing but the content, a fault of a value on nothing but the value, and what the system
refuses is refused whatever should be read or written.
-/

namespace ConfigKit

open Document

variable {α : Type} {tree : FileTree} {path : String} {failure : Failure} {error : OsError}

/-! ## The two reasons -/

/-- The system, a source of bytes, or the check of a directory refuses a call. -/
inductive Refused : {α : Type} → FileTree → Call α → Failure → Prop where
  | source {tree : FileTree} {shape : Shape} {source : List Delivery} {text : String}
      (h : drain source = .error text) :
      Refused tree (.readSource shape source) (.io sourcePath (.reader text))
  | bytes {tree : FileTree} {path : String} {error : OsError} (h : tree.load path = .error error) :
      Refused tree (.readBytes path) (.io path (.system error))
  | password {tree : FileTree} {source path : String} {error : OsError}
      (hsource : passwordFile? source = some path) (h : tree.load path = .error error) :
      Refused tree (.readPassword source) (.io path (.system error))
  | reading {tree : FileTree} {path : String} {error : OsError} {α : Type} {reading : Reading α}
      (h : tree.load path = .error error) :
      Refused tree (.readFile reading path) (.file path (.io (.system error)))
  | writing {tree : FileTree} {path : String} {error : OsError} {writing : Writing} {datum : Datum}
      {bytes : Bytes} (hbytes : writing.toBytes datum = .ok bytes)
      (h : tree.store path bytes = .error error) :
      Refused tree (.writeFile writing datum path) (.io path (.system error))
  | making {tree : FileTree} {path : String} {error : OsError}
      (hmissing : tree.pathExists path = false) (h : (tree.makeDirectories path).1 = .error error) :
      Refused tree (.createIfMissing path) (.io path (.system error))
  | creating {tree : FileTree} {path : String} {failure : Failure}
      (h : Refused tree (.createIfMissing path) failure) : Refused tree (.create path) failure
  | alreadyExists {tree : FileTree} {path : String} (h : tree.pathExists path = true) :
      Refused tree (.create path) (.alreadyExists path)
  | notDirectory {tree : FileTree} {path : String} {location : Location} {node : Node}
      (hfind : tree.find .follow path = .ok (location, node)) (hnode : node ≠ .directory) :
      Refused tree (.deleteIfPresent path) (.notDirectory path)
  | removing {tree : FileTree} {path : String} {error : OsError} {location : Location}
      (hfind : tree.find .follow path = .ok (location, .directory))
      (h : (tree.removeTree path).1 = .error error) :
      Refused tree (.deleteIfPresent path) (.io path (.system error))
  | deleting {tree : FileTree} {path : String} {failure : Failure}
      (h : Refused tree (.deleteIfPresent path) failure) : Refused tree (.delete path) failure
  | finding {tree : FileTree} {path : String} {error : OsError}
      (h : tree.find .follow path = .error error) :
      Refused tree (.delete path) (.io path (.system error))
  | emptying {tree : FileTree} {path : String} {failure : Failure}
      (h : Refused tree (.deleteIfPresent path) failure) : Refused tree (.ensureEmpty path) failure
  /-- What was there is deleted, and then no directory can be made. -/
  | remaking {tree : FileTree} {path : String} {failure : Failure}
      (hdeleted : (Directory.deleteIfPresent tree path).result = .ok ())
      (h : Refused (Directory.deleteIfPresent tree path).tree (.create path) failure) :
      Refused tree (.ensureEmpty path) failure

/-- The input of a call is bad: the value that it has, or the bytes that it leads to. -/
inductive Faulty : {α : Type} → FileTree → Call α → Failure → Prop where
  | computation {tree : FileTree} {α : Type} {computation : Computation α} {failure : Failure}
      (h : computation.result = .error failure) : Faulty tree (.compute computation) failure
  | source {tree : FileTree} {shape : Shape} {source : List Delivery} {bytes : Bytes}
      {failure : Failure} (hbytes : drain source = .ok bytes)
      (h : readJson shape bytes = .error failure) : Faulty tree (.readSource shape source) failure
  | content {tree : FileTree} {path : String} {α : Type} {reading : Reading α} {bytes : Bytes}
      {fault : reading.content.Fault} (hload : tree.load path = .ok bytes)
      (h : reading.content.raw bytes = .error fault) :
      Faulty tree (.readFile reading path) (.file path (reading.content.inFile fault))
  | datum {tree : FileTree} {path : String} {writing : Writing} {datum : Datum} {failure : Failure}
      (h : writing.toBytes datum = .error failure) :
      Faulty tree (.writeFile writing datum path) failure

namespace Directory

/-- What refuses the lenient operation refuses the strict one as well. -/
theorem create_of_createIfMissing (h : (createIfMissing tree path).result = .error failure) :
    (create tree path).result = .error failure := by
  unfold createIfMissing at h
  unfold create
  split at h
  · cases h
  · rename_i hmissing
    rw [if_neg hmissing]
    exact h

theorem delete_of_deleteIfPresent (h : (deleteIfPresent tree path).result = .error failure) :
    (delete tree path).result = .error failure := by
  unfold deleteIfPresent at h
  unfold delete
  cases hfind : tree.find .follow path with
  | error error =>
    rw [hfind] at h
    cases h
  | ok found =>
    rw [hfind] at h
    exact h

end Directory

namespace Refused

theorem isIo {call : Call α} (h : Refused tree call failure) : failure.isIo = true := by
  induction h with
  | source => rfl
  | bytes => rfl
  | password => rfl
  | reading => rfl
  | writing => rfl
  | making => rfl
  | creating h ih => exact ih
  | alreadyExists => rfl
  | notDirectory => rfl
  | removing => rfl
  | deleting h ih => exact ih
  | finding => rfl
  | emptying h ih => exact ih
  | remaking hdeleted h ih => exact ih

/-- What is refused fails. -/
theorem result {call : Call α} (h : Refused tree call failure) :
    (call.run tree).result = .error failure := by
  induction h with
  | source h => simp only [Call.run, readSource, h, Outcome.unchanged]
  | bytes h => exact readBytes_eq_error_iff.mpr ⟨_, h, rfl⟩
  | password hsource h =>
    simp only [Call.run, readPassword, hsource, readBytes, h]
    rfl
  | reading h => rw [Call.run, ofFile_of_unreadable h]
  | writing hbytes h =>
    rw [Call.run, Writing.toFile_of_refused hbytes h]
  | making hmissing h =>
    simp only [Call.run, Directory.createIfMissing, hmissing, Directory.make, h]
    rfl
  | creating h ih => exact Directory.create_of_createIfMissing ih
  | alreadyExists h =>
    simp only [Call.run, Directory.create, h]
    rfl
  | notDirectory hfind hnode =>
    simp only [Call.run, Directory.deleteIfPresent, hfind, Directory.remove, if_neg hnode]
    rfl
  | removing hfind h =>
    simp only [Call.run, Directory.deleteIfPresent, hfind, Directory.remove, h]
    rfl
  | deleting h ih => exact Directory.delete_of_deleteIfPresent ih
  | finding h =>
    simp only [Call.run, Directory.delete, h]
    rfl
  | emptying h ih =>
    simp only [Call.run] at ih
    simp only [Call.run, Directory.ensureEmpty, Outcome.andThen, ih]
  | remaking hdeleted h ih =>
    simp only [Call.run] at ih
    simp only [Call.run, Directory.ensureEmpty, Outcome.andThen, hdeleted, ih]

end Refused

namespace Faulty

theorem isIo {call : Call α} (h : Faulty tree call failure) : failure.isIo = false := by
  cases h with
  | computation h => exact Computation.isIo_eq_false h
  | @source _ shape _ _ _ hbytes h => exact Reading.isIo_of_ofBytes (.json shape) h
  | content hload h => exact Reading.content _ |>.isIo_inFile _ _
  | datum h => exact Writing.isIo_of_toBytes h

theorem result {call : Call α} (h : Faulty tree call failure) :
    (call.run tree).result = .error failure := by
  cases h with
  | computation h => exact h
  | source hbytes h => simp only [Call.run, readSource, hbytes, h, Outcome.unchanged]
  | content hload h => exact (ofFile_eq_error_iff hload _).mpr ⟨_, h, rfl⟩
  | datum h =>
    rw [Call.run, Writing.toFile_of_formless h, Outcome.unchanged]

end Faulty

/-! ## No other reason -/

namespace Directory

theorem createIfMissing_error (h : (createIfMissing tree path).result = .error failure) :
    Refused tree (.createIfMissing path) failure := by
  unfold createIfMissing at h
  cases hpath : tree.pathExists path with
  | true =>
    rw [if_pos hpath] at h
    cases h
  | false =>
    rw [if_neg (Bool.eq_false_iff.mp hpath)] at h
    obtain ⟨error, herror, rfl⟩ := mapError_eq_error_iff.mp h
    exact .making hpath herror

theorem create_error (h : (create tree path).result = .error failure) :
    Refused tree (.create path) failure := by
  cases hpath : tree.pathExists path with
  | true =>
    rw [create, if_pos hpath] at h
    cases h
    exact .alreadyExists hpath
  | false =>
    -- Where nothing is, both operations make the directory.
    have hsame : createIfMissing tree path = create tree path := by
      simp only [createIfMissing, create, hpath, Bool.false_eq_true, if_false]
    exact .creating (createIfMissing_error (hsame ▸ h))

theorem remove_error {location : Location} {node : Node}
    (hfind : tree.find .follow path = .ok (location, node))
    (h : (remove tree path node).result = .error failure) :
    Refused tree (.deleteIfPresent path) failure := by
  unfold remove at h
  by_cases hnode : node = .directory
  · rw [if_pos hnode] at h
    obtain ⟨error, herror, rfl⟩ := mapError_eq_error_iff.mp h
    exact .removing (hnode ▸ hfind) herror
  · rw [if_neg hnode] at h
    cases h
    exact .notDirectory hfind hnode

theorem deleteIfPresent_error (h : (deleteIfPresent tree path).result = .error failure) :
    Refused tree (.deleteIfPresent path) failure := by
  unfold deleteIfPresent at h
  cases hfind : tree.find .follow path with
  | error error =>
    rw [hfind] at h
    cases h
  | ok found =>
    rw [hfind] at h
    exact remove_error hfind h

theorem delete_error (h : (delete tree path).result = .error failure) :
    Refused tree (.delete path) failure := by
  unfold delete at h
  cases hfind : tree.find .follow path with
  | error error =>
    rw [hfind] at h
    cases h
    exact .finding hfind
  | ok found =>
    rw [hfind] at h
    exact .deleting (remove_error hfind h)

theorem ensureEmpty_error (h : (ensureEmpty tree path).result = .error failure) :
    Refused tree (.ensureEmpty path) failure := by
  unfold ensureEmpty Outcome.andThen at h
  cases hdeleted : (deleteIfPresent tree path).result with
  | error refusal =>
    rw [hdeleted] at h
    cases h
    exact .emptying (deleteIfPresent_error hdeleted)
  | ok value =>
    rw [hdeleted] at h
    exact .remaking hdeleted (create_error h)

end Directory

namespace Document

theorem readPassword_error {source : String} (h : (readPassword tree source).result = .error failure) :
    Refused tree (.readPassword source) failure := by
  unfold readPassword at h
  cases hsource : passwordFile? source with
  | none =>
    rw [hsource] at h
    cases h
  | some path =>
    rw [hsource] at h
    cases hbytes : readBytes tree path with
    | error refusal =>
      simp only [hbytes] at h
      cases h
      obtain ⟨error, hload, rfl⟩ := readBytes_eq_error_iff.mp hbytes
      exact .password hsource hload
    | ok bytes =>
      simp only [hbytes] at h
      cases h

theorem ofFile_error {reading : Reading α} (h : (reading.ofFile tree path).result = .error failure) :
    Refused tree (.readFile reading path) failure ∨ Faulty tree (.readFile reading path) failure := by
  cases hload : tree.load path with
  | error error =>
    rw [ofFile_of_unreadable hload] at h
    cases h
    exact .inl (.reading hload)
  | ok bytes =>
    obtain ⟨fault, hfault, rfl⟩ := (ofFile_eq_error_iff hload failure).mp h
    exact .inr (.content hload hfault)

theorem toFile_eq_error_iff {writing : Writing} {datum : Datum} :
    (writing.toFile tree datum path).result = .error failure ↔
      writing.toBytes datum = .error failure ∨
        ∃ bytes error, writing.toBytes datum = .ok bytes ∧ tree.store path bytes = .error error ∧
          failure = .io path (.system error) := by
  cases hbytes : writing.toBytes datum with
  | error refusal => simp [Writing.toFile_of_formless hbytes, Outcome.unchanged]
  | ok bytes =>
    cases hstore : tree.store path bytes with
    | error error => simp [Writing.toFile_of_refused hbytes hstore, hstore, eq_comm]
    | ok later => simp [Writing.toFile_of_stored hbytes hstore, hstore]

theorem toFile_error {writing : Writing} {datum : Datum}
    (h : (writing.toFile tree datum path).result = .error failure) :
    Refused tree (.writeFile writing datum path) failure ∨
      Faulty tree (.writeFile writing datum path) failure := by
  rcases toFile_eq_error_iff.mp h with hdatum | ⟨bytes, error, hbytes, hstore, rfl⟩
  · exact .inr (.datum hdatum)
  · exact .inl (.writing hbytes hstore)

end Document

/-- What fails is refused or has bad input. -/
theorem Call.refused_or_faulty {call : Call α} (h : (call.run tree).result = .error failure) :
    Refused tree call failure ∨ Faulty tree call failure := by
  cases call with
  | compute computation => exact .inr (.computation h)
  | prettyText datum => cases h
  | readSource shape source =>
    replace h : Document.readSource shape source = .error failure := h
    unfold Document.readSource at h
    cases hbytes : drain source with
    | error text =>
      rw [hbytes] at h
      cases h
      exact .inl (.source hbytes)
    | ok bytes =>
      rw [hbytes] at h
      exact .inr (.source hbytes h)
  | readBytes path =>
    obtain ⟨error, hload, rfl⟩ := readBytes_eq_error_iff.mp h
    exact .inl (.bytes hload)
  | readPassword source => exact .inl (readPassword_error h)
  | listFiles root ext => cases h
  | readFile reading path => exact ofFile_error h
  | writeFile writing datum path => exact toFile_error h
  | create path => exact .inl (Directory.create_error h)
  | createIfMissing path => exact .inl (Directory.createIfMissing_error h)
  | delete path => exact .inl (Directory.delete_error h)
  | deleteIfPresent path => exact .inl (Directory.deleteIfPresent_error h)
  | ensureEmpty path => exact .inl (Directory.ensureEmpty_error h)

/-! ## What each reason depends on -/

/-- Whether a file can be stored does not depend on its bytes. -/
theorem FileTree.store_error {bytes : Bytes} (h : tree.store path bytes = .error error) (other : Bytes) :
    tree.store path other = .error error := by
  unfold store at h ⊢
  cases hplace : tree.locate .create path with
  | error refusal =>
    rw [hplace] at h
    exact h
  | ok place =>
    rw [hplace] at h
    cases place with
    | vacant location => cases h
    | found location node =>
      cases node with
      | file content => cases h
      | directory => exact h
      | link target => exact h

namespace Document

theorem ofFile_faulty {reading : Reading α} (h : (reading.ofFile tree path).result = .error failure)
    (hinput : failure.isIo = false) :
    ∃ bytes, readBytes tree path = .ok bytes ∧
      ∀ other, readBytes other path = .ok bytes →
        (reading.ofFile other path).result = .error failure := by
  rcases ofFile_error h with hrefused | hfaulty
  · rw [hrefused.isIo] at hinput
    cases hinput
  · cases hfaulty with
    | content hload hfault =>
      refine ⟨_, readBytes_eq_ok_iff.mpr hload, fun other hother => ?_⟩
      exact (ofFile_eq_error_iff (readBytes_eq_ok_iff.mp hother) _).mpr ⟨_, hfault, rfl⟩

theorem ofFile_refused {reading : Reading α} (h : (reading.ofFile tree path).result = .error failure)
    (hio : failure.isIo = true) {β : Type} (other : Reading β) :
    (other.ofFile tree path).result = .error failure := by
  rcases ofFile_error h with hrefused | hfaulty
  · cases hrefused with
    | reading hload => rw [ofFile_of_unreadable hload]
  · rw [hfaulty.isIo] at hio
    cases hio

theorem toFile_faulty {writing : Writing} {datum : Datum}
    (h : (writing.toFile tree datum path).result = .error failure) (hinput : failure.isIo = false)
    (other : FileTree) : (writing.toFile other datum path).result = .error failure := by
  rcases toFile_eq_error_iff.mp h with hdatum | ⟨bytes, error, hbytes, hstore, rfl⟩
  · exact toFile_eq_error_iff.mpr (.inl hdatum)
  · cases hinput

theorem toFile_refused {writing : Writing} {datum : Datum}
    (h : (writing.toFile tree datum path).result = .error failure) (hio : failure.isIo = true)
    {other : Writing} {value : Datum} {bytes : Bytes} (hvalue : other.toBytes value = .ok bytes) :
    (other.toFile tree value path).result = .error failure := by
  rcases toFile_eq_error_iff.mp h with hdatum | ⟨stored, error, hstored, hstore, rfl⟩
  · rw [Writing.isIo_of_toBytes hdatum] at hio
    cases hio
  · exact toFile_eq_error_iff.mpr (.inr ⟨bytes, error, hvalue, FileTree.store_error hstore bytes, rfl⟩)

end Document

/-! ## Separation -/

/-- On a file tree `isIo` tells what is refused from bad input. -/
structure Separates (tree : FileTree) : Prop where
  refused_iff : ∀ {α : Type} (call : Call α) failure,
    (call.run tree).result = .error failure ∧ failure.isIo = true ↔ Refused tree call failure
  faulty_iff : ∀ {α : Type} (call : Call α) failure,
    (call.run tree).result = .error failure ∧ failure.isIo = false ↔ Faulty tree call failure
  /-- The bytes of a file are at fault wherever it has them. -/
  content : ∀ {α : Type} (reading : Reading α) path failure,
    (reading.ofFile tree path).result = .error failure → failure.isIo = false →
      ∃ bytes, readBytes tree path = .ok bytes ∧
        ∀ other, readBytes other path = .ok bytes →
          (reading.ofFile other path).result = .error failure
  /-- A datum is at fault whatever the tree. -/
  datum : ∀ (writing : Writing) datum path failure,
    (writing.toFile tree datum path).result = .error failure → failure.isIo = false →
      ∀ other, (writing.toFile other datum path).result = .error failure
  /-- A file that the system refuses to read is refused whatever it is read as. -/
  unreadable : ∀ {α β : Type} (reading : Reading α) (other : Reading β) path failure,
    (reading.ofFile tree path).result = .error failure → failure.isIo = true →
      (other.ofFile tree path).result = .error failure
  /-- A file that the system refuses to write is refused whatever should be written there. -/
  unwritable : ∀ (writing other : Writing) datum value bytes path failure,
    (writing.toFile tree datum path).result = .error failure → failure.isIo = true →
      other.toBytes value = .ok bytes → (other.toFile tree value path).result = .error failure

theorem isIo_separates (tree : FileTree) : Separates tree where
  refused_iff call failure := by
    constructor
    · rintro ⟨hresult, hio⟩
      refine (Call.refused_or_faulty hresult).resolve_right fun hfaulty => ?_
      rw [hfaulty.isIo] at hio
      cases hio
    · intro h
      exact ⟨h.result, h.isIo⟩
  faulty_iff call failure := by
    constructor
    · rintro ⟨hresult, hinput⟩
      refine (Call.refused_or_faulty hresult).resolve_left fun hrefused => ?_
      rw [hrefused.isIo] at hinput
      cases hinput
    · intro h
      exact ⟨h.result, h.isIo⟩
  content _ _ _ := ofFile_faulty
  datum _ _ _ _ := toFile_faulty
  unreadable _ other _ _ h hio := ofFile_refused h hio other
  unwritable _ _ _ _ _ _ _ h hio hvalue := toFile_refused h hio hvalue

end ConfigKit
