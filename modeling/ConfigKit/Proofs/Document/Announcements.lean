-- SUMMARY: Every change that a call makes to the file tree is announced by an event.
import ConfigKit.Proofs.Document.Refusals
import ConfigKit.Proofs.FileTree.EmptyDirectory
import ConfigKit.Proofs.FileTree.Storing

/-!
# Announcements

A call that changes the file tree reports an event that says so and names the path. The main result
`changes_are_announced` follows a run of calls: each change is announced by the call that makes it, and
calls that announce nothing leave the tree as it is. Among these are all that read, and those that fail
because of their input or because of a check of a directory.
-/

namespace ConfigKit

open Document

/-! ## Events that announce a change -/

/-- The event says that directories are made or deleted, or that a file is written. -/
def Event.IsChange (event : Event) : Prop :=
  event.level = .debug ∧ (event.message = "creating directory" ∨
    event.message = "removing directory tree" ∨ event.message = "writing file")

/-- The event announces a change at a path. Of a file that is written it tells the length: that of the
bytes which are then in the file. -/
inductive Announces (tree later : FileTree) (path : String) : Event → Prop where
  | creating : Announces tree later path (Directory.creatingEvent path)
  | removing : Announces tree later path (Directory.removingEvent path)
  | writing {bytes : Bytes} (h : tree.Stored later path bytes) :
      Announces tree later path (writingEvent path bytes)

theorem Announces.isChange {tree later : FileTree} {path : String} {event : Event}
    (h : Announces tree later path event) : event.IsChange := by
  cases h with
  | creating => exact ⟨rfl, .inl rfl⟩
  | removing => exact ⟨rfl, .inr (.inl rfl)⟩
  | writing h => exact ⟨rfl, .inr (.inr rfl)⟩

namespace Outcome

variable {α : Type} {tree : FileTree} {path : String}

/-- The tree is as it was, or one of the events announces the change. -/
def Announced (outcome : Outcome α) (tree : FileTree) (path : String) : Prop :=
  outcome.tree = tree ∨ ∃ event ∈ outcome.events, Announces tree outcome.tree path event

/-- Nothing is changed, and no change is announced. -/
structure Idle (outcome : Outcome α) (tree : FileTree) : Prop where
  tree_eq : outcome.tree = tree
  silent : ∀ event ∈ outcome.events, ¬ event.IsChange

theorem Idle.unchanged (tree : FileTree) (result : Except Failure α) :
    (unchanged tree result).Idle tree :=
  ⟨rfl, by simp [Outcome.unchanged]⟩

end Outcome

/-! ## Directories -/

/-- Bad input, or the check of a directory: what ends a call before it has changed anything. -/
inductive Failure.IsEarly : Failure → Prop where
  | input {failure : Failure} (h : failure.isIo = false) : IsEarly failure
  | notDirectory (path : String) : IsEarly (.notDirectory path)
  | alreadyExists (path : String) : IsEarly (.alreadyExists path)

theorem Failure.not_isEarly_io (path : String) (cause : IoCause) : ¬ IsEarly (.io path cause) := by
  intro h
  cases h with
  | input h => cases h

namespace Directory

variable {tree : FileTree} {path : String} {failure : Failure} {outcome : Outcome Unit}

/-- What an operation on directories comes to: nothing is done, directories are made, or one is deleted. -/
inductive Act (tree : FileTree) (path : String) : Outcome Unit → Prop where
  | nothing (result : Except Failure Unit) : Act tree path (.unchanged tree result)
  | making : Act tree path (make tree path)
  | removing : Act tree path (remove tree path .directory)

theorem act_create (tree : FileTree) (path : String) : Act tree path (create tree path) := by
  unfold create
  split
  · exact .nothing _
  · exact .making

theorem act_createIfMissing (tree : FileTree) (path : String) :
    Act tree path (createIfMissing tree path) := by
  unfold createIfMissing
  split
  · exact .nothing _
  · exact .making

theorem act_remove (tree : FileTree) (path : String) (node : Node) :
    Act tree path (remove tree path node) := by
  by_cases hnode : node = .directory
  · rw [hnode]
    exact .removing
  · rw [remove, if_neg hnode]
    exact .nothing _

theorem act_delete (tree : FileTree) (path : String) : Act tree path (delete tree path) := by
  unfold delete
  split
  · exact .nothing _
  · exact act_remove tree path _

theorem act_deleteIfPresent (tree : FileTree) (path : String) :
    Act tree path (deleteIfPresent tree path) := by
  unfold deleteIfPresent
  split
  · exact .nothing _
  · exact act_remove tree path _

theorem Act.announced (h : Act tree path outcome) : outcome.Announced tree path := by
  cases h with
  | nothing result => exact .inl rfl
  | making => exact .inr ⟨creatingEvent path, List.mem_singleton_self _, .creating⟩
  | removing => exact .inr ⟨removingEvent path, List.mem_singleton_self _, .removing⟩

/-- Once directories are made or deleted, only the system can refuse. -/
theorem Act.idle_of_early (h : Act tree path outcome) (hresult : outcome.result = .error failure)
    (hearly : failure.IsEarly) : outcome.Idle tree := by
  cases h with
  | nothing result => exact Outcome.Idle.unchanged tree result
  | making =>
    obtain ⟨error, -, rfl⟩ := mapError_eq_error_iff.mp hresult
    exact absurd hearly (Failure.not_isEarly_io path (.system error))
  | removing =>
    obtain ⟨error, -, rfl⟩ := mapError_eq_error_iff.mp hresult
    exact absurd hearly (Failure.not_isEarly_io path (.system error))

/-- After the lenient deletion the path leads nowhere. -/
theorem pathExists_deleteIfPresent (hok : (deleteIfPresent tree path).result = .ok ()) :
    (deleteIfPresent tree path).tree.pathExists path = false := by
  unfold deleteIfPresent at hok ⊢
  cases hfind : tree.find .follow path with
  | error error => simp [FileTree.pathExists, Outcome.unchanged, hfind]
  | ok found =>
    rw [hfind] at hok
    obtain ⟨hremoved, htree⟩ := remove_ok hok
    simp only [htree, FileTree.pathExists]
    split
    · rename_i found hfound
      exact absurd hfound (FileTree.find_ne_ok_of_removeTree (by simp) hremoved found.1 found.2)
    · rfl

/-- Once the lenient deletion is done, nothing is in the way and a directory is made. -/
theorem ensureEmpty_of_deleted (hok : (deleteIfPresent tree path).result = .ok ()) :
    ensureEmpty tree path = { make (deleteIfPresent tree path).tree path with
      events := (deleteIfPresent tree path).events ++ [creatingEvent path] } := by
  rw [ensureEmpty, Outcome.andThen_of_ok hok, create, pathExists_deleteIfPresent hok]
  rfl

theorem ensureEmpty_announced (tree : FileTree) (path : String) :
    (ensureEmpty tree path).Announced tree path := by
  cases hdeleted : (deleteIfPresent tree path).result with
  | error refusal =>
    rw [ensureEmpty, Outcome.andThen_of_error hdeleted]
    exact (act_deleteIfPresent tree path).announced
  | ok value =>
    rw [ensureEmpty_of_deleted hdeleted]
    exact .inr ⟨creatingEvent path, by simp, .creating⟩

theorem ensureEmpty_idle_of_early (hresult : (ensureEmpty tree path).result = .error failure)
    (hearly : failure.IsEarly) : (ensureEmpty tree path).Idle tree := by
  cases hdeleted : (deleteIfPresent tree path).result with
  | error refusal =>
    rw [ensureEmpty, Outcome.andThen_of_error hdeleted] at hresult ⊢
    cases hresult
    obtain ⟨htree, hsilent⟩ := (act_deleteIfPresent tree path).idle_of_early hdeleted hearly
    exact ⟨htree, hsilent⟩
  | ok value =>
    rw [ensureEmpty_of_deleted hdeleted] at hresult
    obtain ⟨error, -, rfl⟩ := mapError_eq_error_iff.mp hresult
    exact absurd hearly (Failure.not_isEarly_io path (.system error))

end Directory

/-! ## Files -/

namespace Document

variable {α : Type} {tree : FileTree} {path : String} {failure : Failure}

theorem toFile_announced (writing : Writing) (tree : FileTree) (datum : Datum) (path : String) :
    (writing.toFile tree datum path).Announced tree path := by
  cases hbytes : writing.toBytes datum with
  | error refusal =>
    rw [Writing.toFile_of_formless hbytes]
    exact .inl rfl
  | ok bytes =>
    cases hstore : tree.store path bytes with
    | error error =>
      rw [Writing.toFile_of_refused hbytes hstore]
      exact .inl rfl
    | ok later =>
      rw [Writing.toFile_of_stored hbytes hstore]
      have hannounces := Announces.writing (FileTree.stored_of_store hstore)
      exact .inr ⟨writingEvent path bytes, List.mem_singleton_self _, hannounces⟩

/-- A datum without text is not written. -/
theorem toFile_idle_of_early {writing : Writing} {datum : Datum}
    (hresult : (writing.toFile tree datum path).result = .error failure) (hearly : failure.IsEarly) :
    (writing.toFile tree datum path).Idle tree := by
  rcases toFile_eq_error_iff.mp hresult with hdatum | ⟨bytes, error, -, -, rfl⟩
  · rw [Writing.toFile_of_formless hdatum]
    exact Outcome.Idle.unchanged tree (.error failure)
  · exact absurd hearly (Failure.not_isEarly_io path (.system error))

theorem readPassword_idle (tree : FileTree) (source : String) : (readPassword tree source).Idle tree := by
  unfold readPassword
  split
  · exact Outcome.Idle.unchanged tree (.ok source)
  · exact ⟨rfl, by simp [Event.IsChange]⟩

theorem ofFile_idle (reading : Reading α) (tree : FileTree) (path : String) :
    (reading.ofFile tree path).Idle tree := by
  obtain ⟨htree, hevents⟩ := ofFile_leaves reading tree path
  exact ⟨htree, by simp [hevents, readingEvent, Event.IsChange]⟩

theorem prettyText_silent (datum : Datum) : ∀ event ∈ (prettyText datum).2, ¬ event.IsChange := by
  unfold prettyText
  split
  · split <;> simp
  · simp [Event.IsChange]

end Document

/-! ## Calls -/

namespace Call

variable {α : Type} {tree : FileTree} {failure : Failure}

/-- The path at which a call may change the tree. A call without one only reads. -/
def target? : {α : Type} → Call α → Option String
  | _, .writeFile _ _ path => some path
  | _, .create path => some path
  | _, .createIfMissing path => some path
  | _, .delete path => some path
  | _, .deleteIfPresent path => some path
  | _, .ensureEmpty path => some path
  | _, _ => none

theorem idle_of_reads {call : Call α} (h : call.target? = none) (tree : FileTree) :
    (call.run tree).Idle tree := by
  cases call with
  | compute computation => exact .unchanged tree computation.result
  | prettyText datum => exact ⟨rfl, prettyText_silent datum⟩
  | readSource shape source => exact .unchanged tree (Document.readSource shape source)
  | readBytes path => exact .unchanged tree (Document.readBytes tree path)
  | readPassword source => exact readPassword_idle tree source
  | listFiles root ext => exact ⟨rfl, by simp [run, FileTree.listFiles, Event.IsChange]⟩
  | readFile reading path => exact ofFile_idle reading tree path
  | _ => cases h

/-- A call leaves the tree as it is or announces at its path what it changes. -/
theorem announced {call : Call α} {path : String} (h : call.target? = some path) (tree : FileTree) :
    (call.run tree).Announced tree path := by
  cases call with
  | writeFile writing datum path =>
    cases h
    exact toFile_announced writing tree datum path
  | create path =>
    cases h
    exact (Directory.act_create tree path).announced
  | createIfMissing path =>
    cases h
    exact (Directory.act_createIfMissing tree path).announced
  | delete path =>
    cases h
    exact (Directory.act_delete tree path).announced
  | deleteIfPresent path =>
    cases h
    exact (Directory.act_deleteIfPresent tree path).announced
  | ensureEmpty path =>
    cases h
    exact Directory.ensureEmpty_announced tree path
  | _ => cases h

theorem idle_of_early {call : Call α} (hresult : (call.run tree).result = .error failure)
    (hearly : failure.IsEarly) : (call.run tree).Idle tree := by
  cases call with
  | writeFile writing datum path => exact toFile_idle_of_early hresult hearly
  | create path => exact (Directory.act_create tree path).idle_of_early hresult hearly
  | createIfMissing path => exact (Directory.act_createIfMissing tree path).idle_of_early hresult hearly
  | delete path => exact (Directory.act_delete tree path).idle_of_early hresult hearly
  | deleteIfPresent path => exact (Directory.act_deleteIfPresent tree path).idle_of_early hresult hearly
  | ensureEmpty path => exact Directory.ensureEmpty_idle_of_early hresult hearly
  | _ => exact idle_of_reads rfl tree

theorem exists_announcement {call : Call α} (h : (call.run tree).tree ≠ tree) :
    ∃ path event, call.target? = some path ∧ event ∈ (call.run tree).events ∧
      Announces tree (call.run tree).tree path event := by
  cases htarget : call.target? with
  | none => exact absurd (idle_of_reads htarget tree).tree_eq h
  | some path =>
    obtain ⟨event, hevent, hannounces⟩ := (announced htarget tree).resolve_left h
    exact ⟨path, event, rfl, hevent, hannounces⟩

end Call

/-! ## Runs -/

/-- A call, whatever it gives. -/
abbrev AnyCall := (α : Type) × Call α

/-- The tree after some calls, one after the other. -/
def afterCalls (tree : FileTree) (calls : List AnyCall) : FileTree :=
  calls.foldl (fun tree call => (call.2.run tree).tree) tree

/-- A call of a run, with the tree that it is carried out on. -/
structure Entry where
  call : AnyCall
  before : FileTree

namespace Entry

/-- What the call comes to. -/
def outcome (entry : Entry) : Outcome entry.call.1 := entry.call.2.run entry.before

/-- None of the call's events announces a change. -/
def Silent (entry : Entry) : Prop := ∀ event ∈ entry.outcome.events, ¬ event.IsChange

/-- One of the call's events announces the change, at the call's path. -/
def Announced (entry : Entry) : Prop :=
  ∃ path event, entry.call.2.target? = some path ∧ event ∈ entry.outcome.events ∧
    Announces entry.before entry.outcome.tree path event

end Entry

/-- The calls of a run, each with the tree that the calls before it leave. -/
def history (tree : FileTree) : List AnyCall → List Entry
  | [] => []
  | call :: calls => ⟨call, tree⟩ :: history (call.2.run tree).tree calls

section Runs

variable {tree : FileTree} {calls : List AnyCall} {entry : Entry}

theorem Entry.Announced.not_silent (h : entry.Announced) : ¬ entry.Silent := by
  obtain ⟨path, event, -, hevent, hannounces⟩ := h
  exact fun hsilent => hsilent event hevent hannounces.isChange

theorem Entry.tree_eq_of_silent (h : entry.Silent) : entry.outcome.tree = entry.before := by
  by_contra hchanged
  exact Entry.Announced.not_silent (Call.exists_announcement hchanged) h

/-- What a run changes, one of its calls changes. -/
theorem exists_entry_of_changed {α : Type} (view : FileTree → α)
    (h : view (afterCalls tree calls) ≠ view tree) :
    ∃ entry ∈ history tree calls, view entry.outcome.tree ≠ view entry.before := by
  induction calls generalizing tree with
  | nil => exact absurd rfl h
  | cons call calls ih =>
    by_cases hfirst : view (call.2.run tree).tree = view tree
    · have hrest : view (afterCalls (call.2.run tree).tree calls) ≠ view (call.2.run tree).tree := by
        rwa [hfirst]
      obtain ⟨entry, hentry, hchanged⟩ := ih hrest
      exact ⟨entry, List.mem_cons_of_mem _ hentry, hchanged⟩
    · exact ⟨⟨call, tree⟩, List.mem_cons_self, hfirst⟩

/-- The events of a run account for every change of the tree. -/
structure Accounted (tree : FileTree) (calls : List AnyCall) : Prop where
  announced : ∀ entry ∈ history tree calls, entry.outcome.tree ≠ entry.before → entry.Announced
  silent : ∀ entry ∈ history tree calls, entry.Silent → entry.outcome.tree = entry.before
  /-- Reading is silent. -/
  reading : ∀ entry ∈ history tree calls, entry.call.2.target? = none → entry.Silent
  /-- So is what fails because of its input, or of the check of a directory. -/
  early : ∀ entry ∈ history tree calls, ∀ failure, entry.outcome.result = .error failure →
    failure.IsEarly → entry.Silent
  /-- An entry of the tree that is not what it was has been changed by a call that announced it. -/
  changed : ∀ location, (afterCalls tree calls).node? location ≠ tree.node? location →
    ∃ entry ∈ history tree calls,
      entry.outcome.tree.node? location ≠ entry.before.node? location ∧ entry.Announced
  unchanged : (∀ entry ∈ history tree calls, entry.Silent) → afterCalls tree calls = tree

theorem changes_are_announced (tree : FileTree) (calls : List AnyCall) : Accounted tree calls where
  announced entry _ hchanged := Call.exists_announcement hchanged
  silent entry _ := Entry.tree_eq_of_silent
  reading entry _ htarget := (Call.idle_of_reads htarget entry.before).silent
  early entry _ failure hresult hearly := (Call.idle_of_early hresult hearly).silent
  changed location hlocation := by
    obtain ⟨entry, hentry, hchanged⟩ := exists_entry_of_changed (·.node? location) hlocation
    refine ⟨entry, hentry, hchanged, Call.exists_announcement fun hsame => hchanged ?_⟩
    exact congrArg (·.node? location) hsame
  unchanged hsilent := by
    by_contra hchanged
    obtain ⟨entry, hentry, hdiffers⟩ := exists_entry_of_changed id hchanged
    exact hdiffers (Entry.tree_eq_of_silent (hsilent entry hentry))

end Runs

end ConfigKit
