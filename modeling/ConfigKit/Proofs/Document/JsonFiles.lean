-- SUMMARY: JSON files as a store in which the last save counts.
import ConfigKit.Proofs.Document.Calls
import ConfigKit.Proofs.Document.JsonRoundTrip
import ConfigKit.Proofs.FileTree.LinkFree
import ConfigKit.Proofs.FileTree.Storing

/-!
# JSON files as a store

In a tree without links, writing data into JSON files at paths of names and reading them works like a
store: each path holds what was last saved there (`last_save_wins`). Saves that fail, because the datum
has no JSON form or because the system refuses the path, change nothing, and neither do saves to other
paths.
-/

namespace ConfigKit

open ConfigKit.Path

/-- The path is ordinary names, at least one, with a slash between each two of them. -/
def Path.Named (path : String) : Prop :=
  ∃ names, names ≠ [] ∧ (∀ name ∈ names, ordinaryName name = true) ∧ path = ofNames names

namespace Document

open Json FileTree

/-! ## Saves -/

/-- A datum that is to be written into a JSON file. -/
structure Save where
  pretty : Bool
  datum : Datum
  path : String

/-- What is to be written. -/
def Save.bytes (save : Save) : Except Failure Bytes :=
  (Writing.json save.pretty).toBytes save.datum

def Save.run (save : Save) (tree : FileTree) : Outcome Unit :=
  (Writing.json save.pretty).toFile tree save.datum save.path

/-- The tree after some saves, one after the other. -/
def afterSaves (tree : FileTree) (saves : List Save) : FileTree :=
  saves.foldl (fun tree save => (save.run tree).tree) tree

/-- None of the saves to the path succeeds. -/
def Unsaved (tree : FileTree) (path : String) (saves : List Save) : Prop :=
  ∀ front save back, saves = front ++ save :: back → save.path = path →
    (save.run (afterSaves tree front)).result ≠ .ok ()

/-- Of the saves to the path that succeed, this is the last one. -/
def IsLastSave (tree : FileTree) (path : String) (saves : List Save) (save : Save) : Prop :=
  ∃ front back, saves = front ++ save :: back ∧ save.path = path ∧
    (save.run (afterSaves tree front)).result = .ok () ∧
    Unsaved (save.run (afterSaves tree front)).tree path back

/-- The path has the same bytes in both trees, if any. -/
def ReadsAlike (tree later : FileTree) (path : String) : Prop :=
  ∀ bytes, readBytes later path = .ok bytes ↔ readBytes tree path = .ok bytes

variable {tree later : FileTree} {path : String} {save : Save} {saves : List Save}

theorem unsaved_nil : Unsaved tree path [] := by
  intro front save back h
  simp at h

theorem unsaved_cons :
    Unsaved tree path (save :: saves) ↔
      (save.path = path → (save.run tree).result ≠ .ok ()) ∧ Unsaved (save.run tree).tree path saves := by
  constructor
  · intro h
    refine ⟨h [] save saves rfl, fun front other back hsaves => ?_⟩
    exact h (save :: front) other back (by rw [hsaves, List.cons_append])
  · rintro ⟨hfirst, hrest⟩ front other back hsaves
    cases front with
    | nil =>
      obtain ⟨rfl, -⟩ := List.cons.inj hsaves
      exact hfirst
    | cons first front =>
      obtain ⟨rfl, hback⟩ := List.cons.inj hsaves
      exact hrest front other back hback

/-- If any save to the path succeeds, then one is the last. -/
theorem unsaved_or_isLastSave (tree : FileTree) (path : String) (saves : List Save) :
    Unsaved tree path saves ∨ ∃ save, IsLastSave tree path saves save := by
  induction saves generalizing tree with
  | nil => exact .inl unsaved_nil
  | cons save saves ih =>
    -- What is last among the later saves is last among all; only without one does the first count.
    rcases ih (save.run tree).tree with hrest | ⟨last, front, back, rfl, hlast⟩
    · by_cases hfirst : save.path = path ∧ (save.run tree).result = .ok ()
      · exact .inr ⟨save, [], saves, rfl, hfirst.1, hfirst.2, hrest⟩
      · exact .inl (unsaved_cons.mpr ⟨fun hpath hok => hfirst ⟨hpath, hok⟩, hrest⟩)
    · exact .inr ⟨last, save :: front, back, rfl, hlast⟩

/-! ## One save -/

/-- A save fails and leaves the tree as it is, or stores what is to be written. -/
theorem Save.run_cases (save : Save) (tree : FileTree) :
    (∃ failure, (save.run tree).result = .error failure ∧ (save.run tree).tree = tree) ∨
      ∃ bytes, save.bytes = .ok bytes ∧ (save.run tree).result = .ok () ∧
        tree.store save.path bytes = .ok (save.run tree).tree := by
  cases hbytes : save.bytes with
  | error failure =>
    rw [run, Writing.toFile_of_formless hbytes]
    exact .inl ⟨failure, rfl, rfl⟩
  | ok bytes =>
    cases hstore : tree.store save.path bytes with
    | error error =>
      rw [run, Writing.toFile_of_refused hbytes hstore]
      exact .inl ⟨_, rfl, rfl⟩
    | ok later =>
      rw [run, Writing.toFile_of_stored hbytes hstore]
      exact .inr ⟨bytes, rfl, rfl, hstore⟩

/-! ## What a file that is stored leaves -/

theorem readsAlike_refl (tree : FileTree) (path : String) : ReadsAlike tree tree path :=
  fun _ => Iff.rfl

theorem ReadsAlike.trans {last : FileTree} (h : ReadsAlike tree later path)
    (hlast : ReadsAlike later last path) : ReadsAlike tree last path :=
  fun bytes => (hlast bytes).trans (h bytes)

/-- What is read from the bytes is read alike too. -/
theorem ReadsAlike.ofFile_eq_ok_iff {α : Type} (h : ReadsAlike tree later path) (reading : Reading α)
    (value : α) :
    (reading.ofFile later path).result = .ok value ↔ (reading.ofFile tree path).result = .ok value := by
  rw [ofFile_eq_ok_iff_readBytes, ofFile_eq_ok_iff_readBytes]
  simp only [h _]

/-- A save that succeeds leaves its text at its path. -/
theorem readBytes_run (hok : (save.run tree).result = .ok ()) :
    ∃ bytes, save.bytes = .ok bytes ∧ readBytes (save.run tree).tree save.path = .ok bytes := by
  rcases save.run_cases tree with ⟨failure, hfailed, -⟩ | ⟨bytes, hbytes, -, hstore⟩
  · rw [hfailed] at hok
    cases hok
  · exact ⟨bytes, hbytes, readBytes_eq_ok_iff.mpr (stored_of_store hstore).load⟩

section Store

variable {bytes : Bytes} (hfree : tree.LinkFree)
include hfree

theorem linkFree_store (hpath : Path.Named path) (hstore : tree.store path bytes = .ok later) :
    later.LinkFree := by
  obtain ⟨names, hne, hordinary, rfl⟩ := hpath
  obtain ⟨-, -, start, -, hroom, rfl⟩ := (hfree.store_eq_ok_iff hne hordinary).mp hstore
  exact hfree.place hroom bytes

theorem readsAlike_store {other : String} (hpath : Path.Named path) (hother : Path.Named other)
    (hdiffer : path ≠ other) (hstore : tree.store path bytes = .ok later) :
    ReadsAlike tree later other := by
  have hlater := linkFree_store hfree hpath hstore
  obtain ⟨names, hne, hordinary, rfl⟩ := hpath
  obtain ⟨others, hneOther, hordinaryOther, rfl⟩ := hother
  obtain ⟨-, -, start, hworking, hroom, rfl⟩ := (hfree.store_eq_ok_iff hne hordinary).mp hstore
  intro content
  have hplaces : start ++ others ≠ start ++ names := by
    intro heq
    exact hdiffer (by rw [List.append_cancel_left heq])
  simp only [readBytes_eq_ok_iff, hlater.load_eq_ok_iff hneOther hordinaryOther,
    hfree.load_eq_ok_iff hneOther hordinaryOther, working?_place, hworking, Option.some.injEq,
    exists_eq_left', node?_place hroom, if_neg hplaces]

/-! ## Runs of saves -/

theorem linkFree_run (hpath : Path.Named save.path) : (save.run tree).tree.LinkFree := by
  rcases save.run_cases tree with ⟨failure, -, htree⟩ | ⟨bytes, -, -, hstore⟩
  · rw [htree]
    exact hfree
  · exact linkFree_store hfree hpath hstore

/-- A save succeeds just if its datum has a JSON form and its place in the working directory has room for a
file. -/
theorem run_eq_ok_iff {names : List String} (hne : names ≠ [])
    (hordinary : ∀ name ∈ names, ordinaryName name = true) (hpath : save.path = ofNames names) :
    (save.run tree).result = .ok () ↔
      (∃ bytes, save.bytes = .ok bytes) ∧ Fits save.path ∧ names.all isShort = true ∧
        ∃ start, tree.working? = some start ∧ tree.hasRoom (start ++ names) = true := by
  rw [hpath]
  constructor
  · intro hok
    rcases save.run_cases tree with ⟨failure, hfailed, -⟩ | ⟨bytes, hbytes, -, hstore⟩
    · rw [hfailed] at hok
      cases hok
    · rw [hpath, hfree.store_eq_ok_iff hne hordinary] at hstore
      obtain ⟨hfits, hshort, start, hworking, hroom, -⟩ := hstore
      exact ⟨⟨bytes, hbytes⟩, hfits, hshort, start, hworking, hroom⟩
  · rintro ⟨⟨bytes, hbytes⟩, hfits, hshort, start, hworking, hroom⟩
    have hstore : tree.store save.path bytes = .ok (tree.place (start ++ names) (.file bytes)) := by
      rw [hpath]
      exact (hfree.store_eq_ok_iff hne hordinary).mpr ⟨hfits, hshort, start, hworking, hroom, rfl⟩
    rw [Save.run, Writing.toFile_of_stored hbytes hstore]

/-- A save that fails, or that goes elsewhere, leaves what is at a path. -/
theorem readsAlike_run (hnamed : Path.Named save.path) (hpath : Path.Named path)
    (hunsaved : save.path = path → (save.run tree).result ≠ .ok ()) :
    ReadsAlike tree (save.run tree).tree path := by
  rcases save.run_cases tree with ⟨failure, -, htree⟩ | ⟨bytes, -, hok, hstore⟩
  · rw [htree]
    exact readsAlike_refl tree path
  · exact readsAlike_store hfree hnamed hpath (fun heq => hunsaved heq hok) hstore

theorem linkFree_afterSaves (hnamed : ∀ save ∈ saves, Path.Named save.path) :
    (afterSaves tree saves).LinkFree := by
  induction saves generalizing tree with
  | nil => exact hfree
  | cons save saves ih =>
    have hfirst := linkFree_run hfree (hnamed save List.mem_cons_self)
    exact ih hfirst fun other hother => hnamed other (List.mem_cons_of_mem _ hother)

theorem readsAlike_afterSaves (hnamed : ∀ save ∈ saves, Path.Named save.path) (hpath : Path.Named path)
    (hunsaved : Unsaved tree path saves) : ReadsAlike tree (afterSaves tree saves) path := by
  induction saves generalizing tree with
  | nil => exact readsAlike_refl tree path
  | cons save saves ih =>
    obtain ⟨hfirst, hrest⟩ := unsaved_cons.mp hunsaved
    have hsave := hnamed save List.mem_cons_self
    have hsaves : ∀ other ∈ saves, Path.Named other.path :=
      fun other hother => hnamed other (List.mem_cons_of_mem _ hother)
    exact (readsAlike_run hfree hsave hpath hfirst).trans (ih (linkFree_run hfree hsave) hsaves hrest)

/-- After a run a path holds what the last save that succeeded there has written. -/
theorem readBytes_afterSaves (hnamed : ∀ save ∈ saves, Path.Named save.path)
    (hlast : IsLastSave tree path saves save) :
    ∃ bytes, save.bytes = .ok bytes ∧ readBytes (afterSaves tree saves) path = .ok bytes := by
  obtain ⟨front, back, rfl, rfl, hok, hunsaved⟩ := hlast
  have hfront : ∀ other ∈ front, Path.Named other.path :=
    fun other hother => hnamed other (List.mem_append_left _ hother)
  have hback : ∀ other ∈ back, Path.Named other.path :=
    fun other hother => hnamed other (List.mem_append_right _ (List.mem_cons_of_mem _ hother))
  have hsave : Path.Named save.path := hnamed save (by simp)
  -- The save finds a tree without links, and what it leaves there stays until the end.
  have hbefore := linkFree_afterSaves hfree hfront
  obtain ⟨bytes, hbytes, hread⟩ := readBytes_run hok
  have halike := readsAlike_afterSaves (linkFree_run hbefore hsave) hback hsave hunsaved
  have hafter : afterSaves tree (front ++ save :: back)
      = afterSaves (save.run (afterSaves tree front)).tree back := by
    simp [afterSaves]
  exact ⟨bytes, hbytes, hafter ▸ (halike bytes).mpr hread⟩

end Store

/-! ## Reading what was saved -/

/-- The text of a JSON value is read as that value. -/
theorem readJson_bytes {value : Json} {bytes : Bytes} (hdatum : save.datum = .ofJson value)
    (hfree : value.FloatFree) (hcanonical : value.Canonical) (hdepth : value.depth ≤ 127)
    (hbytes : save.bytes = .ok bytes) : readJson .value bytes = .ok (.ofJson value) := by
  have hlayout : (Writing.layout save.pretty).Sound := by
    cases save.pretty with
    | true => exact Layout.indented_sound
    | false => exact Layout.compact_sound
  rw [Save.bytes, Writing.toBytes, hdatum, writeJson_ofJson _ hfree] at hbytes
  cases hbytes
  exact readJson_render hlayout hfree hcanonical hdepth

/-- What a path holds after a run of saves. -/
structure KeepsLastSave (tree : FileTree) (saves : List Save) (path : String) : Prop where
  unsaved_or_saved : Unsaved tree path saves ∨ ∃ save, IsLastSave tree path saves save
  unsaved : Unsaved tree path saves → ReadsAlike tree (afterSaves tree saves) path
  saved : ∀ save, IsLastSave tree path saves save →
    ∃ bytes, save.bytes = .ok bytes ∧ readBytes (afterSaves tree saves) path = .ok bytes
  readJson : ∀ save value, IsLastSave tree path saves save → save.datum = .ofJson value →
    value.FloatFree → value.Canonical → value.depth ≤ 127 →
      (readJsonFile (afterSaves tree saves) .value path).result = .ok (.ofJson value)
  /-- One more save succeeds just if its datum has a JSON form and its place in the working directory has
  room for a file. -/
  succeeds_iff : ∀ (save : Save) names, names ≠ [] → (∀ name ∈ names, ordinaryName name = true) →
    save.path = ofNames names →
      ((save.run (afterSaves tree saves)).result = .ok () ↔
        (∃ bytes, save.bytes = .ok bytes) ∧ Fits save.path ∧ names.all isShort = true ∧
          ∃ start, (afterSaves tree saves).working? = some start ∧
            (afterSaves tree saves).hasRoom (start ++ names) = true)
  /-- One more save that fails, or goes to another path, changes nothing of this. -/
  further : ∀ save : Save, Path.Named save.path →
    (save.path = path → (save.run (afterSaves tree saves)).result ≠ .ok ()) →
      ReadsAlike (afterSaves tree saves) (save.run (afterSaves tree saves)).tree path ∧
      ∀ value, (readJsonFile (save.run (afterSaves tree saves)).tree .value path).result = .ok value ↔
        (readJsonFile (afterSaves tree saves) .value path).result = .ok value

/-- JSON files in a tree without links work like a store: the last save to a path that succeeded wins. -/
theorem last_save_wins (hfree : tree.LinkFree) (hnamed : ∀ save ∈ saves, Path.Named save.path)
    (hpath : Path.Named path) : KeepsLastSave tree saves path where
  unsaved_or_saved := unsaved_or_isLastSave tree path saves
  unsaved := readsAlike_afterSaves hfree hnamed hpath
  saved _ := readBytes_afterSaves hfree hnamed
  readJson save value hlast hdatum hvalue hcanonical hdepth := by
    obtain ⟨bytes, hbytes, hread⟩ := readBytes_afterSaves hfree hnamed hlast
    have hjson := readJson_bytes hdatum hvalue hcanonical hdepth hbytes
    have hfile : ((Reading.json .value).ofFile (afterSaves tree saves) path).result = .ok (.ofJson value) :=
      ofFile_eq_ok_iff_readBytes.mpr ⟨bytes, hread, hjson⟩
    exact hfile
  succeeds_iff _ _ hne hordinary heq :=
    run_eq_ok_iff (linkFree_afterSaves hfree hnamed) hne hordinary heq
  further save hsave hunsaved := by
    have halike := readsAlike_run (linkFree_afterSaves hfree hnamed) hsave hpath hunsaved
    exact ⟨halike, halike.ofFile_eq_ok_iff (.json .value)⟩

/-- A shorter text replaces a longer one, and a datum without JSON form changes nothing. -/
theorem last_save_wins_shorter :
    let long : Save := ⟨true, .ofJson (.array [.null, .null]), "a"⟩
    let short : Save := ⟨false, .ofJson (.bool true), "a"⟩
    let formless : Save := ⟨false, .dict [(.absent, .null)], "a"⟩
    (readJsonFile (afterSaves .empty [long, short, formless]) .value "a").result
      = .ok (.ofJson (.bool true)) := by
  intro long short formless
  have hpath : Path.Named "a" := ⟨["a"], by simp, by decide, rfl⟩
  have hnamed : ∀ save ∈ [long, short, formless], Path.Named save.path := by
    simp [long, short, formless, hpath]
  have hsteps : Path.steps "a" = .ok [.name "a"] := rfl
  obtain ⟨bytes, hbytes⟩ : ∃ bytes, long.bytes = .ok bytes := ⟨_, rfl⟩
  obtain ⟨bytes', hbytes'⟩ : ∃ bytes, short.bytes = .ok bytes := ⟨_, rfl⟩
  obtain ⟨failure, hformless⟩ : ∃ failure, formless.bytes = .error failure := ⟨_, rfl⟩
  let saved : FileTree := FileTree.empty.place ["a"] (.file bytes)
  have hworking : FileTree.empty.working? = some [] ∧ saved.working? = some [] := ⟨rfl, rfl⟩
  have hnone : FileTree.empty.node? ["a"] = none := rfl
  have hfile : saved.node? ["a"] = some (.file bytes) := rfl
  have hfirst : FileTree.empty.store "a" bytes = .ok saved := by
    simp +decide [FileTree.store, FileTree.locate, hsteps, FileTree.resolve, FileTree.start?, FileTree.walk,
      hworking, hnone, saved]
  have hsecond : saved.store "a" bytes' = .ok (saved.place ["a"] (.file bytes')) := by
    simp +decide [FileTree.store, FileTree.locate, hsteps, FileTree.resolve, FileTree.start?, FileTree.walk,
      hworking, hfile]
  have hsaved : afterSaves .empty [long] = saved := by
    rw [afterSaves, List.foldl_cons, Save.run, Writing.toFile_of_stored hbytes hfirst]
    rfl
  have hlast : IsLastSave .empty "a" [long, short, formless] short := by
    refine ⟨[long], [formless], rfl, rfl, ?_, unsaved_cons.mpr ⟨fun _ => ?_, unsaved_nil⟩⟩
    · rw [hsaved, Save.run, Writing.toFile_of_stored hbytes' hsecond]
    · rw [Save.run, Writing.toFile_of_formless hformless]
      intro hok
      cases hok
  exact (last_save_wins linkFree_empty hnamed hpath).readJson short (.bool true) hlast rfl
    (by simp [FloatFree]) (by simp [Canonical]) (by decide)

end Document

end ConfigKit
