-- SUMMARY: The last names of paths, their extensions, and joined paths.
import ConfigKit.FileTree.Listing
import ConfigKit.Proofs.FileTree.Steps

/-!
# The ends of paths

What the last name of a path is, and what its extension is: `extension_eq_iff` says it without the
function. A path and ordinary names after it give a path that ends with the last of these names, and
different names give different paths (`joinAll_inj`).
-/

namespace ConfigKit

namespace Path

variable {name ext path root : String} {names others : List String}

/-! ## The last place of a character -/

theorem exists_last_cut {c : Char} {cs : List Char} (h : c ∈ cs) :
    ∃ before after, cs = before ++ c :: after ∧ c ∉ after := by
  obtain ⟨front, rest, hcut, hfront⟩ := List.eq_append_cons_of_mem (List.mem_reverse.mpr h)
  refine ⟨rest.reverse, front.reverse, ?_, by simpa using hfront⟩
  rw [← List.reverse_reverse cs, hcut]
  simp

theorem last_cut_unique {c : Char} {before after before' after' : List Char}
    (h : before ++ c :: after = before' ++ c :: after') (hafter : c ∉ after) (hafter' : c ∉ after') :
    before = before' ∧ after = after' := by
  rcases List.append_eq_append_iff.mp h with ⟨between, hbefore, hrest⟩ | ⟨between, hbefore, hrest⟩
  · cases between with
    | nil => simpa [hbefore] using hrest
    | cons d between => exact absurd (by simp_all) hafter
  · cases between with
    | nil => simpa [hbefore, eq_comm] using hrest
    | cons d between => exact absurd (by simp_all) hafter'

theorem exists_last_dot (h : '.' ∈ name.toList) :
    ∃ stem ext, name = stem ++ "." ++ ext ∧ '.' ∉ ext.toList := by
  obtain ⟨before, after, hcut, hafter⟩ := exists_last_cut h
  refine ⟨String.ofList before, String.ofList after, String.toList_inj.mp ?_, by simpa using hafter⟩
  simpa using hcut

theorem last_dot_unique {stem stem' ext' : String} (h : stem ++ "." ++ ext = stem' ++ "." ++ ext')
    (hext : '.' ∉ ext.toList) (hext' : '.' ∉ ext'.toList) : stem = stem' ∧ ext = ext' := by
  have hcut : stem.toList ++ '.' :: ext.toList = stem'.toList ++ '.' :: ext'.toList := by
    simpa using congrArg String.toList h
  obtain ⟨hstem, hafter⟩ := last_cut_unique hcut hext hext'
  exact ⟨String.toList_inj.mp hstem, String.toList_inj.mp hafter⟩

/-! ## Extensions -/

/-- The extension of a name is the text after its last dot, if that dot does not come first. Every other
name has the empty extension. -/
inductive HasExtension (name : String) : String → Prop where
  | dotted {stem ext : String} (hname : name = stem ++ "." ++ ext) (hext : '.' ∉ ext.toList)
      (hstem : stem ≠ "") : HasExtension name ext
  | plain (h : ∀ stem ext, name = stem ++ "." ++ ext → '.' ∉ ext.toList → stem = "") :
      HasExtension name ""

/-- The extension of a name that is read backwards: what follows the last dot comes first, and `rest`
starts with that dot. -/
theorem extension_of_backwards {after rest : List Char} (hname : name.toList.reverse = after ++ rest)
    (hafter : '.' ∉ after) (hrest : rest.head?.all (· = '.')) :
    extension name = if name = ".." ∨ rest.length ≤ 1 then "" else String.ofList after.reverse := by
  have hplain : ∀ c ∈ after, decide (c ≠ '.') = true := by
    intro c hc
    have hne : c ≠ '.' := ne_of_mem_of_not_mem hc hafter
    simpa using hne
  have hstop : rest.dropWhile (· ≠ '.') = rest ∧ rest.takeWhile (· ≠ '.') = [] := by
    cases rest with
    | nil => exact ⟨rfl, rfl⟩
    | cons c cs =>
      obtain rfl : c = '.' := by simpa using hrest
      exact ⟨by simp, by simp⟩
  simp only [extension]
  rw [hname, List.dropWhile_append_of_pos hplain, List.takeWhile_append_of_pos hplain, hstop.1, hstop.2,
    List.append_nil]

theorem extension_of_no_dot (h : '.' ∉ name.toList) : extension name = "" := by
  rw [extension_of_backwards (List.append_nil _).symm (by simpa using h) rfl]
  simp

theorem extension_of_last_dot (stem : String) (h : '.' ∉ ext.toList) :
    extension (stem ++ "." ++ ext) = if stem = "" then "" else ext := by
  have hname : (stem ++ "." ++ ext).toList.reverse = ext.toList.reverse ++ '.' :: stem.toList.reverse := by
    simp
  rw [extension_of_backwards hname (by simpa using h) (by simp), List.reverse_reverse,
    String.ofList_toList]
  by_cases hstem : stem = ""
  · simp [hstem]
  · have hlength : ¬ ('.' :: stem.toList.reverse).length ≤ 1 := by simpa using hstem
    rw [if_neg hstem]
    by_cases hdots : stem ++ "." ++ ext = ".."
    · -- The name of two dots has nothing after its last dot.
      have hcut : stem ++ "." ++ ext = "." ++ "." ++ "" := hdots
      rw [if_pos (.inl hdots), (last_dot_unique hcut h (by simp)).2]
    · rw [if_neg (not_or.mpr ⟨hdots, hlength⟩)]

theorem extension_eq_iff : extension name = ext ↔ HasExtension name ext := by
  by_cases hdot : '.' ∈ name.toList
  · obtain ⟨stem, after, rfl, hafter⟩ := exists_last_dot hdot
    rw [extension_of_last_dot stem hafter]
    constructor
    · rintro rfl
      split
      · rename_i hstem
        exact .plain fun other ext hname hext => (last_dot_unique hname hafter hext).1 ▸ hstem
      · rename_i hstem
        exact .dotted rfl hafter hstem
    · rintro (⟨hname, hext, hstem⟩ | hplain)
      · obtain ⟨rfl, rfl⟩ := last_dot_unique hname hafter hext
        exact if_neg hstem
      · exact if_pos (hplain stem after rfl hafter)
  · rw [extension_of_no_dot hdot]
    constructor
    · rintro rfl
      refine .plain fun stem ext hname _ => absurd ?_ hdot
      simp [hname]
    · rintro (⟨hname, -, -⟩ | -)
      · exact absurd (by simp [hname]) hdot
      · rfl

/-! ## Last names -/

theorem segments_append_slash (cs more : List Char) :
    segments (cs ++ '/' :: more) = segments cs ++ segments more := by
  simp only [segments_eq_splitOn]
  exact List.splitOn_append_cons_self cs more

theorem segments_of_no_slash {cs : List Char} (h : '/' ∉ cs) : segments cs = [cs] := by
  rw [segments_eq_splitOn]
  exact List.splitOn_eq_singleton h

/-- The last segment of a text is what follows its last slash. -/
theorem exists_last_segment (cs : List Char) :
    ∃ front last, segments cs = front ++ [last] ∧ (cs = last ∨ ∃ before, cs = before ++ '/' :: last) := by
  by_cases hslash : '/' ∈ cs
  · obtain ⟨before, last, rfl, hlast⟩ := exists_last_cut hslash
    exact ⟨_, last, by rw [segments_append_slash, segments_of_no_slash hlast], .inr ⟨before, rfl⟩⟩
  · exact ⟨[], cs, segments_of_no_slash hslash, .inl rfl⟩

theorem lastName_of_segments {front : List (List Char)} {last : List Char}
    (h : segments path.toList = front ++ [last]) : FileTree.lastName path = String.ofList last := by
  simp [FileTree.lastName, h]

theorem lastName_of_no_slash (h : '/' ∉ path.toList) : FileTree.lastName path = path := by
  have hsegments : segments path.toList = [] ++ [path.toList] := segments_of_no_slash h
  rw [lastName_of_segments hsegments, String.ofList_toList]

theorem lastName_of_slash (front : String) (h : '/' ∉ name.toList) :
    FileTree.lastName (front ++ "/" ++ name) = name := by
  have hpath : (front ++ "/" ++ name).toList = front.toList ++ '/' :: name.toList := by simp
  have hsegments := segments_append_slash front.toList name.toList
  rw [← hpath, segments_of_no_slash h] at hsegments
  rw [lastName_of_segments hsegments, String.ofList_toList]

theorem eq_of_step?_name {segment : List Char} (h : step? segment = some (.name name)) :
    name = String.ofList segment := by
  unfold step? at h
  split at h
  · cases h
  · split at h
    · cases h
    · split at h <;> cases h
      rfl

/-- Where the last step goes by a name, that is the last name of the path. -/
theorem lastName_of_steps {list : List Step} (h : steps path = .ok list)
    (hlast : list.getLast? = some (.name name)) : FileTree.lastName path = name := by
  simp only [steps] at h
  split at h <;> try cases h
  split at h <;> try cases h
  split at h <;> try cases h
  rename_i hempty _
  obtain ⟨front, last, hsegments, hcut⟩ := exists_last_segment path.toList
  rw [lastName_of_segments hsegments]
  split at hlast
  · simp at hlast
  · rename_i hslash
    cases last with
    | nil => rcases hcut with hcut | ⟨before, hcut⟩ <;> simp_all
    | cons c cs =>
      obtain ⟨step, hstep⟩ := exists_step?_cons c cs
      obtain rfl : step = .name name := by simpa [moves, hsegments, hstep] using hlast
      exact (eq_of_step?_name hstep).symm

theorem lastName_join (path : String) (h : '/' ∉ name.toList) :
    FileTree.lastName (join path name) = name := by
  unfold join
  split
  · rename_i hend
    rcases hend with rfl | hslash
    · rw [String.empty_append, lastName_of_no_slash h]
    · obtain ⟨front, hfront⟩ := List.getLast?_eq_some_iff.mp hslash
      obtain rfl : path = String.ofList front ++ "/" := String.toList_inj.mp (by simpa using hfront)
      exact lastName_of_slash _ h
  · exact lastName_of_slash path h

/-! ## Paths with names after them -/

theorem joinAll_append (root : String) (front more : List String) :
    joinAll root (front ++ more) = joinAll (joinAll root front) more :=
  List.foldl_append

theorem joinAll_concat (root : String) (front : List String) (name : String) :
    joinAll root (front ++ [name]) = join (joinAll root front) name :=
  joinAll_append root front [name]

theorem join_append (path name more : String) : join path (name ++ more) = join path name ++ more := by
  unfold join
  split <;> simp [String.append_assoc]

theorem join_inj {name' : String} (h : join path name = join path name') : name = name' := by
  unfold join at h
  split at h
  · simpa using h
  · simpa using h

theorem exists_toList_join (path name : String) :
    ∃ before, (join path name).toList = before ++ name.toList := by
  unfold join
  split
  · exact ⟨path.toList, String.toList_append⟩
  · exact ⟨(path ++ "/").toList, String.toList_append⟩

/-- Names after a path are one path of names after it. -/
theorem joinAll_eq_join (hne : names ≠ []) (hordinary : ∀ name ∈ names, ordinaryName name = true) :
    joinAll root names = join root (ofNames names) := by
  induction names using List.reverseRecOn with
  | nil => exact absurd rfl hne
  | append_singleton front name ih =>
    rw [joinAll_concat]
    by_cases hfront : front = []
    · simp [hfront, joinAll, ofNames]
    · have hbefore : ∀ n ∈ front, ordinaryName n = true :=
        fun n hn => hordinary n (List.mem_append_left _ hn)
      have hnames : ofNames (front ++ [name]) = ofNames front ++ ("/" ++ name) := by
        simp [ofNames, String.intercalate_append_of_ne_nil hfront, String.append_assoc]
      -- The path so far ends with a name, so a slash comes before the next one.
      obtain ⟨before, hpath⟩ := exists_toList_join root (ofNames front)
      have hnil : (ofNames front).toList ≠ [] :=
        mt String.toList_eq_nil_iff.mp (ofNames_ne_empty hfront hbefore)
      have hempty : join root (ofNames front) ≠ "" := by
        intro h
        simp [h, hnil] at hpath
      have hslash : (join root (ofNames front)).toList.getLast? ≠ some '/' := by
        rw [hpath, List.getLast?_append_of_ne_nil _ hnil]
        exact getLast?_ofNames_ne hbefore hfront
      rw [ih hfront hbefore, hnames, join_append, ← String.append_assoc]
      exact if_neg (not_or.mpr ⟨hempty, hslash⟩)

theorem ofNames_inj (hne : names ≠ []) (hordinary : ∀ name ∈ names, ordinaryName name = true)
    (hne' : others ≠ []) (hordinary' : ∀ name ∈ others, ordinaryName name = true)
    (h : ofNames names = ofNames others) : names = others := by
  have hsegments : names.map String.toList = others.map String.toList := by
    rw [← segments_ofNames hne hordinary, h, segments_ofNames hne' hordinary']
  exact List.map_injective_iff.mpr (fun _ _ => String.toList_inj.mp) hsegments

/-- Different names after a path give different paths. -/
theorem joinAll_inj (hne : names ≠ []) (hordinary : ∀ name ∈ names, ordinaryName name = true)
    (hne' : others ≠ []) (hordinary' : ∀ name ∈ others, ordinaryName name = true)
    (h : joinAll root names = joinAll root others) : names = others := by
  rw [joinAll_eq_join hne hordinary, joinAll_eq_join hne' hordinary'] at h
  exact ofNames_inj hne hordinary hne' hordinary' (join_inj h)

theorem joinAll_ne_root (hne : names ≠ []) (hordinary : ∀ name ∈ names, ordinaryName name = true) :
    joinAll root names ≠ root := by
  rw [joinAll_eq_join hne hordinary]
  have hempty := ofNames_ne_empty hne hordinary
  unfold join
  split
  · simpa using hempty
  · intro h
    have hlength := congrArg String.length h
    have hslash : "/".length = 1 := rfl
    simp only [String.length_append] at hlength
    omega

theorem utf8ByteSize_le_join (path name : String) :
    path.utf8ByteSize + name.utf8ByteSize ≤ (join path name).utf8ByteSize := by
  unfold join
  split <;> simp only [String.utf8ByteSize_append] <;> omega

theorem utf8ByteSize_le_joinAll (root : String) (names : List String) :
    root.utf8ByteSize ≤ (joinAll root names).utf8ByteSize := by
  induction names generalizing root with
  | nil => exact Nat.le_refl _
  | cons name names ih =>
    have hjoin := utf8ByteSize_le_join root name
    have hrest := ih (join root name)
    exact Nat.le_trans (by omega) hrest

/-! ## Slashes at the end -/

theorem utf8ByteSize_replicate {c : Char} (h : c.utf8Size = 1) (count : Nat) :
    (String.ofList (List.replicate count c)).utf8ByteSize = count := by
  induction count with
  | zero => rfl
  | succ count ih =>
    rw [List.replicate_succ, String.ofList_cons, String.utf8ByteSize_append, String.utf8ByteSize_singleton,
      h, ih, Nat.add_comm]

theorem segments_slashes (count : Nat) :
    segments (List.replicate count '/') = List.replicate (count + 1) [] := by
  induction count with
  | zero => rfl
  | succ count ih => rw [List.replicate_succ, segments, if_pos rfl, ih, ← List.replicate_succ]

/-- Slashes after a name are one step, however many they are. -/
theorem steps_slashes {count : Nat} (hordinary : ordinaryName name = true) (hnul : '\x00' ∉ name.toList)
    (hshort : name.utf8ByteSize + (count + 1) < pathBytesLimit) :
    steps (name ++ String.ofList (List.replicate (count + 1) '/')) = .ok [.name name, .slash] := by
  have hpath : (name ++ String.ofList (List.replicate (count + 1) '/')).toList
      = name.toList ++ '/' :: List.replicate count '/' := by
    simp [List.replicate_succ]
  have hsize : (name ++ String.ofList (List.replicate (count + 1) '/')).utf8ByteSize
      = name.utf8ByteSize + (count + 1) := by
    rw [String.utf8ByteSize_append, utf8ByteSize_replicate rfl]
  obtain ⟨hempty, -, -, hslash⟩ := ordinaryName_iff.mp hordinary
  obtain ⟨c, cs, hcs⟩ := List.exists_cons_of_ne_nil (mt String.toList_eq_nil_iff.mp hempty)
  have hhead : c ≠ '/' := by
    rintro rfl
    exact hslash (by simp [hcs])
  have hmoves : moves (name.toList ++ '/' :: List.replicate count '/') = [.name name] := by
    have hname : [name.toList].filterMap step? = [.name name] := by
      simp [step?_of_ordinary hordinary]
    have hnone : (List.replicate (count + 1) []).filterMap step? = [] := by
      simp [step?]
    rw [moves, if_neg (by simp [hcs, hhead]), segments_append_slash, segments_of_no_slash hslash,
      segments_slashes, List.filterMap_append, hname, hnone, List.append_nil, List.nil_append]
  have hlast : (name.toList ++ '/' :: List.replicate count '/').getLast? = some '/' := by
    rw [List.getLast?_append_of_ne_nil _ (by simp), ← List.replicate_succ, List.getLast?_replicate]
    simp
  simp only [steps]
  rw [hpath, hsize, hmoves, if_neg, if_neg, if_neg (by omega), if_pos hlast]
  · rfl
  · simp
  · simp [hnul, List.mem_replicate]

end Path

end ConfigKit
