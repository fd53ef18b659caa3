-- SUMMARY: All that a keyed set can answer, read off the history of its additions.
import Mathlib.Data.Finset.Card
import Mathlib.Data.Finset.Dedup
import Mathlib.Data.List.Dedup
import ConfigKit.KeyedSet

/-!
# The history of a keyed set

Every constructor and every operation of keyed sets offers values one after the other, each under a key
that is computed when its turn comes. The history of a set is the list of these attempts. The main result
`final_follows_attempts` reads all that a set can answer off its history, whatever the constructor, the
operations and the key functions were.
-/

namespace ConfigKit

/-- A value that was offered to a set, and the key computed for it then. -/
structure Attempt (κ τ : Type) where
  item : τ
  key : κ

namespace KeyedSet

variable {κ τ σ : Type}

/-! ## Runs -/

/-- How a set comes to be. -/
inductive Origin : Type → Type → Type 1 where
  | empty {κ τ : Type} : Origin κ τ
  | default {κ τ : Type} : Origin κ τ
  /-- A list of values under the keys of a function that may keep a state. -/
  | keyed {κ τ σ : Type} (keyOf : σ → τ → κ × σ) (state : σ) (items : List τ) : Origin κ τ
  /-- A list of values, each its own key. -/
  | distinct {τ : Type} (items : List τ) : Origin τ τ
  | collected {τ : Type} (items : List τ) : Origin τ τ

def Origin.build : {κ τ : Type} → [DecidableEq κ] → Origin κ τ → KeyedSet κ τ
  | _, _, _, .empty => KeyedSet.empty
  | _, _, _, .default => Inhabited.default
  | _, _, _, .keyed keyOf state items => (ofListWith keyOf state items).1
  | _, _, _, .distinct items => ofList items
  | _, _, _, .collected items => collect items

/-- What changes a set. Each operation brings its own key function; that of `addAll` may keep a state. -/
inductive Operation (κ τ : Type) : Type 1 where
  | add (item : τ) (keyOf : τ → κ)
  | addAll {σ : Type} (keyOf : σ → τ → κ × σ) (state : σ) (items : List τ)

def Operation.apply [DecidableEq κ] (s : KeyedSet κ τ) : Operation κ τ → KeyedSet κ τ
  | .add item keyOf => (s.add item keyOf).2
  | .addAll keyOf state items => (s.addAllWith keyOf state items).1

/-- A set from its construction on. -/
structure Run (κ τ : Type) where
  origin : Origin κ τ
  operations : List (Operation κ τ)

/-- The set at the end of a run. -/
def Run.final [DecidableEq κ] (r : Run κ τ) : KeyedSet κ τ :=
  r.operations.foldl Operation.apply r.origin.build

/-- The run that goes on with further operations. -/
def Run.followedBy (r : Run κ τ) (more : List (Operation κ τ)) : Run κ τ :=
  { r with operations := r.operations ++ more }

/-! ## Attempts -/

/-- The attempts that adding a list of values makes. -/
def attemptsWith (keyOf : σ → τ → κ × σ) (state : σ) : List τ → List (Attempt κ τ)
  | [] => []
  | item :: items =>
    let (key, state) := keyOf state item
    ⟨item, key⟩ :: attemptsWith keyOf state items

def Origin.attempts : {κ τ : Type} → Origin κ τ → List (Attempt κ τ)
  | _, _, .empty => []
  | _, _, .default => []
  | _, _, .keyed keyOf state items => attemptsWith keyOf state items
  | _, _, .distinct items => items.map fun item => ⟨item, item⟩
  | _, _, .collected items => items.map fun item => ⟨item, item⟩

def Operation.attempts : Operation κ τ → List (Attempt κ τ)
  | .add item keyOf => [⟨item, keyOf item⟩]
  | .addAll keyOf state items => attemptsWith keyOf state items

/-- All attempts of a run, oldest first. -/
def Run.attempts (r : Run κ τ) : List (Attempt κ τ) :=
  r.origin.attempts ++ r.operations.flatMap Operation.attempts

/-- The attempts at the positions whose key differs from every earlier one. -/
def firsts [DecidableEq κ] (log : List (Attempt κ τ)) : List (Attempt κ τ) :=
  (log.zipIdx.filter fun entry => entry.1.key ∉ (log.take entry.2).map (·.key)).map (·.1)

/-- The set after further attempts. -/
def replay [DecidableEq κ] (s : KeyedSet κ τ) (log : List (Attempt κ τ)) : KeyedSet κ τ :=
  log.foldl (fun s attempt => (s.addUnder attempt.key attempt.item).2) s

variable [DecidableEq κ]

theorem firsts_concat (log : List (Attempt κ τ)) (attempt : Attempt κ τ) :
    firsts (log ++ [attempt])
      = firsts log ++ if attempt.key ∈ log.map (·.key) then [] else [attempt] := by
  -- The attempts before an earlier position are the same in the longer history.
  have hearlier : ∀ entry ∈ log.zipIdx, (log ++ [attempt]).take entry.2 = log.take entry.2 := by
    rintro ⟨a, i⟩ hentry
    have hi : i < log.length := by simpa using List.snd_lt_of_mem_zipIdx hentry
    exact List.take_append_of_le_length hi.le
  unfold firsts
  rw [List.zipIdx_append, List.filter_append, List.map_append]
  congr 1
  · congr 1
    refine List.filter_congr fun entry hentry => ?_
    rw [hearlier entry hentry]
  · by_cases hkey : attempt.key ∈ log.map (·.key)
    · simp [hkey]
    · simp [hkey]

theorem replay_append (s : KeyedSet κ τ) (log more : List (Attempt κ τ)) :
    s.replay (log ++ more) = (s.replay log).replay more :=
  List.foldl_append

/-! ## Runs replay their attempts -/

theorem addAllWith_fst_eq_replay (s : KeyedSet κ τ) (keyOf : σ → τ → κ × σ) (state : σ)
    (items : List τ) :
    (s.addAllWith keyOf state items).1 = s.replay (attemptsWith keyOf state items) := by
  induction items generalizing s state with
  | nil => rfl
  | cons item items ih => exact ih _ _

omit [DecidableEq κ] in
theorem attemptsWith_stateless (keyOf : τ → κ) (items : List τ) :
    attemptsWith (fun (_ : Unit) item => (keyOf item, ())) () items
      = items.map fun item => ⟨item, keyOf item⟩ := by
  induction items with
  | nil => rfl
  | cons item items ih => exact congrArg _ ih

theorem addAll_eq_replay (s : KeyedSet κ τ) (items : List τ) (keyOf : τ → κ) :
    s.addAll items keyOf = s.replay (items.map fun item => ⟨item, keyOf item⟩) := by
  rw [addAll, addAllWith_fst_eq_replay, attemptsWith_stateless]

theorem Origin.build_eq_replay (origin : Origin κ τ) :
    origin.build = KeyedSet.empty.replay origin.attempts := by
  cases origin with
  | empty => rfl
  | default => rfl
  | keyed keyOf state items => exact addAllWith_fst_eq_replay _ keyOf state items
  | distinct items => exact addAll_eq_replay _ items id
  | collected items => exact addAll_eq_replay _ items id

theorem Operation.apply_eq_replay (s : KeyedSet κ τ) (operation : Operation κ τ) :
    operation.apply s = s.replay operation.attempts := by
  cases operation with
  | add item keyOf => rfl
  | addAll keyOf state items => exact addAllWith_fst_eq_replay s keyOf state items

theorem foldl_apply_eq_replay (s : KeyedSet κ τ) (operations : List (Operation κ τ)) :
    operations.foldl Operation.apply s = s.replay (operations.flatMap Operation.attempts) := by
  induction operations generalizing s with
  | nil => rfl
  | cons operation operations ih =>
    rw [List.foldl_cons, ih, Operation.apply_eq_replay, List.flatMap_cons, replay_append]

theorem Run.final_eq_replay (r : Run κ τ) : r.final = KeyedSet.empty.replay r.attempts := by
  rw [final, attempts, foldl_apply_eq_replay, replay_append, Origin.build_eq_replay]

/-! ## One attempt -/

theorem addUnder_fst_iff (s : KeyedSet κ τ) (key : κ) (item : τ) :
    (s.addUnder key item).1 = true ↔ key ∉ s.index := by
  unfold addUnder
  by_cases h : key ∈ s.index
  · simp [h]
  · simp [h]

theorem values_addUnder (s : KeyedSet κ τ) (key : κ) (item : τ) :
    (s.addUnder key item).2.values = s.values ++ if key ∈ s.index then [] else [item] := by
  unfold addUnder
  by_cases h : key ∈ s.index
  · simp [h]
  · simp [h]

theorem index_addUnder (s : KeyedSet κ τ) (key : κ) (item : τ) :
    (s.addUnder key item).2.index = s.index ++ if key ∈ s.index then [] else [key] := by
  unfold addUnder
  by_cases h : key ∈ s.index
  · simp [h]
  · simp [h]

/-! ## What a set remembers of its attempts -/

/-- The set holds the first attempt of every key: the item in its values, the key in its index. -/
structure Follows (log : List (Attempt κ τ)) (s : KeyedSet κ τ) : Prop where
  values_eq : s.values = (firsts log).map (·.item)
  index_eq : s.index = (firsts log).map (·.key)

theorem mem_keys_firsts (log : List (Attempt κ τ)) (key : κ) :
    key ∈ (firsts log).map (·.key) ↔ key ∈ log.map (·.key) := by
  induction log using List.reverseRecOn with
  | nil => simp [firsts]
  | append_singleton log attempt ih =>
    rw [firsts_concat, List.map_append, List.map_append, List.mem_append, List.mem_append, ih]
    split
    · rename_i hknown
      constructor
      · rintro (hold | hnew)
        · exact .inl hold
        · simp at hnew
      · rintro (hold | hnew)
        · exact .inl hold
        · obtain rfl : key = attempt.key := by simpa using hnew
          exact .inl hknown
    · rfl

theorem follows_empty : Follows [] (empty : KeyedSet κ τ) :=
  ⟨rfl, rfl⟩

namespace Follows

variable {log : List (Attempt κ τ)} {s : KeyedSet κ τ}

/-- The index relates to the keys at the time of the attempts, not to the values that are stored. -/
theorem mem_index_iff (h : Follows log s) (key : κ) : key ∈ s.index ↔ key ∈ log.map (·.key) := by
  rw [h.index_eq, mem_keys_firsts]

/-- One attempt keeps the values and the index in step with the history. -/
theorem addUnder (h : Follows log s) (attempt : Attempt κ τ) :
    Follows (log ++ [attempt]) (s.addUnder attempt.key attempt.item).2 := by
  constructor
  · rw [values_addUnder, firsts_concat, List.map_append, h.values_eq]
    simp only [h.mem_index_iff]
    split <;> rfl
  · rw [index_addUnder, firsts_concat, List.map_append]
    simp only [h.mem_index_iff]
    rw [h.index_eq]
    split <;> rfl

theorem replay (h : Follows log s) (more : List (Attempt κ τ)) :
    Follows (log ++ more) (s.replay more) := by
  induction more generalizing log s with
  | nil => simpa [KeyedSet.replay] using h
  | cons attempt more ih =>
    rw [List.append_cons]
    exact ih (h.addUnder attempt)

theorem contains_iff (h : Follows log s) (key : κ) :
    s.contains key = true ↔ ∃ attempt ∈ log, attempt.key = key := by
  rw [KeyedSet.contains, List.contains_iff_mem, h.mem_index_iff, List.mem_map]

theorem length_index (h : Follows log s) : s.index.length = s.size := by
  rw [size, h.values_eq, h.index_eq, List.length_map, List.length_map]

theorem size_eq (h : Follows log s) : s.size = (log.map (·.key)).toFinset.card := by
  have hkeys : (log.map (·.key)).toFinset = s.index.toFinset := by
    ext key
    rw [List.mem_toFinset, List.mem_toFinset, h.mem_index_iff]
  rw [hkeys, List.toFinset_card_of_nodup s.nodup, h.length_index]

end Follows

theorem Run.final_followedBy (r : Run κ τ) (more : List (Operation κ τ)) :
    (r.followedBy more).final = r.final.replay (more.flatMap Operation.attempts) := by
  rw [← foldl_apply_eq_replay]
  exact List.foldl_append

theorem Run.follows (r : Run κ τ) : Follows r.attempts r.final := by
  rw [Run.final_eq_replay]
  exact follows_empty.replay r.attempts

theorem values_prefix_replay (s : KeyedSet κ τ) (more : List (Attempt κ τ)) :
    s.values <+: (s.replay more).values := by
  induction more generalizing s with
  | nil => exact List.prefix_rfl
  | cons attempt more ih =>
    refine List.IsPrefix.trans ?_ (ih _)
    rw [values_addUnder]
    exact List.prefix_append _ _

/-- At the end of every run the stored values are the items of the attempts that were first with their
key, in order; the set contains exactly the attempted keys; a further addition stores its value exactly
if its key was never attempted; the size is the number of distinct attempted keys and that of the index;
and whatever is done next, the stored values stay where they are. -/
theorem final_follows_attempts (r : Run κ τ) :
    r.final.values = (firsts r.attempts).map (·.item) ∧
    (∀ key, r.final.contains key = true ↔ ∃ attempt ∈ r.attempts, attempt.key = key) ∧
    (∀ item keyOf, (r.final.add item keyOf).1 = true ↔
      ∀ attempt ∈ r.attempts, attempt.key ≠ keyOf item) ∧
    r.final.size = (r.attempts.map (·.key)).toFinset.card ∧
    r.final.index.length = r.final.size ∧
    ∀ more, r.final.values <+: (r.followedBy more).final.values := by
  have h := r.follows
  refine ⟨h.values_eq, h.contains_iff, fun item keyOf => ?_, h.size_eq, h.length_index, fun more => ?_⟩
  · rw [add, addUnder_fst_iff, h.mem_index_iff]
    simp
  · rw [Run.final_followedBy]
    exact values_prefix_replay _ _

end KeyedSet

end ConfigKit
