-- SUMMARY: JSON values as YAML trees, and that normalisation gives them back.
import ConfigKit.Proofs.Yaml.NormalForm
import ConfigKit.Yaml.JsonTree

/-!
# JSON values as YAML trees

Every JSON value is a YAML tree: its objects are mappings whose keys are texts, with the pairs in any
order (`Embeds`). Normalisation undoes this, and what it gives is always a value that it gives again
(`normalize_embedded`).
-/

namespace ConfigKit

namespace Json

mutual

/-- Whether every floating-point number in the value is finite. -/
def Finite : Json → Prop
  | .number (.float x) => x.isFinite = true
  | .array items => FiniteItems items
  | .object members => FiniteMembers members
  | _ => True

def FiniteItems : List Json → Prop
  | [] => True
  | item :: items => item.Finite ∧ FiniteItems items

def FiniteMembers : List (String × Json) → Prop
  | [] => True
  | (_, value) :: members => value.Finite ∧ FiniteMembers members

end

variable {items : List Json} {members : List (String × Json)}

theorem finiteItems_iff : FiniteItems items ↔ ∀ item ∈ items, item.Finite := by
  induction items with
  | nil => simp [FiniteItems]
  | cons item items ih => simp [FiniteItems, ih]

theorem finiteMembers_iff : FiniteMembers members ↔ ∀ member ∈ members, member.2.Finite := by
  induction members with
  | nil => simp [FiniteMembers]
  | cons member members ih => simp [FiniteMembers, ih]

theorem canonicalItems_iff : CanonicalItems items ↔ ∀ item ∈ items, item.Canonical := by
  induction items with
  | nil => simp [CanonicalItems]
  | cons item items ih => simp [CanonicalItems, ih]

theorem canonicalMembers_iff : CanonicalMembers members ↔ ∀ member ∈ members, member.2.Canonical := by
  induction members with
  | nil => simp [CanonicalMembers]
  | cons member members ih => simp [CanonicalMembers, ih]

end Json

namespace Yaml

namespace Tree

/-- The tree has the shape of a JSON value. The members of an object are pairs in some order, each with
its name as a text for its key. -/
inductive Embeds : Json → Tree → Prop where
  | null : Embeds .null .null
  | bool (b : Bool) : Embeds (.bool b) (.bool b)
  | number (n : Number) : Embeds (.number n) (.number n)
  | string (text : String) : Embeds (.string text) (.string text)
  | array {items : List Json} {trees : List Tree} (h : List.Forall₂ Embeds items trees) :
      Embeds (.array items) (.sequence trees)
  | object {members ordered : List (String × Json)} {pairs : List (Tree × Tree)}
      (horder : ordered.Perm members)
      (hkeys : List.Forall₂ (fun member pair => pair.1 = .string member.1) ordered pairs)
      (hvalues : List.Forall₂ (fun member pair => Embeds member.2 pair.2) ordered pairs) :
      Embeds (.object members) (.mapping pairs)

/-! ## Every value has a tree -/

mutual

theorem embeds_ofJson : (j : Json) → Embeds j (ofJson j)
  | .null => .null
  | .bool b => .bool b
  | .number n => .number n
  | .string text => .string text
  | .array items => .array (forall₂_ofJsonItems items)
  | .object members =>
    .object (List.Perm.refl members) (keys_ofJsonMembers members) (forall₂_ofJsonMembers members)

theorem forall₂_ofJsonItems : (items : List Json) → List.Forall₂ Embeds items (ofJsonItems items)
  | [] => .nil
  | item :: items => .cons (embeds_ofJson item) (forall₂_ofJsonItems items)

theorem keys_ofJsonMembers : (members : List (String × Json)) →
    List.Forall₂ (fun member pair => pair.1 = .string member.1) members (ofJsonMembers members)
  | [] => .nil
  | (_, _) :: members => .cons rfl (keys_ofJsonMembers members)

theorem forall₂_ofJsonMembers : (members : List (String × Json)) →
    List.Forall₂ (fun member pair => Embeds member.2 pair.2) members (ofJsonMembers members)
  | [] => .nil
  | (_, value) :: members => .cons (embeds_ofJson value) (forall₂_ofJsonMembers members)

end

/-! ## A value is the normal form of its trees -/

theorem keyTexts_of_keys {ordered : List (String × Json)} {pairs : List (Tree × Tree)}
    (h : List.Forall₂ (fun member pair => pair.1 = .string member.1) ordered pairs) :
    List.Forall₂ (fun pair name => KeyText pair.1 name) pairs (ordered.map (·.1)) := by
  induction h with
  | nil => exact .nil
  | cons hkey _ ih =>
    refine .cons ?_ ih
    rw [hkey]
    exact .string _

mutual

theorem normalForm_of_embeds {j : Json} {t : Tree} (hcanonical : j.Canonical) (hfinite : j.Finite)
    (h : Embeds j t) : NormalForm t j := by
  cases h with
  | null => exact .null
  | bool b => exact .bool b
  | number n =>
    cases n with
    | int n => exact .integer n
    | float x => exact .finite hfinite
  | string text => exact .string text
  | array hitems =>
    exact .sequence (normalForms_of_forall₂ (Json.canonicalItems_iff.mp hcanonical)
      (Json.finiteItems_iff.mp hfinite) hitems)
  | @object members ordered pairs horder hkeys hvalues =>
    have hall : ∀ member ∈ ordered, member.2.Canonical ∧ member.2.Finite := fun member hmember =>
      ⟨Json.canonicalMembers_iff.mp hcanonical.2 member (horder.mem_iff.mp hmember),
        Json.finiteMembers_iff.mp hfinite member (horder.mem_iff.mp hmember)⟩
    have hentries : (ordered.map (·.1)).zip (ordered.map (·.2)) = ordered := by
      rw [List.zip_map']
      exact List.map_id ordered
    refine .mapping (keyTexts_of_keys hkeys) (memberForms_of_forall₂ hall hvalues) ?_
    rw [hentries]
    exact hcanonical.1.lastWins_of_perm horder

theorem normalForms_of_forall₂ {items : List Json} {trees : List Tree}
    (hcanonical : ∀ item ∈ items, item.Canonical) (hfinite : ∀ item ∈ items, item.Finite)
    (h : List.Forall₂ Embeds items trees) : List.Forall₂ NormalForm trees items := by
  cases h with
  | nil => exact .nil
  | cons hitem hitems =>
    exact .cons (normalForm_of_embeds (hcanonical _ List.mem_cons_self) (hfinite _ List.mem_cons_self) hitem)
      (normalForms_of_forall₂ (fun item h => hcanonical item (List.mem_cons_of_mem _ h))
        (fun item h => hfinite item (List.mem_cons_of_mem _ h)) hitems)

theorem memberForms_of_forall₂ {ordered : List (String × Json)} {pairs : List (Tree × Tree)}
    (hall : ∀ member ∈ ordered, member.2.Canonical ∧ member.2.Finite)
    (h : List.Forall₂ (fun member pair => Embeds member.2 pair.2) ordered pairs) :
    List.Forall₂ (fun pair value => NormalForm pair.2 value) pairs (ordered.map (·.2)) := by
  cases h with
  | nil => exact .nil
  | cons hvalue hvalues =>
    have hfirst := hall _ List.mem_cons_self
    exact .cons (normalForm_of_embeds hfirst.1 hfirst.2 hvalue)
      (memberForms_of_forall₂ (fun member h => hall member (List.mem_cons_of_mem _ h)) hvalues)

end

/-! ## Normal forms are values of documents -/

mutual

theorem canonical_of_normalForm {t : Tree} {j : Json} (h : NormalForm t j) : j.Canonical ∧ j.Finite := by
  cases h with
  | null => exact ⟨trivial, trivial⟩
  | bool b => exact ⟨trivial, trivial⟩
  | integer n => exact ⟨trivial, trivial⟩
  | finite hx => exact ⟨trivial, hx⟩
  | notFinite hx => exact ⟨trivial, trivial⟩
  | string text => exact ⟨trivial, trivial⟩
  | sequence hitems =>
    have hall := canonical_of_normalForms hitems
    exact ⟨Json.canonicalItems_iff.mpr fun item hitem => (hall item hitem).1,
      Json.finiteItems_iff.mpr fun item hitem => (hall item hitem).2⟩
  | @mapping pairs names values members hnames hvalues hmembers =>
    have hall := canonical_of_memberForms hvalues
    have hvalue (member : String × Json) (h : member ∈ members) : member.2 ∈ values :=
      (List.of_mem_zip (hmembers.mem h)).2
    exact ⟨⟨hmembers.sorted, Json.canonicalMembers_iff.mpr fun member h => (hall _ (hvalue member h)).1⟩,
      Json.finiteMembers_iff.mpr fun member h => (hall _ (hvalue member h)).2⟩
  | tagged hvalue => exact canonical_of_normalForm hvalue

theorem canonical_of_normalForms {trees : List Tree} {items : List Json}
    (h : List.Forall₂ NormalForm trees items) : ∀ item ∈ items, item.Canonical ∧ item.Finite := by
  cases h with
  | nil => simp
  | cons hitem hitems =>
    exact List.forall_mem_cons.mpr ⟨canonical_of_normalForm hitem, canonical_of_normalForms hitems⟩

theorem canonical_of_memberForms {pairs : List (Tree × Tree)} {values : List Json}
    (h : List.Forall₂ (fun pair value => NormalForm pair.2 value) pairs values) :
    ∀ value ∈ values, value.Canonical ∧ value.Finite := by
  cases h with
  | nil => simp
  | cons hvalue hvalues =>
    exact List.forall_mem_cons.mpr ⟨canonical_of_normalForm hvalue, canonical_of_memberForms hvalues⟩

end

/-! ## Normalisation -/

theorem normalize_of_embeds {j : Json} {t : Tree} (hcanonical : j.Canonical) (hfinite : j.Finite)
    (h : Embeds j t) : t.normalize = .ok j :=
  normalize_of_normalForm (normalForm_of_embeds hcanonical hfinite h)

/-- Normalisation gives a JSON value back from its trees. Since it gives only such values, a second
normalisation changes nothing. -/
theorem normalize_embedded :
    (∀ j, Embeds j (ofJson j)) ∧
    (∀ (j : Json) (t : Tree), j.Canonical → j.Finite → Embeds j t → t.normalize = .ok j) ∧
    ∀ (t : Tree) (j : Json), t.normalize = .ok j → ∀ t', Embeds j t' → t'.normalize = .ok j := by
  refine ⟨embeds_ofJson, fun j t => normalize_of_embeds, fun t j h t' hembeds => ?_⟩
  obtain ⟨hcanonical, hfinite⟩ := canonical_of_normalForm (normalForm_of_normalize h)
  exact normalize_of_embeds hcanonical hfinite hembeds

/-- The pairs of a mapping may come in any order, and the greatest integer stays an integer beside a
floating-point number. -/
theorem normalize_embedded_reordered :
    let j : Json := .object [("a", .array [.number (.int Number.maxInt), .number (.float (.zero true))]),
      ("b", .object [])]
    let t : Tree := .mapping [(.string "b", .mapping []),
      (.string "a", .sequence [.number (.int Number.maxInt), .number (.float (.zero true))])]
    Embeds j t ∧ t.normalize = .ok j := by
  intro j t
  have hembeds : Embeds j t := by
    refine .object (List.Perm.swap _ _ []) (.cons rfl (.cons rfl .nil)) (.cons ?_ (.cons ?_ .nil))
    · exact .object (List.Perm.refl []) .nil .nil
    · exact .array (.cons (.number _) (.cons (.number _) .nil))
  have hcanonical : j.Canonical := by
    simp [j, Json.Canonical, Json.CanonicalMembers, Json.CanonicalItems, Entries.Sorted]
    decide
  have hfinite : j.Finite := by
    simp only [j, Json.Finite, Json.FiniteMembers, Json.FiniteItems, and_true, true_and]
    decide
  exact ⟨hembeds, normalize_embedded.2.1 j t hcanonical hfinite hembeds⟩

end Tree

end Yaml

end ConfigKit
