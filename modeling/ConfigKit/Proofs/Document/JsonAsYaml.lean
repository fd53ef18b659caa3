-- SUMMARY: Which JSON documents are YAML documents, and what they mean there.
import ConfigKit.Proofs.Document.FileWriting
import ConfigKit.Proofs.Document.JsonRoundTrip
import ConfigKit.Proofs.Yaml.FlowValues

/-!
# JSON documents read as YAML

A JSON document is mostly a YAML document that means the same, but its strings can make a difference. Some
characters that JSON leaves unescaped may not stand in a YAML stream; some end a line there, and the lines
of a string are folded; and a name may be too long for a key. What is written as JSON is read as YAML as it
was written just if none of this is the case (`readYaml_writeJson`).
-/

namespace ConfigKit

namespace Yaml

open Json Utf8

/-- A character that JSON does not escape and that may not stand in a YAML stream: delete, most controls
behind it, and two codes without a character. -/
def isForeign (c : Char) : Bool :=
  let code := c.toNat
  code = 0x7F || (0x80 ≤ code && code ≤ 0x9F && code ≠ 0x85) || code = 0xFFFE || code = 0xFFFF

/-- A string that is read from YAML as JSON has it. -/
structure KeepsText (text : String) : Prop where
  noForeign : text.toList.any isForeign = false
  kept : KeptText text.toList

/-- A name that is read from YAML as JSON has it. -/
structure KeepsName (name : String) : Prop where
  noForeign : name.toList.any isForeign = false
  short : isShort name = true

/-- A value that is read from YAML as JSON has it. -/
structure KeepsValue (value : Json) : Prop where
  texts : ∀ text ∈ value.texts, KeepsText text
  names : ∀ name ∈ value.names, KeepsName name

instance (text : String) : Decidable (KeepsText text) :=
  decidable_of_iff (text.toList.any isForeign = false ∧ KeptText text.toList)
    ⟨fun h => ⟨h.1, h.2⟩, fun h => ⟨h.noForeign, h.kept⟩⟩

instance (name : String) : Decidable (KeepsName name) :=
  decidable_of_iff (name.toList.any isForeign = false ∧ isShort name = true)
    ⟨fun h => ⟨h.1, h.2⟩, fun h => ⟨h.noForeign, h.short⟩⟩

instance (value : Json) : Decidable (KeepsValue value) :=
  decidable_of_iff ((∀ text ∈ value.texts, KeepsText text) ∧ ∀ name ∈ value.names, KeepsName name)
    ⟨fun h => ⟨h.1, h.2⟩, fun h => ⟨h.texts, h.names⟩⟩

variable {value : Json} {layout : Layout} {node : Node} {datum : Datum} {p : Char → Prop} {c : Char}
  {cs : List Char}

/-! ## Characters -/

theorem isAllowed_iff (c : Char) (h : 0x20 ≤ c.toNat) : isAllowed c = true ↔ isForeign c = false := by
  have hvalid : c.toNat < 0xD800 ∨ 0xDFFF < c.toNat ∧ c.toNat < 0x110000 := c.valid
  simp only [isAllowed, isForeign, Bool.or_eq_true, Bool.or_eq_false_iff, Bool.and_eq_true,
    Bool.and_eq_false_iff, decide_eq_true_eq, decide_eq_false_iff_not]
  omega

theorem isForeign_of_control (h : c.toNat < 0x20) : isForeign c = false := by
  simp only [isForeign, Bool.or_eq_false_iff, Bool.and_eq_false_iff, decide_eq_false_iff_not]
  omega

theorem isAllowed_of_plain : HoldsOfPlain (isAllowed · = true) := by
  intro c hc
  rw [isPlain] at hc
  simp [isAllowed, hc]

theorem IsBlankLayout.holds (hlayout : IsBlankLayout layout) (hplain : HoldsOfPlain p) (hfeed : p '\n') :
    HoldsOfLayout p layout := by
  have hblank (c : Char) (hc : isLayoutBlank c = true) : p c := by
    simp only [isLayoutBlank, Bool.or_eq_true, decide_eq_true_eq] at hc
    rcases hc with rfl | rfl
    · exact hplain _ (by decide)
    · exact hfeed
  refine ⟨hplain, fun depth c hc => hblank c (hlayout.lineBreak depth c hc), ?_⟩
  obtain ⟨blanks, hcolon, hblanks⟩ := hlayout.colon
  rw [hcolon, List.forall_mem_cons]
  exact ⟨hplain _ (by decide), fun c hc => hblank c (hblanks c hc)⟩

theorem forall_isAllowed_iff (hlayout : IsBlankLayout layout) (hfree : value.FloatFree) :
    (∀ c ∈ value.render layout 0, isAllowed c = true) ↔
      (∀ text ∈ value.texts, text.toList.any isForeign = false) ∧
        ∀ name ∈ value.names, name.toList.any isForeign = false := by
  have htext (text : String) : (∀ c ∈ stringChars text, isAllowed c = true) ↔
      text.toList.any isForeign = false := by
    rw [forall_stringChars_iff isAllowed_of_plain, List.any_eq_false]
    refine forall₂_congr fun c _ => ?_
    by_cases hlow : 0x20 ≤ c.toNat
    · simp [hlow, isAllowed_iff c hlow]
    · simp [hlow, isForeign_of_control (Nat.not_le.mp hlow)]
  simp only [forall_render_iff (hlayout.holds isAllowed_of_plain rfl) value 0 hfree, htext]

theorem not_mem_render (hlayout : IsBlankLayout layout) (hfree : value.FloatFree) :
    '\r' ∉ value.render layout 0 := by
  have hplain : HoldsOfPlain (· ≠ '\r') := by
    rintro c hc rfl
    cases hc
  have htext (text : String) : ∀ c ∈ stringChars text, c ≠ '\r' := by
    rw [forall_stringChars_iff hplain]
    rintro c - hlow rfl
    exact absurd hlow (by decide)
  have hall := (forall_render_iff (hlayout.holds hplain (by decide)) value 0 hfree).mpr
    ⟨fun text _ => htext text, fun name _ => htext name⟩
  exact fun hmem => hall _ hmem rfl

/-- Without carriage returns, line breaks are unified one by one. -/
theorem unifyBreaks_eq_map (h : '\r' ∉ cs) : unifyBreaks cs = cs.map unifyBreak := by
  induction cs with
  | nil => rfl
  | cons c cs ih =>
    rw [List.mem_cons, not_or] at h
    have hc : c ≠ '\r' := fun heq => h.1 heq.symm
    have hstep : unifyBreaks (c :: cs) = (if c = '\r' ∨ c = '\x85' then '\n' else c) :: unifyBreaks cs := by
      rw [unifyBreaks]
      rintro - rfl -
      exact hc rfl
    rw [hstep, ih h.2, List.map_cons, unifyBreak]
    simp [hc]

/-- The bytes of a JSON document. -/
def documentBytes (layout : Layout) (value : Json) : Bytes :=
  encodeChars (value.render layout 0) ++ [0x0A]

theorem decode?_documentBytes (layout : Layout) (value : Json) :
    decode? (documentBytes layout value) = some (value.render layout 0 ++ ['\n']) := by
  have hbytes : documentBytes layout value = encodeChars (value.render layout 0 ++ ['\n']) := by
    rw [encodeChars_append]
    rfl
  rw [hbytes, decode?_encodeChars]

theorem characters?_eq_some (hlayout : IsBlankLayout layout) (hfree : value.FloatFree)
    (h : ∀ c ∈ value.render layout 0, isAllowed c = true) :
    characters? (documentBytes layout value) = some (flowText layout 0 value ++ ['\n']) := by
  have hbreaks : unifyBreaks (value.render layout 0 ++ ['\n']) = flowText layout 0 value ++ ['\n'] := by
    rw [unifyBreaks_eq_map (by simp [not_mem_render hlayout hfree]), List.map_append]
    rfl
  have hall : (value.render layout 0 ++ ['\n']).all isAllowed = true := by
    rw [List.all_append, List.all_eq_true.mpr h]
    rfl
  simp only [characters?, decode?_documentBytes, hall, if_true, hbreaks]

theorem isAllowed_of_characters? (h : characters? (documentBytes layout value) = some cs) :
    ∀ c ∈ value.render layout 0, isAllowed c = true := by
  simp only [characters?, decode?_documentBytes] at h
  split at h
  · rename_i hall
    rw [List.all_append, Bool.and_eq_true, List.all_eq_true] at hall
    exact hall.1
  · cases h

/-! ## Documents -/

/-- The document of JSON text, if there is one. -/
theorem ofBytes_eq_ok_iff (hlayout : IsBlankLayout layout) (hfree : value.FloatFree) (document : Document) :
    Document.ofBytes (documentBytes layout value) = .ok document ↔
      (∀ c ∈ value.render layout 0, isAllowed c = true) ∧
        ∃ node, nodeOf value = .ok node ∧ document = ⟨some node⟩ := by
  constructor
  · intro h
    unfold Document.ofBytes at h
    cases hcs : characters? (documentBytes layout value) with
    | none => simp [hcs] at h
    | some cs =>
      have hallowed := isAllowed_of_characters? hcs
      rw [characters?_eq_some hlayout hfree hallowed] at h
      obtain ⟨new, hnew, h⟩ := bind_eq_ok_iff.mp h
      rw [tokens_flowText hlayout value hfree] at hnew
      rw [ofTokens_tokensOf hnew] at h
      obtain ⟨node, hnode, h⟩ := bind_eq_ok_iff.mp h
      cases h
      exact ⟨hallowed, node, hnode, rfl⟩
  · rintro ⟨hallowed, node, hnode, rfl⟩
    obtain ⟨htexts, hnames⟩ := (exists_nodeOf_iff value).mp ⟨node, hnode⟩
    obtain ⟨new, hnew⟩ := exists_tokensOf value htexts fun name hname =>
      unquotes_of_isShort (hnames name hname)
    simp only [Document.ofBytes, characters?_eq_some hlayout hfree hallowed,
      tokens_flowText hlayout value hfree, hnew, ok_bind, ofTokens_tokensOf hnew, hnode]

theorem decode_of_ofBytes {document : Document} {bytes : Bytes} (h : Document.ofBytes bytes = .ok document)
    (hroot : document.root? = some node) (hnode : nodeOf value = .ok node) (hfree : value.FloatFree)
    (hcanonical : value.Canonical) (hdepth : value.depth ≤ maxDepth) :
    decode .value bytes = .ok (.ofJson (reread value)) := by
  rw [decode, h, ok_bind]
  simp only [hroot, readShape, readJson_nodeOf document value node maxDepth hnode hfree hcanonical hdepth]
  rfl

/-- Whatever is read from the JSON text of a value is that value with its strings as they are folded. -/
theorem decode_eq_ok_iff (hlayout : IsBlankLayout layout) (hfree : value.FloatFree)
    (hcanonical : value.Canonical) (hdepth : value.depth ≤ maxDepth) :
    decode .value (documentBytes layout value) = .ok datum ↔
      (∀ c ∈ value.render layout 0, isAllowed c = true) ∧ (∃ node, nodeOf value = .ok node) ∧
        datum = .ofJson (reread value) := by
  constructor
  · intro h
    obtain ⟨document, hdocument, -⟩ := bind_eq_ok_iff.mp h
    obtain ⟨hallowed, node, hnode, rfl⟩ := (ofBytes_eq_ok_iff hlayout hfree document).mp hdocument
    rw [decode_of_ofBytes hdocument rfl hnode hfree hcanonical hdepth] at h
    cases h
    exact ⟨hallowed, ⟨node, hnode⟩, rfl⟩
  · rintro ⟨hallowed, ⟨node, hnode⟩, rfl⟩
    have hdocument := (ofBytes_eq_ok_iff hlayout hfree _).mpr ⟨hallowed, node, hnode, rfl⟩
    exact decode_of_ofBytes hdocument rfl hnode hfree hcanonical hdepth

theorem ofJson_reread_iff (hfree : value.FloatFree) :
    Datum.ofJson value = Datum.ofJson (reread value) ↔ reread value = value := by
  constructor
  · intro h
    have hvalue := Datum.toJson?_ofJson value hfree
    rw [h, Datum.toJson?_ofJson _ (floatFree_reread value hfree)] at hvalue
    exact Except.ok.inj hvalue
  · intro h
    rw [h]

/-- A value is read from its JSON text just if its strings and names are. -/
theorem decode_documentBytes_iff (hlayout : IsBlankLayout layout) (hfree : value.FloatFree)
    (hcanonical : value.Canonical) (hdepth : value.depth ≤ maxDepth) :
    decode .value (documentBytes layout value) = .ok (.ofJson value) ↔ KeepsValue value := by
  rw [decode_eq_ok_iff hlayout hfree hcanonical hdepth, forall_isAllowed_iff hlayout hfree,
    exists_nodeOf_iff, ofJson_reread_iff hfree, reread_eq_self_iff]
  constructor
  · rintro ⟨⟨htexts, hnames⟩, ⟨hunquotes, hshort⟩, hfolded⟩
    refine ⟨fun text hmem => ⟨htexts text hmem, ?_⟩, fun name hmem => ?_⟩
    · exact (unquotes_and_refolded_iff text).mp ⟨hunquotes text hmem, hfolded text hmem⟩
    · exact ⟨hnames name hmem, hshort name hmem⟩
  · intro h
    have hkept (text : String) (hmem : text ∈ value.texts) :=
      (unquotes_and_refolded_iff text).mpr (h.texts text hmem).kept
    refine ⟨⟨fun text hmem => ?_, fun name hmem => ?_⟩,
      ⟨fun text hmem => (hkept text hmem).1, fun name hmem => ?_⟩, fun text hmem => (hkept text hmem).2⟩
    · exact (h.texts text hmem).noForeign
    · exact (h.names name hmem).noForeign
    · exact (h.names name hmem).short

end Yaml

namespace Document

open Json Yaml

/-- What is written as JSON is read from JSON as it was written, and from YAML just if YAML keeps its strings
and names. This holds of bytes in memory and of files. -/
theorem readYaml_writeJson (value : Json) (hfree : value.FloatFree) (hcanonical : value.Canonical)
    (hdepth : value.depth ≤ 127) (pretty : Bool) :
    ∃ bytes, (Writing.json pretty).toBytes (.ofJson value) = .ok bytes ∧
      readJson .value bytes = .ok (.ofJson value) ∧
      (readYaml .value bytes = .ok (.ofJson value) ↔ KeepsValue value) ∧
      ∀ tree path, ((Writing.json pretty).toFile tree (.ofJson value) path).result = .ok () →
        (readJsonFile ((Writing.json pretty).toFile tree (.ofJson value) path).tree .value path).result
            = .ok (.ofJson value) ∧
          ((readYamlFile ((Writing.json pretty).toFile tree (.ofJson value) path).tree .value path).result
              = .ok (.ofJson value) ↔ KeepsValue value) := by
  have hwrite : (Writing.json pretty).toBytes (.ofJson value)
      = .ok (documentBytes (Writing.layout pretty) value) := writeJson_ofJson _ hfree
  have hjson : readJson .value (documentBytes (Writing.layout pretty) value) = .ok (.ofJson value) :=
    readJson_render (Layout.sound_of_pretty pretty) hfree hcanonical hdepth
  have hyaml : readYaml .value (documentBytes (Writing.layout pretty) value) = .ok (.ofJson value) ↔
      KeepsValue value := by
    rw [readYaml, mapError_eq_ok_iff]
    exact decode_documentBytes_iff (isBlankLayout_of_pretty pretty) hfree hcanonical
      (Nat.le_succ_of_le hdepth)
  refine ⟨_, hwrite, hjson, hyaml, fun tree path hok => ?_⟩
  obtain ⟨bytes, hbytes, -, hstored⟩ := toFile_of_ok hok
  rw [hwrite] at hbytes
  cases hbytes
  have hload := readBytes_eq_ok_iff.mp hstored.readBytes
  have hjsonFile : (Reading.ofFile (.json .value) _ path).result = .ok (.ofJson value) ↔ _ :=
    ofFile_eq_ok_iff hload (Datum.ofJson value)
  have hyamlFile : (Reading.ofFile (.yaml .value) _ path).result = .ok (.ofJson value) ↔ _ :=
    ofFile_eq_ok_iff hload (Datum.ofJson value)
  exact ⟨hjsonFile.mpr hjson, hyamlFile.trans hyaml⟩

/-- A line separator between letters is kept. -/
theorem readYaml_writeJson_separator :
    let value : Json := .object [("a", .array [.number (.int (-1)), .string "b\u2028c"])]
    ∃ bytes, (Writing.json true).toBytes (.ofJson value) = .ok bytes ∧
      readYaml .value bytes = .ok (.ofJson value) := by
  intro value
  have hfree : value.FloatFree := by
    simp [value, FloatFree, FloatFreeMembers, FloatFreeItems, Number.minInt, Number.maxInt]
  have hcanonical : value.Canonical := by
    simp [value, Canonical, CanonicalMembers, CanonicalItems, Entries.Sorted]
  obtain ⟨bytes, hwrite, -, hyaml, -⟩ := readYaml_writeJson value hfree hcanonical (by decide) true
  exact ⟨bytes, hwrite, hyaml.mpr (by decide)⟩

/-- A delete character is written, and read from JSON, but refused by YAML. -/
theorem readYaml_refuses_delete :
    let value : Json := .string "\x7f"
    ∃ bytes, (Writing.json true).toBytes (.ofJson value) = .ok bytes ∧
      readJson .value bytes = .ok (.ofJson value) ∧ ∀ datum, readYaml .value bytes ≠ .ok datum := by
  intro value
  have hfree : value.FloatFree := trivial
  have hcanonical : value.Canonical := trivial
  have hjson : readJson .value (documentBytes .indented value) = .ok (.ofJson value) :=
    readJson_render Layout.indented_sound hfree hcanonical (by decide)
  refine ⟨_, writeJson_ofJson .indented hfree, hjson, fun datum hread => ?_⟩
  rw [readYaml, mapError_eq_ok_iff] at hread
  obtain ⟨hallowed, -⟩ :=
    (decode_eq_ok_iff (isBlankLayout_of_pretty true) hfree hcanonical (by decide)).mp hread
  exact absurd (List.all_eq_true.mpr hallowed) (by decide)

end Document

end ConfigKit
