import SemanticLayer.Proofs.Yaml.Flow
import SemanticLayer.Proofs.Yaml.Number
import SemanticLayer.Yaml.Meaning

/-!
# Written documents are read back

The text of a document is read as a node that stands for the document, wherever it stands between
brackets: `exists_spells`. Integers have to fit into 64 bits, and no name may occur twice in an
object.
-/

namespace SemanticLayer

open Document (textAt contents)

/-- The document can be told from its text. -/
inductive Document.IsSound : Document → Prop where
  | null : IsSound .null
  | bool (b : Bool) : IsSound (.bool b)
  | int {n : ℤ} (low : -0x8000000000000000 ≤ n) (high : n < 0x10000000000000000) : IsSound (.int n)
  | float (x : Binary64) : IsSound (.float x)
  | string (s : String) : IsSound (.string s)
  | list {items : List Document} (items_sound : ∀ d ∈ items, IsSound d) : IsSound (.list items)
  | object {fields : List (String × Document)} (distinct : (fields.map Prod.fst).Nodup)
      (fields_sound : ∀ f ∈ fields, IsSound f.2) : IsSound (.object fields)

namespace Yaml

/-! ### Scalars -/

lemma isPlainCharacter_of_isNumberCharacter {c : Char} (h : isNumberCharacter c) :
    isPlainCharacter c := by
  simp only [isNumberCharacter, Bool.or_eq_true, beq_iff_eq] at h
  obtain (((h | rfl) | rfl) | rfl) | rfl := h
  · simp [isPlainCharacter, Char.isAlphanum, h]
  all_goals decide

/-- The text of a number is a plain scalar. -/
lemma spells_number {s : String} {negative : Bool} {d : Char} {ds : List Char}
    (hs : s.toList = signed negative (d :: ds)) (hd : d.isDigit)
    (hnumber : ∀ c ∈ d :: ds, isNumberCharacter c) : Spells s.toList (.plain s) := by
  have hplain : ∀ c ∈ signed negative (d :: ds), isPlainCharacter c := fun c hc =>
    isPlainCharacter_of_isNumberCharacter (isNumberCharacter_of_mem_signed hnumber c hc)
  cases negative with
  | true => exact spells_plain hs hplain fun _ => by simp
  | false =>
    refine spells_plain hs hplain ?_
    rintro rfl
    exact absurd hd (by decide)

lemma spells_int (n : ℤ) : Spells (toString n).toList (.plain (toString n)) := by
  obtain ⟨d, ds, hcons, hd⟩ :=
    exists_cons_of_isDigit Nat.toDigits_ne_nil (Text.isDigit_of_mem_toDigits (n := n.natAbs))
  have hnumber : ∀ c ∈ d :: ds, isNumberCharacter c :=
    fun c hc => isNumberCharacter_of_isDigit (Text.isDigit_of_mem_toDigits c (hcons ▸ hc))
  exact spells_number (hcons ▸ toList_toString_int n) hd hnumber

lemma spells_float (x : Binary64) : Spells x.toDocumentText.toList (.plain x.toDocumentText) := by
  obtain ⟨cs, htext, ⟨d, ds, rfl, hd⟩, hnumber, -⟩ := exists_writes x
  exact spells_number htext hd hnumber

/-- A word of letters is a plain scalar. -/
lemma spells_word {s : String} {c : Char} {cs : List Char} (hs : s.toList = c :: cs)
    (hcs : (c :: cs).all Char.isAlpha) : Spells s.toList (.plain s) := by
  rw [List.all_eq_true] at hcs
  refine spells_plain hs (fun d hd => ?_) ?_
  · simp [isPlainCharacter, Char.isAlphanum, hcs d hd]
  · rintro rfl
    exact absurd (hcs '-' List.mem_cons_self) (by decide)

/-! ### Collections -/

/-- The text is read as a node that stands for the document. -/
def Denotes (cs : List Char) (d : Document) : Prop :=
  ∃ node, Spells cs node ∧ ∀ names, node.document? names = some (d, names)

variable {k : ℕ}

lemma exists_items {items : List Document} (text : Document → List Char)
    (h : ∀ d ∈ items, Denotes (text d) d) :
    ∃ nodes, List.Forall₂ Spells (items.map text) nodes ∧
      ∀ names, itemDocuments? names nodes = some (items, names) := by
  induction items with
  | nil => exact ⟨[], .nil, fun names => rfl⟩
  | cons d ds ih =>
    obtain ⟨⟨node, hspells, hnode⟩, hds⟩ := List.forall_mem_cons.1 h
    obtain ⟨nodes, hall, hnodes⟩ := ih hds
    exact ⟨node :: nodes, .cons hspells hall, fun names => by simp [itemDocuments?, hnode, hnodes]⟩

/-- The text of a field, in front of the text of its value. -/
def fieldText (text : Document → List Char) (f : String × Document) : List Char :=
  (Text.quoteForDocument f.1).toList ++ ':' :: ' ' :: text f.2

lemma exists_entries {fields : List (String × Document)} (text : Document → List Char)
    (h : ∀ f ∈ fields, Denotes (text f.2) f.2) :
    ∃ entries, List.Forall₂ (fun cs entry => SpellsPair cs entry.1 (some entry.2))
        (fields.map (fieldText text)) entries ∧
      ∀ names, entryDocuments? names entries = some (⟨fields, []⟩, names) := by
  induction fields with
  | nil => exact ⟨[], .nil, fun names => rfl⟩
  | cons f fs ih =>
    obtain ⟨⟨node, hspells, hnode⟩, hfs⟩ := List.forall_mem_cons.1 h
    obtain ⟨entries, hall, hentries⟩ := ih hfs
    refine ⟨(.quoted f.1, node) :: entries, .cons (hspells.entry f.1) hall, fun names => ?_⟩
    have hkey : (Node.quoted f.1).document? names = some (.string f.1, names) := by
      simp [Node.document?]
    simp [entryDocuments?, entryDocument?, hkey, Node.text?, hnode, hentries, Node.isMergeKey]

lemma document?_mapping {entries : List (Node × Node)} {fields : List (String × Document)}
    (hnodup : (fields.map Prod.fst).Nodup) {names : Names}
    (h : entryDocuments? names entries = some (⟨fields, []⟩, names)) :
    (Node.mapping entries).document? names = some (.object fields, names) := by
  simp [Node.document?, h, Entries.document?, hnodup, withAbsent]

/-- The text of a document is read as the document. -/
theorem denotes_textAt {d : Document} (h : d.IsSound) : Denotes (textAt k d.lines) d := by
  induction h generalizing k with
  | null => exact ⟨_, spells_word (s := "null") rfl (by decide), fun names => rfl⟩
  | bool b =>
    cases b with
    | true => exact ⟨_, spells_word (s := "true") rfl (by decide), fun names => rfl⟩
    | false => exact ⟨_, spells_word (s := "false") rfl (by decide), fun names => rfl⟩
  | @int n low high =>
    exact ⟨_, spells_int n, fun names => by rw [Node.document?, plainValue_toString low high]⟩
  | float x =>
    exact ⟨_, spells_float x, fun names => by rw [Node.document?, plainValue_toDocumentText]⟩
  | string s => exact ⟨_, spells_quoteForDocument s, fun names => by rw [Node.document?]⟩
  | @list items _ ih =>
    obtain ⟨nodes, hspells, hnodes⟩ := exists_items (fun d => textAt (k + 2) d.lines)
      fun d hd => ih d hd
    refine ⟨.sequence nodes, ?_, fun names => by simp [Node.document?, hnodes]⟩
    rw [Document.textAt_lines_list]
    exact spells_sequence k hspells
  | @object fields distinct _ ih =>
    obtain ⟨entries, hspells, hentries⟩ := exists_entries (fun d => textAt (k + 2) d.lines)
      fun f hf => ih f hf
    refine ⟨.mapping entries, ?_, fun names => document?_mapping distinct (hentries names)⟩
    rw [Document.textAt_lines_object]
    exact spells_mapping k hspells

end Yaml

end SemanticLayer
