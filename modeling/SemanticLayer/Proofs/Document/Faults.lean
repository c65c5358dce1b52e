import SemanticLayer.Proofs.Text.Phrase
import SemanticLayer.Proofs.Yaml.Number

/-!
# What faults tell

The fault of a reader is about a part of the document that it reads, `Reader.Tells`. Its message
quotes the document in two cases only: a text of a wrong type, and a name that is not known. Nearly
all other words of a message have no `k`, without which nothing is said to be unknown.
-/

namespace SemanticLayer

variable {α β : Type}

/-! ### Parts of documents -/

namespace Document

/-- A document that stands somewhere in a document. -/
inductive IsPart : Document → Document → Prop where
  | self  (d : Document) : IsPart d d
  | item  {part item : Document} {items : List Document} (hmem : item ∈ items)
      (hpart : IsPart part item) : IsPart part (.list items)
  | field {part value : Document} {name : String} {fields : List (String × Document)}
      (hmem : (name, value) ∈ fields) (hpart : IsPart part value) : IsPart part (.object fields)

lemma IsPart.trans {part d whole : Document} (hpart : part.IsPart d) (h : d.IsPart whole) :
    part.IsPart whole := by
  induction h with
  | self => exact hpart
  | item hmem _ ih => exact .item hmem ih
  | field hmem _ ih => exact .field hmem ih

/-- The name stands in the document where the word of a vocabulary may stand: as a text, or as the
only name of an object. -/
def Names (d : Document) (name : String) : Prop :=
  ∃ part : Document, part.IsPart d ∧ (part = .string name ∨ ∃ value, part = .object [(name, value)])

end Document

/-! ### Messages -/

namespace Text

lemma isQuiet_of_isNumberCharacter {s : String} (h : ∀ c ∈ s.toList, Yaml.isNumberCharacter c) :
    IsQuiet s :=
  fun hk => absurd (h 'k' hk) (by decide)

lemma isQuiet_toString_int (n : ℤ) : IsQuiet (toString n) := by
  refine isQuiet_of_isNumberCharacter ?_
  rw [Yaml.toList_toString_int]
  exact Yaml.isNumberCharacter_of_mem_signed fun c hc =>
    Yaml.isNumberCharacter_of_isDigit (isDigit_of_mem_toDigits c hc)

lemma isQuiet_toString_nat (n : ℕ) : IsQuiet (toString n) := isQuiet_toString_int n

lemma isQuiet_toDocumentText (x : Binary64) : IsQuiet x.toDocumentText := by
  refine isQuiet_of_isNumberCharacter ?_
  obtain ⟨cs, htext, hwrites⟩ := Yaml.exists_writes x
  rw [htext]
  exact Yaml.isNumberCharacter_of_mem_signed hwrites.number

end Text

/-- What is no text is described in words without a `k`. -/
lemma Found.isQuiet_describe {found : Found} (h : ∀ s, found ≠ .string s) :
    Text.IsQuiet found.describe := by
  cases found with
  | string s => exact absurd rfl (h s)
  | boolean b => cases b <;> decide
  | integer n => exact .append (.append (by decide) (Text.isQuiet_toString_int n)) (by decide)
  | float x => exact .append (.append (by decide) (Text.isQuiet_toDocumentText x)) (by decide)
  | _ => decide

namespace ReadFault

variable {found : Found} {s expected name : String}

lemma toList_message_invalidType_string :
    (ReadFault.invalidType (.string s) expected).message.toList =
      "invalid type: string ".toList ++ '"' :: (s.toList.flatMap Text.escapeForMessage ++
        '"' :: (", expected " ++ expected).toList) := by
  have hmessage : (ReadFault.invalidType (.string s) expected).message =
      "invalid type: " ++ ("string " ++ Text.quoteForMessage s) ++ ", expected " ++ expected := rfl
  have hfront : "invalid type: string ".toList =
      "invalid type: ".toList ++ "string ".toList := by decide
  rw [hmessage, hfront]
  simp only [Text.quoteForMessage, String.toList_append, String.toList_ofList, List.append_assoc,
    List.cons_append, List.nil_append]

/-- A text of a wrong type is quoted, so the message says what the text says. -/
lemma saysUnknown_message_invalidType_string (h : Text.IsQuiet expected) :
    Text.SaysUnknown (ReadFault.invalidType (.string s) expected).message.toList ↔
      Text.SaysUnknown s.toList := by
  have hfront : Text.IsQuiet "invalid type: string " := by decide
  have hback : Text.IsQuiet (", expected " ++ expected) := .append (by decide) h
  rw [toList_message_invalidType_string, Text.saysUnknown_append_quote_iff,
    Text.saysUnknown_append_quote_iff, Text.saysUnknown_flatMap_iff]
  simp only [hfront.not_saysUnknown, hback.not_saysUnknown, false_or, or_false]

lemma isQuiet_message_invalidType (hfound : ∀ s, found ≠ .string s) (h : Text.IsQuiet expected) :
    Text.IsQuiet (ReadFault.invalidType found expected).message :=
  .append (.append (.append (by decide) (Found.isQuiet_describe hfound)) (by decide)) h

lemma isQuiet_message_invalidValue (hfound : ∀ s, found ≠ .string s) (h : Text.IsQuiet expected) :
    Text.IsQuiet (ReadFault.invalidValue found expected).message :=
  .append (.append (.append (by decide) (Found.isQuiet_describe hfound)) (by decide)) h

lemma isQuiet_message_invalidLength (length : ℕ) (h : Text.IsQuiet expected) :
    Text.IsQuiet (ReadFault.invalidLength length expected).message :=
  .append (.append (.append (by decide) (Text.isQuiet_toString_nat length)) (by decide)) h

lemma isQuiet_message_missingField (h : Text.IsQuiet name) :
    Text.IsQuiet (ReadFault.missingField name).message :=
  .append (.append (by decide) h) (by decide)

lemma isQuiet_message_noAlternative {type : String} (h : Text.IsQuiet type) :
    Text.IsQuiet (ReadFault.noAlternative type).message :=
  .append (by decide) h

lemma saysUnknown_message_unknownVariant {known : List String} :
    Text.SaysUnknown (ReadFault.unknownVariant name known).message.toList := by
  have hmessage : (ReadFault.unknownVariant name known).message =
      "unknown variant `" ++ name ++ "`, expected " ++ choices known := rfl
  have hfront : "unknown variant `".toList = "unknown variant".toList ++ [' ', '`'] := by decide
  refine .inl (List.IsPrefix.isInfix ?_)
  rw [hmessage]
  simp only [String.toList_append, hfront, List.append_assoc]
  exact List.prefix_append _ _

/-- The fault is about the document. A value of a wrong type is a part of it, and a name that is not
known is one of its names and none of the vocabulary. No other fault says that anything is
unknown. -/
def TellsOf (d : Document) : ReadFault → Prop
  | .invalidType found expected =>
    (∃ part : Document, part.IsPart d ∧ part.found = found) ∧ Text.IsQuiet expected
  | .unknownVariant name known  =>
    d.Names name ∧ ∃ (α : Type) (_ : Vocabulary α), known = Vocabulary.names α ∧ name ∉ known
  | fault                       => ¬Text.SaysUnknown fault.message.toList

lemma tellsOf_found (d : Document) (h : Text.IsQuiet expected) :
    (ReadFault.invalidType d.found expected).TellsOf d :=
  ⟨⟨d, .self d, rfl⟩, h⟩

/-- What is told of a part is told of the whole. -/
lemma TellsOf.of_isPart {fault : ReadFault} {part d : Document} (h : fault.TellsOf part)
    (hpart : part.IsPart d) : fault.TellsOf d := by
  cases fault with
  | invalidType found expected =>
    obtain ⟨⟨inner, hinner, hfound⟩, hexpected⟩ := h
    exact ⟨⟨inner, hinner.trans hpart, hfound⟩, hexpected⟩
  | unknownVariant name known =>
    obtain ⟨⟨inner, hinner, hname⟩, hknown⟩ := h
    exact ⟨⟨inner, hinner.trans hpart, hname⟩, hknown⟩
  | _ => exact h

/-- Which faults say that something is unknown: a name that is not known, and a text of a wrong type
that says so itself. -/
lemma TellsOf.saysUnknown_iff {fault : ReadFault} {d : Document} (h : fault.TellsOf d) :
    Text.SaysUnknown fault.message.toList ↔
      (∃ (name : String) (α : Type) (_ : Vocabulary α),
        fault = .unknownVariant name (Vocabulary.names α) ∧ d.Names name ∧
          name ∉ Vocabulary.names α) ∨
      ∃ s expected, fault = .invalidType (.string s) expected ∧ (Document.string s).IsPart d ∧
        Text.SaysUnknown s.toList := by
  cases fault with
  | unknownVariant name known =>
    obtain ⟨hname, α, _, rfl, hknown⟩ := h
    exact iff_of_true saysUnknown_message_unknownVariant (.inl ⟨name, α, _, rfl, hname, hknown⟩)
  | invalidType found expected =>
    obtain ⟨⟨part, hpart, rfl⟩, hexpected⟩ := h
    cases part with
    | string s =>
      rw [Document.found, saysUnknown_message_invalidType_string hexpected]
      simp [hpart]
    | _ =>
      refine iff_of_false (isQuiet_message_invalidType ?_ hexpected).not_saysUnknown ?_ <;>
        simp [Document.found]
  | _ =>
    exact iff_of_false h (by simp)

end ReadFault

/-! ### Readers -/

namespace Reader

/-- Each fault of the reader is about the document that is read. -/
def Tells (r : Reader α) : Prop := ∀ d e, r d = .error e → e.TellsOf d

variable {r : Reader α} {rs : List (Reader α)} {type expected : String}

lemma tells_text : Tells text := by
  intro d e h
  unfold text at h
  split at h
  · cases h
  · obtain rfl := Except.error.inj h
    exact ReadFault.tellsOf_found d (by decide)

lemma tells_bool : Tells bool := by
  intro d e h
  unfold bool at h
  split at h
  · cases h
  · obtain rfl := Except.error.inj h
    exact ReadFault.tellsOf_found d (by decide)

lemma tells_int64 : Tells int64 := by
  intro d e h
  unfold int64 at h
  split at h
  · split_ifs at h
    obtain rfl := Except.error.inj h
    exact (ReadFault.isQuiet_message_invalidValue (by simp) (by decide)).not_saysUnknown
  · obtain rfl := Except.error.inj h
    exact ReadFault.tellsOf_found d (by decide)

lemma tells_uint64 : Tells uint64 := by
  intro d e h
  unfold uint64 at h
  split at h
  · split_ifs at h
    obtain rfl := Except.error.inj h
    exact (ReadFault.isQuiet_message_invalidValue (by simp) (by decide)).not_saysUnknown
  · obtain rfl := Except.error.inj h
    exact ReadFault.tellsOf_found d (by decide)

lemma tells_number : Tells number := by
  intro d e h
  unfold number at h
  split at h
  · cases h
  · split at h
    · cases h
    · obtain rfl := Except.error.inj h
      exact (ReadFault.isQuiet_message_invalidValue (by simp) (by decide)).not_saysUnknown
  · obtain rfl := Except.error.inj h
    exact ReadFault.tellsOf_found d (by decide)

lemma tells_unit : Tells unit := by
  intro d e h
  unfold unit at h
  split at h
  · cases h
  · obtain rfl := Except.error.inj h
    exact ReadFault.tellsOf_found d (by decide)

/-- A name of no member is not among the names of the vocabulary. -/
lemma named_eq_error [Vocabulary α] {s : String} {e : ReadFault}
    (h : word.named α s = .error e) :
    e = .unknownVariant s (Vocabulary.names α) ∧ s ∉ Vocabulary.names α := by
  unfold word.named at h
  split at h
  · cases h
  · rename_i hnone
    refine ⟨(Except.error.inj h).symm, fun hmem => ?_⟩
    obtain ⟨a, -, rfl⟩ := List.mem_map.1 hmem
    rw [Vocabulary.ofName?_name] at hnone
    cases hnone

lemma tells_word (α : Type) [Vocabulary α] : Tells (word α) := by
  intro d e h
  unfold word at h
  split at h
  · obtain ⟨rfl, hknown⟩ := named_eq_error h
    exact ⟨⟨_, .self _, .inl rfl⟩, α, _, rfl, hknown⟩
  · rename_i name value
    split at h
    · rename_i hname
      obtain rfl := Except.error.inj h
      obtain ⟨rfl, hknown⟩ := named_eq_error hname
      exact ⟨⟨_, .self _, .inr ⟨value, rfl⟩⟩, α, _, rfl, hknown⟩
    · split at h
      · rename_i hvalue
        obtain rfl := Except.error.inj h
        exact (tells_unit _ _ hvalue).of_isPart (.field List.mem_cons_self (.self value))
      · cases h
  · obtain rfl := Except.error.inj h
    -- here the fixed words have a `k`, but they are closed
    show ¬Text.SaysUnknown "invalid value: map, expected map with a single key".toList
    unfold Text.SaysUnknown
    decide
  · obtain rfl := Except.error.inj h
    exact ReadFault.tellsOf_found d (by decide)

lemma each_eq_error {ds : List Document} {e : ReadFault} (h : each r ds = .error e) :
    ∃ d ∈ ds, r d = .error e := by
  induction ds with
  | nil => cases h
  | cons d ds ih =>
    rw [each] at h
    split at h
    · rename_i hd
      obtain rfl := Except.error.inj h
      exact ⟨d, List.mem_cons_self, hd⟩
    · split at h
      · rename_i hds
        obtain rfl := Except.error.inj h
        obtain ⟨d', hmem, hd'⟩ := ih hds
        exact ⟨d', List.mem_cons_of_mem d hmem, hd'⟩
      · cases h

lemma Tells.list (hr : r.Tells) : Tells (.list r) := by
  intro d e h
  unfold Reader.list at h
  split at h
  · obtain ⟨item, hmem, hitem⟩ := each_eq_error h
    exact (hr item e hitem).of_isPart (.item hmem (.self item))
  · obtain rfl := Except.error.inj h
    exact ReadFault.tellsOf_found d (by decide)

lemma Tells.option (hr : r.Tells) : Tells (.option r) := by
  intro d e h
  unfold Reader.option at h
  split at h
  · cases h
  · split at h
    · rename_i hd
      obtain rfl := Except.error.inj h
      exact hr d _ hd
    · cases h

/-- Where no reader accepts the document, none of their faults is told. -/
lemma tells_firstOf (h : Text.IsQuiet type) : Tells (.firstOf type rs) := by
  induction rs with
  | nil =>
    intro d e he
    obtain rfl := Except.error.inj he
    exact (ReadFault.isQuiet_message_noAlternative h).not_saysUnknown
  | cons r rs ih =>
    intro d e he
    rw [firstOf] at he
    split at he
    · cases he
    · exact ih d e he

end Reader

/-! ### Fields -/

namespace Source

/-- The document that the fields of a record are read from. -/
def document : Source → Document
  | .object fields => .object fields
  | .list _ items  => .list items

/-- The words for the record have no `k`. -/
def IsQuiet : Source → Prop
  | .object _     => True
  | .list shape _ => Text.IsQuiet shape

end Source

namespace Fields

/-- Each fault of the fields is about the document that they are read from. -/
def Tells (f : Fields α) : Prop :=
  ∀ (s : Source) (i : ℕ) (e : PlacedFault), s.IsQuiet → f.read s i = .error e →
    e.fault.TellsOf s.document

lemma Tells.seq {f : Fields (α → β)} {field : Fields α} (hf : f.Tells) (hfield : field.Tells) :
    (f <*> field).Tells := by
  intro s i e hs h
  change both (f.read s i) (field.read s (i + f.size)) = .error e at h
  unfold both at h
  split at h
  · cases h
  · rename_i he
    obtain rfl := Except.error.inj h
    exact hfield s _ _ hs he
  · rename_i he _
    obtain rfl := Except.error.inj h
    exact hf s _ _ hs he
  · rename_i he he'
    obtain rfl := Except.error.inj h
    unfold PlacedFault.first
    split_ifs
    · exact hfield s _ _ hs he'
    · exact hf s _ _ hs he

lemma Tells.map {field : Fields α} (hfield : field.Tells) (g : α → β) : (g <$> field).Tells := by
  intro s i e hs h
  change both (.ok g) (field.read s (i + 0)) = .error e at h
  unfold both at h
  split at h
  · cases h
  · rename_i he
    obtain rfl := Except.error.inj h
    exact hfield s _ _ hs he
  · cases ‹Except.ok g = _›
  · cases ‹Except.ok g = _›

lemma mem_of_find?_eq_some {name : String} {fs : List (String × Document)} {place found : ℕ}
    {d : Document} (h : find? name fs place = some (found, d)) : (name, d) ∈ fs := by
  induction fs generalizing place with
  | nil => cases h
  | cons f fs ih =>
    obtain ⟨key, value⟩ := f
    rw [find?] at h
    split_ifs at h with heq
    · obtain ⟨-, rfl⟩ := Prod.mk.inj (Option.some.inj h)
      obtain rfl := eq_of_beq heq
      exact List.mem_cons_self
    · exact List.mem_cons_of_mem _ (ih h)

section Field

variable {r : Reader α} {name : String}

lemma placed_eq_error {place : ℕ} {result : Except ReadFault α} {e : PlacedFault}
    (h : placed place result = .error e) : result = .error e.fault := by
  unfold placed at h
  split at h
  · cases h
  · obtain rfl := Except.error.inj h
    rfl

/-- Only a field that must be written is missed by its name. -/
lemma tells_field {leftOut leftOutOfList : Option α} (hr : r.Tells)
    (hname : leftOut = none → Text.IsQuiet name) :
    (field name r leftOut leftOutOfList).Tells := by
  intro s i e hs h
  cases s with
  | object fields =>
    simp only [field] at h
    split at h
    · rename_i hfind
      have hmem := mem_of_find?_eq_some hfind
      exact (hr _ _ (placed_eq_error h)).of_isPart (.field hmem (.self _))
    · cases h
    · obtain rfl := Except.error.inj h
      exact (ReadFault.isQuiet_message_missingField (hname rfl)).not_saysUnknown
  | list shape items =>
    simp only [field] at h
    split at h
    · rename_i hitem
      have hmem := List.mem_of_getElem? hitem
      exact (hr _ _ (placed_eq_error h)).of_isPart (.item hmem (.self _))
    · cases h
    · obtain rfl := Except.error.inj h
      exact (ReadFault.isQuiet_message_invalidLength _ hs).not_saysUnknown

lemma tells_required (hr : r.Tells) (hname : Text.IsQuiet name) : (required name r).Tells :=
  tells_field hr fun _ => hname

lemma tells_optional (hr : r.Tells) : (optional name r).Tells :=
  tells_field hr.option nofun

lemma tells_filled {a : α} (hr : r.Tells) : (filled name a r).Tells :=
  tells_field hr nofun

end Field

end Fields

/-! ### Records -/

namespace Reader

variable {fields : Fields α} {type : String}

lemma unplaced_eq_error {result : Except PlacedFault α} {e : ReadFault}
    (h : unplaced result = .error e) : ∃ placed, result = .error placed ∧ placed.fault = e := by
  unfold unplaced at h
  split at h
  · cases h
  · exact ⟨_, rfl, Except.error.inj h⟩

lemma isQuiet_shapeOf (h : Text.IsQuiet type) (size : ℕ) : Text.IsQuiet (shapeOf type size) := by
  unfold shapeOf
  split_ifs
  · exact .append (.append (by decide) h) (by decide)
  · exact .append (.append (.append (.append (by decide) h) (by decide))
      (Text.isQuiet_toString_nat size)) (by decide)

/-- The faults of a record are those of its fields, and that it is no record. -/
lemma tells_record (hfields : fields.Tells) (h : Text.IsQuiet type) :
    Tells (.record type fields) := by
  intro d e he
  unfold record at he
  split at he
  · obtain ⟨placed, hread, rfl⟩ := unplaced_eq_error he
    exact hfields (.object _) 0 placed trivial hread
  · split at he
    · rename_i hread
      obtain rfl := Except.error.inj he
      obtain ⟨placed, hrecord, rfl⟩ := unplaced_eq_error hread
      exact hfields (.list _ _) 0 placed (isQuiet_shapeOf h _) hrecord
    · split_ifs at he
      obtain rfl := Except.error.inj he
      exact (ReadFault.isQuiet_message_invalidLength _ (by decide)).not_saysUnknown
  · obtain rfl := Except.error.inj he
    exact ReadFault.tellsOf_found d (.append (by decide) h)

end Reader

end SemanticLayer
