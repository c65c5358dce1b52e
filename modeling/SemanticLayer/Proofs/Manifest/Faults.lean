import SemanticLayer.Proofs.Document.Faults

/-!
# Faults of manifests

The readers of all parts of a manifest tell of the document that they read. So the kind of an error,
which is found in its message, is that of its fault, apart from a text of a wrong type that says
itself that something is unknown.
-/

namespace SemanticLayer

open Fields Reader

/-! ### Filters -/

lemma FilterIntersection.tells : Reader.Tells read := tells_firstOf (by decide)

/-! ### Origin -/

lemma FileSlice.tells : Reader.Tells read := by
  refine tells_record ?_ (by decide)
  exact (tells_required tells_text (by decide)).map mk
    |>.seq (tells_filled tells_text)
    |>.seq (tells_required tells_uint64 (by decide))
    |>.seq (tells_required tells_uint64 (by decide))

lemma Metadata.tells : Reader.Tells read := by
  refine tells_record ?_ (by decide)
  exact (tells_required tells_text (by decide)).map mk
    |>.seq (tells_required FileSlice.tells (by decide))

lemma NodeRelation.tells : Reader.Tells read := by
  refine tells_record ?_ (by decide)
  exact (tells_required tells_text (by decide)).map mk
    |>.seq (tells_required tells_text (by decide))
    |>.seq (tells_optional tells_text)
    |>.seq (tells_optional tells_text)

/-! ### Semantic models -/

lemma Entity.tells : Reader.Tells read := by
  refine tells_record ?_ (by decide)
  exact (tells_required tells_text (by decide)).map mk
    |>.seq (tells_required (tells_word EntityKind) (by decide))
    |>.seq (tells_optional tells_text)
    |>.seq (tells_optional tells_text)
    |>.seq (tells_optional tells_text)
    |>.seq (tells_optional tells_text)

lemma ValidityParams.tells : Reader.Tells read := by
  refine tells_record ?_ (by decide)
  exact (tells_filled tells_bool).map mk
    |>.seq (tells_filled tells_bool)

lemma DimensionParams.tells : Reader.Tells read := by
  refine tells_record ?_ (by decide)
  exact (tells_optional (tells_word Granularity)).map mk
    |>.seq (tells_filled tells_bool)
    |>.seq (tells_optional ValidityParams.tells)

lemma Dimension.tells : Reader.Tells read := by
  refine tells_record ?_ (by decide)
  exact (tells_required tells_text (by decide)).map mk
    |>.seq (tells_required (tells_word DimensionKind) (by decide))
    |>.seq (tells_optional tells_text)
    |>.seq (tells_filled tells_bool)
    |>.seq (tells_optional DimensionParams.tells)
    |>.seq (tells_optional tells_text)
    |>.seq (tells_optional tells_text)

lemma AggregationParams.tells : Reader.Tells read := by
  refine tells_record ?_ (by decide)
  exact (tells_optional tells_number).map mk
    |>.seq (tells_filled tells_bool)
    |>.seq (tells_filled tells_bool)

lemma NonAdditiveDimension.tells : Reader.Tells read := by
  refine tells_record ?_ (by decide)
  exact (tells_required tells_text (by decide)).map mk
    |>.seq (tells_filled (tells_word Aggregation))
    |>.seq (tells_filled tells_text.list)

lemma Measure.tells : Reader.Tells read := by
  refine tells_record ?_ (by decide)
  exact (tells_required tells_text (by decide)).map mk
    |>.seq (tells_required (tells_word Aggregation) (by decide))
    |>.seq (tells_optional tells_text)
    |>.seq (tells_filled tells_bool)
    |>.seq (tells_optional tells_text)
    |>.seq (tells_optional AggregationParams.tells)
    |>.seq (tells_optional NonAdditiveDimension.tells)
    |>.seq (tells_optional tells_text)
    |>.seq (tells_optional tells_text)

lemma ModelDefaults.tells : Reader.Tells read := by
  refine tells_record ?_ (by decide)
  exact (tells_optional tells_text).map mk

lemma SemanticModel.tells : Reader.Tells read := by
  refine tells_record ?_ (by decide)
  exact (tells_required tells_text (by decide)).map mk
    |>.seq (tells_optional tells_text)
    |>.seq (tells_optional tells_text)
    |>.seq (tells_required NodeRelation.tells (by decide))
    |>.seq (tells_optional ModelDefaults.tells)
    |>.seq (tells_optional tells_text)
    |>.seq (tells_filled Entity.tells.list)
    |>.seq (tells_filled Dimension.tells.list)
    |>.seq (tells_filled Measure.tells.list)
    |>.seq (tells_optional Metadata.tells)

/-! ### Metrics -/

lemma MeasureInput.tells : Reader.Tells read := tells_firstOf (by decide)

lemma MetricInput.tells : Reader.Tells read := tells_firstOf (by decide)

lemma ConstantProperty.tells : Reader.Tells read := by
  refine tells_record ?_ (by decide)
  exact (tells_required tells_text (by decide)).map mk
    |>.seq (tells_required tells_text (by decide))

lemma ConversionParams.tells : Reader.Tells read := by
  refine tells_record ?_ (by decide)
  exact (tells_required MeasureInput.tells (by decide)).map mk
    |>.seq (tells_required MeasureInput.tells (by decide))
    |>.seq (tells_required tells_text (by decide))
    |>.seq (tells_filled (tells_word ConversionCalculation))
    |>.seq (tells_optional tells_text)
    |>.seq (tells_optional ConstantProperty.tells.list)

lemma CumulativeParams.tells : Reader.Tells read := by
  refine tells_record ?_ (by decide)
  exact (tells_optional tells_text).map mk
    |>.seq (tells_optional tells_text)
    |>.seq (tells_filled (tells_word PeriodAggregation))

lemma MetricAggregation.tells : Reader.Tells read := by
  refine tells_record ?_ (by decide)
  exact (tells_required tells_text (by decide)).map mk
    |>.seq (tells_required (tells_word Aggregation) (by decide))
    |>.seq (tells_optional AggregationParams.tells)
    |>.seq (tells_optional tells_text)
    |>.seq (tells_optional NonAdditiveDimension.tells)

lemma MetricParams.tells : Reader.Tells read := by
  refine tells_record ?_ (by decide)
  exact (tells_optional MeasureInput.tells).map mk
    |>.seq (tells_optional MetricInput.tells)
    |>.seq (tells_optional MetricInput.tells)
    |>.seq (tells_optional tells_text)
    |>.seq (tells_optional tells_text)
    |>.seq (tells_optional tells_text)
    |>.seq (tells_optional MetricInput.tells.list)
    |>.seq (tells_optional ConversionParams.tells)
    |>.seq (tells_optional CumulativeParams.tells)
    |>.seq (tells_optional MetricAggregation.tells)

lemma Metric.tells : Reader.Tells read := by
  refine tells_record ?_ (by decide)
  exact (tells_required tells_text (by decide)).map mk
    |>.seq (tells_required (tells_word MetricKind) (by decide))
    |>.seq (tells_filled MetricParams.tells)
    |>.seq (tells_optional FilterIntersection.tells)
    |>.seq (tells_optional tells_text)
    |>.seq (tells_optional tells_text)
    |>.seq (tells_optional Metadata.tells)

/-! ### Saved queries and manifests -/

lemma QueryParams.tells : Reader.Tells read := by
  refine tells_record ?_ (by decide)
  exact (tells_filled tells_text.list).map mk
    |>.seq (tells_filled tells_text.list)
    |>.seq (tells_optional FilterIntersection.tells)
    |>.seq (tells_filled tells_text.list)
    |>.seq (tells_optional tells_int64)

lemma ExportConfig.tells : Reader.Tells read := by
  refine tells_record ?_ (by decide)
  exact (tells_required (tells_word ExportKind) (by decide)).map mk
    |>.seq (tells_optional tells_text)
    |>.seq (tells_optional tells_text)

lemma Export.tells : Reader.Tells read := by
  refine tells_record ?_ (by decide)
  exact (tells_required tells_text (by decide)).map mk
    |>.seq (tells_required ExportConfig.tells (by decide))

lemma SavedQuery.tells : Reader.Tells read := by
  refine tells_record ?_ (by decide)
  exact (tells_required tells_text (by decide)).map mk
    |>.seq (tells_filled QueryParams.tells)
    |>.seq (tells_optional tells_text)
    |>.seq (tells_optional tells_text)
    |>.seq (tells_filled Export.tells.list)
    |>.seq (tells_optional Metadata.tells)

lemma PrimaryColumn.tells : Reader.Tells read := by
  refine tells_record ?_ (by decide)
  exact (tells_required tells_text (by decide)).map mk
    |>.seq (tells_required (tells_word Granularity) (by decide))

lemma CustomGranularity.tells : Reader.Tells read := by
  refine tells_record ?_ (by decide)
  exact (tells_required tells_text (by decide)).map mk
    |>.seq (tells_optional tells_text)

lemma TimeSpine.tells : Reader.Tells read := by
  refine tells_record ?_ (by decide)
  exact (tells_optional NodeRelation.tells).map mk
    |>.seq (tells_optional PrimaryColumn.tells)
    |>.seq (tells_filled CustomGranularity.tells.list)

lemma ProjectConfiguration.tells : Reader.Tells read := by
  refine tells_record ?_ (by decide)
  exact (tells_filled TimeSpine.tells.list).map mk

lemma Manifest.tells : Reader.Tells read := by
  refine tells_record ?_ (by decide)
  exact (tells_filled SemanticModel.tells.list).map mk
    |>.seq (tells_filled Metric.tells.list)
    |>.seq (tells_filled SavedQuery.tells.list)
    |>.seq (tells_filled ProjectConfiguration.tells)
    |>.seq (tells_filled tells_text)

/-! ### Kinds of errors -/

namespace ParseErrorKind

variable {message : String}

/-- A message tells of something unknown just when it says so. -/
lemma ofMessage?_eq_unknownVariant_iff :
    ofMessage? message = some .unknownVariant ↔ Text.SaysUnknown message.toList := by
  rw [← Text.hasPhrase_unknown_iff, ofMessage?]
  split_ifs with hunknown <;> simp [hunknown]

/-- A message about a wrong type tells of that unless it says that something is unknown. -/
lemma ofMessage?_eq_typeMismatch_iff (h : "invalid type".toList <:+: message.toList) :
    ofMessage? message = some .typeMismatch ↔ ¬Text.SaysUnknown message.toList := by
  have hphrase : Text.hasPhrase
      ["invalid type", "invalid value", "invalid length", "missing field"] message := by
    rw [Text.hasPhrase, List.any_cons, Text.occursIn_iff.2 h, Bool.true_or]
  rw [← Text.hasPhrase_unknown_iff, ofMessage?]
  split_ifs with hunknown <;> simp [hunknown]

lemma ofMessage?_ne_malformed : ofMessage? message ≠ some .malformed := by
  unfold ofMessage?
  split_ifs <;> simp

end ParseErrorKind

namespace ParseError

variable {fault : ReadFault} {wording : Option String} {message : String}

/-- The kind is found in the message. -/
lemma kind_misfit_eq_unknownVariant_iff : (misfit fault).kind = .unknownVariant ↔
    Text.SaysUnknown fault.message.toList := by
  rw [← ParseErrorKind.ofMessage?_eq_unknownVariant_iff, kind, Option.getD_eq_iff]
  simp

lemma kind_misfit_eq_typeMismatch_iff : (misfit fault).kind = .typeMismatch ↔
    ¬Text.SaysUnknown fault.message.toList := by
  rw [← kind_misfit_eq_unknownVariant_iff]
  have hmalformed : (misfit fault).kind ≠ .malformed := by
    simp [kind, Option.getD_eq_iff, ParseErrorKind.ofMessage?_ne_malformed]
  cases hkind : (misfit fault).kind with
  | malformed => exact absurd hkind hmalformed
  | _ => simp

/-- What the reader says of a text that is no document counts in any case of letters. -/
lemma kind_unreadable_eq_unknownVariant_iff : (unreadable wording).kind = .unknownVariant ↔
    ∃ message ∈ wording, Text.SaysUnknown (Text.lower message).toList := by
  simp [← ParseErrorKind.ofMessage?_eq_unknownVariant_iff, kind, Option.getD_eq_iff,
    Option.bind_eq_some_iff]

example : (unreadable (some "Duplicate key: Unknown Variant")).kind = .unknownVariant := by
  decide +kernel

lemma kind_unreadable_eq_typeMismatch_iff
    (h : "invalid type".toList <:+: (Text.lower message).toList) :
    (unreadable (some message)).kind = .typeMismatch ↔
      ¬Text.SaysUnknown (Text.lower message).toList := by
  simp [← ParseErrorKind.ofMessage?_eq_typeMismatch_iff h, kind, Option.getD_eq_iff]

end ParseError

namespace Manifest

variable {text : String} {wording : String → Option String} {e : ParseError}

/-- How a text can fail to be read. -/
lemma error_of_parse (h : parse text wording = .error e) :
    e = .emptyInput ∨ (∃ line, e = .secondDocument line) ∨
    (Document.ofYaml? text = none ∧ e = .unreadable (wording text)) ∨
    ∃ d, Document.ofYaml? text = some d ∧ ofDocument d = .error e := by
  unfold parse at h
  split at h
  · cases h
    exact .inl rfl
  · split at h
    · cases h
      exact .inr (.inl ⟨_, rfl⟩)
    · split at h
      · next hnone =>
        cases h
        exact .inr (.inr (.inl ⟨hnone, rfl⟩))
      · next d hd => exact .inr (.inr (.inr ⟨d, hd, h⟩))

/-- How a document can fail to be read. -/
lemma error_of_ofDocument {d : Document} (h : ofDocument d = .error e) :
    e = .rootNotMapping ∨ (∃ name, e = .unknownTopLevel name) ∨
    ∃ fault, e = .misfit fault ∧ fault.TellsOf d := by
  unfold ofDocument at h
  split at h
  · split at h
    · cases h
      exact .inr (.inl ⟨_, rfl⟩)
    · split at h
      · next fault hread =>
        cases h
        exact .inr (.inr ⟨fault, rfl, Manifest.tells _ _ hread⟩)
      · cases h
  · cases h
    exact .inl rfl

/-- A part that does not fit is a fault of the reader in the document of the text. -/
lemma exists_tellsOf_of_parse {fault : ReadFault}
    (h : parse text wording = .error (.misfit fault)) :
    ∃ d, Document.ofYaml? text = some d ∧ fault.TellsOf d := by
  obtain ⟨d, hd, hread⟩ : ∃ d, Document.ofYaml? text = some d ∧
      ofDocument d = .error (.misfit fault) := by simpa using error_of_parse h
  exact ⟨d, hd, by simpa using error_of_ofDocument hread⟩

/-- A text that cannot be read is no document, and comes with what its reader says of it. -/
lemma ofYaml?_eq_none_of_parse {message : Option String}
    (h : parse text wording = .error (.unreadable message)) :
    Document.ofYaml? text = none ∧ message = wording text := by
  have hcases := error_of_parse h
  simp only [reduceCtorEq, exists_false, false_or, ParseError.unreadable.injEq] at hcases
  obtain hnone | ⟨d, -, hread⟩ := hcases
  · exact hnone
  · simpa using error_of_ofDocument hread

/-- The kinds of errors. A value of a wrong type is an error of type, unless it is a text that says
itself that something is unknown. Apart from such a text, an unknown variant is a name of the
document that is not among the names of the vocabulary it is read in. Where a text is no document,
what its reader says is taken in the same way. -/
theorem kind_of_parse (h : parse text wording = .error e) :
    (∀ found expected, e = .misfit (.invalidType found expected) →
      (e.kind = .typeMismatch ↔ ∀ s, found = .string s → ¬Text.SaysUnknown s.toList)) ∧
    (∀ message, e = .unreadable (some message) →
      "invalid type".toList <:+: (Text.lower message).toList →
      (e.kind = .typeMismatch ↔ ¬Text.SaysUnknown (Text.lower message).toList)) ∧
    (e.kind = .unknownVariant ↔
      (∃ d, Document.ofYaml? text = some d ∧
        ((∃ (name : String) (α : Type) (_ : Vocabulary α),
            e = .misfit (.unknownVariant name (Vocabulary.names α)) ∧ d.Names name ∧
              name ∉ Vocabulary.names α) ∨
          ∃ s expected, e = .misfit (.invalidType (.string s) expected) ∧
            (Document.string s).IsPart d ∧ Text.SaysUnknown s.toList)) ∨
      (Document.ofYaml? text = none ∧ e = .unreadable (wording text) ∧
        ∃ message ∈ wording text, Text.SaysUnknown (Text.lower message).toList)) := by
  refine ⟨?_, ?_, ?_⟩
  · rintro found expected rfl
    obtain ⟨d, -, htells⟩ := exists_tellsOf_of_parse h
    rw [ParseError.kind_misfit_eq_typeMismatch_iff]
    by_cases hfound : ∃ s, found = .string s
    · obtain ⟨s, rfl⟩ := hfound
      rw [ReadFault.saysUnknown_message_invalidType_string htells.2]
      simp
    · rw [not_exists] at hfound
      have hquiet := ReadFault.isQuiet_message_invalidType hfound htells.2
      exact iff_of_true hquiet.not_saysUnknown fun s hs => absurd hs (hfound s)
  · rintro message rfl
    exact ParseError.kind_unreadable_eq_typeMismatch_iff
  · cases e with
    | misfit fault =>
      obtain ⟨d, hd, htells⟩ := exists_tellsOf_of_parse h
      rw [ParseError.kind_misfit_eq_unknownVariant_iff, htells.saysUnknown_iff, hd]
      simp
    | unreadable message =>
      obtain ⟨hnone, rfl⟩ := ofYaml?_eq_none_of_parse h
      rw [ParseError.kind_unreadable_eq_unknownVariant_iff, hnone]
      simp
    | _ => simp [ParseError.kind]

/-- A text in place of a list is an error of type, even where it is a word of some vocabulary. -/
theorem kind_of_parse_week :
    parse "metrics: week" = .error (.misfit (.invalidType (.string "week") "a sequence")) ∧
    (ParseError.misfit (.invalidType (.string "week") "a sequence")).kind = .typeMismatch := by
  have hparse : parse "metrics: week" =
      .error (.misfit (.invalidType (.string "week") "a sequence")) := by decide +kernel
  refine ⟨hparse, ((kind_of_parse hparse).1 _ _ rfl).2 ?_⟩
  rintro s ⟨⟩
  decide

/-- A text stands in place of a list, and only what it says makes it an unknown variant. -/
theorem parse_sayingUnknown :
    parse "metrics: unknown variant" =
      .error (.misfit (.invalidType (.string "unknown variant") "a sequence")) ∧
    (ParseError.misfit (.invalidType (.string "unknown variant") "a sequence")).kind =
      .unknownVariant := by
  decide +kernel

end Manifest

end SemanticLayer
