import SemanticLayer.Proofs.Validation.GranularitySuffixes

/-!
# Spellings of a granularity

A time dimension is called with a granularity by an argument, by a method, or by a suffix of its
name. An argument or a method may write the granularity in any case. A suffix is found in any case
if it is a custom granularity, but only in lower case if it is a standard one: in another case it is
taken for the name of the dimension, and the call is refused.
-/

namespace SemanticLayer

/-! ### The case of letters -/

namespace Text

/-- What holds of a capital just when it holds of its small letter does not see the case. -/
lemma apply_toLower {p : Char → Bool}
    (h : ∀ n < 26, p (Char.ofNat (0x41 + n)).toLower = p (Char.ofNat (0x41 + n))) (c : Char) :
    p c.toLower = p c := by
  by_cases hc : 0x41 ≤ c.toNat ∧ c.toNat ≤ 0x5A
  · have hletter := h (c.toNat - 0x41) (by omega)
    rwa [Nat.add_sub_of_le hc.1, Char.ofNat_toNat] at hletter
  · rw [toLower_eq_self hc]

/-- ASCII texts that differ in case only have the same lower case. -/
lemma lower_eq_of_eqIgnoringAsciiCase {s t : String} (h : eqIgnoringAsciiCase s t)
    (hs : ∀ c ∈ s.toList, c.toNat < 0x80) (ht : ∀ c ∈ t.toList, c.toNat < 0x80) :
    lower s = lower t := by
  rw [lower_eq_map_toLower hs, lower_eq_map_toLower ht, beq_iff_eq.1 h]

end Text

lemma hasDunder_map_toLower_iff {cs : List Char} :
    hasDunder (cs.map Char.toLower) = false ↔ hasDunder cs = false := by
  have hunderscore (c : Char) : c.toLower = '_' ↔ c = '_' := by
    have hbeq := Text.apply_toLower (p := (· == '_')) (by decide) c
    rw [← beq_iff_eq, hbeq, beq_iff_eq]
  induction cs with
  | nil => rfl
  | cons c cs ih =>
    have hhead : (cs.map Char.toLower).head? = some '_' ↔ cs.head? = some '_' := by
      cases cs <;> simp [hunderscore]
    rw [List.map_cons, DunderedName.hasDunder_cons_iff, DunderedName.hasDunder_cons_iff,
      hunderscore, Ne, hhead]
    exact and_congr_right' ih

namespace Filter

/-- Whether a name can stand for a granularity does not depend on its case. -/
lemma isGranularityArgument_congr {s t : String} (h : Text.eqIgnoringAsciiCase s t) :
    isGranularityArgument s = isGranularityArgument t := by
  have halpha : ∀ c : Char, c.toLower.isAlpha = c.isAlpha := Text.apply_toLower (by decide)
  have hname : ∀ c : Char, isNameCharacter c.toLower = isNameCharacter c :=
    Text.apply_toLower (by decide)
  have hlower : s.toList.map Char.toLower = t.toList.map Char.toLower := beq_iff_eq.1 h
  unfold isGranularityArgument
  cases hs : s.toList with
  | nil =>
    have ht : t.toList = [] := by simpa [hs] using hlower.symm
    rw [ht]
  | cons c cs =>
    obtain ⟨d, ds, ht⟩ : ∃ d ds, t.toList = d :: ds := by
      cases ht : t.toList with
      | nil => simp [hs, ht] at hlower
      | cons d ds => exact ⟨d, ds, rfl⟩
    obtain ⟨hc, hcs⟩ : c.toLower = d.toLower ∧ cs.map Char.toLower = ds.map Char.toLower := by
      simpa [hs, ht] using hlower
    have hall (es : List Char) : (es.map Char.toLower).all isNameCharacter =
        es.all isNameCharacter := by
      rw [List.all_map, Function.comp_def, funext hname]
    rw [ht]
    simp only [← halpha c, ← halpha d, hc, ← hall cs, ← hall ds, hcs]

end Filter

/-! ### Granularities -/

/-- A standard granularity, or a custom one whose name can be an argument and is a segment. -/
def IsGrain (custom : List String) (g : String) : Prop :=
  (Vocabulary.ofName? (α := Granularity) g).isSome ∨
    g ∈ custom ∧ Filter.isGranularityArgument g ∧ hasDunder g.toList = false

/-- The spelling `h` of the granularity `g` is found as a suffix: it is written as `g` is, or it is
a custom granularity in some case. -/
def IsGrainSuffix (custom : List String) (g h : String) : Prop :=
  h = g ∨ ∃ c ∈ custom, Text.eqIgnoringAsciiCase c h

section Grain

variable {custom : List String} {g h : String}

/-- Standard granularities are written in small letters. -/
lemma map_toLower_of_ofName? (hg : (Vocabulary.ofName? (α := Granularity) g).isSome) :
    g.toList.map Char.toLower = g.toList := by
  obtain ⟨granularity, hname⟩ := Option.isSome_iff_exists.1 hg
  rw [← Vocabulary.name_of_ofName? hname]
  cases granularity <;> decide

lemma IsGrain.isArgument (hg : IsGrain custom g) :
    Filter.isGranularityArgument g ∧ hasDunder g.toList = false := by
  obtain hg | ⟨-, hg⟩ := hg
  · obtain ⟨granularity, hname⟩ := Option.isSome_iff_exists.1 hg
    rw [← Vocabulary.name_of_ofName? hname]
    cases granularity <;> decide
  · exact hg

/-- Every spelling of a granularity can be an argument and is a segment. -/
lemma IsGrain.isArgument_spelling (hg : IsGrain custom g) (hh : Text.eqIgnoringAsciiCase h g) :
    Filter.isGranularityArgument h ∧ hasDunder h.toList = false := by
  obtain ⟨hargument, hdunder⟩ := hg.isArgument
  refine ⟨(Filter.isGranularityArgument_congr hh).trans hargument, ?_⟩
  rw [← hasDunder_map_toLower_iff, beq_iff_eq.1 hh, hasDunder_map_toLower_iff]
  exact hdunder

/-- A spelling of a granularity is taken for a granularity if it is found as a suffix. -/
lemma IsGrain.namesGranularity_iff (hg : IsGrain custom g) (hh : Text.eqIgnoringAsciiCase h g) :
    DunderedName.namesGranularity custom h ↔ IsGrainSuffix custom g h := by
  rw [DunderedName.namesGranularity, Bool.or_eq_true, List.any_eq_true, IsGrainSuffix]
  constructor
  · rintro (hstandard | hcustom)
    · obtain hg | ⟨hmem, -⟩ := hg
      · have hlower : h.toList.map Char.toLower = g.toList.map Char.toLower := beq_iff_eq.1 hh
        rw [map_toLower_of_ofName? hstandard, map_toLower_of_ofName? hg] at hlower
        exact .inl (String.toList_inj.1 hlower)
      · exact .inr ⟨g, hmem, beq_iff_eq.2 (beq_iff_eq.1 hh).symm⟩
    · exact .inr hcustom
  · rintro (rfl | hcustom)
    · obtain hg | ⟨hmem, -⟩ := hg
      · exact .inl hg
      · exact .inr ⟨h, hmem, hh⟩
    · exact .inr hcustom

/-- What is not found as a suffix is a standard granularity in another case. -/
lemma IsGrain.ne_metricTimeName (hg : IsGrain custom g) (hh : Text.eqIgnoringAsciiCase h g)
    (hsuffix : ¬IsGrainSuffix custom g h) : h ≠ metricTimeName := by
  rintro rfl
  obtain hg | ⟨hmem, -⟩ := hg
  · have hlower : metricTimeName.toList.map Char.toLower = g.toList.map Char.toLower :=
      beq_iff_eq.1 hh
    rw [map_toLower_of_ofName? hg] at hlower
    obtain rfl : g = metricTimeName := String.toList_inj.1 (hlower.symm.trans (by decide))
    exact absurd hg (by decide)
  · exact hsuffix (.inr ⟨g, hmem, beq_iff_eq.2 (beq_iff_eq.1 hh).symm⟩)

end Grain

/-! ### Calls -/

namespace Filter

variable {custom : List String} {e d g h : String}

lemma toNat_lt_of_isGranularityArgument (hg : isGranularityArgument g) :
    ∀ c ∈ g.toList, c.toNat < 0x80 := by
  unfold isGranularityArgument at hg
  cases hchars : g.toList with
  | nil => simp
  | cons c cs =>
    simp only [hchars, Bool.and_eq_true, List.all_eq_true] at hg
    have hc : isNameCharacter c := isNameCharacter_of_isNameStart (by simp [isNameStart, hg.1])
    exact List.forall_mem_cons.2 ⟨toNat_lt_of_isNameCharacter hc,
      fun d hd => toNat_lt_of_isNameCharacter (hg.2 d hd)⟩

lemma ne_empty_of_isGranularityArgument (hg : isGranularityArgument g) : g ≠ "" := by
  rintro rfl
  simp [isGranularityArgument] at hg

/-- The address of a dimension with a granularity beside it, in an argument or a method. -/
def grainBeside (e d h : String) : List WrittenCall :=
  [.timeDimension (dimensionAddress e d) (some h) none none,
    .dimension (dimensionAddress e d) none (some h) none]

/-- The address of a dimension with a granularity behind it, which an argument or a method may
repeat. -/
def grainBehind (e d h : String) : List WrittenCall :=
  [.timeDimension (granularityAddress e d h) none none none,
    .dimension (granularityAddress e d h) none (some h) none,
    .timeDimension (granularityAddress e d h) (some h) none none]

example : (grainBeside "visit" "ds" "Day" ++ grainBehind "visit" "ds" "Day").map (·.template '\'') =
    ["\x7b\x7b TimeDimension('visit__ds', 'Day') \x7d\x7d",
      "\x7b\x7b Dimension('visit__ds').grain('Day') \x7d\x7d",
      "\x7b\x7b TimeDimension('visit__ds__Day') \x7d\x7d",
      "\x7b\x7b Dimension('visit__ds__Day').grain('Day') \x7d\x7d",
      "\x7b\x7b TimeDimension('visit__ds__Day', 'Day') \x7d\x7d"] := by
  decide +kernel

lemma timeDimensionCall_beside (he : IsValidName e) (hd : IsValidName d)
    (hcustom : ∀ c ∈ custom, ¬Text.eqIgnoringAsciiCase c d) (hh : isGranularityArgument h) :
    timeDimensionCall custom (dimensionAddress e d) (some h) [] none =
      .ok ⟨[e], d, some (Text.lower h), none⟩ := by
  have hnames : ¬DunderedName.namesGranularity custom d := by
    rw [hd.namesGranularity_iff_exists]
    simpa using hcustom
  rw [timeDimensionCall, elementName_dimensionAddress he hd]
  simp [DunderedName.ofReversed, hnames, checkTimeDimensionName, checkGranularities, datePart,
    hd.ne_metricTimeName, hh, bind, Except.bind]

section Behind

variable (he : IsValidName e) (hd : IsValidName d) (hh : isGranularityArgument h)
  (hdunder : hasDunder h.toList = false)
include he hd hh hdunder

/-- What is found behind the address is the granularity, which may be repeated beside it. -/
lemma timeDimensionCall_behind (hnames : DunderedName.namesGranularity custom h)
    {explicit : Option String} (hexplicit : ∀ g ∈ explicit, g = h) :
    timeDimensionCall custom (granularityAddress e d h) explicit [] none =
      .ok ⟨[e], d, some (Text.lower h), none⟩ := by
  rw [timeDimensionCall, elementName_granularityAddress he hd (ne_empty_of_isGranularityArgument hh)
    hdunder, if_pos hnames]
  cases explicit with
  | none =>
    simp [checkTimeDimensionName, checkGranularities, datePart, hd.ne_metricTimeName, bind,
      Except.bind]
  | some g =>
    obtain rfl := hexplicit g rfl
    simp [checkTimeDimensionName, checkGranularities, datePart, hd.ne_metricTimeName, hh,
      Text.eqIgnoringAsciiCase, bind, Except.bind]

/-- What is not found behind the address is taken for the name of an element with two links. -/
lemma timeDimensionCall_behind_eq_error (hnames : ¬DunderedName.namesGranularity custom h)
    (hmetric : h ≠ metricTimeName) (explicit : Option String) :
    timeDimensionCall custom (granularityAddress e d h) explicit [] none =
      .error (.notOneLink (granularityAddress e d h)) := by
  rw [timeDimensionCall, elementName_granularityAddress he hd (ne_empty_of_isGranularityArgument hh)
    hdunder, if_neg hnames]
  simp [checkTimeDimensionName, hmetric, bind, Except.bind]

end Behind

/-- A template with one written call has what the call denotes, or its fault. -/
lemma parseTemplate_template_eq {quote : Char} (hq : isQuote quote) {c : WrittenCall}
    (hc : c.IsNamed) {α : Type} {f : α → CallSets} {r : Except FilterFault α}
    (hcall : c.expression.call custom = f <$> r) :
    parseTemplate custom (c.template quote) =
      (f <$> r).mapError (⟨c.template quote, ·⟩) := by
  rw [parseTemplate, WrittenCall.templateCalls_template hq custom hc, hcall]

/-- Each written call of a time dimension with a granularity denotes that time dimension. -/
lemma parseTemplate_of_mem_grainBeside {quote : Char} (hq : isQuote quote) {c : WrittenCall}
    (hc : c ∈ grainBeside e d h) :
    parseTemplate custom (c.template quote) =
      (CallSets.ofTimeDimension <$> timeDimensionCall custom (dimensionAddress e d) (some h) []
        none).mapError (⟨c.template quote, ·⟩) := by
  obtain rfl | rfl : c = .timeDimension (dimensionAddress e d) (some h) none none ∨
      c = .dimension (dimensionAddress e d) none (some h) none := by simpa [grainBeside] using hc
  · exact parseTemplate_template_eq hq (WrittenCall.isNamed_timeDimension ..)
      (WrittenCall.call_timeDimension ..)
  · exact parseTemplate_template_eq hq (WrittenCall.isNamed_dimension ..)
      (WrittenCall.call_dimension ..)

lemma parseTemplate_of_mem_grainBehind {quote : Char} (hq : isQuote quote) {c : WrittenCall}
    (hc : c ∈ grainBehind e d h) :
    ∃ explicit : Option String, (∀ g ∈ explicit, g = h) ∧ parseTemplate custom (c.template quote) =
      (CallSets.ofTimeDimension <$> timeDimensionCall custom (granularityAddress e d h) explicit []
        none).mapError (⟨c.template quote, ·⟩) := by
  obtain rfl | rfl | rfl : c = .timeDimension (granularityAddress e d h) none none none ∨
      c = .dimension (granularityAddress e d h) none (some h) none ∨
      c = .timeDimension (granularityAddress e d h) (some h) none none := by
    simpa [grainBehind] using hc
  · exact ⟨none, by simp, parseTemplate_template_eq hq (WrittenCall.isNamed_timeDimension ..)
      (WrittenCall.call_timeDimension ..)⟩
  · exact ⟨some h, by simp, parseTemplate_template_eq hq (WrittenCall.isNamed_dimension ..)
      (WrittenCall.call_dimension ..)⟩
  · exact ⟨some h, by simp, parseTemplate_template_eq hq (WrittenCall.isNamed_timeDimension ..)
      (WrittenCall.call_timeDimension ..)⟩

/-- A granularity beside the address of a dimension is read in every case of its letters. Behind the
address it is read too, unless it is a standard one that is not written in small letters: then the
call is refused. All calls that are read denote the same time dimension. -/
theorem parseTemplate_grainSpellings {quote : Char} (hq : isQuote quote) (he : nameFaults e = [])
    (hd : nameFaults d = []) (hcustom : ∀ c ∈ custom, ¬Text.eqIgnoringAsciiCase c d)
    (hg : IsGrain custom g) (hh : Text.eqIgnoringAsciiCase h g) :
    (∀ c ∈ grainBeside e d h, parseTemplate custom (c.template quote) =
      .ok (.ofTimeDimension ⟨[e], d, some (Text.lower g), none⟩)) ∧
    ∀ c ∈ grainBehind e d h,
      (IsGrainSuffix custom g h → parseTemplate custom (c.template quote) =
        .ok (.ofTimeDimension ⟨[e], d, some (Text.lower g), none⟩)) ∧
      (¬IsGrainSuffix custom g h → parseTemplate custom (c.template quote) =
        .error ⟨c.template quote, .notOneLink (granularityAddress e d h)⟩) := by
  have he' := nameFaults_eq_nil_iff.1 he
  have hd' := nameFaults_eq_nil_iff.1 hd
  obtain ⟨hargument, hdunder⟩ := hg.isArgument_spelling hh
  have hlower : Text.lower h = Text.lower g := Text.lower_eq_of_eqIgnoringAsciiCase hh
    (toNat_lt_of_isGranularityArgument hargument)
    (toNat_lt_of_isGranularityArgument hg.isArgument.1)
  refine ⟨fun c hc => ?_, fun c hc => ⟨fun hsuffix => ?_, fun hsuffix => ?_⟩⟩
  · rw [parseTemplate_of_mem_grainBeside hq hc,
      timeDimensionCall_beside he' hd' hcustom hargument, hlower]
    rfl
  · obtain ⟨explicit, hexplicit, hcall⟩ := parseTemplate_of_mem_grainBehind hq hc
    rw [hcall, timeDimensionCall_behind he' hd' hargument hdunder
      ((hg.namesGranularity_iff hh).2 hsuffix) hexplicit, hlower]
    rfl
  · obtain ⟨explicit, -, hcall⟩ := parseTemplate_of_mem_grainBehind hq hc
    rw [hcall, timeDimensionCall_behind_eq_error he' hd' hargument hdunder
      (fun hnames => hsuffix ((hg.namesGranularity_iff hh).1 hnames))
      (hg.ne_metricTimeName hh hsuffix)]
    rfl

/-- A custom granularity is found in any case, beside the address and behind it. -/
theorem parseTemplate_grainSpellings_fiscalWeek :
    isQuote '\'' ∧ nameFaults "visit" = [] ∧ nameFaults "ds" = [] ∧
    (∀ c ∈ ["Fiscal_Week"], ¬Text.eqIgnoringAsciiCase c "ds") ∧
    IsGrain ["Fiscal_Week"] "Fiscal_Week" ∧
    Text.eqIgnoringAsciiCase "FISCAL_week" "Fiscal_Week" ∧
    IsGrainSuffix ["Fiscal_Week"] "Fiscal_Week" "FISCAL_week" ∧
    ∀ c ∈ grainBeside "visit" "ds" "FISCAL_week" ++ grainBehind "visit" "ds" "FISCAL_week",
      parseTemplate ["Fiscal_Week"] (c.template '\'') =
        .ok (.ofTimeDimension ⟨["visit"], "ds", some "fiscal_week", none⟩) := by
  have hq : isQuote '\'' := by decide
  have he : nameFaults "visit" = [] := by decide +kernel
  have hd : nameFaults "ds" = [] := by decide +kernel
  have hcustom : ∀ c ∈ ["Fiscal_Week"], ¬Text.eqIgnoringAsciiCase c "ds" := by decide
  have hg : IsGrain ["Fiscal_Week"] "Fiscal_Week" := .inr (by decide)
  have hh : Text.eqIgnoringAsciiCase "FISCAL_week" "Fiscal_Week" := by decide
  have hsuffix : IsGrainSuffix ["Fiscal_Week"] "Fiscal_Week" "FISCAL_week" :=
    .inr ⟨_, List.mem_cons_self, by decide⟩
  have hlower : Text.lower "Fiscal_Week" = "fiscal_week" := by decide +kernel
  obtain ⟨hbeside, hbehind⟩ := hlower ▸ parseTemplate_grainSpellings hq he hd hcustom hg hh
  exact ⟨hq, he, hd, hcustom, hg, hh, hsuffix, List.forall_mem_append.2
    ⟨hbeside, fun c hc => (hbehind c hc).1 hsuffix⟩⟩

/-- A standard granularity in capitals is read beside the address, but not behind it. -/
theorem parseTemplate_grainSpellings_day :
    nameFaults "visit" = [] ∧ nameFaults "ds" = [] ∧ IsGrain [] "day" ∧
    Text.eqIgnoringAsciiCase "DAY" "day" ∧
    parseTemplate [] "\x7b\x7b TimeDimension('visit__ds', 'DAY') \x7d\x7d" =
      .ok (.ofTimeDimension ⟨["visit"], "ds", some "day", none⟩) ∧
    parseTemplate [] "\x7b\x7b TimeDimension('visit__ds__DAY') \x7d\x7d" =
      .error ⟨"\x7b\x7b TimeDimension('visit__ds__DAY') \x7d\x7d",
        .notOneLink "visit__ds__DAY"⟩ := by
  refine ⟨by decide +kernel, by decide +kernel, .inl (by decide), by decide, ?_, ?_⟩
  · have hcall : timeDimensionCall [] "visit__ds" (some "DAY") [] none =
        .ok ⟨["visit"], "ds", some "day", none⟩ := by decide +kernel
    have htemplate : (WrittenCall.timeDimension "visit__ds" (some "DAY") none none).template '\'' =
        "\x7b\x7b TimeDimension('visit__ds', 'DAY') \x7d\x7d" := by decide +kernel
    rw [← htemplate, parseTemplate_template_eq (by decide) (WrittenCall.isNamed_timeDimension ..)
      (WrittenCall.call_timeDimension ..)]
    simp only [Option.getD_none, hcall]
    rfl
  · have hcall : timeDimensionCall [] "visit__ds__DAY" none [] none =
        .error (.notOneLink "visit__ds__DAY") := by decide +kernel
    have htemplate : (WrittenCall.timeDimension "visit__ds__DAY" none none none).template '\'' =
        "\x7b\x7b TimeDimension('visit__ds__DAY') \x7d\x7d" := by decide +kernel
    rw [← htemplate, parseTemplate_template_eq (by decide) (WrittenCall.isNamed_timeDimension ..)
      (WrittenCall.call_timeDimension ..)]
    simp only [Option.getD_none, hcall]
    rfl

end Filter

end SemanticLayer
