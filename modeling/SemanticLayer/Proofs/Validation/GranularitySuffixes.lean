import SemanticLayer.Proofs.Filter.WellFormed
import SemanticLayer.Proofs.Validation.Addresses

/-!
# Granularities as suffixes

A time dimension is called with a granularity by the name of the granularity behind its address. In
a valid manifest this works for every custom granularity whose name holds no double underscore. The
rules let through names that hold one, and these are taken apart with the address.
-/

namespace SemanticLayer

open Issues Rules

/-! ### Addresses with a granularity -/

/-- The address of a dimension with a granularity behind it. -/
def granularityAddress (entity dimension granularity : String) : String :=
  entity ++ dunder ++ dimension ++ dunder ++ granularity

lemma segments_granularityAddress {e d : String} (he : IsValidName e) (hd : IsValidName d)
    (g : String) : DunderedName.segments (granularityAddress e d g) =
      e :: d :: DunderedName.segments g := by
  have hassoc : granularityAddress e d g = e ++ dunder ++ (d ++ dunder ++ g) := by
    simp [granularityAddress, String.append_assoc]
  rw [hassoc, DunderedName.segments_append he.isSegment, DunderedName.segments_append hd.isSegment]

lemma isGranularityIdentifier_ne_empty {g : String} (h : isGranularityIdentifier g) : g ≠ "" := by
  rintro rfl
  simp [isGranularityIdentifier] at h

/-- At most two segments of a name are no links. -/
lemma DunderedName.length_le_length_entityLinks (custom segments : List String) :
    segments.length ≤ (ofReversed custom segments).entityLinks.length + 2 := by
  fun_cases ofReversed custom segments with
  | case1 => simp
  | case2 => simp
  | case3 => simp
  | case4 => simp

namespace Filter

variable {custom : List String} {e d g : String}

/-- A granularity that is a segment of its own is found behind the address. Any other segment there
is taken for the name of the element. -/
lemma elementName_granularityAddress (he : IsValidName e) (hd : IsValidName d) (hempty : g ≠ "")
    (hdunder : hasDunder g.toList = false) (custom : List String) :
    elementName custom (granularityAddress e d g) =
      .ok (if DunderedName.namesGranularity custom g then ⟨[e], d, some g⟩
        else ⟨[e, d], g, none⟩) := by
  have hsegments : DunderedName.segments (granularityAddress e d g) = [e, d, g] := by
    rw [segments_granularityAddress he hd, DunderedName.segments,
      DunderedName.splitDunder_eq_singleton hdunder]
    simp
  have hnonempty : [e, d, g].contains "" = false := by
    simp [he.ne_empty.symm, hd.ne_empty.symm, hempty.symm]
  rw [elementName, DunderedName.parse, hsegments, hnonempty]
  rfl

/-- A time dimension is called with a custom granularity behind its address. -/
lemma timeDimensionCall_granularityAddress (he : IsValidName e) (hd : IsValidName d)
    (hg : isGranularityIdentifier g) (hcustom : g ∈ custom) (hdunder : hasDunder g.toList = false) :
    timeDimensionCall custom (granularityAddress e d g) none [] none =
      .ok ⟨[e], d, some g, none⟩ := by
  have hnames : DunderedName.namesGranularity custom g := by
    simp only [DunderedName.namesGranularity, Bool.or_eq_true, List.any_eq_true]
    exact .inr ⟨g, hcustom, (eqIgnoringAsciiCase_iff hg hg).2 rfl⟩
  have hlower : Text.lower g = g := Text.lower_eq_self fun _ hc =>
    isLowerChar_of_isSnakeCharacter (isSnakeCharacter_of_isGranularityIdentifier hg hc)
  rw [timeDimensionCall,
    elementName_granularityAddress he hd (isGranularityIdentifier_ne_empty hg) hdunder,
    if_pos hnames]
  simp [checkTimeDimensionName, checkGranularities, datePart, hd.ne_metricTimeName, hlower, bind,
    Except.bind]

/-- A granularity that is taken apart leaves more links than a time dimension has. -/
lemma timeDimensionCall_ne_ok (he : IsValidName e) (hd : IsValidName d)
    (hdunder : hasDunder g.toList) (call : TimeDimensionCall) :
    timeDimensionCall custom (granularityAddress e d g) none [] none ≠ .ok call := by
  intro h
  obtain ⟨s, s', ss, hsplit⟩ := DunderedName.exists_splitDunder_eq_cons_cons hdunder
  obtain ⟨parts, hparts, h⟩ := bind_eq_ok_iff.1 h
  obtain ⟨⟨⟩, hcheck, h⟩ := bind_eq_ok_iff.1 h
  have hlinks : 2 ≤ parts.entityLinks.length := by
    unfold elementName at hparts
    split_ifs at hparts
    obtain rfl := Except.ok.inj hparts
    have hsegments : 4 ≤ (DunderedName.segments (granularityAddress e d g)).length := by
      rw [segments_granularityAddress he hd, DunderedName.segments, hsplit]
      simp
    have hlength := DunderedName.length_le_length_entityLinks custom
      (DunderedName.segments (granularityAddress e d g)).reverse
    rw [List.length_reverse] at hlength
    rw [DunderedName.parse]
    omega
  obtain ⟨-, hnone⟩ | hone := entityLinks_of_checkTimeDimensionName hcheck
  · simp [hnone] at hlinks
  · omega

/-- The filter that calls an address with a granularity has that call and no other. -/
lemma templateCalls_granularityAddress (he : IsValidName e) (hd : IsValidName d)
    (hg : isGranularityIdentifier g) :
    templateCalls custom (callTemplate .timeDimension (granularityAddress e d g)) =
      .ofTimeDimension <$> timeDimensionCall custom (granularityAddress e d g) none [] none := by
  have hsnake : ∀ c ∈ (granularityAddress e d g).toList, isSnakeCharacter c :=
    isSnakeCharacter_dundered
      (isSnakeCharacter_dundered (fun _ => he.isSnakeCharacter) fun _ => hd.isSnakeCharacter)
      fun _ => isSnakeCharacter_of_isGranularityIdentifier hg
  rw [callTemplate_eq _ fun c hc => ne_of_isSnakeCharacter (hsnake c hc)]
  have hwritten := WrittenCall.isNamed_timeDimension (granularityAddress e d g) none none none
  exact (WrittenCall.templateCalls_template (by decide) custom hwritten).trans
    (WrittenCall.call_timeDimension custom _ none none none)

/-- In a valid manifest the name of a custom granularity behind the address of a time dimension
calls that dimension with that granularity, just when it holds no double underscore. Otherwise the
filter is refused. -/
theorem parseTemplate_granularityAddress_iff {m : Manifest} (h : hasBlocking m.validate = false)
    (hg : g ∈ m.customGranularityNames) (he : nameFaults e = []) (hd : nameFaults d = [])
    (calls : CallSets) :
    parseTemplate m.customGranularityNames
        (callTemplate .timeDimension (granularityAddress e d g)) = .ok calls ↔
      hasDunder g.toList = false ∧ calls = .ofTimeDimension ⟨[e], d, some g, none⟩ := by
  have hvalid := Manifest.hasBlocking_validate_eq_false_iff.1 h
  have hnames := Manifest.hasValidNames_iff.2 hvalid.uniqueAndValidNames
  have hgranularity := Manifest.isGranularityIdentifier_of_mem hnames.granularities hg
  have he' := nameFaults_eq_nil_iff.1 he
  have hd' := nameFaults_eq_nil_iff.1 hd
  rw [parseTemplate_eq_ok_iff, templateCalls_granularityAddress he' hd' hgranularity, map_eq_ok_iff]
  cases hdunder : hasDunder g.toList with
  | true =>
    simp [timeDimensionCall_ne_ok he' hd' hdunder]
  | false =>
    simp [timeDimensionCall_granularityAddress he' hd' hgranularity hg hdunder]

end Filter

/-- Visits in a project with a granularity of its own. -/
def Manifest.visitsGraded (granularity : String) : Manifest :=
  { visitsBy "page" with configuration := ⟨[⟨none, none, [⟨granularity, none⟩]⟩]⟩ }

namespace Filter

/-- Capitals and an underscore at the end do no harm. -/
theorem parseTemplate_granularityAddress_fiscalWeek :
    hasBlocking (Manifest.visitsGraded "Fiscal_Week_").validate = false ∧
    "fiscal_week_" ∈ (Manifest.visitsGraded "Fiscal_Week_").customGranularityNames ∧
    nameFaults "visit" = [] ∧ nameFaults "ds" = [] ∧
    parseTemplate (Manifest.visitsGraded "Fiscal_Week_").customGranularityNames
        "\x7b\x7b TimeDimension('visit__ds__fiscal_week_') \x7d\x7d" =
      .ok (.ofTimeDimension ⟨["visit"], "ds", some "fiscal_week_", none⟩) := by
  have hvalid : hasBlocking (Manifest.visitsGraded "Fiscal_Week_").validate = false := by
    decide +kernel
  have hg : "fiscal_week_" ∈ (Manifest.visitsGraded "Fiscal_Week_").customGranularityNames := by
    decide +kernel
  have he : nameFaults "visit" = [] := by decide +kernel
  have hd : nameFaults "ds" = [] := by decide +kernel
  exact ⟨hvalid, hg, he, hd,
    (parseTemplate_granularityAddress_iff hvalid hg he hd _).2 ⟨by decide +kernel, rfl⟩⟩

/-- A valid manifest may have a custom granularity that cannot stand behind an address. -/
theorem parseTemplate_granularityAddress_dundered :
    hasBlocking (Manifest.visitsGraded "fiscal__week").validate = false ∧
    "fiscal__week" ∈ (Manifest.visitsGraded "fiscal__week").customGranularityNames ∧
    nameFaults "visit" = [] ∧ nameFaults "ds" = [] ∧
    "ds" ∉ (Manifest.visitsGraded "fiscal__week").customGranularityNames ∧
    parseTemplate (Manifest.visitsGraded "fiscal__week").customGranularityNames
        "\x7b\x7b TimeDimension('visit__ds__fiscal__week') \x7d\x7d" =
      .error ⟨"\x7b\x7b TimeDimension('visit__ds__fiscal__week') \x7d\x7d",
        .notOneLink "visit__ds__fiscal__week"⟩ := by
  refine ⟨by decide +kernel, by decide +kernel, by decide +kernel, by decide +kernel,
    by decide +kernel, ?_⟩
  have hcall : timeDimensionCall (Manifest.visitsGraded "fiscal__week").customGranularityNames
      (granularityAddress "visit" "ds" "fiscal__week") none [] none =
        .error (.notOneLink "visit__ds__fiscal__week") := by decide +kernel
  have he : IsValidName "visit" := by decide +kernel
  have hd : IsValidName "ds" := by decide +kernel
  have hg : isGranularityIdentifier "fiscal__week" := by decide +kernel
  have hcalls : templateCalls (Manifest.visitsGraded "fiscal__week").customGranularityNames
      (callTemplate .timeDimension (granularityAddress "visit" "ds" "fiscal__week")) =
        .error (.notOneLink "visit__ds__fiscal__week") := by
    rw [templateCalls_granularityAddress he hd hg, hcall]
    rfl
  exact congrArg _ hcalls

end Filter

end SemanticLayer
