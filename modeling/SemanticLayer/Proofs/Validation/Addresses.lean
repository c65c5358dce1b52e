import Mathlib.Data.List.Nodup
import SemanticLayer.Proofs.Filter.Written
import SemanticLayer.Proofs.Name.Segments
import SemanticLayer.Proofs.Validation.DirectModels

/-!
# Addresses of dimensions

A dimension is addressed by the primary entity of its semantic model and its own name. In a valid
manifest every dimension has an address and shares it with no other one, and a filter that calls the
address means that dimension, unless the name of the dimension is that of a custom granularity: then
the filter takes it for the granularity of a dimension with the entity's name.
-/

namespace SemanticLayer

open Issues Rules

/-! ### Positions -/

/-- Where items are distinct across all lists, each one has a single position. -/
lemma nodup_flatMap_getElem? {α β : Type} {f : α → List β} {as : List α} (h : (as.flatMap f).Nodup)
    {i i' j j' : ℕ} {a a' : α} {b : β} (hi : as[i]? = some a) (hi' : as[i']? = some a')
    (hj : (f a)[j]? = some b) (hj' : (f a')[j']? = some b) : i = i' ∧ j = j' := by
  obtain ⟨hnodup, hdisjoint⟩ := List.nodup_flatMap.1 h
  rw [List.pairwise_iff_getElem] at hdisjoint
  obtain ⟨hlt, rfl⟩ := List.getElem?_eq_some_iff.1 hi
  obtain ⟨hlt', rfl⟩ := List.getElem?_eq_some_iff.1 hi'
  have hb := List.mem_of_getElem? hj
  have hb' := List.mem_of_getElem? hj'
  obtain hless | rfl | hmore := Nat.lt_trichotomy i i'
  · exact (hdisjoint i i' hlt hlt' hless hb hb').elim
  · refine ⟨rfl, ?_⟩
    obtain ⟨hjlt, -⟩ := List.getElem?_eq_some_iff.1 hj
    exact (List.getElem?_inj hjlt (hnodup _ (List.getElem_mem hlt))).1 (hj.trans hj'.symm)
  · exact (hdisjoint i' i hlt' hlt hmore hb' hb).elim

/-! ### Valid names -/

/-- A valid name does not end with an underscore. -/
lemma IsValidName.isSegment {name : String} (h : IsValidName name) : IsSegment name := by
  refine ⟨h.notDundered, fun hlast => ?_⟩
  have hsnake := h.snakeCase
  cases hchars : name.toList with
  | nil => simp [hchars] at hlast
  | cons c cs =>
    simp only [hchars, isSnakeCase, Bool.and_eq_true] at hsnake
    cases cs with
    | nil => simp at hsnake
    | cons d ds =>
      rw [hchars, List.getLast?_cons_cons] at hlast
      simp [hlast] at hsnake

lemma IsValidName.ne_empty {name : String} (h : IsValidName name) : name ≠ "" := by
  rintro rfl
  simpa [isSnakeCase] using h.snakeCase

lemma IsValidName.lower_eq_self {name : String} (h : IsValidName name) : Text.lower name = name :=
  Text.lower_eq_self h.isLower

/-- A valid name is not that of metric time. -/
lemma IsValidName.ne_metricTimeName {name : String} (h : IsValidName name) :
    name ≠ metricTimeName := by
  rintro rfl
  refine h.notReserved ?_
  rw [h.lower_eq_self]
  exact List.mem_cons_self

namespace SemanticModel

variable {model : SemanticModel}

lemma HasValidNames.dimension {d : Dimension} (h : model.HasValidNames)
    (hd : d ∈ model.dimensions) : IsValidName d.name :=
  h.elements _ (mem_elements_of_dimension hd)

/-- The primary entity has a valid name, whether it is declared or found by its kind. -/
lemma HasValidNames.primaryEntityName {e : String} (h : model.HasValidNames)
    (he : model.primaryEntityName? = some e) : IsValidName e := by
  have hfound (kind : EntityKind) (entity : Entity)
      (hentity : model.entityOfKind? kind = some entity) : IsValidName entity.name :=
    h.elements _ (mem_elements_of_entity (List.mem_of_find?_eq_some hentity))
  rw [primaryEntityName?, Option.or_eq_some_iff] at he
  obtain hdeclared | ⟨-, hkind⟩ := he
  · exact h.primaryEntity e hdeclared
  · obtain ⟨entity, hentity, rfl⟩ := Option.map_eq_some_iff.1 hkind
    obtain hprimary | ⟨-, hnatural⟩ := Option.or_eq_some_iff.1 hentity
    · exact hfound _ entity hprimary
    · exact hfound _ entity hnatural

end SemanticModel

/-! ### Addresses -/

/-- The address of a dimension that is reached through an entity. -/
def dimensionAddress (entity dimension : String) : String := entity ++ dunder ++ dimension

lemma segments_dimensionAddress {e d : String} (he : IsValidName e) (hd : IsValidName d) :
    DunderedName.segments (dimensionAddress e d) = [e, d] := by
  have hjoin : dimensionAddress e d = DunderedName.join [e, d] := rfl
  rw [hjoin]
  refine DunderedName.segments_join (List.cons_ne_nil _ _) ?_
  simp [he.isSegment, hd.isSegment]

/-- An address tells its entity and its dimension. -/
lemma dimensionAddress_inj {e d e' d' : String} (he : IsValidName e) (hd : IsValidName d)
    (he' : IsValidName e') (hd' : IsValidName d')
    (h : dimensionAddress e d = dimensionAddress e' d') : e = e' ∧ d = d' := by
  have hsegments := congrArg DunderedName.segments h
  rw [segments_dimensionAddress he hd, segments_dimensionAddress he' hd'] at hsegments
  simpa using hsegments

namespace Manifest

variable {m : Manifest}

/-- The address of the dimension at a position: that of its semantic model and its own in the
model. -/
def dimensionAddress? (m : Manifest) (position : ℕ × ℕ) : Option String := do
  let model ← m.semanticModels[position.1]?
  let d ← model.dimensions[position.2]?
  let e ← model.primaryEntityName?
  some (dimensionAddress e d.name)

lemma dimensionAddress?_eq_some_iff {position : ℕ × ℕ} {address : String} :
    m.dimensionAddress? position = some address ↔
      ∃ model d e, m.semanticModels[position.1]? = some model ∧
        model.dimensions[position.2]? = some d ∧ model.primaryEntityName? = some e ∧
        dimensionAddress e d.name = address := by
  simp [dimensionAddress?, Option.bind_eq_some_iff]

/-- A model with dimensions has a primary entity to reach them through. -/
lemma isSome_primaryEntityName? (h : IsClear (primaryEntities m)) {model : SemanticModel}
    (hmodel : model ∈ m.semanticModels) (hdimensions : model.dimensions ≠ []) :
    model.primaryEntityName?.isSome := by
  rw [primaryEntities, isClear_flatMap] at h
  have hclear := h model hmodel
  simp only [isClear_append, isClear_ite, isClear_error, imp_false, not_not] at hclear
  simpa [hdimensions] using hclear.2.2

/-- The entities and the dimensions of a model's addresses. -/
def addressPairs (model : SemanticModel) : List (String × String) :=
  match model.primaryEntityName? with
  | none   => []
  | some e => model.dimensions.map (e, ·.name)

/-- No pair of a primary entity and a dimension belongs to two dimensions. -/
lemma isClear_uniqueDimensionAddresses :
    IsClear (uniqueDimensionAddresses m) ↔ ((distinctModels m).flatMap addressPairs).Nodup := by
  have hpairs : (addressedDimensions m).map (fun a => (a.1, a.2.2.name)) =
      (distinctModels m).flatMap addressPairs := by
    rw [addressedDimensions, List.map_flatMap]
    refine List.flatMap_congr fun model _ => ?_
    unfold addressPairs
    cases model.primaryEntityName? <;> simp [Function.comp_def]
  rw [← hpairs, ← forall_withEarlier_iff, uniqueDimensionAddresses, isClear_flatMap]
  refine forall₂_congr fun a _ => ?_
  obtain ⟨⟨e, model, d⟩, earlier⟩ := a
  cases earlier <;> simp

/-- In a valid manifest every model with dimensions has a primary entity, and every address belongs
to one dimension of one model. -/
theorem dimensionAddress?_unambiguous (h : hasBlocking m.validate = false) :
    (∀ model ∈ m.semanticModels, model.dimensions ≠ [] → model.primaryEntityName?.isSome) ∧
    ∀ position position' address, m.dimensionAddress? position = some address →
      m.dimensionAddress? position' = some address → position = position' := by
  have hvalid := hasBlocking_validate_eq_false_iff.1 h
  have hnames := hasValidNames_iff.2 hvalid.uniqueAndValidNames
  refine ⟨fun model => isSome_primaryEntityName? hvalid.primaryEntities, ?_⟩
  have hpairs := isClear_uniqueDimensionAddresses.1 hvalid.uniqueDimensionAddresses
  rw [distinctModels_eq_self hnames] at hpairs
  rintro ⟨i, j⟩ ⟨i', j'⟩ address hp hp'
  obtain ⟨model, d, e, hi, hj, he, rfl⟩ := dimensionAddress?_eq_some_iff.1 hp
  obtain ⟨model', d', e', hi', hj', he', haddress⟩ := dimensionAddress?_eq_some_iff.1 hp'
  have hmodel := hnames.elements model (List.mem_of_getElem? hi)
  have hmodel' := hnames.elements model' (List.mem_of_getElem? hi')
  obtain ⟨rfl, hname⟩ := dimensionAddress_inj
    (hmodel'.primaryEntityName he') (hmodel'.dimension (List.mem_of_getElem? hj'))
    (hmodel.primaryEntityName he) (hmodel.dimension (List.mem_of_getElem? hj)) haddress
  have hpair : (addressPairs model)[j]? = some (e', d.name) := by simp [addressPairs, he, hj]
  have hpair' : (addressPairs model')[j']? = some (e', d.name) := by
    simp [addressPairs, he', hj', hname]
  obtain ⟨rfl, rfl⟩ := nodup_flatMap_getElem? hpairs hi hi' hpair hpair'
  rfl

/-- Visits by day and by the given dimension, in a project with a granularity of its own. -/
def visitsBy (dimension : String) : Manifest where
  semanticModels := [{
    name          := "visits"
    description   := none
    label         := none
    nodeRelation  := ⟨"visits", "main", none, none⟩
    defaults      := none
    primaryEntity := none
    entities      := [⟨"visit", .primary, none, none, none, none⟩]
    dimensions    := [⟨"ds", .time, none, false, some ⟨some .day, true, none⟩, none, none⟩,
      ⟨dimension, .categorical, none, false, none, none, none⟩]
    measures      := [⟨"buyers", .sum, none, true, some "1", none, none, none, none⟩]
    metadata      := none }]
  metrics           := []
  savedQueries      := []
  configuration     := ⟨[⟨none, none, [⟨"martian_day", none⟩]⟩]⟩
  interfacesVersion := defaultVersion

/-- The address of the second dimension belongs to no other position. -/
theorem dimensionAddress?_visitsBy :
    hasBlocking (visitsBy "page").validate = false ∧
      (visitsBy "page").dimensionAddress? (0, 1) = some "visit__page" ∧
      ∀ position, (visitsBy "page").dimensionAddress? position = some "visit__page" →
        position = (0, 1) := by
  have hvalid : hasBlocking (visitsBy "page").validate = false := by decide +kernel
  have haddress : (visitsBy "page").dimensionAddress? (0, 1) = some "visit__page" := by
    decide +kernel
  exact ⟨hvalid, haddress, fun position hposition =>
    (dimensionAddress?_unambiguous hvalid).2 position (0, 1) _ hposition haddress⟩

end Manifest

/-! ### Custom granularities -/

lemma Manifest.isGranularityIdentifier_of_mem {m : Manifest}
    (h : IsClear (customGranularityIssues m)) {name : String}
    (hname : name ∈ m.customGranularityNames) : isGranularityIdentifier name :=
  ((isClear_customGranularityIssues.1 h).1 name hname).1

/-- The case of ASCII letters makes no difference where there are no capitals. -/
lemma eqIgnoringAsciiCase_iff {s t : String} (hs : isGranularityIdentifier s)
    (ht : isGranularityIdentifier t) : Text.eqIgnoringAsciiCase s t ↔ s = t := by
  have hlower {u : String} (hu : isGranularityIdentifier u) :
      u.toList.map Char.toLower = u.toList :=
    map_eq_self fun c hc =>
      toLower_of_isSnakeCharacter (isSnakeCharacter_of_isGranularityIdentifier hu hc)
  rw [Text.eqIgnoringAsciiCase, beq_iff_eq, hlower hs, hlower ht, String.toList_inj]

/-- A valid name is that of no standard granularity, so it can only be that of a custom one. -/
lemma IsValidName.namesGranularity_iff_exists {name : String} (h : IsValidName name)
    (custom : List String) :
    DunderedName.namesGranularity custom name ↔
      ∃ c ∈ custom, Text.eqIgnoringAsciiCase c name := by
  have hstandard := h.notGranularity
  rw [h.lower_eq_self] at hstandard
  simp only [DunderedName.namesGranularity, hstandard, Option.isSome_none, Bool.false_or,
    List.any_eq_true]

/-- Custom granularities without issues are told apart from a valid name exactly. -/
lemma IsValidName.namesGranularity_iff {m : Manifest} (h : IsClear (customGranularityIssues m))
    {name : String} (hname : IsValidName name) :
    DunderedName.namesGranularity m.customGranularityNames name ↔
      name ∈ m.customGranularityNames := by
  have hsame {custom : String} (hcustom : custom ∈ m.customGranularityNames) :
      Text.eqIgnoringAsciiCase custom name ↔ custom = name :=
    eqIgnoringAsciiCase_iff (Manifest.isGranularityIdentifier_of_mem h hcustom)
      hname.isGranularityIdentifier
  rw [hname.namesGranularity_iff_exists]
  constructor
  · rintro ⟨custom, hcustom, heq⟩
    exact (hsame hcustom).1 heq ▸ hcustom
  · intro hcustom
    exact ⟨name, hcustom, (hsame hcustom).2 rfl⟩

/-! ### Calls of addresses -/

namespace Filter

/-- An address is taken apart into its entity and its dimension, unless the dimension has the name
of a granularity. -/
lemma elementName_dimensionAddress {e d : String} (he : IsValidName e) (hd : IsValidName d)
    (custom : List String) :
    elementName custom (dimensionAddress e d) =
      .ok (DunderedName.ofReversed custom [d, e]) := by
  have hempty : [e, d].contains "" = false := by
    simp [he.ne_empty.symm, hd.ne_empty.symm]
  rw [elementName, DunderedName.parse, segments_dimensionAddress he hd, hempty]
  rfl

/-- The call of an address means the dimension there, unless the dimension has the name of a
granularity: then the entity is taken for the dimension, and no link is left. -/
lemma dimensionCall_dimensionAddress {e d : String} (he : IsValidName e) (hd : IsValidName d)
    (custom path : List String) :
    dimensionCall custom (dimensionAddress e d) path =
      if DunderedName.namesGranularity custom d then .error (.notOneLink (dimensionAddress e d))
      else .ok ⟨path ++ [e], d⟩ := by
  rw [dimensionCall, elementName_dimensionAddress he hd]
  by_cases hgranularity : DunderedName.namesGranularity custom d
  · simp [DunderedName.ofReversed, hgranularity, he.ne_metricTimeName, bind, Except.bind]
  · simp [DunderedName.ofReversed, hgranularity, hd.ne_metricTimeName, bind, Except.bind]

/-- The filter that calls the dimension at an address. -/
def addressTemplate (address : String) : String :=
  "\x7b\x7b Dimension('" ++ address ++ "') \x7d\x7d"

/-- Characters that need no backslash stand between the quotes as they are. -/
lemma flatMap_escaped_eq_self {quote : Char} {cs : List Char}
    (h : ∀ c ∈ cs, c ≠ '\\' ∧ c ≠ quote) : cs.flatMap (escaped quote) = cs := by
  induction cs with
  | nil => rfl
  | cons c cs ih =>
    obtain ⟨hc, hcs⟩ := List.forall_mem_cons.1 h
    simp [escaped, hc.1, hc.2, ih hcs]

/-- The filter that calls an element by its name alone. -/
def callTemplate (callee : Callee) (name : String) : String :=
  "\x7b\x7b " ++ callee.name ++ "('" ++ name ++ "') \x7d\x7d"

lemma callTemplate_eq (callee : Callee) {name : String}
    (h : ∀ c ∈ name.toList, c ≠ '\\' ∧ c ≠ '\'') :
    callTemplate callee name = (WrittenCall.mk callee [.text name] [] []).template '\'' := by
  rw [← String.toList_inj]
  simp [callTemplate, WrittenCall.template, WrittenCall.written, WrittenCall.writtenArguments,
    Value.written, quoted, flatMap_escaped_eq_self h]

lemma addressTemplate_eq {address : String}
    (h : ∀ c ∈ address.toList, c ≠ '\\' ∧ c ≠ '\'') :
    addressTemplate address = (WrittenCall.dimension address none none none).template '\'' := by
  have hcall : addressTemplate address = callTemplate .dimension address := by
    rw [← String.toList_inj]
    simp [addressTemplate, callTemplate, Callee.name]
  rw [hcall, callTemplate_eq .dimension h]
  rfl

lemma ne_of_isSnakeCharacter {c : Char} (h : isSnakeCharacter c) : c ≠ '\\' ∧ c ≠ '\'' := by
  refine ⟨?_, ?_⟩ <;> rintro rfl <;> exact absurd h (by decide)

/-- Names that are put together hold nothing but what names hold. -/
lemma isSnakeCharacter_dundered {s t : String} (hs : ∀ c ∈ s.toList, isSnakeCharacter c)
    (ht : ∀ c ∈ t.toList, isSnakeCharacter c) :
    ∀ c ∈ (s ++ dunder ++ t).toList, isSnakeCharacter c := by
  have hdunder : ∀ c ∈ dunder.toList, isSnakeCharacter c := by
    simp [toList_dunder, isSnakeCharacter]
  simp only [String.toList_append, List.forall_mem_append]
  exact ⟨⟨hs, hdunder⟩, ht⟩

lemma isPlain_dimensionAddress {e d : String} (he : IsValidName e) (hd : IsValidName d) :
    ∀ c ∈ (dimensionAddress e d).toList, c ≠ '\\' ∧ c ≠ '\'' := by
  intro c hc
  exact ne_of_isSnakeCharacter (isSnakeCharacter_dundered (fun _ => he.isSnakeCharacter)
    (fun _ => hd.isSnakeCharacter) c hc)

/-- The filter that calls an address means the dimension there, unless it is taken for a granularity
of a dimension with the entity's name. -/
lemma parseTemplate_addressTemplate {e d : String} (he : IsValidName e) (hd : IsValidName d)
    (custom : List String) :
    parseTemplate custom (addressTemplate (dimensionAddress e d)) =
      if DunderedName.namesGranularity custom d then
        .error ⟨addressTemplate (dimensionAddress e d), .notOneLink (dimensionAddress e d)⟩
      else .ok (.ofDimension ⟨[e], d⟩) := by
  have hcalls : templateCalls custom (addressTemplate (dimensionAddress e d)) =
      CallSets.ofDimension <$> dimensionCall custom (dimensionAddress e d) [] := by
    rw [addressTemplate_eq (isPlain_dimensionAddress he hd),
      WrittenCall.templateCalls_template (by decide) custom (WrittenCall.isNamed_dimension ..)]
    exact WrittenCall.call_dimension custom _ none none none
  rw [parseTemplate, hcalls, dimensionCall_dimensionAddress he hd]
  split_ifs <;> rfl

/-- In a valid manifest the filter that calls the address of a dimension has that call and no other,
unless the dimension has the name of a custom granularity. -/
theorem parseTemplate_addressTemplate_iff {m : Manifest} (h : hasBlocking m.validate = false)
    {model : SemanticModel} (hmodel : model ∈ m.semanticModels) {e : String}
    (he : model.primaryEntityName? = some e) {d : Dimension} (hd : d ∈ model.dimensions) :
    parseTemplate m.customGranularityNames (addressTemplate (dimensionAddress e d.name)) =
        .ok (.ofDimension ⟨[e], d.name⟩) ↔
      d.name ∉ m.customGranularityNames := by
  have hnames := Manifest.hasValidNames_iff.2
    (Manifest.hasBlocking_validate_eq_false_iff.1 h).uniqueAndValidNames
  have hvalid := (hnames.elements model hmodel).primaryEntityName he
  have hvalid' := (hnames.elements model hmodel).dimension hd
  rw [parseTemplate_addressTemplate hvalid hvalid', ← hvalid'.namesGranularity_iff
    hnames.granularities]
  split_ifs with hgranularity
  · simp [hgranularity]
  · simp [hgranularity]

/-- A dimension is called by its address in a project with a custom granularity of another name. -/
theorem parseTemplate_addressTemplate_page :
    hasBlocking (Manifest.visitsBy "page").validate = false ∧
      parseTemplate ["martian_day"] (addressTemplate "visit__page") =
        .ok (.ofDimension ⟨["visit"], "page"⟩) := by
  have hvalid : hasBlocking (Manifest.visitsBy "page").validate = false := by decide +kernel
  have hcall := parseTemplate_addressTemplate_iff hvalid List.mem_cons_self
    (by decide +kernel : _ = some "visit") (List.mem_cons_of_mem _ List.mem_cons_self)
  have hcustom : (Manifest.visitsBy "page").customGranularityNames = ["martian_day"] := by
    decide +kernel
  rw [hcustom] at hcall
  exact ⟨hvalid, hcall.2 (by decide)⟩

/-- A valid manifest may have a dimension that no filter reaches by its address, since a custom
granularity has its name. -/
theorem parseTemplate_addressTemplate_martianDay :
    hasBlocking (Manifest.visitsBy "martian_day").validate = false ∧
      ∃ model ∈ (Manifest.visitsBy "martian_day").semanticModels,
        model.primaryEntityName? = some "visit" ∧
        "martian_day" ∈ model.dimensions.map (·.name) ∧
        parseTemplate (Manifest.visitsBy "martian_day").customGranularityNames
            (addressTemplate (dimensionAddress "visit" "martian_day")) =
          .error ⟨"\x7b\x7b Dimension('visit__martian_day') \x7d\x7d",
            .notOneLink "visit__martian_day"⟩ := by
  refine ⟨by decide +kernel, _, List.mem_cons_self, by decide +kernel, by decide +kernel, ?_⟩
  rw [parseTemplate_addressTemplate (by decide +kernel) (by decide +kernel),
    if_pos (by decide +kernel)]
  rfl

end Filter

end SemanticLayer
