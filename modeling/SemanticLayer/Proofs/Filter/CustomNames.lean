import Mathlib.Tactic.Common
import SemanticLayer.Filter.Template
import SemanticLayer.Window

/-!
# Custom granularities as a set

What a name, a window or a template says depends on which custom granularities a project declares,
and neither on their order nor on how often one is declared.
-/

namespace SemanticLayer

lemma any_congr_of_mem_iff {α : Type} {as bs : List α} (h : ∀ a, a ∈ as ↔ a ∈ bs)
    (p : α → Bool) : as.any p = bs.any p := by
  rw [Bool.eq_iff_iff, List.any_eq_true, List.any_eq_true]
  simp only [h]

section Names

variable {custom custom' : List String} (h : ∀ name, name ∈ custom ↔ name ∈ custom')
include h

lemma isKnownGranularity_congr : isKnownGranularity custom = isKnownGranularity custom' := by
  funext name
  simp only [isKnownGranularity, any_congr_of_mem_iff h]

lemma DunderedName.parse_congr : DunderedName.parse custom = DunderedName.parse custom' := by
  have hnames : namesGranularity custom = namesGranularity custom' := by
    funext segment
    simp only [namesGranularity, any_congr_of_mem_iff h]
  have hreversed : ofReversed custom = ofReversed custom' := by
    funext segments
    unfold ofReversed
    rw [hnames]
  funext name
  rw [parse, parse, hreversed]

lemma Window.parse_congr : Window.parse custom = Window.parse custom' := by
  have hread : readGranularity? custom = readGranularity? custom' := by
    funext word
    simp only [readGranularity?, isKnownGranularity_congr h]
  funext window
  unfold Window.parse
  rw [hread]

namespace Filter

lemma elementName_congr : elementName custom = elementName custom' := by
  funext name
  rw [elementName, elementName, DunderedName.parse_congr h]

lemma call_congr : Expression.call custom = Expression.call custom' := by
  have hdimension : dimensionCall custom = dimensionCall custom' := by
    funext name path
    rw [dimensionCall, dimensionCall, elementName_congr h]
  have htime : timeDimensionCall custom = timeDimensionCall custom' := by
    funext name explicit path part
    rw [timeDimensionCall, timeDimensionCall, elementName_congr h]
  have hentity : entityCall custom = entityCall custom' := by
    funext name path
    rw [entityCall, entityCall, elementName_congr h]
  funext e
  unfold Expression.call
  rw [hdimension, htime, hentity]

lemma parseTemplate_congr : parseTemplate custom = parseTemplate custom' := by
  have hcontent : contentCall custom = contentCall custom' := by
    funext content
    rw [contentCall, contentCall, call_congr h]
  have hcontents (contents : List (List Char)) :
      contentCalls custom contents = contentCalls custom' contents := by
    induction contents with
    | nil              => rfl
    | cons c contents ih => rw [contentCalls, contentCalls, hcontent, ih]
  funext template
  rw [parseTemplate, parseTemplate, templateCalls, templateCalls, funext hcontents]

lemma parseGroupBy_congr : parseGroupBy custom = parseGroupBy custom' := by
  funext item
  rw [parseGroupBy, parseGroupBy, parseTemplate_congr h]

end Filter

end Names

end SemanticLayer
