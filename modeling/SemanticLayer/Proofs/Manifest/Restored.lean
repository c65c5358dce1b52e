import SemanticLayer.Manifest.Format.Manifest
import SemanticLayer.Proofs.Document.Reader

/-!
# Parts of a manifest are restored

Every part of a manifest is restored from the document that is written for it. The fields are given
in the order in which the record has them, with the way each one is read. The alternatives of an
input or a filter that stand in front of the written one do not accept what is written.
-/

namespace SemanticLayer

open Fields

/-! ### Filters -/

namespace FilterIntersection

lemma restores_template : Restores readTemplate templateDocument := by
  refine Restores.firstOf_cons (.firstOf ?_) fun _ => ⟨_, rfl⟩
  have hwrite (t : String) : templateDocument t =
      .ofPresent [("where_sql_template", some (.string t))] := rfl
  refine restores_of_mirrors (fun _ => rfl) (fun _ => ?_) hwrite (fun _ => by simp)
  exact mirrors_required restores_text

/-- Filters that are written are neither a template nor a list of templates. -/
lemma exists_readTemplate_error (f : FilterIntersection) :
    ∃ e, readTemplate f.toDocument = .error e := by
  refine ⟨.noAlternative "WhereFilterRepr", ?_⟩
  simp [readTemplate, toDocument, Reader.firstOf, Reader.text, Reader.objectOnly, required, field,
    find?, Reader.unplaced]

lemma restores : Restores read toDocument := by
  have hwrite (f : FilterIntersection) : f.toDocument =
      .ofPresent [("where_filters", some (.list (f.templates.map templateDocument)))] := rfl
  refine Restores.firstOf_cons (.firstOf_cons (.firstOf ?_) fun _ => ⟨_, rfl⟩) fun f => ?_
  · refine restores_of_mirrors (fun _ => rfl) (fun _ => ?_) hwrite (fun _ => by simp)
    exact (mirrors_required restores_template.list).map mk
  · obtain ⟨e, he⟩ := exists_readTemplate_error f
    exact ⟨e, by simp only [Reader.map, he]⟩

end FilterIntersection

/-! ### Origin -/

lemma FileSlice.restores : Restores read toDocument := by
  refine restores_of_mirrors (fun _ => rfl) (fun _ => ?_) (fun _ => rfl) (fun _ => by simp)
  exact (mirrors_required restores_text).map mk
    |>.seq (mirrors_filled restores_text)
    |>.seq (mirrors_required restores_uint64)
    |>.seq (mirrors_required restores_uint64)

lemma Metadata.restores : Restores read toDocument := by
  refine restores_of_mirrors (fun _ => rfl) (fun _ => ?_) (fun _ => rfl) (fun _ => by simp)
  exact (mirrors_required restores_text).map mk
    |>.seq (mirrors_required FileSlice.restores)

lemma NodeRelation.restores : Restores read toDocument := by
  refine restores_of_mirrors (fun _ => rfl) (fun _ => ?_) (fun _ => rfl) (fun _ => by simp)
  exact (mirrors_required restores_text).map mk
    |>.seq (mirrors_required restores_text)
    |>.seq (mirrors_optional restores_text)
    |>.seq (mirrors_optional restores_text)

/-! ### Semantic models -/

lemma Entity.restores : Restores read toDocument := by
  refine restores_of_mirrors (fun _ => rfl) (fun _ => ?_) (fun _ => rfl) (fun _ => by simp)
  exact (mirrors_required restores_text).map mk
    |>.seq (mirrors_required (restores_word EntityKind))
    |>.seq (mirrors_optional restores_text)
    |>.seq (mirrors_optional restores_text)
    |>.seq (mirrors_optional restores_text)
    |>.seq (mirrors_optional restores_text)

lemma ValidityParams.restores : Restores read toDocument := by
  refine restores_of_mirrors (fun _ => rfl) (fun _ => ?_) (fun _ => rfl) (fun _ => by simp)
  exact (mirrors_filled restores_bool).map mk
    |>.seq (mirrors_filled restores_bool)

lemma DimensionParams.restores : Restores read toDocument := by
  refine restores_of_mirrors (fun _ => rfl) (fun _ => ?_) (fun _ => rfl) (fun _ => by simp)
  exact (mirrors_optional (restores_word Granularity)).map mk
    |>.seq (mirrors_filled restores_bool)
    |>.seq (mirrors_optional ValidityParams.restores)

lemma Dimension.restores : Restores read toDocument := by
  refine restores_of_mirrors (fun _ => rfl) (fun _ => ?_) (fun _ => rfl) (fun _ => by simp)
  exact (mirrors_required restores_text).map mk
    |>.seq (mirrors_required (restores_word DimensionKind))
    |>.seq (mirrors_optional restores_text)
    |>.seq (mirrors_filled restores_bool)
    |>.seq (mirrors_optional DimensionParams.restores)
    |>.seq (mirrors_optional restores_text)
    |>.seq (mirrors_optional restores_text)

lemma AggregationParams.restores : Restores read toDocument := by
  refine restores_of_mirrors (fun _ => rfl) (fun _ => ?_) (fun _ => rfl) (fun _ => by simp)
  exact (mirrors_optional restores_number).map mk
    |>.seq (mirrors_filled restores_bool)
    |>.seq (mirrors_filled restores_bool)

lemma NonAdditiveDimension.restores : Restores read toDocument := by
  refine restores_of_mirrors (fun _ => rfl) (fun _ => ?_) (fun _ => rfl) (fun _ => by simp)
  exact (mirrors_required restores_text).map mk
    |>.seq (mirrors_filled (restores_word Aggregation))
    |>.seq (mirrors_filled restores_texts)

lemma Measure.restores : Restores read toDocument := by
  refine restores_of_mirrors (fun _ => rfl) (fun _ => ?_) (fun _ => rfl) (fun _ => by simp)
  exact (mirrors_required restores_text).map mk
    |>.seq (mirrors_required (restores_word Aggregation))
    |>.seq (mirrors_optional restores_text)
    |>.seq (mirrors_filled restores_bool)
    |>.seq (mirrors_optional restores_text)
    |>.seq (mirrors_optional AggregationParams.restores)
    |>.seq (mirrors_optional NonAdditiveDimension.restores)
    |>.seq (mirrors_optional restores_text)
    |>.seq (mirrors_optional restores_text)

lemma ModelDefaults.restores : Restores read toDocument := by
  refine restores_of_mirrors (fun _ => rfl) (fun _ => ?_) (fun _ => rfl) (fun _ => by simp)
  exact (mirrors_optional restores_text).map mk

lemma SemanticModel.restores : Restores read toDocument := by
  refine restores_of_mirrors (fun _ => rfl) (fun _ => ?_) (fun _ => rfl) (fun _ => by simp)
  exact (mirrors_required restores_text).map mk
    |>.seq (mirrors_optional restores_text)
    |>.seq (mirrors_optional restores_text)
    |>.seq (mirrors_required NodeRelation.restores)
    |>.seq (mirrors_optional ModelDefaults.restores)
    |>.seq (mirrors_optional restores_text)
    |>.seq (mirrors_filled Entity.restores.list)
    |>.seq (mirrors_filled Dimension.restores.list)
    |>.seq (mirrors_filled Measure.restores.list)
    |>.seq (mirrors_optional Metadata.restores)

/-! ### Metrics -/

lemma MeasureInput.restores : Restores read toDocument := by
  refine Restores.firstOf_cons (.firstOf ?_) fun _ => ⟨_, rfl⟩
  refine restores_of_mirrors (fun _ => rfl) (fun _ => ?_) (fun _ => rfl) (fun _ => by simp)
  exact (mirrors_required restores_text).map mk
    |>.seq (mirrors_optional FilterIntersection.restores)
    |>.seq (mirrors_optional restores_text)
    |>.seq (mirrors_filled restores_bool)
    |>.seq (mirrors_optional restores_int64)

lemma MetricInput.restores : Restores read toDocument := by
  refine Restores.firstOf_cons (.firstOf ?_) fun _ => ⟨_, rfl⟩
  refine restores_of_mirrors (fun _ => rfl) (fun _ => ?_) (fun _ => rfl) (fun _ => by simp)
  exact (mirrors_required restores_text).map mk
    |>.seq (mirrors_optional FilterIntersection.restores)
    |>.seq (mirrors_optional restores_text)
    |>.seq (mirrors_optional restores_text)
    |>.seq (mirrors_optional restores_text)

lemma ConstantProperty.restores : Restores read toDocument := by
  refine restores_of_mirrors (fun _ => rfl) (fun _ => ?_) (fun _ => rfl) (fun _ => by simp)
  exact (mirrors_required restores_text).map mk
    |>.seq (mirrors_required restores_text)

lemma ConversionParams.restores : Restores read toDocument := by
  refine restores_of_mirrors (fun _ => rfl) (fun _ => ?_) (fun _ => rfl) (fun _ => by simp)
  exact (mirrors_required MeasureInput.restores).map mk
    |>.seq (mirrors_required MeasureInput.restores)
    |>.seq (mirrors_required restores_text)
    |>.seq (mirrors_filled (restores_word ConversionCalculation))
    |>.seq (mirrors_optional restores_text)
    |>.seq (mirrors_optional ConstantProperty.restores.list)

lemma CumulativeParams.restores : Restores read toDocument := by
  refine restores_of_mirrors (fun _ => rfl) (fun _ => ?_) (fun _ => rfl) (fun _ => by simp)
  exact (mirrors_optional restores_text).map mk
    |>.seq (mirrors_optional restores_text)
    |>.seq (mirrors_filled (restores_word PeriodAggregation))

lemma MetricAggregation.restores : Restores read toDocument := by
  refine restores_of_mirrors (fun _ => rfl) (fun _ => ?_) (fun _ => rfl) (fun _ => by simp)
  exact (mirrors_required restores_text).map mk
    |>.seq (mirrors_required (restores_word Aggregation))
    |>.seq (mirrors_optional AggregationParams.restores)
    |>.seq (mirrors_optional restores_text)
    |>.seq (mirrors_optional NonAdditiveDimension.restores)

lemma MetricParams.restores : Restores read toDocument := by
  refine restores_of_mirrors (fun _ => rfl) (fun _ => ?_) (fun _ => rfl) (fun _ => by simp)
  exact (mirrors_optional MeasureInput.restores).map mk
    |>.seq (mirrors_optional MetricInput.restores)
    |>.seq (mirrors_optional MetricInput.restores)
    |>.seq (mirrors_optional restores_text)
    |>.seq (mirrors_optional restores_text)
    |>.seq (mirrors_optional restores_text)
    |>.seq (mirrors_optional MetricInput.restores.list)
    |>.seq (mirrors_optional ConversionParams.restores)
    |>.seq (mirrors_optional CumulativeParams.restores)
    |>.seq (mirrors_optional MetricAggregation.restores)

lemma Metric.restores : Restores read toDocument := by
  refine restores_of_mirrors (fun _ => rfl) (fun _ => ?_) (fun _ => rfl) (fun _ => by simp)
  exact (mirrors_required restores_text).map mk
    |>.seq (mirrors_required (restores_word MetricKind))
    |>.seq (mirrors_filled MetricParams.restores)
    |>.seq (mirrors_optional FilterIntersection.restores)
    |>.seq (mirrors_optional restores_text)
    |>.seq (mirrors_optional restores_text)
    |>.seq (mirrors_optional Metadata.restores)

/-! ### Saved queries and manifests -/

lemma QueryParams.restores : Restores read toDocument := by
  refine restores_of_mirrors (fun _ => rfl) (fun _ => ?_) (fun _ => rfl) (fun _ => by simp)
  exact (mirrors_filled restores_texts).map mk
    |>.seq (mirrors_filled restores_texts)
    |>.seq (mirrors_optional FilterIntersection.restores)
    |>.seq (mirrors_filled restores_texts)
    |>.seq (mirrors_optional restores_int64)

lemma ExportConfig.restores : Restores read toDocument := by
  refine restores_of_mirrors (fun _ => rfl) (fun _ => ?_) (fun _ => rfl) (fun _ => by simp)
  exact (mirrors_required (restores_word ExportKind)).map mk
    |>.seq (mirrors_optional restores_text)
    |>.seq (mirrors_optional restores_text)

lemma Export.restores : Restores read toDocument := by
  refine restores_of_mirrors (fun _ => rfl) (fun _ => ?_) (fun _ => rfl) (fun _ => by simp)
  exact (mirrors_required restores_text).map mk
    |>.seq (mirrors_required ExportConfig.restores)

lemma SavedQuery.restores : Restores read toDocument := by
  refine restores_of_mirrors (fun _ => rfl) (fun _ => ?_) (fun _ => rfl) (fun _ => by simp)
  exact (mirrors_required restores_text).map mk
    |>.seq (mirrors_filled QueryParams.restores)
    |>.seq (mirrors_optional restores_text)
    |>.seq (mirrors_optional restores_text)
    |>.seq (mirrors_filled Export.restores.list)
    |>.seq (mirrors_optional Metadata.restores)

lemma PrimaryColumn.restores : Restores read toDocument := by
  refine restores_of_mirrors (fun _ => rfl) (fun _ => ?_) (fun _ => rfl) (fun _ => by simp)
  exact (mirrors_required restores_text).map mk
    |>.seq (mirrors_required (restores_word Granularity))

lemma CustomGranularity.restores : Restores read toDocument := by
  refine restores_of_mirrors (fun _ => rfl) (fun _ => ?_) (fun _ => rfl) (fun _ => by simp)
  exact (mirrors_required restores_text).map mk
    |>.seq (mirrors_optional restores_text)

lemma TimeSpine.restores : Restores read toDocument := by
  refine restores_of_mirrors (fun _ => rfl) (fun _ => ?_) (fun _ => rfl) (fun _ => by simp)
  exact (mirrors_optional NodeRelation.restores).map mk
    |>.seq (mirrors_optional PrimaryColumn.restores)
    |>.seq (mirrors_filled CustomGranularity.restores.list)

lemma ProjectConfiguration.restores : Restores read toDocument := by
  refine restores_of_mirrors (fun _ => rfl) (fun _ => ?_) (fun _ => rfl) (fun _ => by simp)
  exact (mirrors_filled TimeSpine.restores.list).map mk

lemma Manifest.restores : Restores read toDocument := by
  refine restores_of_mirrors (fun _ => rfl) (fun _ => ?_) (fun _ => rfl) (fun _ => by simp)
  exact (mirrors_filled SemanticModel.restores.list).map mk
    |>.seq (mirrors_filled Metric.restores.list)
    |>.seq (mirrors_filled SavedQuery.restores.list)
    |>.seq (mirrors_filled ProjectConfiguration.restores)
    |>.seq (mirrors_filled restores_text)

end SemanticLayer
