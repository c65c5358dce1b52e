import SemanticLayer.Validation.Earlier
import SemanticLayer.Validation.Issue
import SemanticLayer.Name.Check

/-!
# Rules about names and labels

A manifest is not empty, its names are valid and unique, a measure belongs to one semantic model,
and labels are unique where they are shown together.
-/

namespace SemanticLayer.Rules

/-! ### Contents -/

/-- A manifest has at least one semantic model, and at least one metric or a measure that asks for
one. -/
def nonEmpty (m : Manifest) : List Issue :=
  (if m.semanticModels.isEmpty then
    [.error none "No semantic models present in the model."] else []) ++
  (if m.metrics.isEmpty &&
      !(m.semanticModels.any fun model => model.measures.any (·.createMetric)) then
    [.error none "No metrics present in the model."] else [])

/-! ### Names -/

/-- The faults of a name as issues. -/
def nameIssues (context : Option Context) (name : String) : List Issue :=
  (nameFaults name).map fun f => .error context (f.message name)

/-- The issues with the name of a top-level object, given whether an object of its kind had the
name before. -/
def objectNameIssues (kind : String) (context : Context) (name : String) (taken : Bool) :
    List Issue :=
  nameIssues context name ++
    (if taken then
      [.error context
        s!"Can't use name `{name}` for a {kind} when it was already used for a {kind}"]
    else [])

/-- The issues with the names of the elements of a semantic model. -/
def elementNameIssues (model : SemanticModel) : List Issue :=
  (withEarlier Prod.fst model.elements).flatMap fun ((name, kind), earlier) =>
    let context := Context.ofElement model name kind
    nameIssues context name ++
      match earlier with
      | []              => []
      | (_, first) :: _ =>
        [.error context
          (s!"In semantic model `{model.name}`, can't use name `{name}` for a {kind.name} when " ++
            s!"it was already used for a {first.name}")]

/-- The issues with the name of the primary entity that a semantic model declares. -/
def primaryEntityNameIssues (model : SemanticModel) : List Issue :=
  model.primaryEntity.toList.flatMap (nameIssues (some (.ofModel model)))

/-- The issues with the names of custom granularities. -/
def customGranularityIssues (m : Manifest) : List Issue :=
  (withEarlier (Text.lower ·.name) m.customGranularities).flatMap fun (g, earlier) =>
    let name := Text.lower g.name
    (if isGranularityIdentifier name then [] else
      [.error none
        (s!"Invalid custom granularity name `{g.name}` - names may only contain letters, " ++
          "numbers, and underscores, and must start with a letter.")]) ++
    (if (Vocabulary.ofName? (α := Granularity) name).isNone then [] else
      [.error none
        (s!"Custom granularity `{g.name}` can't use the name of a standard time granularity (" ++
          ", ".intercalate (Vocabulary.names Granularity) ++ ")")]) ++
    (if earlier.isEmpty then [] else
      [.error none
        s!"Custom granularity `{g.name}` is defined more than once across time spines"])

/-- Names are valid and unique: those of top-level objects among their kind, those of elements in
their semantic model, those of custom granularities in the project. -/
def uniqueAndValidNames (m : Manifest) : List Issue :=
  ((withEarlier SemanticModel.name m.semanticModels).flatMap fun (model, earlier) =>
    objectNameIssues "semantic model" (.ofModel model) model.name (!earlier.isEmpty) ++
      elementNameIssues model ++ primaryEntityNameIssues model) ++
  ((withEarlier Metric.name m.metrics).flatMap fun (metric, earlier) =>
    objectNameIssues "metric" (.ofMetric metric) metric.name (!earlier.isEmpty)) ++
  ((withEarlier SavedQuery.name m.savedQueries).flatMap fun (query, earlier) =>
    objectNameIssues "saved query" (.ofQuery query) query.name (!earlier.isEmpty)) ++
  customGranularityIssues m

/-- The semantic models, leaving out those whose name an earlier one has. -/
def distinctModels (m : Manifest) : List SemanticModel :=
  firstByKey SemanticModel.name m.semanticModels

/-- A measure name belongs to one semantic model. -/
def uniqueMeasures (m : Manifest) : List Issue :=
  let measures := (distinctModels m).flatMap fun model => model.measures.map (model, ·)
  (withEarlier (·.2.name) measures).flatMap fun ((model, measure), earlier) =>
    if earlier.isEmpty then [] else
      [.error (Context.ofElement model measure.name .measure)
        (s!"Found measure with name {measure.name} in multiple semantic models with names (" ++
          ", ".intercalate (earlier.map (·.1.name)) ++ ")")]

/-! ### Labels -/

/-- The elements of a semantic model that have a label: label, name and kind. -/
def labelledElements (m : SemanticModel) : List (String × String × ElementKind) :=
  (m.entities.filterMap fun e => e.label.map (·, e.name, .entity)) ++
  (m.dimensions.filterMap fun d => d.label.map (·, d.name, .dimension)) ++
  (m.measures.filterMap fun e => e.label.map (·, e.name, .measure))

/-- The issue with the label of a semantic model, given the earlier models with the same label. -/
def modelLabelIssues (model : SemanticModel) (earlier : List SemanticModel) : List Issue :=
  match model.label, earlier with
  | some label, first :: _ =>
    [.error (Context.ofModel model)
      (s!"Semantic model label `{label}` is used by multiple semantic models: `{first.name}` " ++
        s!"and `{model.name}`")]
  | _, _ => []

/-- The issues with the labels of the elements of a semantic model. -/
def elementLabelIssues (model : SemanticModel) : List Issue :=
  (withEarlier Prod.fst (labelledElements model)).flatMap fun ((label, name, kind), earlier) =>
    match earlier with
    | []                 => []
    | (_, first, _) :: _ =>
      [.error (Context.ofElement model name kind)
        (s!"In semantic model `{model.name}`, label `{label}` is used by both `{first}` and " ++
          s!"`{name}`")]

/-- Labels of semantic models are unique in the manifest, and labels of elements are unique in
their semantic model. -/
def uniqueModelLabels (m : Manifest) : List Issue :=
  (withEarlier SemanticModel.label (distinctModels m)).flatMap fun (model, earlier) =>
    modelLabelIssues model earlier ++ elementLabelIssues model

/-- Labels of metrics are unique. -/
def uniqueMetricLabels (m : Manifest) : List Issue :=
  (withEarlier Metric.label (firstByKey Metric.name m.metrics)).flatMap fun (metric, earlier) =>
    match metric.label, earlier with
    | some label, first :: _ =>
      [.error (Context.ofMetric metric)
        (s!"Cannot use label `{label}` for metric `{metric.name}` as it's already used by " ++
          s!"metric `{first.name}`")]
    | _, _ => []

end SemanticLayer.Rules
