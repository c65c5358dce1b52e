import SemanticLayer.Validation.Rules.Names
import SemanticLayer.Name.Keyword

/-!
# Rules about elements

What an element name means does not change from one semantic model to the next, a dimension is
addressed through one primary entity without ambiguity, and names can stand in a query.
-/

namespace SemanticLayer.Rules

/-- The kinds of elements in the order of their names. -/
def sortedElementKinds : List ElementKind := [.dimension, .entity, .measure]

/-- An element name means the same kind of element in every semantic model. -/
def consistentElements (m : Manifest) : List Issue :=
  let all := (distinctModels m).flatMap (·.elements)
  (distinctModels m).flatMap fun model => model.elements.flatMap fun (name, kind) =>
    let kinds := sortedElementKinds.filter fun k => all.contains (name, k)
    if kinds.length ≤ 1 then [] else
      [.error (Context.ofElement model name kind)
        (s!"In semantic model `{model.name}`, element `{name}` is of type {kind.name}, but it " ++
          "is used as types " ++ ", ".intercalate (kinds.map (·.name)) ++ " across the model.")]

/-- The ways in which a dimension differs from the first one of its name. -/
def dimensionConflicts (model : SemanticModel) (d : Dimension) (firstModel : SemanticModel)
    (first : Dimension) : List Issue :=
  let context := Context.ofElement model d.name .dimension
  (if first.kind = d.kind then [] else
    [.error context
      (s!"In semantic model `{model.name}`, type conflict for dimension `{d.name}` - already in " ++
        s!"semantic model `{firstModel.name}` as type `{first.kind.name}` but got " ++
        s!"`{d.kind.name}`")]) ++
  (if first.isPartition = d.isPartition then [] else
    [.error context
      (s!"In semantic model `{model.name}`, conflicting is_partition attribute for dimension " ++
        s!"`{d.name}` - already in semantic model `{firstModel.name}` with is_partition as " ++
        s!"`{first.isPartition}` but got `{d.isPartition}`")]) ++
  match first.granularity, d.granularity with
  | some known, some given =>
    if known = given then [] else
      [.error context
        (s!"In semantic model `{model.name}`, time granularity conflict for dimension " ++
          s!"`{d.name}` - already in semantic model `{firstModel.name}` with granularity " ++
          s!"`{known.name}` but got `{given.name}`")]
  | _, _ => []

/-- Dimensions of one name agree on kind, partitioning and granularity. -/
def consistentDimensions (m : Manifest) : List Issue :=
  let dimensions := (distinctModels m).flatMap fun model => model.dimensions.map (model, ·)
  (withEarlier (·.2.name) dimensions).flatMap fun ((model, d), earlier) =>
    match earlier with
    | []                       => []
    | (firstModel, first) :: _ => dimensionConflicts model d firstModel first

/-- A semantic model declares one primary entity in one way, and has one if it has dimensions. -/
def primaryEntities (m : Manifest) : List Issue :=
  m.semanticModels.flatMap fun model =>
    let context := Context.ofModel model
    let primaries := (model.entities.filter (·.kind == .primary)).map (·.name)
    (if primaries.length ≤ 1 then [] else
      [.error context
        (s!"Semantic model `{model.name}` has multiple primary entities (" ++
          ", ".intercalate primaries ++ "). Only one entity can be of type primary.")]) ++
    (match model.primaryEntity, primaries with
     | some explicit, typed :: _ =>
       if explicit = typed then [] else
         [.error context
           (s!"Semantic model `{model.name}` sets `primary_entity: {explicit}` but also has an " ++
             s!"entity of type primary (`{typed}`). Only one primary entity can be declared.")]
     | _, _ => []) ++
    (if model.dimensions.isEmpty || model.primaryEntityName?.isSome then [] else
      [.error context
        (s!"The semantic model '{model.name}' contains dimensions, but it does not define a " ++
          "primary entity.")])

/-- The dimensions that are addressed through a primary entity: the entity, the model and the
dimension. -/
def addressedDimensions (m : Manifest) : List (String × SemanticModel × Dimension) :=
  (distinctModels m).flatMap fun model =>
    match model.primaryEntityName? with
    | none         => []
    | some primary => model.dimensions.map (primary, model, ·)

/-- A primary entity and a dimension name together belong to one semantic model. -/
def uniqueDimensionAddresses (m : Manifest) : List Issue :=
  (withEarlier (fun (primary, _, d) => (primary, d.name)) (addressedDimensions m)).flatMap
    fun ((primary, model, d), earlier) =>
      match earlier with
      | []                => []
      | (_, owner, _) :: _ =>
        [.error (Context.ofElement model d.name .dimension)
          (s!"In semantic model `{model.name}`, dimension `{d.name}` with primary entity " ++
            s!"`{primary}` is already defined in semantic model `{owner.name}`. The reference " ++
            s!"`{primary}__{d.name}` would be ambiguous.")]

/-! ### Keywords -/

/-- The elements in the order in which their names are compared with the keywords. -/
def keywordCandidates (m : SemanticModel) : List (String × ElementKind × String) :=
  m.dimensions.map (fun d => (d.name, .dimension, "a dimension")) ++
  m.entities.map (fun e => (e.name, .entity, "an entity")) ++
  m.measures.map (fun e => (e.name, .measure, "a measure"))

/-- Names of elements and aliases of tables stand in queries, so they are no keywords. -/
def noReservedKeywords (m : Manifest) : List Issue :=
  m.semanticModels.flatMap fun model =>
    ((keywordCandidates model).flatMap fun (name, kind, noun) =>
      if isReservedKeyword name then
        [.error (Context.ofElement model name kind)
          (s!"'{name}' is an SQL reserved keyword, and thus cannot be used as {noun} 'name'.")]
      else []) ++
    (if isReservedKeyword model.nodeRelation.aliasName then
      [.error (Context.ofModel model)
        (s!"'{model.nodeRelation.aliasName}' is an SQL reserved keyword, and thus cannot be " ++
          "used as an alias for a semantic model.")]
    else [])

end SemanticLayer.Rules
