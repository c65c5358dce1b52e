import SemanticLayer.Filter.Template
import SemanticLayer.Validation.Earlier
import SemanticLayer.Validation.Issue

/-!
# Rules about saved queries

A saved query asks for metrics and elements that exist, orders by what it asks for, and exports to
places with different names.
-/

namespace SemanticLayer.Rules

/-! ### Known elements -/

/-- The names that a query can group or filter by. -/
structure KnownElements where
  entities       : List String
  dimensions     : List String
  timeDimensions : List String

namespace KnownElements

/-- The elements of a manifest. Metric time is always known. -/
def ofManifest (m : Manifest) : KnownElements where
  entities       := m.semanticModels.flatMap fun model => model.entities.map (·.name)
  dimensions     := m.semanticModels.flatMap fun model => model.dimensions.map (·.name)
  timeDimensions := metricTimeName :: m.semanticModels.flatMap fun model =>
    (model.dimensions.filter (·.kind == .time)).map (·.name)

/-- The called names that are no elements of the kind that is called. -/
def unknownNames (known : KnownElements) (calls : CallSets) : List String :=
  (calls.dimensions.map (·.dimension)).filter (!known.dimensions.contains ·) ++
  (calls.timeDimensions.map (·.timeDimension)).filter (!known.timeDimensions.contains ·) ++
  (calls.entities.map (·.entity)).filter (!known.entities.contains ·)

end KnownElements

/-! ### Order-by items -/

/-- The characters behind a word that `cs` starts with. -/
def dropWord? (word : List Char) (cs : List Char) : Option (List Char) :=
  if word.isPrefixOf cs then some (cs.drop word.length) else none

/-- The characters behind a truth value, if `cs` starts with one. -/
def dropTruthValue (cs : List Char) : List Char :=
  (["True", "False", "true", "false"].findSome? fun word => dropWord? word.toList cs).getD cs

/-- The characters are a call of the method `descending` and nothing else. -/
def isDescending (cs : List Char) : Bool :=
  let rest := do
    let cs ← dropWord? ['.'] (Text.trimStart cs)
    let cs ← dropWord? "descending".toList (Text.trimStart cs)
    let cs ← dropWord? ['('] (Text.trimStart cs)
    dropWord? [')'] (Text.trimStart (dropTruthValue (Text.trimStart cs)))
  match rest with
  | some cs => cs.all Text.isBlank
  | none    => false

/-- The characters without a call of the method `descending` at their end. -/
def stripDescending : List Char → List Char
  | []      => []
  | c :: cs => if isDescending (c :: cs) then [] else c :: stripDescending cs

/-- The name in an item that is a call of a metric with nothing but its name. -/
def metricOrder? (cs : List Char) : Option String := do
  let cs ← dropWord? "Metric".toList (Text.trimStart cs)
  let cs ← dropWord? ['('] (Text.trimStart cs)
  match Text.trimStart cs with
  | []           => none
  | quote :: cs  =>
    let name := cs.takeWhile (!Filter.isQuote ·)
    match cs.dropWhile (!Filter.isQuote ·) with
    | []       => none
    | _ :: cs  =>
      let cs ← dropWord? [')'] (Text.trimStart cs)
      if Filter.isQuote quote && !name.isEmpty && cs.all Text.isBlank then
        some (String.ofList name)
      else none

/-- The name in an item that is a bare name. -/
def bareOrder? (cs : List Char) : Option String :=
  let name := String.ofList (Text.trimEnd (Text.trimStart cs))
  if isGranularityIdentifier name then some name else none

/-- The metric that an order-by item names. -/
def orderedMetric? (cs : List Char) : Option String := (metricOrder? cs).or (bareOrder? cs)

/-- The item orders by one of the query's metrics or by one of the items that it is grouped by. -/
def ordersBySelected (custom : List String) (metrics : List String) (groupBy : List CallSets)
    (item : String) : Bool :=
  let stripped := stripDescending item.toList
  match orderedMetric? stripped with
  | some name => metrics.contains name
  | none      =>
    match Filter.parseGroupBy custom (String.ofList stripped) with
    | .ok calls => groupBy.contains calls
    | .error _  => false

/-! ### Parts of a query -/

/-- The metrics of a query exist. -/
def queryMetricIssues (m : Manifest) (q : SavedQuery) : List Issue :=
  q.params.metrics.flatMap fun metric =>
    if (m.metric? metric).isSome then [] else
      [.error (Context.ofQueryPart q .metric metric) s!"`{metric}` is not a valid metric name."]

/-- The calls denote one element that exists, and no metric. -/
def isGroupable (known : KnownElements) (calls : CallSets) : Bool :=
  calls.size == 1 && calls.metrics.isEmpty && (known.unknownNames calls).isEmpty

/-- What a group-by item denotes, if it denotes one element that exists. -/
def groupByCalls? (known : KnownElements) (custom : List String) (item : String) :
    Option CallSets :=
  match Filter.parseGroupBy custom item with
  | .ok calls => if isGroupable known calls then some calls else none
  | .error _  => none

/-- The issues with a group-by item. -/
def groupByIssues (known : KnownElements) (custom : List String) (q : SavedQuery) (item : String) :
    List Issue :=
  let context := Context.ofQueryPart q .groupBy item
  match Filter.parseGroupBy custom item with
  | .error e  =>
    [.interrupted s!"trying to parse a group-by in saved query `{q.name}`" e.message context]
  | .ok calls =>
    if !isGroupable known calls then
      [.error context s!"`{item}` is not a valid group-by name."]
    else
      calls.timeDimensions.flatMap fun call =>
        match call.granularity with
        | none   => []
        | some g =>
          if isKnownGranularity custom g then [] else
            [.error context
              (s!"`{g}` is not a valid granularity name in group-by `{item}` of saved query " ++
                s!"`{q.name}`.")]

/-- The issues with a template of the filter of a query. -/
def queryTemplateIssues (m : Manifest) (known : KnownElements) (custom : List String)
    (q : SavedQuery) (template : String) : List Issue :=
  let context := Context.ofQueryPart q .filter template
  match Filter.parseTemplate custom template with
  | .error e  =>
    [.interrupted s!"trying to parse the where filter in saved query `{q.name}`" e.message context]
  | .ok calls =>
    ((known.unknownNames calls).map fun name =>
      .error context
        (s!"`{name}` referenced in the where filter of saved query `{q.name}` is not a valid " ++
          "element name.")) ++
    calls.metrics.flatMap fun call =>
      if (m.metric? call.metric).isSome then [] else
        [.error context
          (s!"`{call.metric}` referenced in the where filter of saved query `{q.name}` is not a " ++
            "valid metric name.")]

/-- The templates in the filter of a query. -/
def queryTemplates (q : SavedQuery) : List String :=
  match q.params.filter with
  | none   => []
  | some f => f.templates

/-- The issues with the order of a query. -/
def orderByIssues (known : KnownElements) (custom : List String) (q : SavedQuery) : List Issue :=
  let groupBy := q.params.groupBy.filterMap (groupByCalls? known custom)
  q.params.orderBy.flatMap fun item =>
    if ordersBySelected custom q.params.metrics groupBy item then [] else
      [.error (Context.ofQueryPart q .orderBy item)
        (s!"Order by item `{item}` in saved query `{q.name}` is not one of the query's metrics " ++
          "or group-by items.")]

/-- The issue with a negative limit. -/
def limitIssues (q : SavedQuery) : List Issue :=
  match q.params.limit with
  | none   => []
  | some n =>
    if 0 ≤ n.toInt then [] else
      [.error (Context.ofQueryPart q .limit (toString n.toInt))
        (s!"Saved query `{q.name}` has a negative limit ({n.toInt}). The limit must be " ++
          "non-negative.")]

/-- The issues with exports that share a name. -/
def exportIssues (q : SavedQuery) : List Issue :=
  (withEarlier Export.name q.exports).flatMap fun (target, earlier) =>
    if earlier.isEmpty then [] else
      [.error (Context.ofQueryPart q .exportTarget target.name)
        (s!"Export name `{target.name}` is used more than once in saved query `{q.name}`.")]

/-- The issues with a saved query. -/
def savedQueryIssues (m : Manifest) (q : SavedQuery) : List Issue :=
  let custom := m.customGranularityNames
  let known := KnownElements.ofManifest m
  queryMetricIssues m q ++
  q.params.groupBy.flatMap (groupByIssues known custom q) ++
  (queryTemplates q).flatMap (queryTemplateIssues m known custom q) ++
  orderByIssues known custom q ++
  limitIssues q ++
  exportIssues q

/-- Saved queries ask for what exists, order by what they ask for, and have exports of different
names. -/
def savedQueries (m : Manifest) : List Issue := m.savedQueries.flatMap (savedQueryIssues m)

end SemanticLayer.Rules
