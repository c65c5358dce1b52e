import SemanticLayer.Filter.Binding
import SemanticLayer.Filter.CallSets
import SemanticLayer.Name.Dundered

/-!
# The meaning of a call

Every call expression denotes one call. A dimension with a granularity or a date part is a time
dimension. A dimension is addressed by exactly one entity link in front of its name, except for
metric time, which has none; an entity is addressed by its name alone.
-/

namespace SemanticLayer.Filter

/-! ### Element names -/

/-- The parts of an element name, none of which is empty. -/
def elementName (custom : List String) (name : String) : Except FilterFault DunderedName :=
  if (DunderedName.segments name).contains "" then .error (.emptySegment name)
  else .ok (DunderedName.parse custom name)

/-- The dimension call of a name and an entity path. -/
def dimensionCall (custom : List String) (name : String) (path : List String) :
    Except FilterFault DimensionCall := do
  let parts ← elementName custom name
  if parts.elementName == metricTimeName then .error .metricTimeAsDimension
  else if parts.entityLinks.length != 1 then .error (.notOneLink name)
  else if parts.granularity.isSome then .error (.granularityOnDimension name)
  else .ok ⟨path ++ parts.entityLinks, parts.elementName⟩

/-- A name that can stand for a granularity: a letter followed by letters, digits and
underscores. -/
def isGranularityArgument (name : String) : Bool :=
  match name.toList with
  | []      => false
  | c :: cs => c.isAlpha && cs.all isNameCharacter

/-- The links and the granularity in a time dimension's name fit together. -/
def checkTimeDimensionName (name : String) (parts : DunderedName) : Except FilterFault Unit :=
  if parts.elementName == metricTimeName then
    if !parts.entityLinks.isEmpty || parts.granularity.isSome then .error (.dunderedMetricTime name)
    else .ok ()
  else if parts.entityLinks.length != 1 then .error (.notOneLink name)
  else .ok ()

/-- The granularity given apart from the name is well formed and agrees with the one in the
name. -/
def checkGranularities (name : String) (fromName explicit : Option String) :
    Except FilterFault Unit :=
  match explicit with
  | none   => .ok ()
  | some g =>
    if !isGranularityArgument g then .error (.malformedGranularity g)
    else match fromName with
      | none   => .ok ()
      | some f =>
        if Text.eqIgnoringAsciiCase f g then .ok () else .error (.differentGranularities name g f)

/-- The date part of that name, in any case. -/
def datePart (name : Option String) : Except FilterFault (Option DatePart) :=
  match name with
  | none   => .ok none
  | some s =>
    match Vocabulary.ofName? (Text.lower s) with
    | some part => .ok (some part)
    | none      => .error (.unknownDatePart s)

/-- The time dimension call of a name, a granularity, an entity path and a date part. -/
def timeDimensionCall (custom : List String) (name : String) (explicit : Option String)
    (path : List String) (part : Option String) : Except FilterFault TimeDimensionCall := do
  let parts ← elementName custom name
  checkTimeDimensionName name parts
  checkGranularities name parts.granularity explicit
  let part ← datePart part
  .ok ⟨path ++ parts.entityLinks, parts.elementName,
    (parts.granularity.or explicit).map Text.lower, part⟩

/-- The entity call of a name and an entity path. -/
def entityCall (custom : List String) (name : String) (path : List String) :
    Except FilterFault EntityCall := do
  let parts ← elementName custom name
  if !parts.entityLinks.isEmpty || parts.granularity.isSome then .error (.dunderedEntity name)
  else .ok ⟨path, parts.elementName⟩

/-- The metric call of a name and the names it is grouped by. -/
def metricCall (name : String) (groupBy : List String) : Except FilterFault MetricCall :=
  if name == "" then .error .emptyMetricName
  else if groupBy.isEmpty then .error .missingGroupBy
  else .ok ⟨name, groupBy⟩

/-! ### Methods -/

/-- A method `descending`, which leaves the call as it is. -/
def checkDescending (method : Call) : Except FilterFault Unit := do
  let b ← bindArguments method.name "descending" [] method.arguments
  let _ ← b.bool? "descending"
  .ok ()

/-- All methods are `descending`. -/
def checkDescendingOnly (callee : Callee) : List Call → Except FilterFault Unit
  | []      => .ok ()
  | m :: ms =>
    if m.name != "descending" then .error (.unknownMethod callee.name m.name)
    else do
      checkDescending m
      checkDescendingOnly callee ms

/-- The granularity and the date part that the methods of a dimension set. The last one of a kind
counts. -/
def dimensionMethods (granularity part : Option String) :
    List Call → Except FilterFault (Option String × Option String)
  | []      => .ok (granularity, part)
  | m :: ms =>
    match m.name with
    | "grain" => do
      let b ← bindArguments m.name "time_granularity_name" [] m.arguments
      let g ← b.text "time_granularity_name"
      dimensionMethods (some g) part ms
    | "date_part" => do
      let b ← bindArguments m.name "date_part_name" [] m.arguments
      let p ← b.text "date_part_name"
      dimensionMethods granularity (some p) ms
    | "descending" => do
      checkDescending m
      dimensionMethods granularity part ms
    | other => .error (.unknownMethod Callee.dimension.name other)

/-! ### Expressions -/

/-- The call that an expression denotes. -/
def Expression.call (custom : List String) (e : Expression) : Except FilterFault CallSets := do
  match e.callee with
  | .dimension =>
    let b ← bindArguments e.callee.name "name" ["entity_path"] e.arguments
    let name ← b.text "name"
    let path ← b.texts "entity_path"
    let (granularity, part) ← dimensionMethods none none e.methods
    if granularity.isSome || part.isSome then
      .ofTimeDimension <$> timeDimensionCall custom name granularity path part
    else
      .ofDimension <$> dimensionCall custom name path
  | .timeDimension =>
    let b ← bindArguments e.callee.name "time_dimension_name"
      ["time_granularity_name", "entity_path", "descending", "date_part_name"] e.arguments
    let name ← b.text "time_dimension_name"
    let granularity ← b.text? "time_granularity_name"
    let path ← b.texts "entity_path"
    let _ ← b.bool? "descending"
    let part ← b.text? "date_part_name"
    checkDescendingOnly e.callee e.methods
    .ofTimeDimension <$> timeDimensionCall custom name granularity path part
  | .entity =>
    let b ← bindArguments e.callee.name "entity_name" ["entity_path"] e.arguments
    let name ← b.text "entity_name"
    let path ← b.texts "entity_path"
    checkDescendingOnly e.callee e.methods
    .ofEntity <$> entityCall custom name path
  | .metric =>
    let b ← bindArguments e.callee.name "metric_name" ["group_by"] e.arguments
    let name ← b.text "metric_name"
    let groupBy ← b.texts "group_by"
    checkDescendingOnly e.callee e.methods
    .ofMetric <$> metricCall name groupBy

end SemanticLayer.Filter
