import SemanticLayer.Vocabulary.Time

/-!
# Call sets

What the calls of a template refer to, sorted by the kind of call. Within a kind the calls keep
their order, and repeated calls are kept.
-/

namespace SemanticLayer

/-- A call to a dimension: its entity path and its name. -/
structure DimensionCall where
  entityPath : List String
  dimension  : String
  deriving DecidableEq, Repr

/-- A call to a time dimension, with the granularity in lower case and the date part it asks for. -/
structure TimeDimensionCall where
  entityPath    : List String
  timeDimension : String
  granularity   : Option String
  datePart      : Option DatePart
  deriving DecidableEq, Repr

/-- A call to an entity. -/
structure EntityCall where
  entityPath : List String
  entity     : String
  deriving DecidableEq, Repr

/-- A call to a metric, with the names it is grouped by. -/
structure MetricCall where
  metric  : String
  groupBy : List String
  deriving DecidableEq, Repr

/-- The calls of a template. -/
structure CallSets where
  dimensions     : List DimensionCall
  timeDimensions : List TimeDimensionCall
  entities       : List EntityCall
  metrics        : List MetricCall
  deriving DecidableEq, Repr

namespace CallSets

/-- No calls. -/
def empty : CallSets := ⟨[], [], [], []⟩

/-- The calls of two templates, those of the first one before those of the second one. -/
def append (a b : CallSets) : CallSets :=
  ⟨a.dimensions ++ b.dimensions, a.timeDimensions ++ b.timeDimensions, a.entities ++ b.entities,
   a.metrics ++ b.metrics⟩

instance : Append CallSets := ⟨append⟩

/-- The number of calls. -/
def size (s : CallSets) : Nat :=
  s.dimensions.length + s.timeDimensions.length + s.entities.length + s.metrics.length

/-- There are no calls. -/
def isEmpty (s : CallSets) : Bool := s.size == 0

/-- The names of the elements that are called: entities, dimensions and time dimensions. -/
def elementNames (s : CallSets) : List String :=
  s.entities.map (·.entity) ++ s.dimensions.map (·.dimension) ++
    s.timeDimensions.map (·.timeDimension)

/-! ### One call -/

def ofDimension (c : DimensionCall) : CallSets := ⟨[c], [], [], []⟩

def ofTimeDimension (c : TimeDimensionCall) : CallSets := ⟨[], [c], [], []⟩

def ofEntity (c : EntityCall) : CallSets := ⟨[], [], [c], []⟩

def ofMetric (c : MetricCall) : CallSets := ⟨[], [], [], [c]⟩

/-! ### Laws -/

theorem append_def (a b : CallSets) : a ++ b =
    ⟨a.dimensions ++ b.dimensions, a.timeDimensions ++ b.timeDimensions, a.entities ++ b.entities,
     a.metrics ++ b.metrics⟩ := rfl

@[simp] theorem append_empty (a : CallSets) : a ++ empty = a := by
  simp [append_def, empty]

@[simp] theorem empty_append (a : CallSets) : empty ++ a = a := by
  simp [append_def, empty]

theorem append_assoc (a b c : CallSets) : a ++ b ++ c = a ++ (b ++ c) := by
  simp [append_def]

@[simp] theorem size_empty : empty.size = 0 := rfl

@[simp] theorem size_append (a b : CallSets) : (a ++ b).size = a.size + b.size := by
  simp [append_def, size]; omega

end CallSets

end SemanticLayer
