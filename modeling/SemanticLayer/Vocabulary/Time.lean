import SemanticLayer.Vocabulary.Basic

/-!
# Words for time

The standard granularities that time is grouped by, and the parts of a date that can be extracted.
A project may declare further granularities, which are carried by name.
-/

namespace SemanticLayer

/-- The standard granularities, finest first. -/
inductive Granularity where
  | nanosecond | microsecond | millisecond | second | minute | hour
  | day | week | month | quarter | year
  deriving DecidableEq, Repr

/-- The written name of a standard granularity. -/
def Granularity.name : Granularity → String
  | .nanosecond  => "nanosecond"
  | .microsecond => "microsecond"
  | .millisecond => "millisecond"
  | .second      => "second"
  | .minute      => "minute"
  | .hour        => "hour"
  | .day         => "day"
  | .week        => "week"
  | .month       => "month"
  | .quarter     => "quarter"
  | .year        => "year"

instance : Vocabulary Granularity where
  members := [.nanosecond, .microsecond, .millisecond, .second, .minute, .hour, .day, .week,
    .month, .quarter, .year]
  name := Granularity.name
  mem_members a := by cases a <;> decide
  name_injective a b := by cases a <;> cases b <;> decide

/-- The part of a date that a filter or a group-by extracts. -/
inductive DatePart where
  | year | quarter | month | day | dow | doy
  deriving DecidableEq, Repr

/-- The written name of a date part. -/
def DatePart.name : DatePart → String
  | .year    => "year"
  | .quarter => "quarter"
  | .month   => "month"
  | .day     => "day"
  | .dow     => "dow"
  | .doy     => "doy"

instance : Vocabulary DatePart where
  members := [.year, .quarter, .month, .day, .dow, .doy]
  name := DatePart.name
  mem_members a := by cases a <;> decide
  name_injective a b := by cases a <;> cases b <;> decide

end SemanticLayer
