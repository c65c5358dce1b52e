import SemanticLayer.Filter.Token
import SemanticLayer.Name.Check

/-!
# Faults of a filter template

The reasons why a template, or a call in it, is not accepted, with their wording and their kind.
Places in a text are counted in bytes of its encoding.
-/

namespace SemanticLayer

/-- The kinds of faults. -/
inductive FilterFaultKind where
  | malformed | unboundIdentifier | incorrectFormat | invalidGranularity | invalidDatePart
  | reservedName | invalidArgument
  deriving DecidableEq, Repr

/-- The written name of a kind of fault. -/
def FilterFaultKind.name : FilterFaultKind → String
  | .malformed          => "syntax"
  | .unboundIdentifier  => "unbound_identifier"
  | .incorrectFormat    => "incorrect_format"
  | .invalidGranularity => "invalid_granularity"
  | .invalidDatePart    => "invalid_date_part"
  | .reservedName       => "reserved_name"
  | .invalidArgument    => "invalid_argument"

/-- A reason to reject a template. -/
inductive FilterFault where
  -- the markers and the tokens in them
  | unclosedMarker       (place : Nat)
  | unterminatedText     (place : Nat)
  | unexpectedCharacter  (c : Char) (place : Nat)
  -- the shape of the expression
  | emptyExpression
  | expectedCall         (found : Filter.Token)
  | expectedToken        (expected : Filter.Token) (found : Option Filter.Token)
  | expectedLiteral      (found : Option Filter.Token)
  | expectedSeparator    (found : Filter.Token)
  | expectedMethodName
  | unclosedArguments    (call : String)
  | unclosedList
  | trailingToken        (found : Filter.Token)
  | positionalAfterKeyword (call : String)
  | notCalled            (name : String)
  -- names without a meaning
  | unboundName          (name : String)
  | unboundArgument      (name : String)
  | unknownMethod        (call method : String)
  -- arguments
  | tooManyArguments     (call : String) (most given : Nat)
  | unexpectedKeyword    (call keyword : String)
  | repeatedArgument     (call keyword : String)
  | missingArgument      (call parameter : String)
  | wrongArgument        (call parameter expected found : String)
  | wrongListItem        (call parameter found : String)
  | noneArgument         (call parameter : String)
  | missingGroupBy
  -- element names
  | emptySegment         (name : String)
  | notOneLink           (name : String)
  | granularityOnDimension (name : String)
  | metricTimeAsDimension
  | dunderedMetricTime   (name : String)
  | dunderedEntity       (name : String)
  | emptyMetricName
  -- granularities and date parts
  | malformedGranularity (name : String)
  | differentGranularities (name explicit fromName : String)
  | unknownDatePart      (name : String)
  deriving DecidableEq, Repr

namespace FilterFault

/-- The kind of a fault. -/
def kind : FilterFault → FilterFaultKind
  | .unclosedMarker _ | .unterminatedText _ | .unexpectedCharacter _ _ | .emptyExpression
  | .expectedCall _ | .expectedToken _ _ | .expectedLiteral _ | .expectedSeparator _
  | .expectedMethodName | .unclosedArguments _ | .unclosedList | .trailingToken _
  | .positionalAfterKeyword _ | .notCalled _ => .malformed
  | .unboundName _ | .unboundArgument _ | .unknownMethod _ _ => .unboundIdentifier
  | .tooManyArguments _ _ _ | .unexpectedKeyword _ _ | .repeatedArgument _ _
  | .missingArgument _ _ | .wrongArgument _ _ _ _ | .wrongListItem _ _ _ | .noneArgument _ _
  | .missingGroupBy => .invalidArgument
  | .emptySegment _ | .notOneLink _ | .granularityOnDimension _ | .dunderedEntity _
  | .emptyMetricName => .incorrectFormat
  | .metricTimeAsDimension | .dunderedMetricTime _ => .reservedName
  | .malformedGranularity _ | .differentGranularities _ _ _ => .invalidGranularity
  | .unknownDatePart _ => .invalidDatePart

/-- The start of the wording of a fault in the format of a name. -/
def badFormat (name : String) : String := s!"Name is in an incorrect format: '{name}'. "

/-- What was found in place of a token. -/
def describeFound : Option Filter.Token → String
  | some t => t.describe
  | none   => "end of expression"

/-- The wording of a fault. -/
def cause : FilterFault → String
  | .unclosedMarker place => s!"unclosed `\x7b\x7b` starting at position {place}"
  | .unterminatedText place => s!"unterminated string literal at position {place}"
  | .unexpectedCharacter c place => s!"unexpected character '{c}' at position {place}"
  | .emptyExpression => "empty expression"
  | .expectedCall found => "expected a call, found " ++ found.describe
  | .expectedToken expected found =>
    "expected " ++ expected.describe ++ ", found " ++ describeFound found
  | .expectedLiteral found => "expected a literal argument, found " ++ describeFound found
  | .expectedSeparator found => "expected `,` or `)`, found " ++ found.describe
  | .expectedMethodName => "expected a method name after `.`"
  | .unclosedArguments call => s!"unclosed argument list for `{call}`"
  | .unclosedList => "unclosed list literal"
  | .trailingToken found => "unexpected " ++ found.describe ++ " after call expression"
  | .positionalAfterKeyword call => s!"positional argument follows keyword argument in `{call}`"
  | .notCalled name => s!"`{name}` must be called, e.g. `{name}('name')`"
  | .unboundName name =>
    s!"'{name}' is undefined; only Dimension, TimeDimension, Entity, Metric can be used in a " ++
      "template"
  | .unboundArgument name => s!"'{name}' is undefined; arguments must be literals"
  | .unknownMethod call method => s!"`{call}(...)` has no method `{method}`"
  | .tooManyArguments call most given =>
    s!"`{call}` takes at most {most} argument(s) but {given} were given"
  | .unexpectedKeyword call keyword =>
    s!"`{call}` got an unexpected keyword argument '{keyword}'"
  | .repeatedArgument call keyword => s!"`{call}` got multiple values for argument '{keyword}'"
  | .missingArgument call parameter =>
    s!"`{call}` is missing required argument '{parameter}'"
  | .wrongArgument call parameter expected found =>
    s!"argument '{parameter}' of `{call}` must be a {expected}, got {found}"
  | .wrongListItem call parameter found =>
    s!"argument '{parameter}' of `{call}` must be a list of strings, found {found}"
  | .noneArgument call parameter => s!"argument '{parameter}' of `{call}` must not be None"
  | .missingGroupBy =>
    "`group_by` parameter is required for Metric in where filter. This is needed to determine " ++
    "1) the granularity to aggregate the metric to and 2) how to join the metric to the rest " ++
    "of the query. Example: `Metric('metric_name', group_by=['entity'])`. For metric filters, " ++
    "`group_by` must be an entity."
  | .emptySegment name =>
    badFormat name ++ "The element name and any entity links before it must be non-empty."
  | .notOneLink name =>
    badFormat name ++ "It should be of the form: <primary entity name>__<dimension_name>"
  | .granularityOnDimension name =>
    badFormat name ++ "A granularity suffix is only allowed when referencing a time dimension " ++
      "with TimeDimension(...)"
  | .metricTimeAsDimension =>
    metricTimeName ++ " is a time dimension, so it should be referenced using " ++
      "TimeDimension(...) or Dimension(...).grain(...)"
  | .dunderedMetricTime name =>
    badFormat name ++ "When referencing " ++ metricTimeName ++ ", the name should not have any " ++
      "dunders (double underscores, or __)."
  | .dunderedEntity name =>
    badFormat name ++ "There should be no dunders (double underscores, or __) in the name."
  | .emptyMetricName => badFormat "" ++ "A metric name must be non-empty."
  | .malformedGranularity name => s!"Invalid time granularity name '{name}'"
  | .differentGranularities name explicit fromName =>
    s!"Received different grains in `time_dimension_name` parameter ('{name}') and " ++
      s!"`time_granularity_name` parameter ('{explicit}'). Remove the grain suffix " ++
      s!"(`{fromName}`) from the time dimension name and use the `time_granularity_name` " ++
      "parameter to specify the desired grain."
  | .unknownDatePart name =>
    s!"Invalid date part '{name}'. Valid date parts: " ++
      ", ".intercalate (Vocabulary.names DatePart)

end FilterFault

/-- A template that was rejected, and why. -/
structure FilterError where
  template : String
  fault    : FilterFault
  deriving DecidableEq, Repr

/-- The wording of the error. -/
def FilterError.message (e : FilterError) : String :=
  "Error parsing where filter template `" ++ e.template ++ "`: " ++ e.fault.cause

end SemanticLayer
