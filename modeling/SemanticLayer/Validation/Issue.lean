import SemanticLayer.Manifest.Format.Manifest

/-!
# Issues

An issue is what a rule finds in a manifest: a message with a level and, where it is known, the
object it is about and the place that object was read from. Only errors block a manifest.
-/

namespace SemanticLayer

/-! ### Context -/

/-- The place in the files of a project that an object was read from. -/
structure FileContext where
  fileName   : Option String
  lineNumber : Option UInt64
  deriving DecidableEq

namespace FileContext

/-- The place that an object's metadata tells. -/
def ofMetadata (m : Metadata) : FileContext :=
  ⟨some m.fileSlice.filename, some m.fileSlice.startLine⟩

/-- The place as a phrase. -/
def describe : FileContext → String
  | ⟨some file, some line⟩ => s!"in file `{file}` on line #{line.toNat}"
  | ⟨some file, none⟩      => s!"in file `{file}`"
  | ⟨none,      some line⟩ => s!"on line #{line.toNat}"
  | ⟨none,      none⟩      => ""

end FileContext

/-- The object that an issue is about. -/
inductive Subject where
  | semanticModel (model : String)
  | element       (model element : String) (kind : ElementKind)
  | metric        (metric : String)
  | savedQuery    (query : String) (part : Option QueryPart) (value : Option String)
  deriving DecidableEq

/-- The object as a phrase. -/
def Subject.describe : Subject → String
  | .semanticModel model        => s!"with semantic model `{model}`"
  | .element model name kind    => s!"with {kind.name} `{name}` in semantic model `{model}`"
  | .metric name                => s!"with metric `{name}`"
  | .savedQuery query (some part) (some value) =>
    s!"with saved query `{query}` ({part.name} `{value}`)"
  | .savedQuery query _ _       => s!"with saved query `{query}`"

/-- Where an issue belongs. -/
structure Context where
  file    : Option FileContext
  subject : Subject
  deriving DecidableEq

namespace Context

/-- The context as a phrase. -/
def describe (c : Context) : String :=
  match c.file with
  | some file => c.subject.describe ++ " " ++ file.describe
  | none      => c.subject.describe

/-- A semantic model. -/
def ofModel (m : SemanticModel) : Context :=
  ⟨m.metadata.map .ofMetadata, .semanticModel m.name⟩

/-- An element of a semantic model. -/
def ofElement (m : SemanticModel) (element : String) (kind : ElementKind) : Context :=
  ⟨m.metadata.map .ofMetadata, .element m.name element kind⟩

/-- A metric. -/
def ofMetric (m : Metric) : Context := ⟨m.metadata.map .ofMetadata, .metric m.name⟩

/-- A saved query. -/
def ofQuery (q : SavedQuery) : Context := ⟨q.metadata.map .ofMetadata, .savedQuery q.name none none⟩

/-- A part of a saved query. -/
def ofQueryPart (q : SavedQuery) (part : QueryPart) (value : String) : Context :=
  ⟨q.metadata.map .ofMetadata, .savedQuery q.name (some part) (some value)⟩

end Context

/-! ### Issues -/

/-- The level as a word in front of a message. -/
def Severity.title : Severity → String
  | .error       => "ERROR"
  | .warning     => "WARNING"
  | .futureError => "FUTURE_ERROR"

/-- Something that a rule found. -/
structure Issue where
  severity    : Severity
  message     : String
  context     : Option Context
  extraDetail : Option String
  deriving DecidableEq

namespace Issue

/-- An error in a context. -/
def error (context : Option Context) (message : String) : Issue := ⟨.error, message, context, none⟩

/-- A warning in a context. -/
def warning (context : Option Context) (message : String) : Issue :=
  ⟨.warning, message, context, none⟩

/-- An error of a later version, in a context. -/
def futureError (context : Option Context) (message : String) : Issue :=
  ⟨.futureError, message, context, none⟩

/-- The error for a check that was interrupted. -/
def interrupted (activity cause : String) (context : Option Context) : Issue :=
  error context s!"An error occurred while {activity} - {cause}"

/-- The issue with a longer explanation. -/
def withDetail (detail : String) (i : Issue) : Issue := { i with extraDetail := some detail }

/-- The issue blocks the manifest. -/
def isBlocking (i : Issue) : Bool := i.severity == .error

/-- The issue on one line. -/
def describe (i : Issue) : String :=
  match i.context with
  | some c => i.severity.title ++ ": " ++ c.describe ++ " - " ++ i.message
  | none   => i.severity.title ++ ": " ++ i.message

end Issue

/-! ### Results -/

namespace Issues

/-- The issues of a level. -/
def atLevel (level : Severity) (issues : List Issue) : List Issue :=
  issues.filter (·.severity == level)

/-- One of the issues blocks the manifest. -/
def hasBlocking (issues : List Issue) : Bool := issues.any (·.isBlocking)

/-- An issue as an item of a list. -/
def bullet (i : Issue) : String := "  • " ++ i.describe

/-- The issues, one on a line. -/
def summary (issues : List Issue) : String := "\n".intercalate (issues.map bullet)

/-- The text of the failure that the errors among the issues are. -/
def failureText (issues : List Issue) : String :=
  let errors := atLevel .error issues
  s!"semantic manifest validation found {errors.length} blocking issue(s):" ++
    String.join (errors.map fun i => "\n" ++ bullet i)

end Issues

end SemanticLayer
