import SemanticLayer.Validation.Issue

/-!
# The written form of issues

An issue is read from a record and written as an object. What it is about is tagged with the kind
of the object.
-/

namespace SemanticLayer

namespace FileContext

def read : Reader FileContext :=
  .record "FileContext" (.mk
    <$> Fields.optional "file_name" .text
    <*> Fields.optional "line_number" .uint64)

def toDocument (c : FileContext) : Document :=
  .ofPresent [
    ("file_name", c.fileName.map .string),
    ("line_number", c.lineNumber.map .ofUInt64)]

end FileContext

namespace Subject

/-- The field that tells the kind of the object. -/
def tagField : String := "object_type"

/-- The kinds of objects. -/
def tags : List String := ["semantic_model", "semantic_model_element", "metric", "saved_query"]

/-- A reference to a semantic model. -/
def modelName : Reader String :=
  .record "SemanticModelReference" (Fields.required "semantic_model_name" .text)

/-- A reference to a metric. -/
def metricName : Reader String :=
  .record "MetricReference" (Fields.required "element_name" .text)

/-- A reference to a saved query. -/
def queryName : Reader String :=
  .record "SavedQueryReference" (Fields.required "saved_query_name" .text)

/-- The type name and the fields that belong to a tag. -/
def fieldsOf? : String → Option (String × Fields Subject)
  | "semantic_model" =>
    some ("SemanticModel", .semanticModel <$> Fields.required "semantic_model" modelName)
  | "semantic_model_element" =>
    some ("SemanticModelElement", .element
      <$> Fields.required "semantic_model" modelName
      <*> Fields.required "element_name" .text
      <*> Fields.required "element_type" (.word ElementKind))
  | "metric" =>
    some ("Metric", .metric <$> Fields.required "metric" metricName)
  | "saved_query" =>
    some ("SavedQuery", .savedQuery
      <$> Fields.required "saved_query" queryName
      <*> Fields.optional "element_type" (.word QueryPart)
      <*> Fields.optional "element_value" .text)
  | _ => none

/-- A number of elements. -/
def elementCount (n : Nat) : String := if n = 1 then "1 element" else s!"{n} elements"

/-- The fields that belong to the tag that a document is. -/
def readTag (tag : Document) : Except ReadFault (String × Fields Subject) :=
  match tag with
  | .string t =>
    match fieldsOf? t with
    | some fields => .ok fields
    | none        => .error (.unknownVariant t tags)
  | d         => .error (.invalidType d.found "variant identifier")

/-- Read an object that is tagged with its kind, or a list that starts with the tag. -/
def read : Reader Subject
  | .object fs =>
    match fs.lookup tagField with
    | none     => .error (.missingField tagField)
    | some tag =>
      match readTag tag with
      | .error e         => .error e
      | .ok (_, fields)  => Reader.objectOnly "" fields (.object fs)
  | .list []             => .error (.missingField tagField)
  | .list (tag :: items) =>
    match readTag tag with
    | .error e           => .error e
    | .ok (type, fields) =>
      let shape := s!"struct variant ContextObject::{type} with {elementCount fields.size}"
      match Reader.unplaced (fields.read (.list shape items) 0) with
      | .error e => .error e
      | .ok s    =>
        if fields.size < items.length then
          .error (.invalidLength items.length (elementCount fields.size ++ " in sequence"))
        else .ok s
  | d => .error (.invalidType d.found "internally tagged enum ContextObject")

/-- The object as a document. -/
def toDocument : Subject → Document
  | .semanticModel model => .object [
    (tagField, .string "semantic_model"),
    ("semantic_model", .object [("semantic_model_name", .string model)])]
  | .element model name kind => .object [
    (tagField, .string "semantic_model_element"),
    ("semantic_model", .object [("semantic_model_name", .string model)]),
    ("element_name", .string name),
    ("element_type", .ofWord kind)]
  | .metric name => .object [
    (tagField, .string "metric"),
    ("metric", .object [("element_name", .string name)])]
  | .savedQuery query part value => .ofPresent [
    (tagField, some (.string "saved_query")),
    ("saved_query", some (.object [("saved_query_name", .string query)])),
    ("element_type", part.map .ofWord),
    ("element_value", value.map .string)]

end Subject

namespace Context

def read : Reader Context :=
  .record "ValidationContext" (.mk
    <$> Fields.optional "file_context" FileContext.read
    <*> Fields.required "object" Subject.read)

def toDocument (c : Context) : Document :=
  .ofPresent [
    ("file_context", c.file.map (·.toDocument)),
    ("object", some c.subject.toDocument)]

end Context

namespace Issue

def read : Reader Issue :=
  .record "ValidationIssue" (.mk
    <$> Fields.required "level" (.word Severity)
    <*> Fields.required "message" .text
    <*> Fields.optional "context" Context.read
    <*> Fields.optional "extra_detail" .text)

def toDocument (i : Issue) : Document :=
  .ofPresent [
    ("level", some (.ofWord i.severity)),
    ("message", some (.string i.message)),
    ("context", i.context.map (·.toDocument)),
    ("extra_detail", i.extraDetail.map .string)]

end Issue

end SemanticLayer
