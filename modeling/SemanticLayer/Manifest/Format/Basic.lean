import SemanticLayer.Document.Reader
import SemanticLayer.Manifest.Metric

/-!
# Writing parts of a manifest

The values that several parts of a manifest have in common, as documents.
-/

namespace SemanticLayer

namespace Document

/-- A member of a vocabulary, written by its name. -/
def ofWord {α : Type} [Vocabulary α] (a : α) : Document := .string (Vocabulary.name a)

/-- A list of texts. -/
def ofTexts (ss : List String) : Document := .list (ss.map .string)

/-- A signed 64-bit integer. -/
def ofInt64 (n : Int64) : Document := .int n.toInt

/-- An unsigned 64-bit integer. -/
def ofUInt64 (n : UInt64) : Document := .int n.toNat

end Document

/-! ### Filters -/

namespace FilterIntersection

/-- Read one filter: its template, or an object that holds it. -/
def readTemplate : Reader String :=
  .firstOf "WhereFilterRepr" [
    .text,
    .objectOnly "struct variant" (Fields.required "where_sql_template" .text)]

/-- Read filters: a single one, a list of them, or an object that holds such a list. -/
def read : Reader FilterIntersection :=
  .firstOf "WhereFilterIntersectionRepr" [
    .map (fun t => ⟨[t]⟩) readTemplate,
    .map .mk (.list readTemplate),
    .objectOnly "struct variant" (.mk <$> Fields.required "where_filters" (.list readTemplate))]

/-- One filter as a document. -/
def templateDocument (t : String) : Document := .object [("where_sql_template", .string t)]

/-- Filters as a document. -/
def toDocument (f : FilterIntersection) : Document :=
  .object [("where_filters", .list (f.templates.map templateDocument))]

end FilterIntersection

/-! ### Origin -/

namespace FileSlice

def read : Reader FileSlice :=
  .record "FileSlice" (.mk
    <$> Fields.required "filename" .text
    <*> Fields.filled "content" "" .text
    <*> Fields.required "start_line_number" .uint64
    <*> Fields.required "end_line_number" .uint64)

def toDocument (s : FileSlice) : Document :=
  .ofPresent [
    ("filename", some (.string s.filename)),
    ("content", some (.string s.content)),
    ("start_line_number", some (.ofUInt64 s.startLine)),
    ("end_line_number", some (.ofUInt64 s.endLine))]

end FileSlice

namespace Metadata

def read : Reader Metadata :=
  .record "Metadata" (.mk
    <$> Fields.required "repo_file_path" .text
    <*> Fields.required "file_slice" FileSlice.read)

def toDocument (m : Metadata) : Document :=
  .ofPresent [
    ("repo_file_path", some (.string m.repoFilePath)),
    ("file_slice", some m.fileSlice.toDocument)]

end Metadata

namespace NodeRelation

def read : Reader NodeRelation :=
  .record "NodeRelation" (.mk
    <$> Fields.required "alias" .text
    <*> Fields.required "schema_name" .text
    <*> Fields.optional "database" .text
    <*> Fields.optional "relation_name" .text)

def toDocument (r : NodeRelation) : Document :=
  .ofPresent [
    ("alias", some (.string r.aliasName)),
    ("schema_name", some (.string r.schemaName)),
    ("database", r.database.map .string),
    ("relation_name", r.relationName.map .string)]

end NodeRelation

end SemanticLayer
