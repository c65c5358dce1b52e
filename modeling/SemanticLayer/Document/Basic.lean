import SemanticLayer.Number.Binary64

/-!
# Documents

A document is what a manifest is written as: a tree of scalars, lists and objects. The fields of
an object keep the order they are written in.
-/

namespace SemanticLayer

/-- A value of a document. -/
inductive Document where
  | null
  | bool   (b : Bool)
  | int    (n : Int)
  | float  (x : Binary64)
  | string (s : String)
  | list   (items : List Document)
  | object (fields : List (String × Document))
  deriving Inhabited

namespace Document

/-- An object that holds those of the fields that have a value, in order. -/
def ofPresent (fields : List (String × Option Document)) : Document :=
  .object (fields.filterMap fun (name, value) => value.map (name, ·))

/-- The value of the first field of that name. -/
def field? (name : String) : Document → Option Document
  | .object fields => fields.lookup name
  | _              => none

end Document

end SemanticLayer
