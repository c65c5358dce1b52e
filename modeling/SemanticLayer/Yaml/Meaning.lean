import SemanticLayer.Yaml.Node
import SemanticLayer.Yaml.Scalar

/-!
# From nodes to documents

A mapping becomes an object, with the texts of its keys as names. No key may occur twice. The key
`<<` brings in the fields of other mappings, behind the mapping's own fields and only where these
have none of that name. An alias stands for the node that was last given its name.
-/

namespace SemanticLayer.Yaml

/-- What names stand for, the last given name first. -/
abbrev Names := List (String × Document)

/-- The tags that make a scalar a text. -/
def textTags : List String := ["!!str", "!", "!<tag:yaml.org,2002:str>"]

/-- The text of a scalar. -/
def Node.text? (names : Names) : Node → Option String
  | .plain s | .quoted s            => some s
  | .named _ node | .tagged _ node  => node.text? names
  | .aliasOf name                   =>
    match names.lookup name with
    | some (.string s) => some s
    | _                => none
  | .sequence _ | .mapping _        => none

/-- Put the fields whose names are not taken behind the others. -/
def withAbsent (fields more : List (String × Document)) : List (String × Document) :=
  more.foldl (fun fs f => if (fs.lookup f.1).isSome then fs else fs ++ [f]) fields

/-- The fields that a document brings in: those of an object, or of each object of a list. -/
def broughtIn? : Document → Option (List (String × Document))
  | .object fields => some fields
  | .list items    => (items.mapM objectFields?).map List.flatten
  | _              => none
where
  /-- The fields of an object. -/
  objectFields? : Document → Option (List (String × Document))
    | .object fields => some fields
    | _              => none

/-- The fields of a mapping: its own, and those that are brought in. -/
structure Entries where
  own     : List (String × Document)
  brought : List (String × Document)

/-- The object of a mapping's fields, unless a name occurs twice. -/
def Entries.document? (e : Entries) : Option Document :=
  if (e.own.map Prod.fst).Nodup then some (.object (withAbsent e.own e.brought)) else none

/-- The key that brings in other mappings. -/
def Node.isMergeKey : Node → Bool
  | .plain s => s == "<<"
  | _        => false

mutual

/-- What a node stands for, and the names after it. -/
def Node.document? (names : Names) : Node → Option (Document × Names)
  | .plain s          => some (plainValue s, names)
  | .quoted s         => some (.string s, names)
  | .sequence items   =>
    match itemDocuments? names items with
    | none             => none
    | some (ds, names) => some (.list ds, names)
  | .mapping entries  =>
    match entryDocuments? names entries with
    | none            => none
    | some (e, names) => e.document?.map (·, names)
  | .named name node  =>
    match node.document? names with
    | none            => none
    | some (d, names) => some (d, (name, d) :: names)
  | .tagged tag node  =>
    match node.document? names with
    | none            => none
    | some (d, names) =>
      if textTags.contains tag then some ((node.text? names).elim d .string, names)
      else some (d, names)
  | .aliasOf name     => (names.lookup name).map (·, names)

/-- What the items of a sequence stand for. -/
def itemDocuments? (names : Names) : List Node → Option (List Document × Names)
  | []            => some ([], names)
  | node :: nodes =>
    match node.document? names with
    | none            => none
    | some (d, names) =>
      match itemDocuments? names nodes with
      | none             => none
      | some (ds, names) => some (d :: ds, names)

/-- What the key and the value of an entry stand for. -/
def entryDocument? (names : Names) : Node × Node → Option (String × Document × Names)
  | (key, value) =>
    match key.document? names with
    | none            => none
    | some (_, names) =>
      match key.text? names, value.document? names with
      | some s, some (d, names) => some (s, d, names)
      | _,      _               => none

/-- What the entries of a mapping stand for. -/
def entryDocuments? (names : Names) : List (Node × Node) → Option (Entries × Names)
  | []               => some (⟨[], []⟩, names)
  | entry :: entries =>
    match entryDocument? names entry with
    | none               => none
    | some (s, d, names) =>
      match entryDocuments? names entries with
      | none            => none
      | some (e, names) =>
        if entry.1.isMergeKey then
          (broughtIn? d).map fun fields => (⟨e.own, fields ++ e.brought⟩, names)
        else some (⟨(s, d) :: e.own, e.brought⟩, names)

end

end SemanticLayer.Yaml
