/-!
# Nodes of a YAML text

A YAML text is read in two steps. The first one finds its nodes: scalars, sequences and mappings,
the names that some of them are given, and the places where a named node is used again. The second
one takes the nodes to a document.
-/

namespace SemanticLayer.Yaml

/-- A node. A quoted scalar is a text whatever it says, a plain one stands for what it looks
like. -/
inductive Node where
  | plain    (text : String)
  | quoted   (text : String)
  | sequence (items : List Node)
  | mapping  (entries : List (Node × Node))
  | named    (name : String) (node : Node)
  | tagged   (tag : String) (node : Node)
  | aliasOf  (name : String)
  deriving Inhabited

/-- The node that stands where nothing is written. -/
def Node.empty : Node := .plain ""

end SemanticLayer.Yaml
