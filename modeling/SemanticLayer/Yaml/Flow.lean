import SemanticLayer.Yaml.Node
import SemanticLayer.Yaml.Plain
import SemanticLayer.Yaml.Quoted

/-!
# Reading inline nodes

An inline node is a scalar, an alias, or a collection between brackets, which may spread over
several lines. Each of these starts at the column `least` or further to the right, except that a
closing bracket or a comma may stand anywhere.
-/

namespace SemanticLayer.Yaml

/-! ### Names and tags -/

/-- The name behind an ampersand or an asterisk, or a tag. -/
def nameFrom (c : Cursor) : String × Cursor :=
  let name := c.text.takeWhile fun d => !isWhite d && !isBracketSign d
  (String.ofList name, c.drop name.length)

/-- What is written in front of a node. -/
inductive Property where
  | name (name : String)
  | tag  (tag : String)

/-- The node with the property. -/
def Property.on (node : Node) : Property → Node
  | .name s => .named s node
  | .tag s  => .tagged s node

/-- Read a property. -/
def property? (c : Cursor) : Option (Property × Cursor) :=
  match c.text with
  | '&' :: _ =>
    let (name, e) := nameFrom (c.drop 1)
    if name.isEmpty then none else some (.name name, e)
  | '!' :: _ =>
    let (tag, e) := nameFrom c
    some (.tag tag, e)
  | _        => none

/-- Read a scalar or an alias. -/
def scalar? (bracketed : Bool) (least : Nat) (c : Cursor) : Option (Node × Cursor) :=
  match c.text with
  | '*' :: _              =>
    let (name, e) := nameFrom (c.drop 1)
    if name.isEmpty then none else some (.aliasOf name, e)
  | '\'' :: _ | '"' :: _  => (quoted? least c).map fun (s, e) => (.quoted s, e)
  | _                     => (plain? bracketed least c).map fun (s, e) => (.plain s, e)

/-! ### Collections between brackets -/

/-- The text goes on with the character. -/
def Cursor.startsWith (d : Char) (c : Cursor) : Bool := c.text.head? == some d

/-- A sign that ends an item: a comma or a closing bracket. -/
def Cursor.endsItem (c : Cursor) : Bool :=
  c.startsWith ',' || c.startsWith ']' || c.startsWith '\x7d'

/-- Go on behind a gap between brackets. -/
def Cursor.within? (least : Nat) (c : Cursor) : Option Cursor :=
  let g := c.gap
  if g.next.atEnd || (g.fresh && g.next.column < least && !g.next.endsItem) then none
  else some g.next

/-- A colon that separates a key from its value between brackets. -/
def Cursor.atColon (c : Cursor) : Bool :=
  match c.text with
  | ':' :: cs => separates true cs
  | _         => false

/-- Go on behind the colon that follows a key. Right behind the key it needs no white space. -/
def Cursor.pastColon? (key : Cursor) (next : Cursor) : Option Cursor :=
  if key.startsWith ':' then some (key.drop 1)
  else if next.atColon then some (next.drop 1)
  else none

/-- The items of a sequence: where one is a key with a value, it is a mapping of one entry. -/
def itemOf (key : Node) : Option Node → Node
  | none       => key
  | some value => .mapping [(key, value)]

mutual

/-- Read an inline node. -/
def inline? : Nat → Bool → Nat → Cursor → Option (Node × Cursor)
  | 0,        _,         _,     _ => none
  | fuel + 1, bracketed, least, c =>
    match property? c with
    | some (p, e) =>
      match e.within? least with
      | none   => if bracketed then none else some (p.on .empty, e)
      | some e => (inlineOrEmpty? fuel bracketed least e).map fun (node, e) => (p.on node, e)
    | none        =>
      match c.text with
      | '[' :: _    => (items? fuel least (c.drop 1)).map fun (ns, e) => (.sequence ns, e)
      | '\x7b' :: _ => (entries? fuel least (c.drop 1)).map fun (es, e) => (.mapping es, e)
      | _           => scalar? bracketed least c

/-- Read an inline node, which may be left out. -/
def inlineOrEmpty? : Nat → Bool → Nat → Cursor → Option (Node × Cursor)
  | 0,        _,         _,     _ => none
  | fuel + 1, bracketed, least, c =>
    if c.endsItem || c.atColon then some (.empty, c) else inline? fuel bracketed least c

/-- Read a key and, behind a colon, its value. -/
def pair? : Nat → Nat → Cursor → Option (Node × Option Node × Cursor)
  | 0,        _,     _ => none
  | fuel + 1, least, c =>
    let start := if c.atSign '?' then (c.drop 1).within? least else some c
    match start with
    | none   => none
    | some c =>
      match inlineOrEmpty? fuel true least c with
      | none          => none
      | some (key, e) =>
        match e.within? least with
        | none      => none
        | some next =>
          match e.pastColon? next with
          | none   => some (key, none, next)
          | some e =>
            match e.within? least with
            | none   => none
            | some e =>
              match inlineOrEmpty? fuel true least e with
              | none            => none
              | some (value, e) => (e.within? least).map fun e => (key, some value, e)

/-- Read the items of a sequence and the bracket behind them. -/
def items? : Nat → Nat → Cursor → Option (List Node × Cursor)
  | 0,        _,     _ => none
  | fuel + 1, least, c =>
    match c.within? least with
    | none   => none
    | some c =>
      if c.startsWith ']' then some ([], c.drop 1)
      else if c.endsItem then none
      else
        match pair? fuel least c with
        | none                 => none
        | some (key, value, e) =>
          if e.startsWith ']' then some ([itemOf key value], e.drop 1)
          else if e.startsWith ',' then
            (items? fuel least (e.drop 1)).map fun (ns, e) => (itemOf key value :: ns, e)
          else none

/-- Read the entries of a mapping and the bracket behind them. -/
def entries? : Nat → Nat → Cursor → Option (List (Node × Node) × Cursor)
  | 0,        _,     _ => none
  | fuel + 1, least, c =>
    match c.within? least with
    | none   => none
    | some c =>
      if c.startsWith '\x7d' then some ([], c.drop 1)
      else if c.endsItem then none
      else
        match pair? fuel least c with
        | none                 => none
        | some (key, value, e) =>
          if e.startsWith '\x7d' then some ([(key, value.getD .empty)], e.drop 1)
          else if e.startsWith ',' then
            (entries? fuel least (e.drop 1)).map fun (es, e) => ((key, value.getD .empty) :: es, e)
          else none

end

end SemanticLayer.Yaml
