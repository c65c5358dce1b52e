import SemanticLayer.Yaml.BlockScalar
import SemanticLayer.Yaml.Flow

/-!
# Reading blocks

In a block the indentation tells what belongs together: the entries of a mapping and the items of a
sequence start in one column, and what they hold starts further to the right. A sequence that is
the value of a key may start in the column of the key.
-/

namespace SemanticLayer.Yaml

/-- The surroundings of a node. -/
structure Place where
  /-- The least column for the lines of the node. -/
  least   : Nat
  /-- The least column for the dashes of a sequence. -/
  dash    : Nat
  /-- A collection may start on the line on which the surroundings end. -/
  compact : Bool

/-- The place of an item, which may be a collection that starts behind the dash. -/
def Place.item (column : Nat) : Place := ⟨column + 1, column + 1, true⟩

/-- The place of the value of a key. -/
def Place.value (column : Nat) : Place := ⟨column + 1, column, false⟩

/-- The greatest length of a key. -/
def maxKeyLength : Nat := 1024

/-- Read a key, which stands on one line, and the colon behind it. -/
def key? (fuel : Nat) (c : Cursor) : Option (Node × Cursor) :=
  match inline? fuel false 0 c.line with
  | none           => none
  | some (node, e) =>
    let colon := e.skipSpaces
    if colon.atSign ':' && e.column - c.column ≤ maxKeyLength then
      some (node, c.drop (colon.column + 1 - c.column))
    else none

mutual

/-- Read a node, which may be left out. -/
def block? : Nat → Place → Cursor → Option (Node × Cursor)
  | 0,        _, _ => none
  | fuel + 1, p, c =>
    let g := c.gap
    if g.next.atEnd then some (.empty, c)
    else if g.tabbed p.least then none
    else if !g.fresh then blockFrom? fuel p p.compact g.next
    else if p.least ≤ g.next.column || (p.dash ≤ g.next.column && g.next.atSign '-') then
      blockFrom? fuel p true g.next
    else some (.empty, c)

/-- Read a node that starts right here, and is a block collection only if there may be one. -/
def blockFrom? : Nat → Place → Bool → Cursor → Option (Node × Cursor)
  | 0,        _, _,           _ => none
  | fuel + 1, p, collections, c =>
    if c.atSign '-' then
      if collections then
        (blockItems? fuel c.column c).map fun (ns, e) => (.sequence ns, e)
      else none
    else if c.atSign '?' || (key? fuel c).isSome then
      if collections then
        (blockEntries? fuel c.column c).map fun (es, e) => (.mapping es, e)
      else none
    else
      match property? c with
      | some (property, e) =>
        (block? fuel { p with compact := false } e).map fun (node, e) => (property.on node, e)
      | none               =>
        if c.startsWith '|' || c.startsWith '>' then
          (blockScalar? p.least c).map fun (s, e) => (.quoted s, e)
        else inline? fuel false p.least c

/-- Read the items of a sequence, the first of which starts right here with its dash. -/
def blockItems? : Nat → Nat → Cursor → Option (List Node × Cursor)
  | 0,        _,      _ => none
  | fuel + 1, column, c =>
    match block? fuel (.item column) (c.drop 1) with
    | none           => none
    | some (node, e) =>
      let g := e.gap
      if g.next.atEnd then some ([node], e)
      else if !g.fresh || g.tabbed column then none
      else if g.next.column == column && g.next.atSign '-' then
        (blockItems? fuel column g.next).map fun (ns, e) => (node :: ns, e)
      else some ([node], e)

/-- Read the entries of a mapping, the first of which starts right here. -/
def blockEntries? : Nat → Nat → Cursor → Option (List (Node × Node) × Cursor)
  | 0,        _,      _ => none
  | fuel + 1, column, c =>
    match blockEntry? fuel column c with
    | none            => none
    | some (entry, e) =>
      let g := e.gap
      if g.next.atEnd then some ([entry], e)
      else if !g.fresh || g.tabbed column then none
      else if g.next.column == column then
        (blockEntries? fuel column g.next).map fun (es, e) => (entry :: es, e)
      else some ([entry], e)

/-- Read an entry of a mapping. A key behind a question mark may be any node. -/
def blockEntry? : Nat → Nat → Cursor → Option ((Node × Node) × Cursor)
  | 0,        _,      _ => none
  | fuel + 1, column, c =>
    if c.atSign '?' then
      match block? fuel (.item column) (c.drop 1) with
      | none          => none
      | some (key, e) =>
        let g := e.gap
        if g.fresh && g.next.column == column && g.next.atSign ':' then
          (block? fuel (.item column) (g.next.drop 1)).map fun (value, e) => ((key, value), e)
        else some ((key, .empty), e)
    else
      match key? fuel c with
      | none          => none
      | some (key, e) =>
        (block? fuel (.value column) e).map fun (value, e) => ((key, value), e)

end

/-- The fuel for reading a text, which is more than its nodes can use. -/
def fuelFor (cs : List Char) : Nat := 8 * (cs.length + 1)

/-- Read the only node of a text. -/
def root? (c : Cursor) : Option Node :=
  match block? (fuelFor c.text) ⟨0, 0, false⟩ c with
  | none           => none
  | some (node, e) => if e.gap.next.atEnd then some node else none

end SemanticLayer.Yaml
