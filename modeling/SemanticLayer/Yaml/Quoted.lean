import SemanticLayer.Text.Digits
import SemanticLayer.Yaml.Cursor

/-!
# Reading quoted scalars

A scalar between single quotation marks writes a mark inside it twice. One between double marks
writes characters with the help of a backslash, and a backslash at the end of a line takes the line
break away. Lines after the first one start at the column `least` or further to the right.
-/

namespace SemanticLayer.Yaml

/-- The rest of a scalar between single quotation marks, and where it ends. -/
def singleFrom? (least : Nat) (run : Run) (column : Nat) :
    List Char → Option (List Char × Cursor)
  | []                 => none
  | '\'' :: '\'' :: cs =>
    if run.breaksLine && run.level < least then none
    else (singleFrom? least [] (column + 2) cs).map (before (run.folded ++ ['\'']))
  | c :: cs            =>
    if isWhite c then singleFrom? least (c :: run) (if c == '\n' then 0 else column + 1) cs
    else if run.breaksLine && run.level < least then none
    else if c == '\'' then some (run.folded, ⟨column + 1, cs⟩)
    else (singleFrom? least [] (column + 1) cs).map (before (run.folded ++ [c]))

/-! ### Escapes -/

/-- The character that a backslash and this one stand for. -/
def escaped? : Char → Option Char
  | '0'  => some '\x00'
  | 'a'  => some '\x07'
  | 'b'  => some '\x08'
  | 't'  => some '\t'
  | '\t' => some '\t'
  | 'n'  => some '\n'
  | 'v'  => some '\x0b'
  | 'f'  => some '\x0c'
  | 'r'  => some '\r'
  | 'e'  => some '\x1b'
  | ' '  => some ' '
  | '"'  => some '"'
  | '/'  => some '/'
  | '\\' => some '\\'
  | 'N'  => some '\u0085'
  | '_'  => some '\u00a0'
  | 'L'  => some '\u2028'
  | 'P'  => some '\u2029'
  | _    => none

/-- The number of hexadecimal digits that follow a backslash and this character. -/
def escapeLength? : Char → Option Nat
  | 'x' => some 2
  | 'u' => some 4
  | 'U' => some 8
  | _   => none

/-- The character with a code point. -/
def charOf? (n : Nat) : Option Char := if n.isValidChar then some (Char.ofNat n) else none

/-- What stands in front of the place that is read between double quotation marks. -/
inductive Lead where
  /-- A run of white space, which is `joined` when a line break in front of it was taken away. -/
  | white (joined : Bool) (run : Run)
  /-- A backslash. -/
  | backslash
  /-- The digits of an escape: how many are still to come, and the value of those before. -/
  | digits (left value : Nat)

/-- What white space between two words stands for. Behind a line break that was taken away only
more line breaks count. -/
def foldedIn (joined : Bool) (run : Run) : List Char :=
  if joined then run.filter (· == '\n') else run.folded

/-- The rest of a scalar between double quotation marks, and where it ends. -/
def doubleFrom? (least : Nat) (lead : Lead) (column : Nat) :
    List Char → Option (List Char × Cursor)
  | []      => none
  | c :: cs =>
    match lead with
    | .white joined run  =>
      if isWhite c then
        doubleFrom? least (.white joined (c :: run)) (if c == '\n' then 0 else column + 1) cs
      else if (joined || run.breaksLine) && run.level < least then none
      else if c == '"' then some (foldedIn joined run, ⟨column + 1, cs⟩)
      else if c == '\\' then
        (doubleFrom? least .backslash (column + 1) cs).map (before (foldedIn joined run))
      else
        (doubleFrom? least (.white false []) (column + 1) cs).map
          (before (foldedIn joined run ++ [c]))
    | .backslash         =>
      if c == '\n' then doubleFrom? least (.white true []) 0 cs
      else
        match escaped? c, escapeLength? c with
        | some e, _      => (doubleFrom? least (.white false []) (column + 1) cs).map (before [e])
        | none,   some n => doubleFrom? least (.digits n 0) (column + 1) cs
        | none,   none   => none
    | .digits left value =>
      match Text.digitValue? c with
      | none   => none
      | some d =>
        if 1 < left then doubleFrom? least (.digits (left - 1) (16 * value + d)) (column + 1) cs
        else
          match charOf? (16 * value + d) with
          | none   => none
          | some e => (doubleFrom? least (.white false []) (column + 1) cs).map (before [e])

/-- Read a quoted scalar. -/
def quoted? (least : Nat) (c : Cursor) : Option (String × Cursor) :=
  match c.text with
  | '\'' :: cs => (singleFrom? least [] (c.column + 1) cs).map fun (t, e) => (String.ofList t, e)
  | '"' :: cs  =>
    (doubleFrom? least (.white false []) (c.column + 1) cs).map fun (t, e) => (String.ofList t, e)
  | _          => none

end SemanticLayer.Yaml
