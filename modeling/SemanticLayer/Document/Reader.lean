import SemanticLayer.Document.Basic
import SemanticLayer.Number.Layout
import SemanticLayer.Text.Quoted
import SemanticLayer.Vocabulary.Basic

/-!
# Reading documents

A reader takes a document to a value or to a fault. A record is written as an object, or as a list
of its fields in order. The fields of an object are judged in the order they are written: of
several faults the first one counts, and a missing field counts only when no field is at fault.
-/

namespace SemanticLayer

/-- What a document is, as far as messages tell. -/
inductive Found where
  | null
  | boolean (b : Bool)
  | integer (n : Int)
  | float   (x : Binary64)
  | string  (s : String)
  | sequence
  | map
  deriving DecidableEq

/-- What the document is. -/
def Document.found : Document → Found
  | .null     => .null
  | .bool b   => .boolean b
  | .int n    => .integer n
  | .float x  => .float x
  | .string s => .string s
  | .list _   => .sequence
  | .object _ => .map

/-- The wording of what a document is. -/
def Found.describe : Found → String
  | .null      => "null"
  | .boolean b => s!"boolean `{b}`"
  | .integer n => s!"integer `{n}`"
  | .float x   => "floating point `" ++ x.toDocumentText ++ "`"
  | .string s  => "string " ++ Text.quoteForMessage s
  | .sequence  => "sequence"
  | .map       => "map"

/-- Why a document is not what is expected. -/
inductive ReadFault where
  | invalidType    (found : Found) (expected : String)
  | invalidValue   (found : Found) (expected : String)
  | invalidLength  (length : Nat) (expected : String)
  | missingField   (name : String)
  | unknownVariant (name : String) (known : List String)
  | noAlternative  (type : String)
  deriving DecidableEq

namespace ReadFault

/-- Names to choose from. -/
def choices : List String → String
  | [a]    => s!"`{a}`"
  | [a, b] => s!"`{a}` or `{b}`"
  | names  => "one of " ++ ", ".intercalate (names.map fun n => s!"`{n}`")

/-- The wording of a fault. -/
def message : ReadFault → String
  | .invalidType found expected     =>
    "invalid type: " ++ found.describe ++ ", expected " ++ expected
  | .invalidValue found expected    =>
    "invalid value: " ++ found.describe ++ ", expected " ++ expected
  | .invalidLength length expected  => s!"invalid length {length}, expected " ++ expected
  | .missingField name              => s!"missing field `{name}`"
  | .unknownVariant name known      => s!"unknown variant `{name}`, expected " ++ choices known
  | .noAlternative type             =>
    "data did not match any variant of untagged enum " ++ type

end ReadFault

/-- A reader of documents. -/
abbrev Reader (α : Type) := Document → Except ReadFault α

namespace Reader

variable {α β : Type}

/-! ### Scalars -/

/-- Read a text. -/
def text : Reader String
  | .string s => .ok s
  | d         => .error (.invalidType d.found "a string")

/-- Read a truth value. -/
def bool : Reader Bool
  | .bool b => .ok b
  | d       => .error (.invalidType d.found "a boolean")

/-- Read a signed 64-bit integer. -/
def int64 : Reader Int64
  | .int n =>
    if -0x8000000000000000 ≤ n ∧ n < 0x8000000000000000 then .ok (Int64.ofInt n)
    else .error (.invalidValue (.integer n) "i64")
  | d      => .error (.invalidType d.found "i64")

/-- Read an unsigned 64-bit integer. -/
def uint64 : Reader UInt64
  | .int n =>
    if 0 ≤ n ∧ n < 0x10000000000000000 then .ok (UInt64.ofNat n.toNat)
    else .error (.invalidValue (.integer n) "usize")
  | d      => .error (.invalidType d.found "usize")

/-- Read a number. An integer is taken to the nearest binary64 number. -/
def number : Reader Binary64
  | .float x => .ok x
  | .int n   =>
    match Binary64.ofInt? n with
    | some x => .ok x
    | none   => .error (.invalidValue (.integer n) "f64")
  | d        => .error (.invalidType d.found "f64")

/-- Read nothing. -/
def unit : Reader Unit
  | .null => .ok ()
  | d     => .error (.invalidType d.found "unit")

/-- Read a word of a vocabulary: its name, or an object with its name as the only field and nothing
as the value. -/
def word (α : Type) [Vocabulary α] : Reader α
  | .string s      => named s
  | .object [(k, v)] =>
    match named k with
    | .error e => .error e
    | .ok a    =>
      match unit v with
      | .error e => .error e
      | .ok ()   => .ok a
  | .object _      => .error (.invalidValue .map "map with a single key")
  | d              => .error (.invalidType d.found "string or map")
where
  /-- The member of that name. -/
  named (s : String) : Except ReadFault α :=
    match Vocabulary.ofName? s with
    | some a => .ok a
    | none   => .error (.unknownVariant s (Vocabulary.names α))

/-! ### Collections and alternatives -/

/-- Read each of several documents. -/
def each (r : Reader α) : List Document → Except ReadFault (List α)
  | []      => .ok []
  | d :: ds =>
    match r d with
    | .error e => .error e
    | .ok a    =>
      match each r ds with
      | .error e => .error e
      | .ok as   => .ok (a :: as)

/-- Read a list. -/
def list (r : Reader α) : Reader (List α)
  | .list items => each r items
  | d           => .error (.invalidType d.found "a sequence")

/-- Read a value or nothing. -/
def option (r : Reader α) : Reader (Option α)
  | .null => .ok none
  | d     =>
    match r d with
    | .error e => .error e
    | .ok a    => .ok (some a)

/-- Read with the first reader that accepts the document. -/
def firstOf (type : String) : List (Reader α) → Reader α
  | [],      _ => .error (.noAlternative type)
  | r :: rs, d =>
    match r d with
    | .ok a    => .ok a
    | .error _ => firstOf type rs d

/-- Read and change the value. -/
def map (f : α → β) (r : Reader α) : Reader β := fun d =>
  match r d with
  | .ok a    => .ok (f a)
  | .error e => .error e

end Reader

/-! ### Records -/

/-- What a record is read from. -/
inductive Source where
  | object (fields : List (String × Document))
  | list   (shape : String) (items : List Document)

/-- A fault and the place in the source it belongs to. -/
structure PlacedFault where
  place : Nat
  fault : ReadFault

/-- The one of two faults that stands first, the left one if they stand at one place. -/
def PlacedFault.first (e e' : PlacedFault) : PlacedFault := if e'.place < e.place then e' else e

/-- A reader of some fields of a record, the first of which has the given index. -/
structure Fields (α : Type) where
  size : Nat
  read : Source → Nat → Except PlacedFault α

namespace Fields

variable {α β : Type}

/-- Two readings side by side. -/
def both (f : Except PlacedFault (α → β)) (a : Except PlacedFault α) : Except PlacedFault β :=
  match f, a with
  | .ok f,    .ok a     => .ok (f a)
  | .ok _,    .error e  => .error e
  | .error e, .ok _     => .error e
  | .error e, .error e' => .error (e.first e')

instance : Applicative Fields where
  pure a := ⟨0, fun _ _ => .ok a⟩
  seq f a := ⟨f.size + (a ()).size, fun s i => both (f.read s i) ((a ()).read s (i + f.size))⟩

/-- The place of a field of that name and its value. -/
def find? (name : String) (fields : List (String × Document)) (place : Nat) :
    Option (Nat × Document) :=
  match fields with
  | []          => none
  | (k, d) :: fs => if k == name then some (place, d) else find? name fs (place + 1)

/-- Attach the place to a fault. -/
def placed (place : Nat) : Except ReadFault α → Except PlacedFault α
  | .ok a    => .ok a
  | .error e => .error ⟨place, e⟩

/-- A field. What happens when it is left out may depend on the way the record is written: for a
field that is left out of an object the place is behind all fields. -/
def field (name : String) (r : Reader α) (leftOut leftOutOfList : Option α) : Fields α where
  size := 1
  read
    | .object fields,    _ =>
      match find? name fields 0, leftOut with
      | some (place, d), _      => placed place (r d)
      | none,            some a => .ok a
      | none,            none   => .error ⟨fields.length, .missingField name⟩
    | .list shape items, i =>
      match items[i]?, leftOutOfList with
      | some d, _      => placed i (r d)
      | none,   some a => .ok a
      | none,   none   => .error ⟨i, .invalidLength i shape⟩

/-- A field that is always written. -/
def required (name : String) (r : Reader α) : Fields α := field name r none none

/-- A field that may be left out. In a list it must still be written. -/
def optional (name : String) (r : Reader α) : Fields (Option α) :=
  field name (.option r) (some none) none

/-- A field with a value for when it is left out. -/
def filled (name : String) (a : α) (r : Reader α) : Fields α := field name r (some a) (some a)

end Fields

namespace Reader

variable {α : Type}

/-- Forget the place of a fault. -/
def unplaced : Except PlacedFault α → Except ReadFault α
  | .ok a    => .ok a
  | .error e => .error e.fault

/-- Read a record that is always written as an object. -/
def objectOnly (expected : String) (fields : Fields α) : Reader α
  | .object fs => unplaced (fields.read (.object fs) 0)
  | d          => .error (.invalidType d.found expected)

/-- The description of a record that is written as a list. -/
def shapeOf (type : String) (size : Nat) : String :=
  if size = 1 then s!"struct {type} with 1 element" else s!"struct {type} with {size} elements"

/-- Read a record of the given type name. -/
def record (type : String) (fields : Fields α) : Reader α
  | .object fs  => unplaced (fields.read (.object fs) 0)
  | .list items =>
    match unplaced (fields.read (.list (shapeOf type fields.size) items) 0) with
    | .error e => .error e
    | .ok a    =>
      if fields.size < items.length then
        .error (.invalidLength items.length "fewer elements in array")
      else .ok a
  | d           => .error (.invalidType d.found s!"struct {type}")

end Reader

end SemanticLayer
