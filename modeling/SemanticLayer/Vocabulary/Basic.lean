/-!
# Closed vocabularies

A vocabulary is a finite type whose members have written names. Names are told apart exactly, so
reading a name is the inverse of writing it: `ofName?_name` and `name_of_ofName?`.
-/

namespace SemanticLayer

/-- A finite type whose members are written by distinct names, in a fixed order. -/
class Vocabulary (α : Type) where
  members        : List α
  name           : α → String
  mem_members    : ∀ a, a ∈ members
  name_injective : ∀ a b, name a = name b → a = b

namespace Vocabulary

variable {α : Type} [Vocabulary α]

/-- The member of that name. -/
def ofName? (s : String) : Option α := (members (α := α)).find? (name · == s)

/-- The names of all members, in order. -/
def names (α : Type) [Vocabulary α] : List String := (members (α := α)).map name

theorem name_of_ofName? {s : String} {a : α} (h : ofName? s = some a) : name a = s := by
  simpa using List.find?_some h

@[simp] theorem ofName?_name (a : α) : ofName? (name a) = some a := by
  unfold ofName?
  cases h : (members (α := α)).find? (name · == name a) with
  | none =>
    have := List.find?_eq_none.1 h a (mem_members a)
    simp at this
  | some b =>
    have hb : name b = name a := by simpa using List.find?_some h
    rw [name_injective b a hb]

theorem ofName?_eq_some_iff {s : String} {a : α} : ofName? s = some a ↔ name a = s :=
  ⟨name_of_ofName?, fun h => h ▸ ofName?_name a⟩

end Vocabulary

end SemanticLayer
