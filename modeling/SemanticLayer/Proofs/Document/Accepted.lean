import Mathlib.Data.List.Forall2
import SemanticLayer.Proofs.Document.Reader

/-!
# What readers accept

For each way of putting readers together, which documents the whole accepts and what it reads from
them, in terms of its parts.
-/

namespace SemanticLayer

variable {α β : Type} {d : Document} {a : α} {b : β}

namespace Reader

variable {r : Reader α} {rs : List (Reader α)} {f : α → β} {type expected : String}

/-! ### Scalars, lists and alternatives -/

lemma text_eq_ok_iff {s : String} : text d = .ok s ↔ d = .string s := by
  cases d <;> simp [text]

lemma each_cons_eq_ok_iff {ds : List Document} {as : List α} : each r (d :: ds) = .ok as ↔
    ∃ a as', r d = .ok a ∧ each r ds = .ok as' ∧ as = a :: as' := by
  rw [each]
  cases r d with
  | error e => simp
  | ok a => cases each r ds <;> simp [eq_comm]

lemma each_eq_ok_iff {ds : List Document} {as : List α} :
    each r ds = .ok as ↔ List.Forall₂ (fun d a => r d = .ok a) ds as := by
  induction ds generalizing as with
  | nil => simp [each, eq_comm]
  | cons d ds ih => simp only [each_cons_eq_ok_iff, List.forall₂_cons_left_iff, ih]

lemma list_eq_ok_iff {as : List α} : list r d = .ok as ↔
    ∃ items, d = .list items ∧ List.Forall₂ (fun d a => r d = .ok a) items as := by
  cases d <;> simp [list, each_eq_ok_iff]

lemma map_eq_ok_iff : map f r d = .ok b ↔ ∃ a, r d = .ok a ∧ f a = b := by
  unfold map
  cases r d <;> simp

lemma firstOf_nil_ne_ok : firstOf type [] d ≠ .ok a := by
  simp [firstOf]

/-- A reader counts where no reader in front of it accepts the document. -/
lemma firstOf_cons_eq_ok_iff : firstOf type (r :: rs) d = .ok a ↔
    r d = .ok a ∨ (∀ a, r d ≠ .ok a) ∧ firstOf type rs d = .ok a := by
  rw [firstOf]
  cases r d <;> simp

/-! ### Records with one field -/

lemma unplaced_placed (place : ℕ) (result : Except ReadFault α) :
    unplaced (Fields.placed place result) = result := by
  cases result <;> rfl

/-- A required field is read where it is found by its name. -/
lemma objectOnly_required_eq_ok_iff {name : String} :
    objectOnly expected (Fields.required name r) d = .ok a ↔
      ∃ fs v, d = .object fs ∧ fs.lookup name = some v ∧ r v = .ok a := by
  cases d with
  | object fs =>
    simp only [objectOnly, Fields.required, Fields.field, Document.object.injEq, ↓existsAndEq,
      true_and]
    cases hlookup : fs.lookup name with
    | none => simp [Fields.find?_eq_none hlookup, unplaced]
    | some v =>
      obtain ⟨place, hfind⟩ := Fields.find?_eq_some hlookup 0
      simp [hfind, unplaced_placed]
  | _ => simp [objectOnly]

/-- What is made of the fields of a record is made of what is read from them. -/
lemma objectOnly_map_eq_ok_iff {fields : Fields α} :
    objectOnly expected (f <$> fields) d = .ok b ↔
      ∃ a, objectOnly expected fields d = .ok a ∧ f a = b := by
  cases d with
  | object fs =>
    show unplaced (Fields.both (.ok f) (fields.read (.object fs) _)) = .ok b ↔
      ∃ a, unplaced (fields.read (.object fs) 0) = .ok a ∧ f a = b
    cases fields.read (.object fs) 0 <;> simp [Fields.both, unplaced]
  | _ => simp [objectOnly]

end Reader

end SemanticLayer
