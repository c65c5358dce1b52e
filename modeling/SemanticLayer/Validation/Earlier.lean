/-!
# Earlier items of the same key

Rules about names and labels that must be unique look at each item together with the items before
it that have the same key.
-/

namespace SemanticLayer

variable {α κ : Type} [DecidableEq κ]

/-- Each item of the list with the items before it that have the same key; those of `before` count
as well. -/
def withEarlierFrom (key : α → κ) (before : List α) : List α → List (α × List α)
  | []      => []
  | x :: xs => (x, before.filter (key · = key x)) :: withEarlierFrom key (before ++ [x]) xs

/-- Each item with the items before it that have the same key. -/
def withEarlier (key : α → κ) (items : List α) : List (α × List α) := withEarlierFrom key [] items

/-- The items that have no earlier item of the same key. -/
def firstByKey (key : α → κ) (items : List α) : List α :=
  (withEarlier key items).filterMap fun (x, earlier) => if earlier.isEmpty then some x else none

end SemanticLayer
