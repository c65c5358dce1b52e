/-!
# Runs of characters

The words of a text are its maximal runs of characters of one class.
-/

namespace SemanticLayer.Text

/-- The maximal runs of characters with the property `p`, from left to right. -/
def runs (p : Char → Bool) : List Char → List (List Char)
  | []      => []
  | c :: cs =>
    if p c then
      match cs, runs p cs with
      | d :: _, r :: rs => if p d then (c :: r) :: rs else [c] :: r :: rs
      | _,      rs      => [c] :: rs
    else runs p cs

end SemanticLayer.Text
