/-!
# Lines of text

The lines of a text are what line feeds separate. There is always one line more than there are
line feeds.
-/

namespace SemanticLayer.Text

/-- Put a character in front of the first line. -/
def onFirstLine (c : Char) : List (List Char) → List (List Char)
  | []      => [[c]]
  | l :: ls => (c :: l) :: ls

/-- The lines of a text, without the line feeds. -/
def lines : List Char → List (List Char)
  | []      => [[]]
  | c :: cs => if c == '\n' then [] :: lines cs else onFirstLine c (lines cs)

/-- The text that has the given lines. -/
def unlines : List (List Char) → List Char
  | []      => []
  | [l]     => l
  | l :: ls => l ++ '\n' :: unlines ls

theorem lines_ne_nil (cs : List Char) : lines cs ≠ [] := by
  cases cs with
  | nil => simp [lines]
  | cons c cs =>
    unfold lines
    split
    · simp
    · cases lines cs <;> simp [onFirstLine]

theorem unlines_cons {ls : List (List Char)} (h : ls ≠ []) (l : List Char) :
    unlines (l :: ls) = l ++ '\n' :: unlines ls := by
  cases ls with
  | nil => exact absurd rfl h
  | cons _ _ => rfl

theorem unlines_onFirstLine (c : Char) (ls : List (List Char)) :
    unlines (onFirstLine c ls) = c :: unlines ls := by
  match ls with
  | []          => rfl
  | [_]         => rfl
  | _ :: _ :: _ => rfl

/-- A text is put together again from its lines. -/
theorem unlines_lines (cs : List Char) : unlines (lines cs) = cs := by
  induction cs with
  | nil => rfl
  | cons c cs ih =>
    unfold lines
    split
    · simp_all [unlines_cons (lines_ne_nil cs)]
    · rw [unlines_onFirstLine, ih]

end SemanticLayer.Text
