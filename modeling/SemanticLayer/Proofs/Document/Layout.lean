import Mathlib.Tactic.Common
import SemanticLayer.Document.Layout
import SemanticLayer.Text.Lines

/-!
# The text of a laid out document

Lines are put in front of each other, so the text of a value depends on how far in it stands only
by the spaces behind its line breaks. The text of a list or an object is then put together from the
texts of its parts, `textAt_lines_list` and `textAt_lines_object`.
-/

namespace SemanticLayer

/-! ### Lines -/

namespace Text

lemma lines_append_newline {l : List Char} (h : '\n' ∉ l) (cs : List Char) :
    lines (l ++ '\n' :: cs) = l :: lines cs := by
  induction l with
  | nil => simp [lines]
  | cons c l ih =>
    rw [List.mem_cons, not_or] at h
    rw [List.cons_append, lines, if_neg (by simpa using Ne.symm h.1), ih h.2, onFirstLine]

lemma lines_of_not_mem {l : List Char} (h : '\n' ∉ l) : lines l = [l] := by
  induction l with
  | nil => rfl
  | cons c l ih =>
    rw [List.mem_cons, not_or] at h
    rw [lines, if_neg (by simpa using Ne.symm h.1), ih h.2, onFirstLine]

/-- Lines that are put together are found again. -/
lemma lines_unlines {ls : List (List Char)} (hne : ls ≠ []) (h : ∀ l ∈ ls, '\n' ∉ l) :
    lines (unlines ls) = ls := by
  induction ls with
  | nil => exact absurd rfl hne
  | cons l ls ih =>
    obtain ⟨hl, hls⟩ := List.forall_mem_cons.1 h
    by_cases hnil : ls = []
    · subst hnil
      exact lines_of_not_mem hl
    · rw [unlines_cons hnil, lines_append_newline hl, ih hnil hls]

lemma mem_unlines {ls : List (List Char)} {c : Char} (h : c ∈ unlines ls) :
    c = '\n' ∨ ∃ l ∈ ls, c ∈ l := by
  induction ls with
  | nil => exact absurd h List.not_mem_nil
  | cons l ls ih =>
    by_cases hnil : ls = []
    · subst hnil
      exact .inr ⟨l, List.mem_cons_self, h⟩
    · rw [unlines_cons hnil, List.mem_append, List.mem_cons] at h
      obtain h | h | h := h
      · exact .inr ⟨l, List.mem_cons_self, h⟩
      · exact .inl h
      · exact (ih h).imp_right fun ⟨l', hl', hc⟩ => ⟨l', List.mem_cons_of_mem l hl', hc⟩

end Text

namespace Document

/-! ### Texts of lines -/

/-- A line break and the `k` spaces that the next line starts with. -/
def newline (k : ℕ) : List Char := '\n' :: List.replicate k ' '

/-- The text of lines of which all but the first one start `k` spaces further in. -/
def textAt (k : ℕ) : List String → List Char
  | []            => []
  | [line]        => line.toList
  | line :: lines => line.toList ++ newline k ++ textAt k lines

variable {k : ℕ} {line : String} {ls ls' : List String}

@[simp] lemma textAt_singleton : textAt k [line] = line.toList := rfl

lemma textAt_cons (h : ls ≠ []) :
    textAt k (line :: ls) = line.toList ++ newline k ++ textAt k ls := by
  cases ls with
  | nil      => exact absurd rfl h
  | cons _ _ => rfl

lemma textAt_append (h : ls ≠ []) (h' : ls' ≠ []) :
    textAt k (ls ++ ls') = textAt k ls ++ newline k ++ textAt k ls' := by
  induction ls with
  | nil => exact absurd rfl h
  | cons line ls ih =>
    by_cases hls : ls = []
    · subst hls
      simp [textAt_cons h']
    · rw [List.cons_append, textAt_cons (by simp [hls]), ih hls, textAt_cons hls]
      simp only [List.append_assoc]

lemma textAt_onFirst (h : ls ≠ []) (text : String) :
    textAt k (onFirst text ls) = text.toList ++ textAt k ls := by
  match ls with
  | []          => exact absurd rfl h
  | [_]         => simp [onFirst]
  | _ :: _ :: _ => simp [onFirst, textAt]

lemma onLastComma_ne_nil (h : ls ≠ []) : onLastComma ls ≠ [] := by
  match ls with
  | []          => exact absurd rfl h
  | [_]         => simp [onLastComma]
  | _ :: _ :: _ => simp [onLastComma]

lemma textAt_onLastComma (h : ls ≠ []) : textAt k (onLastComma ls) = textAt k ls ++ [','] := by
  induction ls with
  | nil => exact absurd rfl h
  | cons line ls ih =>
    cases ls with
    | nil => simp [onLastComma]
    | cons line' ls =>
      rw [onLastComma, textAt_cons (onLastComma_ne_nil (by simp)), ih (by simp),
        textAt_cons (List.cons_ne_nil _ _)]
      · simp only [List.append_assoc]
      · simp

lemma textAt_indent (h : ls ≠ []) :
    newline k ++ textAt k (indent ls) = newline (k + 2) ++ textAt (k + 2) ls := by
  have hline (line : String) :
      newline k ++ ("  " ++ line).toList = newline (k + 2) ++ line.toList := by
    have hspaces : List.replicate (k + 2) ' ' = List.replicate k ' ' ++ [' ', ' '] :=
      List.replicate_append_replicate.symm
    simp [newline, hspaces]
  induction ls with
  | nil => exact absurd rfl h
  | cons line ls ih =>
    by_cases hls : ls = []
    · subst hls
      simpa [indent] using hline line
    · rw [indent, List.map_cons, textAt_cons (by simp [hls]), textAt_cons hls, ← List.append_assoc,
        ← List.append_assoc, hline, List.append_assoc, ← indent, ih hls]
      simp only [List.append_assoc]

/-! ### Brackets -/

/-- What stands behind an opening bracket: the texts on lines of their own, with commas in between,
and the closing bracket. -/
def contents (k : ℕ) (closing : Char) : List (List Char) → List Char
  | []      => [closing]
  | [t]     => newline (k + 2) ++ t ++ newline k ++ [closing]
  | t :: ts => newline (k + 2) ++ t ++ ',' :: contents k closing ts

lemma stack_ne_nil {blocks : List (List String)} (hne : blocks ≠ [])
    (h : ∀ block ∈ blocks, block ≠ []) : stack blocks ≠ [] := by
  match blocks with
  | []              => exact absurd rfl hne
  | [block]         => exact h block List.mem_cons_self
  | block :: _ :: _ =>
    have := onLastComma_ne_nil (h block List.mem_cons_self)
    simp [stack, this]

lemma contents_stack {blocks : List (List String)} (hne : blocks ≠ [])
    (h : ∀ block ∈ blocks, block ≠ []) (closing : Char) :
    newline (k + 2) ++ textAt (k + 2) (stack blocks) ++ newline k ++ [closing] =
      contents k closing (blocks.map (textAt (k + 2))) := by
  induction blocks with
  | nil => exact absurd rfl hne
  | cons block blocks ih =>
    obtain ⟨hblock, hblocks⟩ := List.forall_mem_cons.1 h
    cases blocks with
    | nil => rfl
    | cons block' blocks =>
      have hrest := ih (by simp) hblocks
      have hcontents : contents k closing ((block :: block' :: blocks).map (textAt (k + 2))) =
          newline (k + 2) ++ textAt (k + 2) block ++
            ',' :: contents k closing ((block' :: blocks).map (textAt (k + 2))) := rfl
      rw [hcontents, ← hrest]
      rw [stack, textAt_append (onLastComma_ne_nil hblock) (stack_ne_nil (by simp) hblocks),
        textAt_onLastComma hblock]
      · simp
      · simp

lemma textAt_bracketed {blocks : List (List String)} (h : ∀ block ∈ blocks, block ≠ [])
    (opening closing : Char) :
    textAt k (bracketed (String.singleton opening) (String.singleton closing) blocks) =
      opening :: contents k closing (blocks.map (textAt (k + 2))) := by
  by_cases hne : blocks = []
  · subst hne
    simp [bracketed, contents]
  · have hstack := stack_ne_nil hne h
    have hindent : indent (stack blocks) ≠ [] := by simp [indent, hstack]
    have hbracketed : bracketed (String.singleton opening) (String.singleton closing) blocks =
        String.singleton opening :: indent (stack blocks) ++ [String.singleton closing] := by
      cases blocks with
      | nil      => exact absurd rfl hne
      | cons _ _ => rfl
    rw [hbracketed, List.cons_append, textAt_cons (by simp), textAt_append hindent (by simp),
      ← contents_stack hne h, List.append_assoc, ← List.append_assoc (newline k),
      ← List.append_assoc (newline k), textAt_indent hstack]
    simp

/-! ### Values -/

lemma itemBlocks_eq (items : List Document) : itemBlocks items = items.map lines := by
  induction items with
  | nil => rfl
  | cons d ds ih => rw [itemBlocks, ih, List.map_cons]

lemma fieldBlocks_eq (fields : List (String × Document)) :
    fieldBlocks fields = fields.map fieldBlock := by
  induction fields with
  | nil => rfl
  | cons f fs ih => rw [fieldBlocks, ih, List.map_cons]

lemma bracketed_ne_nil (opening closing : String) (blocks : List (List String)) :
    bracketed opening closing blocks ≠ [] := by
  cases blocks <;> simp [bracketed]

lemma lines_ne_nil (d : Document) : d.lines ≠ [] := by
  cases d with
  | bool b => cases b <;> simp [lines]
  | list _ | object _ => simp [lines, bracketed_ne_nil]
  | _ => simp [lines]

lemma fieldBlock_ne_nil (f : String × Document) : fieldBlock f ≠ [] := by
  obtain ⟨name, d⟩ := f
  have := lines_ne_nil d
  cases h : d.lines with
  | nil => exact absurd h this
  | cons line ls => simp [fieldBlock, h, onFirst]

lemma textAt_lines_list (items : List Document) :
    textAt k (list items).lines =
      '[' :: contents k ']' (items.map fun d => textAt (k + 2) d.lines) := by
  have hblocks : ∀ block ∈ items.map lines, block ≠ [] := by
    simp only [List.forall_mem_map]
    exact fun d _ => lines_ne_nil d
  rw [lines, itemBlocks_eq, show "[" = String.singleton '[' from rfl,
    show "]" = String.singleton ']' from rfl, textAt_bracketed hblocks, List.map_map]
  rfl

lemma textAt_fieldBlock (f : String × Document) :
    textAt k (fieldBlock f) =
      (Text.quoteForDocument f.1).toList ++ ':' :: ' ' :: textAt k f.2.lines := by
  obtain ⟨name, d⟩ := f
  rw [fieldBlock, textAt_onFirst (lines_ne_nil d)]
  simp

lemma textAt_lines_object (fields : List (String × Document)) :
    textAt k (object fields).lines = '\x7b' :: contents k '\x7d' (fields.map fun f =>
      (Text.quoteForDocument f.1).toList ++ ':' :: ' ' :: textAt (k + 2) f.2.lines) := by
  have hblocks : ∀ block ∈ fields.map fieldBlock, block ≠ [] := by
    simp only [List.forall_mem_map]
    exact fun f _ => fieldBlock_ne_nil f
  rw [lines, fieldBlocks_eq, show "\x7b" = String.singleton '\x7b' from rfl,
    show "\x7d" = String.singleton '\x7d' from rfl, textAt_bracketed hblocks, List.map_map]
  simp only [Function.comp_def, textAt_fieldBlock]

lemma unlines_eq_textAt (ls : List String) : Text.unlines (ls.map String.toList) = textAt 0 ls := by
  induction ls with
  | nil => rfl
  | cons line ls ih =>
    by_cases hls : ls = []
    · subst hls
      rfl
    · rw [List.map_cons, Text.unlines_cons (by simpa using hls), ih, textAt_cons hls]
      simp [newline]

/-- The text of a document is the text of its lines. -/
lemma toList_render (d : Document) :
    d.render.toList = Text.unlines (d.lines.map String.toList) := by
  have hlines (ls : List String) :
      ("\n".intercalate ls).toList = Text.unlines (ls.map String.toList) := by
    induction ls with
    | nil => rfl
    | cons line ls ih =>
      by_cases hls : ls = []
      · subst hls
        simp [Text.unlines]
      · rw [String.intercalate_cons_of_ne_nil hls, List.map_cons,
          Text.unlines_cons (by simpa using hls), ← ih]
        simp
  exact hlines d.lines

/-! ### Lines without line breaks -/

section OneLine

/-- There is no line break in the text. -/
def IsOneLine (cs : List Char) : Prop := ∀ c ∈ cs, c ≠ '\n' ∧ c ≠ '\r'

lemma isOneLine_append {s t : String} (hs : IsOneLine s.toList) (ht : IsOneLine t.toList) :
    IsOneLine (s ++ t).toList := by
  rw [String.toList_append]
  exact List.forall_mem_append.2 ⟨hs, ht⟩

lemma isOneLine_onFirst {text : String} (ht : IsOneLine text.toList)
    (h : ∀ l ∈ ls, IsOneLine l.toList) : ∀ l ∈ onFirst text ls, IsOneLine l.toList := by
  cases ls with
  | nil => exact h
  | cons line ls =>
    obtain ⟨hline, hls⟩ := List.forall_mem_cons.1 h
    exact List.forall_mem_cons.2 ⟨isOneLine_append ht hline, hls⟩

lemma isOneLine_indent (h : ∀ l ∈ ls, IsOneLine l.toList) :
    ∀ l ∈ indent ls, IsOneLine l.toList := by
  simp only [indent, List.forall_mem_map]
  exact fun l hl => isOneLine_append (by simp [IsOneLine]) (h l hl)

lemma isOneLine_onLastComma (h : ∀ l ∈ ls, IsOneLine l.toList) :
    ∀ l ∈ onLastComma ls, IsOneLine l.toList := by
  induction ls with
  | nil => exact h
  | cons line ls ih =>
    obtain ⟨hline, hls⟩ := List.forall_mem_cons.1 h
    cases ls with
    | nil =>
      exact List.forall_mem_singleton.2 (isOneLine_append hline (by simp [IsOneLine]))
    | cons line' ls => exact List.forall_mem_cons.2 ⟨hline, ih hls⟩

lemma isOneLine_stack {blocks : List (List String)}
    (h : ∀ block ∈ blocks, ∀ l ∈ block, IsOneLine l.toList) :
    ∀ l ∈ stack blocks, IsOneLine l.toList := by
  induction blocks with
  | nil => exact fun l hl => absurd hl List.not_mem_nil
  | cons block blocks ih =>
    obtain ⟨hblock, hblocks⟩ := List.forall_mem_cons.1 h
    cases blocks with
    | nil => exact hblock
    | cons block' blocks =>
      exact List.forall_mem_append.2 ⟨isOneLine_onLastComma hblock, ih hblocks⟩

lemma isOneLine_bracketed {opening closing : String} (ho : IsOneLine opening.toList)
    (hc : IsOneLine closing.toList) {blocks : List (List String)}
    (h : ∀ block ∈ blocks, ∀ l ∈ block, IsOneLine l.toList) :
    ∀ l ∈ bracketed opening closing blocks, IsOneLine l.toList := by
  cases blocks with
  | nil => exact List.forall_mem_singleton.2 (isOneLine_append ho hc)
  | cons block blocks =>
    have hindent := isOneLine_indent (isOneLine_stack h)
    intro line hline
    rcases List.mem_append.1 hline with hline | hline
    · rcases List.mem_cons.1 hline with rfl | hline
      · exact ho
      · exact hindent line hline
    · rw [List.mem_singleton.1 hline]
      exact hc

end OneLine

end Document

end SemanticLayer
