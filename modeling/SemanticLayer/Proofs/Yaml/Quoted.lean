import Mathlib.Tactic.Common
import SemanticLayer.Text.Quoted
import SemanticLayer.Yaml.Quoted

/-!
# Quoted texts are read back

A quoted text has no line break and no tab in it, so the white space inside is made of spaces only
and is kept as it is; every escape stands for the character that it was written for.
-/

namespace SemanticLayer

namespace Text

lemma toNat_hexDigit {n : ℕ} (h : n < 16) : digitValue? (hexDigit n) = some n := by
  have hall : ∀ n < 16, digitValue? (hexDigit n) = some n := by decide
  exact hall n h

/-- The three ways to write a character. -/
lemma escapeForDocument_cases (c : Char) :
    (∃ d, escapeForDocument c = ['\\', d] ∧ Yaml.escaped? d = some c ∧ d ≠ '\n') ∨
    (c.toNat < 0x20 ∧ escapeForDocument c =
      ['\\', 'u', '0', '0', hexDigit (c.toNat / 16), hexDigit (c.toNat % 16)]) ∨
    (escapeForDocument c = [c] ∧ 0x20 ≤ c.toNat ∧ c ≠ '"' ∧ c ≠ '\\') := by
  unfold escapeForDocument
  split
  all_goals first
    | exact .inl ⟨_, rfl, rfl, by decide⟩
    | skip
  split_ifs with h
  · exact .inr (.inl ⟨h, rfl⟩)
  · exact .inr (.inr ⟨rfl, by omega, ‹_›, ‹_›⟩)

end Text

namespace Yaml

/-! ### Runs of spaces -/

/-- A run without a line break. -/
def IsFlat (run : Run) : Prop := '\n' ∉ run

lemma folded_of_isFlat {run : Run} (h : IsFlat run) : run.folded = run.reverse := by
  unfold Run.folded
  rw [List.count_eq_zero.2 h]

lemma breaksLine_of_isFlat {run : Run} (h : IsFlat run) : run.breaksLine = false := by
  simpa [Run.breaksLine, IsFlat] using h

lemma isFlat_nil : IsFlat [] := List.not_mem_nil

/-! ### Escapes -/

lemma map_before {α : Type} (front front' : List Char) (r : Option (List Char × α)) :
    (r.map (before front')).map (before front) = r.map (before (front ++ front')) := by
  cases r <;> simp [before]

variable {run : Run} {c d : Char} {cs : List Char} (col : ℕ)

lemma doubleFrom?_backslash (hrun : IsFlat run) :
    doubleFrom? 0 (.white false run) col ('\\' :: cs) =
      (doubleFrom? 0 .backslash (col + 1) cs).map (before run.reverse) := by
  simp [doubleFrom?, isWhite, foldedIn, folded_of_isFlat hrun]

lemma doubleFrom?_escaped (hd : d ≠ '\n') (he : escaped? d = some c) :
    doubleFrom? 0 .backslash col (d :: cs) =
      (doubleFrom? 0 (.white false []) (col + 1) cs).map (before [c]) := by
  simp [doubleFrom?, hd, he]

lemma doubleFrom?_hex (hc : c.toNat < 0x20) :
    doubleFrom? 0 .backslash col ('u' :: '0' :: '0' :: Text.hexDigit (c.toNat / 16) ::
        Text.hexDigit (c.toNat % 16) :: cs) =
      (doubleFrom? 0 (.white false []) (col + 5) cs).map (before [c]) := by
  have hhigh := Text.toNat_hexDigit (show c.toNat / 16 < 16 by omega)
  have hlow := Text.toNat_hexDigit (show c.toNat % 16 < 16 by omega)
  have hzero : Text.digitValue? '0' = some 0 := by decide
  have hchar : charOf? c.toNat = some c := by
    rw [charOf?, if_pos (show c.toNat.isValidChar from c.valid), Char.ofNat_toNat]
  have hvalue : 16 * (c.toNat / 16) + c.toNat % 16 = c.toNat := Nat.div_add_mod _ _
  simp [doubleFrom?, escaped?, escapeLength?, hzero, hhigh, hlow, hvalue, hchar]

lemma doubleFrom?_plain (hrun : IsFlat run) (hc : 0x20 ≤ c.toNat) (hspace : c ≠ ' ')
    (hquote : c ≠ '"') (hbackslash : c ≠ '\\') :
    doubleFrom? 0 (.white false run) col (c :: cs) =
      (doubleFrom? 0 (.white false []) (col + 1) cs).map (before (run.reverse ++ [c])) := by
  have hwhite : isWhite c = false := by
    simp only [isWhite, Bool.or_eq_false_iff, beq_eq_false_iff_ne, ne_eq]
    refine ⟨⟨hspace, ?_⟩, ?_⟩
    · rintro rfl
      exact absurd hc (by decide)
    · rintro rfl
      exact absurd hc (by decide)
  simp [doubleFrom?, hwhite, breaksLine_of_isFlat hrun, hquote, hbackslash, foldedIn,
    folded_of_isFlat hrun]

lemma doubleFrom?_space :
    doubleFrom? 0 (.white false run) col (' ' :: cs) =
      doubleFrom? 0 (.white false (' ' :: run)) (col + 1) cs := by
  simp [doubleFrom?, isWhite]

/-- A space joins the run in front of it, and any other character ends the run. -/
lemma doubleFrom?_escapeForDocument (c : Char) (cs : List Char) (hrun : IsFlat run) :
    (c = ' ' ∧ doubleFrom? 0 (.white false run) col (Text.escapeForDocument c ++ cs) =
      doubleFrom? 0 (.white false (' ' :: run)) (col + 1) cs) ∨
    ∃ col', doubleFrom? 0 (.white false run) col (Text.escapeForDocument c ++ cs) =
      (doubleFrom? 0 (.white false []) col' cs).map (before (run.reverse ++ [c])) := by
  obtain ⟨d, htext, he, hd⟩ | ⟨hc, htext⟩ | ⟨htext, hc, hquote, hbackslash⟩ :=
    Text.escapeForDocument_cases c
  · refine .inr ⟨col + 2, ?_⟩
    rw [htext, List.cons_append, doubleFrom?_backslash col hrun, List.singleton_append,
      doubleFrom?_escaped _ hd he, map_before]
  · refine .inr ⟨col + 6, ?_⟩
    rw [htext, List.cons_append, doubleFrom?_backslash col hrun]
    simp only [List.cons_append, List.nil_append]
    rw [doubleFrom?_hex _ hc, map_before]
  · by_cases hspace : c = ' '
    · subst hspace
      exact .inl ⟨rfl, doubleFrom?_space col⟩
    · refine .inr ⟨col + 1, ?_⟩
      rw [htext, List.singleton_append, doubleFrom?_plain col hrun hc hspace hquote hbackslash]

/-- What stands between quotation marks is read back, behind the run in front of it. -/
lemma doubleFrom?_flatMap (cs rest : List Char) (hrun : IsFlat run) :
    ∃ col', doubleFrom? 0 (.white false run) col
        (cs.flatMap Text.escapeForDocument ++ '"' :: rest) =
      some (run.reverse ++ cs, ⟨col', rest⟩) := by
  induction cs generalizing run col with
  | nil =>
    refine ⟨col + 1, ?_⟩
    simp [doubleFrom?, isWhite, breaksLine_of_isFlat hrun, foldedIn, folded_of_isFlat hrun]
  | cons c cs ih =>
    rw [List.flatMap_cons, List.append_assoc]
    obtain ⟨rfl, hread⟩ | ⟨col', hread⟩ := doubleFrom?_escapeForDocument col c _ hrun
    · obtain ⟨col', hrest⟩ :=
        ih (col + 1) (show IsFlat (' ' :: run) by simpa [IsFlat] using hrun)
      exact ⟨col', by rw [hread, hrest]; simp⟩
    · obtain ⟨col'', hrest⟩ := ih col' isFlat_nil
      exact ⟨col'', by rw [hread, hrest]; simp [before]⟩

/-- A quoted text is read back. -/
theorem quoted?_quoteForDocument (s : String) (rest : List Char) :
    ∃ col', quoted? 0 ⟨col, (Text.quoteForDocument s).toList ++ rest⟩ = some (s, ⟨col', rest⟩) := by
  obtain ⟨col', hread⟩ := doubleFrom?_flatMap (col + 1) s.toList rest isFlat_nil
  refine ⟨col', ?_⟩
  simp [Text.quoteForDocument, quoted?, hread]

end Yaml

end SemanticLayer
