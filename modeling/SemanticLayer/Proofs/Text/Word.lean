import Mathlib.Data.List.TakeWhile
import Mathlib.Tactic.Common
import SemanticLayer.Text.Word

/-!
# Whole words

The runs of a text are its parts of one class with no character of the class next to them, wherever
they stand. So a text has those words that occur in it somewhere without a word character right in
front of them or right behind them.
-/

namespace SemanticLayer.Text

/-! ### Parts that stand apart -/

/-- The part stands somewhere in the text with no character of the class `p` next to it. -/
def StandsApart (p : Char → Bool) (part cs : List Char) : Prop :=
  ∃ before after, cs = before ++ part ++ after ∧
    (∀ c ∈ before.getLast?, p c = false) ∧ ∀ c ∈ after.head?, p c = false

variable {p : Char → Bool} {c : Char} {part first rest cs : List Char}

/-- A part of the class that starts a text reaches as far as any other one that stands apart. -/
lemma eq_of_append_eq (hfirst : ∀ c ∈ first, p c) (hrest : ∀ c ∈ rest.head?, p c = false)
    (hpart : ∀ c ∈ part, p c) {after : List Char} (hafter : ∀ c ∈ after.head?, p c = false)
    (h : first ++ rest = part ++ after) : part = first := by
  rcases List.append_eq_append_iff.1 h with ⟨more, rfl, rfl⟩ | ⟨more, rfl, rfl⟩
  · cases more with
    | nil => exact List.append_nil first
    | cons c more => simpa [hpart c (by simp)] using hrest c rfl
  · cases more with
    | nil => exact (List.append_nil part).symm
    | cons c more => simpa [hfirst c (by simp)] using hafter c rfl

/-- Behind a start of one class that is left out, everything that stands apart stands apart in the
whole. -/
lemma standsApart_append_iff (hfirst : ∀ c ∈ first, p c)
    (hrest : ∀ c ∈ rest.head?, p c = false) (hpart : ∀ c ∈ part, p c) (hpart' : part ≠ []) :
    StandsApart p part (first ++ rest) ↔ part = first ∨ StandsApart p part rest := by
  constructor
  · rintro ⟨before, after, heq, hbefore, hafter⟩
    rw [List.append_assoc] at heq
    rcases List.append_eq_append_iff.1 heq with ⟨more, rfl, hmore⟩ | ⟨more, hfirst', hmore⟩
    · right
      refine ⟨more, after, by rw [hmore, List.append_assoc], ?_, hafter⟩
      cases more with
      | nil => simp
      | cons c more => simpa using hbefore
    · -- a character in front of the part would be one of the start
      obtain rfl : before = [] := by
        by_contra hnil
        obtain ⟨start, c, rfl⟩ := List.eq_nil_or_concat before |>.resolve_left hnil
        simpa [hfirst c (by simp [hfirst'])] using hbefore c (by simp)
      exact .inl (eq_of_append_eq hfirst hrest hpart hafter heq)
  · rintro (rfl | ⟨before, after, rfl, hbefore, hafter⟩)
    · exact ⟨[], rest, rfl, by simp, hrest⟩
    · refine ⟨first ++ before, after, by simp, ?_, hafter⟩
      cases before with
      | nil =>
        obtain ⟨c, part, rfl⟩ := List.exists_cons_of_ne_nil hpart'
        simpa [hpart c (by simp)] using hrest c rfl
      | cons c before => simpa [List.getLast?_append] using hbefore

/-- A character of another class makes no difference to what stands apart behind it. -/
lemma standsApart_cons_iff (hc : p c = false) (hpart : ∀ c ∈ part, p c) (hpart' : part ≠ []) :
    StandsApart p part (c :: cs) ↔ StandsApart p part cs := by
  constructor
  · rintro ⟨before, after, heq, hbefore, hafter⟩
    cases before with
    | nil =>
      obtain ⟨d, part, rfl⟩ := List.exists_cons_of_ne_nil hpart'
      obtain rfl : c = d := (List.cons.inj heq).1
      simp [hpart c (by simp)] at hc
    | cons d before =>
      refine ⟨before, after, (List.cons.inj heq).2, ?_, hafter⟩
      cases before with
      | nil => simp
      | cons e before => simpa using hbefore
  · rintro ⟨before, after, rfl, hbefore, hafter⟩
    refine ⟨c :: before, after, rfl, ?_, hafter⟩
    cases before with
    | nil => simpa using hc
    | cons d before => simpa using hbefore

/-! ### Runs -/

lemma runs_cons_of_neg (hc : p c = false) : runs p (c :: cs) = runs p cs := by
  simp [runs, hc]

/-- A run goes on as far as the class does. -/
lemma runs_cons_of_pos (hc : p c) :
    runs p (c :: cs) = (c :: cs.takeWhile p) :: runs p (cs.dropWhile p) := by
  induction cs generalizing c with
  | nil => simp [runs, hc]
  | cons d cs ih =>
    rw [runs.eq_def p (c :: d :: cs)]
    by_cases hd : p d
    · simp [hc, hd, ih hd]
    · have hd' : p d = false := by simpa using hd
      rw [List.takeWhile_cons_of_neg hd, List.dropWhile_cons_of_neg hd]
      cases hruns : runs p (d :: cs) <;> simp [hc, hd', hruns]

/-- A text starts with a character that is left out or with a run, and goes on behind it. -/
@[elab_as_elim]
theorem runs_induction {motive : List Char → Prop} (p : Char → Bool) (nil : motive [])
    (skip : ∀ c cs, p c = false → motive cs → motive (c :: cs))
    (run : ∀ c cs, p c → motive (cs.dropWhile p) → motive (c :: cs)) (cs : List Char) :
    motive cs := by
  induction hlength : cs.length using Nat.strong_induction_on generalizing cs with
  | _ n ih =>
    subst hlength
    cases cs with
    | nil => exact nil
    | cons c cs =>
      by_cases hc : p c
      · have hshorter : (cs.dropWhile p).length < (c :: cs).length :=
          Nat.lt_succ_of_le (List.dropWhile_sublist p).length_le
        exact run c cs hc (ih _ hshorter _ rfl)
      · exact skip c cs (by simpa using hc) (ih _ (Nat.lt_succ_self _) cs rfl)

/-- No character of the class is right behind a run. -/
lemma of_mem_head?_dropWhile : ∀ d ∈ (cs.dropWhile p).head?, p d = false := by
  intro d hd
  have hstop := List.head?_dropWhile_not p cs
  rw [hd] at hstop
  simpa using hstop

/-- The runs of a text are its parts that stand apart. -/
theorem mem_runs_iff : part ∈ runs p cs ↔
    part ≠ [] ∧ (∀ c ∈ part, p c) ∧ StandsApart p part cs := by
  induction cs using runs_induction p with
  | nil =>
    refine iff_of_false (by simp [runs]) ?_
    rintro ⟨hpart', -, before, after, heq, -, -⟩
    simp at heq
    exact hpart' heq.2.1
  | skip c cs hc ih =>
    rw [runs_cons_of_neg hc, ih]
    exact and_congr_right fun hpart' => and_congr_right fun hpart =>
      (standsApart_cons_iff hc hpart hpart').symm
  | run c cs hc ih =>
    have hfirst : ∀ d ∈ c :: cs.takeWhile p, p d :=
      List.forall_mem_cons.2 ⟨hc, fun d hd => List.mem_takeWhile_imp hd⟩
    have happend : c :: cs.takeWhile p ++ cs.dropWhile p = c :: cs := by simp
    rw [runs_cons_of_pos hc, List.mem_cons, ih, ← happend]
    constructor
    · rintro (rfl | ⟨hpart', hpart, hapart⟩)
      · exact ⟨by simp, hfirst, [], _, rfl, by simp, of_mem_head?_dropWhile⟩
      · refine ⟨hpart', hpart, ?_⟩
        exact (standsApart_append_iff hfirst of_mem_head?_dropWhile hpart hpart').2 (.inr hapart)
    · rintro ⟨hpart', hpart, hapart⟩
      rw [standsApart_append_iff hfirst of_mem_head?_dropWhile hpart hpart'] at hapart
      exact hapart.imp id fun hapart => ⟨hpart', hpart, hapart⟩

/-! ### Words -/

/-- The text has the word somewhere, with no word character next to it. -/
structure HasWord (text word : String) : Prop where
  nonempty   : word ≠ ""
  characters : ∀ c ∈ word.toList, isWord c
  apart      : StandsApart isWord word.toList text.toList

theorem mem_wordsOf_iff {text word : String} : word ∈ wordsOf text ↔ HasWord text word := by
  have hmem : word ∈ wordsOf text ↔ word.toList ∈ runs isWord text.toList := by
    rw [wordsOf, List.mem_map]
    constructor
    · rintro ⟨part, hpart, rfl⟩
      rwa [String.toList_ofList]
    · intro h
      exact ⟨word.toList, h, String.ofList_toList⟩
  rw [hmem, mem_runs_iff]
  constructor
  · rintro ⟨hne, hcharacters, hapart⟩
    exact ⟨by simpa using hne, hcharacters, hapart⟩
  · rintro ⟨hne, hcharacters, hapart⟩
    exact ⟨by simpa using hne, hcharacters, hapart⟩

end SemanticLayer.Text
