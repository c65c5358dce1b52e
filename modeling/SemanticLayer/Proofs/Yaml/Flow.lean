import Mathlib.Data.List.Forall2
import SemanticLayer.Proofs.Document.Layout
import SemanticLayer.Proofs.Yaml.Quoted
import SemanticLayer.Yaml.Flow

/-!
# Written nodes are read back

Between brackets the columns do not matter, so a reader takes the text of a node to the node
wherever the text stands: `Spells`. The texts of lists and objects are read back if the texts of
their parts are. A text of `n` characters is read with a fuel of `4 * n`.
-/

namespace SemanticLayer.Yaml

open Document (newline contents)

/-! ### Gaps -/

/-- Characters that stand between two signs. -/
def IsGap (cs : List Char) : Prop := ∀ c ∈ cs, c = ' ' ∨ c = '\n'

/-- A gap ends in front of the character. -/
def IsSolid (c : Char) : Prop := isWhite c = false ∧ c ≠ '#'

instance (c : Char) : Decidable (IsSolid c) := inferInstanceAs (Decidable (_ ∧ _))

/-- The character ends an item. -/
def IsEnd (c : Char) : Prop := c = ',' ∨ c = ']' ∨ c = '\x7d'

lemma isGap_nil : IsGap [] := fun _ h => absurd h List.not_mem_nil

lemma isGap_newline (k : ℕ) : IsGap (newline k) := by
  intro c hc
  obtain rfl | hc := List.mem_cons.1 hc
  · exact .inr rfl
  · exact .inl (List.eq_of_mem_replicate hc)

variable {c : Char} {gap : List Char}

lemma IsEnd.isSolid (h : IsEnd c) : IsSolid c := by
  obtain rfl | rfl | rfl := h <;> decide

lemma next_gapFrom (hgap : IsGap gap) (hc : IsSolid c) (spaced fresh : Bool) (level col : ℕ)
    (cs : List Char) :
    ∃ col', (gapFrom false spaced fresh level col (gap ++ c :: cs)).next = ⟨col', c :: cs⟩ := by
  induction gap generalizing spaced fresh level col with
  | nil =>
    obtain ⟨hwhite, hcomment⟩ := hc
    simp only [isWhite, Bool.or_eq_false_iff, beq_eq_false_iff_ne] at hwhite
    exact ⟨col, by simp [gapFrom, hwhite, hcomment]⟩
  | cons d gap ih =>
    obtain ⟨hd, htail⟩ := List.forall_mem_cons.1 hgap
    obtain rfl | rfl := hd
    · simpa [gapFrom] using ih htail true fresh _ _
    · simpa [gapFrom] using ih htail true true 0 0

lemma within?_gap (hgap : IsGap gap) (hc : IsSolid c) (col : ℕ) (cs : List Char) :
    ∃ col', Cursor.within? 0 ⟨col, gap ++ c :: cs⟩ = some ⟨col', c :: cs⟩ := by
  obtain ⟨col', hnext⟩ := next_gapFrom hgap hc (col == 0) (col == 0) col col cs
  exact ⟨col', by simp [Cursor.within?, Cursor.gap, hnext, Cursor.atEnd]⟩

/-! ### Starts and ends of nodes -/

/-- A node may start with the character. -/
structure IsStart (c : Char) : Prop where
  solid    : IsSolid c
  inside   : ¬IsEnd c
  unmarked : c ≠ '?' ∧ c ≠ ':' ∧ c ≠ '&' ∧ c ≠ '!'

/-- What follows a node between brackets. -/
def Follows (rest : List Char) : Prop :=
  ∃ gap c cs, IsGap gap ∧ IsEnd c ∧ rest = gap ++ c :: cs

/-- The text is read as the node between brackets. -/
structure Spells (cs : List Char) (node : Node) : Prop where
  start : ∃ c ds, cs = c :: ds ∧ IsStart c
  read  : ∀ fuel col rest, 4 * cs.length ≤ fuel → Follows rest →
    ∃ col', inline? fuel true 0 ⟨col, cs ++ rest⟩ = some (node, ⟨col', rest⟩)

section Start

variable {cs : List Char} {col : ℕ}

lemma startsWith_cons (d : Char) : Cursor.startsWith d ⟨col, c :: cs⟩ = (c == d) := by
  simp [Cursor.startsWith]

lemma endsItem_of_not_isEnd (h : ¬IsEnd c) : Cursor.endsItem ⟨col, c :: cs⟩ = false := by
  simpa [Cursor.endsItem, startsWith_cons, IsEnd, and_assoc] using h

lemma property?_of_isStart (h : IsStart c) : property? ⟨col, c :: cs⟩ = none := by
  obtain ⟨-, -, hname, htag⟩ := h.unmarked
  simp [property?, hname, htag]

lemma inlineOrEmpty?_of_isStart (h : IsStart c) (fuel : ℕ) (bracketed : Bool) (least : ℕ) :
    inlineOrEmpty? (fuel + 1) bracketed least ⟨col, c :: cs⟩ =
      inline? fuel bracketed least ⟨col, c :: cs⟩ := by
  obtain ⟨-, hcolon, -⟩ := h.unmarked
  have hat : Cursor.atColon ⟨col, c :: cs⟩ = false := by simp [Cursor.atColon, hcolon]
  simp [inlineOrEmpty?, endsItem_of_not_isEnd h.inside, hat]

lemma atSign_of_isStart (h : IsStart c) : Cursor.atSign '?' ⟨col, c :: cs⟩ = false := by
  simp [Cursor.atSign, h.unmarked.1]

end Start

/-! ### Plain scalars -/

/-- A character without a meaning of its own. -/
def isPlainCharacter (c : Char) : Bool := c.isAlphanum || c == '.' || c == '+' || c == '-'

section Plain

variable {cs rest : List Char}

lemma ne_of_isPlainCharacter {d : Char} (hc : isPlainCharacter c)
    (hd : isPlainCharacter d = false) : c ≠ d := by
  rintro rfl
  exact absurd hc (by simp [hd])

lemma isWhite_of_isPlainCharacter (h : isPlainCharacter c) : isWhite c = false := by
  have hspace := ne_of_isPlainCharacter h (d := ' ') (by decide)
  have htab := ne_of_isPlainCharacter h (d := '\t') (by decide)
  have hnewline := ne_of_isPlainCharacter h (d := '\n') (by decide)
  simp [isWhite, hspace, htab, hnewline]

lemma isBracketSign_of_isPlainCharacter (h : isPlainCharacter c) : isBracketSign c = false := by
  have hcomma := ne_of_isPlainCharacter h (d := ',') (by decide)
  have hleft := ne_of_isPlainCharacter h (d := '[') (by decide)
  have hright := ne_of_isPlainCharacter h (d := ']') (by decide)
  have hopening := ne_of_isPlainCharacter h (d := '\x7b') (by decide)
  have hclosing := ne_of_isPlainCharacter h (d := '\x7d') (by decide)
  simp [isBracketSign, hcomma, hleft, hright, hopening, hclosing]

lemma isStart_of_isPlainCharacter (h : isPlainCharacter c) : IsStart c where
  solid := ⟨isWhite_of_isPlainCharacter h, ne_of_isPlainCharacter h (by decide)⟩
  inside := by
    rintro (rfl | rfl | rfl) <;> exact absurd h (by decide)
  unmarked := ⟨ne_of_isPlainCharacter h (by decide), ne_of_isPlainCharacter h (by decide),
    ne_of_isPlainCharacter h (by decide), ne_of_isPlainCharacter h (by decide)⟩

lemma plainFrom_gap {gap : List Char} (hgap : IsGap gap) (hc : IsEnd c) (least : ℕ) (stop : Cursor)
    (run : Run) (col : ℕ) :
    plainFrom true least stop run col (gap ++ c :: rest) = ([], stop) := by
  induction gap generalizing run col with
  | nil =>
    obtain rfl | rfl | rfl := hc <;> simp [plainFrom, isWhite, isBracketSign]
  | cons d gap ih =>
    obtain ⟨hd, htail⟩ := List.forall_mem_cons.1 hgap
    obtain rfl | rfl := hd
    · simpa [plainFrom, isWhite] using ih htail _ _
    · simpa [plainFrom, isWhite] using ih htail _ _

/-- A plain scalar is read up to the gap behind it. -/
lemma plainFrom_plain (hcs : ∀ c ∈ cs, isPlainCharacter c) (hrest : Follows rest) (col : ℕ) :
    plainFrom true 0 ⟨col, cs ++ rest⟩ [] col (cs ++ rest) = (cs, ⟨col + cs.length, rest⟩) := by
  induction cs generalizing col with
  | nil =>
    obtain ⟨gap, c, ds, hgap, hc, rfl⟩ := hrest
    exact plainFrom_gap hgap hc 0 _ [] col
  | cons c cs ih =>
    obtain ⟨hc, hcs⟩ := List.forall_mem_cons.1 hcs
    have hcolon := ne_of_isPlainCharacter hc (d := ':') (by decide)
    simp [plainFrom, isWhite_of_isPlainCharacter hc, isBracketSign_of_isPlainCharacter hc, hcolon,
      ih hcs (col + 1), before, Run.folded, Nat.add_assoc, Nat.add_comm 1]

lemma startsPlain_plain (hcs : ∀ d ∈ c :: cs, isPlainCharacter d) (hdash : c = '-' → cs ≠ []) :
    startsPlain true (c :: (cs ++ rest)) = true := by
  obtain ⟨hc, hcs⟩ := List.forall_mem_cons.1 hcs
  have hall : reservedSigns.all (fun d => !isPlainCharacter d) = true := by decide
  have hreserved : reservedSigns.contains c = false := by
    rw [List.contains_eq_any_beq, List.any_eq_false]
    intro d hd
    have hne : c ≠ d := ne_of_isPlainCharacter hc (by simpa using List.all_eq_true.1 hall d hd)
    simpa using hne
  have hseparates : c = '-' → separates true (cs ++ rest) = false := by
    intro h
    obtain ⟨d, ds, rfl⟩ := List.exists_cons_of_ne_nil (hdash h)
    have hd := hcs d List.mem_cons_self
    simp [separates, isWhite_of_isPlainCharacter hd, isBracketSign_of_isPlainCharacter hd]
  have hquestion := ne_of_isPlainCharacter hc (d := '?') (by decide)
  have hcolon := ne_of_isPlainCharacter hc (d := ':') (by decide)
  simp only [startsPlain, isWhite_of_isPlainCharacter hc, isBracketSign_of_isPlainCharacter hc,
    hreserved]
  by_cases h : c = '-'
  · simp [h, hseparates h]
  · simp [h, hquestion, hcolon]

/-- A text without signs that have a meaning is read back. -/
lemma spells_plain {s : String} (hs : s.toList = c :: cs)
    (hcs : ∀ d ∈ c :: cs, isPlainCharacter d) (hdash : c = '-' → cs ≠ []) :
    Spells s.toList (.plain s) where
  start := ⟨c, cs, hs, isStart_of_isPlainCharacter (hcs c List.mem_cons_self)⟩
  read := by
    intro fuel col rest hfuel hrest
    have hc := hcs c List.mem_cons_self
    rw [hs, List.length_cons] at hfuel
    obtain ⟨fuel, rfl⟩ : ∃ n, fuel = n + 1 := ⟨fuel - 1, by omega⟩
    have hplain : plain? true 0 ⟨col, c :: cs ++ rest⟩ =
        some (s, ⟨col + (c :: cs).length, rest⟩) := by
      rw [plain?, List.cons_append, if_pos (startsPlain_plain hcs hdash), ← List.cons_append,
        plainFrom_plain hcs hrest, ← hs]
      simp
    refine ⟨col + (c :: cs).length, ?_⟩
    rw [List.cons_append] at hplain
    rw [hs, List.cons_append, inline?, property?_of_isStart (isStart_of_isPlainCharacter hc)]
    have h₁ : c ≠ '[' := ne_of_isPlainCharacter hc (by decide)
    have h₂ : c ≠ '\x7b' := ne_of_isPlainCharacter hc (by decide)
    have h₃ : c ≠ '*' := ne_of_isPlainCharacter hc (by decide)
    have h₄ : c ≠ '\'' := ne_of_isPlainCharacter hc (by decide)
    have h₅ : c ≠ '"' := ne_of_isPlainCharacter hc (by decide)
    simp [scalar?, h₁, h₂, h₃, h₄, h₅, hplain]

end Plain

/-! ### Keys and values -/

section Pair

variable {cs : List Char} {node : Node}

/-- The text is read as a key and, behind a colon, a value, or as an item without a key. -/
structure SpellsPair (cs : List Char) (key : Node) (value : Option Node) : Prop where
  start : ∃ c ds, cs = c :: ds ∧ IsStart c
  read  : ∀ fuel col gap c rest, 4 * cs.length + 2 ≤ fuel → IsGap gap → IsEnd c →
    ∃ col', pair? fuel 0 ⟨col, cs ++ (gap ++ c :: rest)⟩ = some (key, value, ⟨col', c :: rest⟩)

/-- A node that stands alone is an item. -/
lemma Spells.pair (h : Spells cs node) : SpellsPair cs node none where
  start := h.start
  read := by
    intro fuel col gap c rest hfuel hgap hc
    obtain ⟨d, ds, rfl, hd⟩ := h.start
    obtain ⟨fuel, rfl⟩ : ∃ n, fuel = n + 2 := ⟨fuel - 2, by omega⟩
    obtain ⟨col', hread⟩ :=
      h.read fuel col (gap ++ c :: rest) (by omega) ⟨gap, c, rest, hgap, hc, rfl⟩
    obtain ⟨col'', hnext⟩ := within?_gap hgap hc.isSolid col' rest
    have hcolon : ∀ x, x = c ∨ x ∈ gap → x ≠ ':' := by
      rintro x (rfl | hx) rfl
      · obtain h | h | h := hc <;> exact absurd h (by decide)
      · obtain h | h := hgap _ hx <;> exact absurd h (by decide)
    have hstart : Cursor.startsWith ':' ⟨col', gap ++ c :: rest⟩ = false := by
      cases gap with
      | nil => simpa [startsWith_cons] using hcolon c (.inl rfl)
      | cons x gap => simpa [startsWith_cons] using hcolon x (.inr List.mem_cons_self)
    have hat : Cursor.atColon ⟨col'', c :: rest⟩ = false := by
      simp [Cursor.atColon, hcolon c (.inl rfl)]
    refine ⟨col'', ?_⟩
    rw [pair?]
    simp only [List.cons_append, atSign_of_isStart hd, Bool.false_eq_true, if_false,
      inlineOrEmpty?_of_isStart hd]
    rw [List.cons_append] at hread
    simp [hread, hnext, Cursor.pastColon?, hstart, hat]

/-- The text of a quoted text, with its first character. -/
lemma toList_quoteForDocument (s : String) :
    (Text.quoteForDocument s).toList =
      '"' :: (s.toList.flatMap Text.escapeForDocument ++ ['"']) := by
  simp [Text.quoteForDocument]

lemma isStart_quote : IsStart '"' := ⟨by decide, by simp [IsEnd], by decide⟩

lemma inline?_quoteForDocument (fuel : ℕ) (bracketed : Bool) (col : ℕ) (s : String)
    (rest : List Char) :
    ∃ col', inline? (fuel + 1) bracketed 0 ⟨col, (Text.quoteForDocument s).toList ++ rest⟩ =
      some (.quoted s, ⟨col', rest⟩) := by
  obtain ⟨col', hread⟩ := quoted?_quoteForDocument col s rest
  refine ⟨col', ?_⟩
  rw [toList_quoteForDocument, List.cons_append] at hread ⊢
  rw [inline?, property?_of_isStart isStart_quote]
  generalize s.toList.flatMap Text.escapeForDocument ++ ['"'] ++ rest = text at hread ⊢
  simp [scalar?, hread]

lemma spells_quoteForDocument (s : String) :
    Spells (Text.quoteForDocument s).toList (.quoted s) where
  start := ⟨'"', _, toList_quoteForDocument s, isStart_quote⟩
  read := by
    intro fuel col rest hfuel _
    obtain ⟨fuel, rfl⟩ : ∃ n, fuel = n + 1 := by
      rw [toList_quoteForDocument, List.length_cons] at hfuel
      exact ⟨fuel - 1, by omega⟩
    exact inline?_quoteForDocument fuel true col s rest

/-- A quoted text with a colon behind it is the key of the node that follows. -/
lemma Spells.entry (h : Spells cs node) (s : String) :
    SpellsPair ((Text.quoteForDocument s).toList ++ ':' :: ' ' :: cs) (.quoted s) (some node) where
  start := ⟨'"', _, by rw [toList_quoteForDocument, List.cons_append], isStart_quote⟩
  read := by
    intro fuel col gap c rest hfuel hgap hc
    simp only [List.length_append, List.length_cons] at hfuel
    obtain ⟨d, ds, rfl, hd⟩ := h.start
    obtain ⟨fuel, rfl⟩ : ∃ n, fuel = n + 3 := ⟨fuel - 3, by omega⟩
    obtain ⟨col₁, hkey⟩ := inline?_quoteForDocument fuel true col s
      (':' :: ' ' :: (d :: ds ++ (gap ++ c :: rest)))
    obtain ⟨col₂, hcolon⟩ := within?_gap isGap_nil (show IsSolid ':' by decide) col₁
      (' ' :: (d :: ds ++ (gap ++ c :: rest)))
    obtain ⟨col₃, hvalue⟩ := within?_gap (show IsGap [' '] by simp [IsGap]) hd.solid
      (col₁ + 1) (ds ++ (gap ++ c :: rest))
    obtain ⟨col₄, hread⟩ :=
      h.read (fuel + 1) col₃ (gap ++ c :: rest) (by omega) ⟨gap, c, rest, hgap, hc, rfl⟩
    obtain ⟨col₅, hnext⟩ := within?_gap hgap hc.isSolid col₄ rest
    refine ⟨col₅, ?_⟩
    rw [toList_quoteForDocument] at hkey ⊢
    simp only [List.cons_append, List.append_assoc, List.nil_append] at hkey hcolon hvalue hread ⊢
    rw [pair?]
    simp only [atSign_of_isStart isStart_quote, Bool.false_eq_true, if_false,
      inlineOrEmpty?_of_isStart isStart_quote, hkey, hcolon, Cursor.pastColon?, startsWith_cons,
      beq_self_eq_true, if_true, Cursor.drop, List.drop_succ_cons, List.drop_zero, hvalue,
      inlineOrEmpty?_of_isStart hd, hread, hnext, Option.map_some]

end Pair

/-! ### Collections -/

section Contents

variable {k : ℕ} {closing : Char} {rest t : List Char} {ts : List (List Char)}

/-- What stands behind the first text of a collection. -/
lemma contents_cons (k : ℕ) (hclosing : IsEnd closing) (t rest : List Char)
    (ts : List (List Char)) :
    ∃ gap c cs, IsGap gap ∧ IsEnd c ∧
      contents k closing (t :: ts) ++ rest = newline (k + 2) ++ (t ++ (gap ++ c :: cs)) ∧
      (ts = [] ∧ c = closing ∧ cs = rest ∨
        ts ≠ [] ∧ c = ',' ∧ cs = contents k closing ts ++ rest) := by
  cases ts with
  | nil =>
    refine ⟨newline k, closing, rest, isGap_newline k, hclosing, ?_, .inl ⟨rfl, rfl, rfl⟩⟩
    simp [contents]
  | cons t' ts =>
    refine ⟨[], ',', contents k closing (t' :: ts) ++ rest, isGap_nil, .inl rfl, ?_,
      .inr ⟨by simp, rfl, rfl⟩⟩
    simp [contents]

lemma length_contents_cons (k : ℕ) (closing : Char) (t : List Char) (ts : List (List Char)) :
    t.length + 2 ≤ (contents k closing (t :: ts)).length ∧
      (contents k closing ts).length + 2 ≤ (contents k closing (t :: ts)).length := by
  cases ts <;> simp [contents, newline] <;> omega

/-- The first text of a collection is read up to the closing bracket or to a comma. -/
lemma SpellsPair.exists_pair? {key : Node} {value : Option Node} (h : SpellsPair t key value)
    (k : ℕ) (ts : List (List Char)) (hclosing : IsEnd closing) {fuel : ℕ}
    (hfuel : 4 * t.length + 2 ≤ fuel) (col : ℕ) (rest : List Char) :
    ∃ start col₂ c cs, Cursor.within? 0 ⟨col, contents k closing (t :: ts) ++ rest⟩ = some start ∧
      start.endsItem = false ∧ pair? fuel 0 start = some (key, value, ⟨col₂, c :: cs⟩) ∧
      (ts = [] ∧ c = closing ∧ cs = rest ∨
        ts ≠ [] ∧ c = ',' ∧ cs = contents k closing ts ++ rest) := by
  obtain ⟨d, ds, rfl, hd⟩ := h.start
  obtain ⟨gap, c, cs, hgap, hc, htext, hcases⟩ := contents_cons k hclosing (d :: ds) rest ts
  obtain ⟨col₁, hstart⟩ :=
    within?_gap (isGap_newline (k + 2)) hd.solid col (ds ++ (gap ++ c :: cs))
  obtain ⟨col₂, hread⟩ := h.read fuel col₁ gap c cs hfuel hgap hc
  refine ⟨⟨col₁, d :: ds ++ (gap ++ c :: cs)⟩, col₂, c, cs, ?_, endsItem_of_not_isEnd hd.inside,
    hread, hcases⟩
  rw [htext]
  exact hstart

/-! ### One turn for each item -/

/-- The character closes a collection. -/
def IsClosing (c : Char) : Prop := c = ']' ∨ c = '\x7d'

lemma IsClosing.isEnd (h : IsClosing closing) : IsEnd closing := .inr h

lemma IsClosing.startsWith_eq_false {c : Cursor} (h : IsClosing closing)
    (hc : c.endsItem = false) : c.startsWith closing = false := by
  simp only [Cursor.endsItem, Bool.or_eq_false_iff] at hc
  obtain ⟨⟨-, hbracket⟩, hbrace⟩ := hc
  rcases h with rfl | rfl
  · exact hbracket
  · exact hbrace

variable {α : Type} {item : Node → Option Node → α}
  {read : ℕ → Cursor → Option (List α × Cursor)} {fuel : ℕ}

/-- The reader takes one item in each turn, until it comes to the closing bracket. Both collections
are read like this, with their own bracket and their own kind of item. -/
structure Collects (closing : Char) (item : Node → Option Node → α)
    (read : ℕ → Cursor → Option (List α × Cursor)) : Prop where
  closes : IsClosing closing
  empty  : ∀ fuel c start, Cursor.within? 0 c = some start → start.startsWith closing = true →
    read (fuel + 1) c = some ([], start.drop 1)
  last   : ∀ fuel c start key value e, Cursor.within? 0 c = some start →
    start.startsWith closing = false → start.endsItem = false →
    pair? fuel 0 start = some (key, value, e) → e.startsWith closing = true →
    read (fuel + 1) c = some ([item key value], e.drop 1)
  next   : ∀ fuel c start key value e as e', Cursor.within? 0 c = some start →
    start.startsWith closing = false → start.endsItem = false →
    pair? fuel 0 start = some (key, value, e) → e.startsWith closing = false →
    e.startsWith ',' = true → read fuel (e.drop 1) = some (as, e') →
    read (fuel + 1) c = some (item key value :: as, e')

lemma collects_items? : Collects ']' itemOf fun fuel => items? fuel 0 where
  closes := .inl rfl
  empty  := by
    intro fuel c start hstart hclose
    simp [items?, hstart, hclose]
  last   := by
    intro fuel c start key value e hstart hopen hends hpair hclose
    simp [items?, hstart, hopen, hends, hpair, hclose]
  next   := by
    intro fuel c start key value e as e' hstart hopen hends hpair hclose hcomma hothers
    simp [items?, hstart, hopen, hends, hpair, hclose, hcomma, hothers]

lemma collects_entries? :
    Collects '\x7d' (fun key value => (key, value.getD .empty)) fun fuel => entries? fuel 0 where
  closes := .inr rfl
  empty  := by
    intro fuel c start hstart hclose
    simp [entries?, hstart, hclose]
  last   := by
    intro fuel c start key value e hstart hopen hends hpair hclose
    simp [entries?, hstart, hopen, hends, hpair, hclose]
  next   := by
    intro fuel c start key value e as e' hstart hopen hends hpair hclose hcomma hothers
    simp [entries?, hstart, hopen, hends, hpair, hclose, hcomma, hothers]

/-- The text is read as the pair that the item is made of. -/
def SpellsItem (item : Node → Option Node → α) (cs : List Char) (a : α) : Prop :=
  ∃ key value, SpellsPair cs key value ∧ item key value = a

lemma Collects.read_closing (h : Collects closing item read) (col : ℕ) (rest : List Char) :
    ∃ col', read (fuel + 1) ⟨col, closing :: rest⟩ = some ([], ⟨col', rest⟩) := by
  obtain ⟨col', hclose⟩ := within?_gap isGap_nil h.closes.isEnd.isSolid col rest
  exact ⟨col' + 1, h.empty fuel _ _ hclose (by simp [startsWith_cons])⟩

/-- The items of a collection are read one by one. -/
lemma Collects.read_contents (h : Collects closing item read) {as : List α}
    (has : List.Forall₂ (SpellsItem item) ts as)
    (hfuel : 4 * (contents k closing ts).length ≤ fuel) (col : ℕ) (rest : List Char) :
    ∃ col', read fuel ⟨col, contents k closing ts ++ rest⟩ = some (as, ⟨col', rest⟩) := by
  induction has generalizing fuel col with
  | nil =>
    simp only [contents, List.length_singleton] at hfuel
    obtain ⟨fuel, rfl⟩ : ∃ n, fuel = n + 1 := ⟨fuel - 1, by omega⟩
    exact h.read_closing col rest
  | @cons t a ts as ht hts ih =>
    obtain ⟨hfirst, hothers⟩ := length_contents_cons k closing t ts
    obtain ⟨fuel, rfl⟩ : ∃ n, fuel = n + 1 := ⟨fuel - 1, by omega⟩
    obtain ⟨key, value, hpair, rfl⟩ := ht
    obtain ⟨start, col₂, c, cs, hstart, hends, hread, hcases⟩ :=
      hpair.exists_pair? k ts h.closes.isEnd (show _ ≤ fuel by omega) col rest
    have hopen := h.closes.startsWith_eq_false hends
    rcases hcases with ⟨rfl, rfl, rfl⟩ | ⟨-, rfl, rfl⟩
    · -- the closing bracket
      obtain rfl := List.forall₂_nil_left_iff.1 hts
      have hclose := h.last fuel _ start key value _ hstart hopen hends hread
      exact ⟨col₂ + 1, hclose (by simp [startsWith_cons])⟩
    · -- a comma
      have hcomma : (',' == closing) = false := by
        rcases h.closes with rfl | rfl <;> decide
      obtain ⟨col₃, hrest⟩ :=
        ih (show 4 * (contents k closing ts).length ≤ fuel by omega) (col₂ + 1)
      have hnext := h.next fuel _ start key value _ as ⟨col₃, rest⟩ hstart hopen hends hread
      refine ⟨col₃, hnext ?_ ?_ hrest⟩
      · rw [startsWith_cons, hcomma]
      · simp [startsWith_cons]

lemma isStart_bracket : IsStart '[' := ⟨by decide, by simp [IsEnd], by decide⟩

lemma isStart_brace : IsStart '\x7b' := ⟨by decide, by simp [IsEnd], by decide⟩

/-- A sequence whose items are read is read. -/
lemma spells_sequence {nodes : List Node} (k : ℕ) (h : List.Forall₂ Spells ts nodes) :
    Spells ('[' :: contents k ']' ts) (.sequence nodes) where
  start := ⟨'[', _, rfl, isStart_bracket⟩
  read := by
    intro fuel col rest hfuel _
    rw [List.length_cons] at hfuel
    obtain ⟨fuel, rfl⟩ : ∃ n, fuel = n + 1 := ⟨fuel - 1, by omega⟩
    have hitems : List.Forall₂ (SpellsItem itemOf) ts nodes :=
      h.imp fun _ node hnode => ⟨node, none, hnode.pair, rfl⟩
    obtain ⟨col', hread⟩ := collects_items?.read_contents hitems
      (show 4 * (contents k ']' ts).length ≤ fuel by omega) (col + 1) rest
    refine ⟨col', ?_⟩
    rw [List.cons_append, inline?, property?_of_isStart isStart_bracket]
    simp only [Cursor.drop, List.drop_succ_cons, List.drop_zero, hread, Option.map_some]

/-- A mapping whose entries are read is read, whatever follows it. -/
lemma inline?_mapping {entries : List (Node × Node)} {fuel : ℕ} (bracketed : Bool)
    (h : List.Forall₂ (fun cs entry => SpellsPair cs entry.1 (some entry.2)) ts entries)
    (hfuel : 4 * ('\x7b' :: contents k '\x7d' ts).length ≤ fuel) (col : ℕ) (rest : List Char) :
    ∃ col', inline? fuel bracketed 0 ⟨col, '\x7b' :: contents k '\x7d' ts ++ rest⟩ =
      some (.mapping entries, ⟨col', rest⟩) := by
  rw [List.length_cons] at hfuel
  obtain ⟨fuel, rfl⟩ : ∃ n, fuel = n + 1 := ⟨fuel - 1, by omega⟩
  have hentries : List.Forall₂ (SpellsItem fun key value => (key, value.getD .empty)) ts entries :=
    h.imp fun _ (key, value) hentry => ⟨key, some value, hentry, rfl⟩
  obtain ⟨col', hread⟩ := collects_entries?.read_contents hentries
    (show 4 * (contents k '\x7d' ts).length ≤ fuel by omega) (col + 1) rest
  refine ⟨col', ?_⟩
  rw [List.cons_append, inline?, property?_of_isStart isStart_brace]
  simp only [Cursor.drop, List.drop_succ_cons, List.drop_zero, hread, Option.map_some]

lemma spells_mapping {entries : List (Node × Node)} (k : ℕ)
    (h : List.Forall₂ (fun cs entry => SpellsPair cs entry.1 (some entry.2)) ts entries) :
    Spells ('\x7b' :: contents k '\x7d' ts) (.mapping entries) where
  start := ⟨'\x7b', _, rfl, isStart_brace⟩
  read _ col rest hfuel _ := inline?_mapping true h hfuel col rest

end Contents

end SemanticLayer.Yaml
