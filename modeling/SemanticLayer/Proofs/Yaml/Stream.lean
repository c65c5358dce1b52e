import Mathlib.Data.List.TakeWhile
import SemanticLayer.Proofs.Yaml.Meaning
import SemanticLayer.Yaml.Stream

/-!
# Rendered documents are read back

A rendered object is a text of one document: its lines start with a bracket or with a space, so none
of them is a mark, and the first one is no key of a block. The text is read as an inline node, and
that as the object, `ofYaml?_render`.
-/

namespace SemanticLayer

open Document (textAt contents)

/-! ### Lines -/

namespace Document

lemma isOneLine_escapeForDocument (c : Char) : IsOneLine (Text.escapeForDocument c) := by
  have hdigit {d : Char} {n : ℕ} (h : Text.digitValue? d = some n) : d ≠ '\n' ∧ d ≠ '\r' := by
    constructor
    · rintro rfl
      exact absurd h (by simp [Text.digitValue?])
    · rintro rfl
      exact absurd h (by simp [Text.digitValue?])
  obtain ⟨d, htext, he, hd⟩ | ⟨hc, htext⟩ | ⟨htext, hc, -⟩ := Text.escapeForDocument_cases c
  · have hreturn : d ≠ '\r' := by
      rintro rfl
      exact absurd he (by simp [Yaml.escaped?])
    rw [htext]
    simpa [IsOneLine] using ⟨hd, hreturn⟩
  · have hhigh := hdigit (Text.toNat_hexDigit (show c.toNat / 16 < 16 by omega))
    have hlow := hdigit (Text.toNat_hexDigit (show c.toNat % 16 < 16 by omega))
    rw [htext]
    simpa [IsOneLine] using ⟨hhigh, hlow⟩
  · rw [htext]
    refine List.forall_mem_singleton.2 ⟨?_, ?_⟩
    · rintro rfl
      exact absurd hc (by decide)
    · rintro rfl
      exact absurd hc (by decide)

lemma isOneLine_quoteForDocument (s : String) : IsOneLine (Text.quoteForDocument s).toList := by
  rw [Yaml.toList_quoteForDocument]
  refine List.forall_mem_cons.2 ⟨by decide, List.forall_mem_append.2 ⟨?_, by simp⟩⟩
  intro c hc
  obtain ⟨d, -, hd⟩ := List.mem_flatMap.1 hc
  exact isOneLine_escapeForDocument d c hd

lemma isOneLine_of_isNumberCharacter {cs : List Char}
    (h : ∀ c ∈ cs, Yaml.isNumberCharacter c) : IsOneLine cs := by
  intro c hc
  constructor
  · rintro rfl
    exact absurd (h _ hc) (by decide)
  · rintro rfl
    exact absurd (h _ hc) (by decide)

lemma isOneLine_fieldBlock {f : String × Document} (h : ∀ l ∈ f.2.lines, IsOneLine l.toList) :
    ∀ l ∈ fieldBlock f, IsOneLine l.toList := by
  obtain ⟨name, d⟩ := f
  have hcolon : IsOneLine ": ".toList := by simp [IsOneLine]
  exact isOneLine_onFirst (isOneLine_append (isOneLine_quoteForDocument name) hcolon) h

/-- There are no line breaks in the lines of a document. -/
lemma isOneLine_lines {d : Document} (h : d.IsSound) : ∀ l ∈ d.lines, IsOneLine l.toList := by
  induction h with
  | null => simp [lines, IsOneLine]
  | bool b => cases b <;> simp [lines, IsOneLine]
  | @int n =>
    rw [lines, List.forall_mem_singleton, Yaml.toList_toString_int]
    exact isOneLine_of_isNumberCharacter (Yaml.isNumberCharacter_of_mem_signed fun c hc =>
      Yaml.isNumberCharacter_of_isDigit (Text.isDigit_of_mem_toDigits c hc))
  | float x =>
    obtain ⟨cs, htext, -, hnumber, -⟩ := Yaml.exists_writes x
    rw [lines, List.forall_mem_singleton, htext]
    exact isOneLine_of_isNumberCharacter (Yaml.isNumberCharacter_of_mem_signed hnumber)
  | string s =>
    rw [lines, List.forall_mem_singleton]
    exact isOneLine_quoteForDocument s
  | list _ ih =>
    rw [lines, itemBlocks_eq]
    exact isOneLine_bracketed (by simp [IsOneLine]) (by simp [IsOneLine])
      (List.forall_mem_map.2 ih)
  | object _ _ ih =>
    rw [lines, fieldBlocks_eq]
    exact isOneLine_bracketed (by simp [IsOneLine]) (by simp [IsOneLine])
      (List.forall_mem_map.2 fun f hf => isOneLine_fieldBlock (ih f hf))

/-- The lines of a document are found again in its text. -/
lemma lines_render {d : Document} (h : d.IsSound) :
    Text.lines d.render.toList = d.lines.map String.toList := by
  rw [toList_render]
  refine Text.lines_unlines (by simpa using lines_ne_nil d) (List.forall_mem_map.2 ?_)
  intro l hl hmem
  exact (isOneLine_lines h l hl _ hmem).1 rfl

lemma not_mem_render {d : Document} (h : d.IsSound) : '\r' ∉ d.render.toList := by
  rw [toList_render]
  intro hmem
  obtain hc | ⟨l, hl, hmem⟩ := Text.mem_unlines hmem
  · exact absurd hc (by decide)
  · obtain ⟨line, hline, rfl⟩ := List.mem_map.1 hl
    exact (isOneLine_lines h line hline _ hmem).2 rfl

/-- The first line of an object that is not empty is the opening bracket, and the others start with
a space or with the closing bracket. -/
lemma lines_object (f : String × Document) (fs : List (String × Document)) :
    ∃ ls, (object (f :: fs)).lines = "\x7b" :: ls ∧
      ∀ l ∈ ls, ∃ c cs, l.toList = c :: cs ∧ (c = ' ' ∨ c = '\x7d') := by
  refine ⟨indent (stack (fieldBlocks (f :: fs))) ++ ["\x7d"], rfl, ?_⟩
  refine List.forall_mem_append.2 ⟨?_, List.forall_mem_singleton.2 ⟨_, _, rfl, .inr rfl⟩⟩
  simp only [indent, List.forall_mem_map]
  exact fun l _ => ⟨' ', ' ' :: l.toList, by simp, .inl rfl⟩

end Document

/-! ### The document of a text -/

namespace Yaml

lemma normalizeBreaks_of_not_mem {cs : List Char} (h : '\r' ∉ cs) : normalizeBreaks cs = cs := by
  induction cs with
  | nil => rfl
  | cons c cs ih =>
    rw [List.mem_cons, not_or] at h
    have hc : c ≠ '\r' := Ne.symm h.1
    simp [normalizeBreaks, hc, ih h.2]

/-- A line that starts with a space or with a closing bracket is no mark. -/
lemma isMark_eq_false {line cs : List Char} {c : Char} (hline : line = c :: cs)
    (hc : c = ' ' ∨ c = '\x7d') : isMark line = false := by
  obtain rfl | rfl := hc <;> simp [hline, isMark, pastMark?, startMark, endMark]

lemma start?_object (lines : List (List Char)) :
    start? false (['\x7b'] :: lines) = some (0, ['\x7b'] :: lines) := by
  have hstart : pastMark? startMark ['\x7b'] = none := by decide
  have hbare : isBare ['\x7b'] = false := by decide
  have hend : isEndLine ['\x7b'] = false := by decide
  simp [start?, hstart, hbare, hend]

/-- A text whose lines are those of an object is one document. -/
lemma nodeOf?_brace {cs : List Char} {lines : List (List Char)}
    (hlines : Text.lines cs = ['\x7b'] :: lines)
    (hstart : ∀ l ∈ lines, ∃ c ds, l = c :: ds ∧ (c = ' ' ∨ c = '\x7d')) (hreturn : '\r' ∉ cs) :
    nodeOf? cs = root? ⟨0, cs⟩ := by
  have hunlines : Text.unlines (['\x7b'] :: lines) = cs := by rw [← hlines, Text.unlines_lines]
  have hmark : withoutMark cs = cs := by
    rw [← hunlines]
    cases lines <;> rfl
  have hnone : ∀ l ∈ lines, (!isMark l) = true := by
    intro l hl
    obtain ⟨c, ds, hline, hc⟩ := hstart l hl
    rw [isMark_eq_false hline hc]
    rfl
  have htake : lines.takeWhile (fun l => !isMark l) = lines :=
    List.takeWhile_eq_self_iff.2 hnone
  have hdrop : lines.dropWhile (fun l => !isMark l) = [] :=
    List.dropWhile_eq_nil_iff.2 hnone
  rw [nodeOf?, hmark, normalizeBreaks_of_not_mem hreturn, hlines, start?_object]
  simp only [htake, hdrop, endsText, if_true, hunlines]

/-- The first line of an object is no key. -/
lemma key?_brace (fuel : ℕ) (cs : List Char) : key? fuel ⟨0, '\x7b' :: '\n' :: cs⟩ = none := by
  have hline : Cursor.line ⟨0, '\x7b' :: '\n' :: cs⟩ = ⟨0, ['\x7b']⟩ := by simp [Cursor.line]
  have hinline : inline? fuel false 0 ⟨0, ['\x7b']⟩ = none := by
    match fuel with
    | 0     => simp [inline?]
    | 1     => simp [inline?, property?, entries?]
    | _ + 2 =>
      simp [inline?, property?, entries?, Cursor.drop, Cursor.within?, Cursor.gap, gapFrom,
        Cursor.atEnd]
  rw [key?, hline, hinline]

/-- A brace that ends its line starts an inline node. -/
lemma root?_brace {cs : List Char} {node : Node} {fuel col : ℕ}
    (hfuel : fuelFor ('\x7b' :: '\n' :: cs) = fuel + 2)
    (hread : inline? fuel false 0 ⟨0, '\x7b' :: '\n' :: cs⟩ = some (node, ⟨col, []⟩)) :
    root? ⟨0, '\x7b' :: '\n' :: cs⟩ = some node := by
  have hgap : Cursor.gap ⟨0, '\x7b' :: '\n' :: cs⟩ = ⟨true, 0, ⟨0, '\x7b' :: '\n' :: cs⟩⟩ := by
    simp [Cursor.gap, gapFrom]
  have hend : (Cursor.gap ⟨col, []⟩).next.atEnd = true := by
    simp [Cursor.gap, gapFrom, Cursor.atEnd]
  have hfrom : blockFrom? (fuel + 1) ⟨0, 0, false⟩ true ⟨0, '\x7b' :: '\n' :: cs⟩ =
      some (node, ⟨col, []⟩) := by
    simp [blockFrom?, Cursor.atSign, key?_brace, property?_of_isStart isStart_brace,
      startsWith_cons, hread]
  have hblock : block? (fuel + 2) ⟨0, 0, false⟩ ⟨0, '\x7b' :: '\n' :: cs⟩ =
      some (node, ⟨col, []⟩) := by
    rw [block?, hgap]
    simp [Cursor.atEnd, Gap.tabbed, hfrom]
  rw [root?, hfuel, hblock]
  simp only [hend, if_true]

end Yaml

namespace Document

variable {f : String × Document} {fs : List (String × Document)}

lemma nodeOf?_render (h : (object (f :: fs)).IsSound) :
    Yaml.nodeOf? (object (f :: fs)).render.toList =
      Yaml.root? ⟨0, (object (f :: fs)).render.toList⟩ := by
  obtain ⟨ls, hls, hstart⟩ := lines_object f fs
  have hlines : Text.lines (object (f :: fs)).render.toList =
      ['\x7b'] :: ls.map String.toList := by
    rw [lines_render h, hls]
    rfl
  exact Yaml.nodeOf?_brace hlines (List.forall_mem_map.2 hstart) (not_mem_render h)

/-- A rendered object is read back. -/
theorem ofYaml?_render (h : (object (f :: fs)).IsSound) :
    ofYaml? (object (f :: fs)).render = some (object (f :: fs)) := by
  cases h with
  | object distinct fields_sound =>
  obtain ⟨entries, hspells, hentries⟩ :=
    Yaml.exists_entries (fun d => textAt 2 d.lines)
      fun f hf => Yaml.denotes_textAt (fields_sound f hf)
  have htext : (object (f :: fs)).render.toList =
      '\x7b' :: contents 0 '\x7d' ((f :: fs).map (Yaml.fieldText fun d => textAt 2 d.lines)) := by
    rw [toList_render, unlines_eq_textAt, textAt_lines_object]
    rfl
  obtain ⟨cs, hcs⟩ : ∃ cs, (object (f :: fs)).render.toList = '\x7b' :: '\n' :: cs := by
    rw [htext, List.map_cons]
    cases fs.map (Yaml.fieldText fun d => textAt 2 d.lines) <;> exact ⟨_, rfl⟩
  obtain ⟨fuel, hfuel, hlength⟩ :
      ∃ n, Yaml.fuelFor (object (f :: fs)).render.toList = n + 2 ∧
        4 * (object (f :: fs)).render.toList.length ≤ n :=
    ⟨8 * (object (f :: fs)).render.toList.length + 6, rfl, by omega⟩
  rw [htext] at hlength
  obtain ⟨col, hread⟩ := Yaml.inline?_mapping false hspells hlength 0 []
  rw [List.append_nil, ← htext, hcs] at hread
  have hroot : Yaml.root? ⟨0, (object (f :: fs)).render.toList⟩ = some (.mapping entries) := by
    rw [hcs] at hfuel ⊢
    exact Yaml.root?_brace hfuel hread
  rw [ofYaml?, nodeOf?_render (.object distinct fields_sound), hroot]
  simp only [Yaml.document?_mapping distinct (hentries []), Option.map_some]

end Document

end SemanticLayer
