import SemanticLayer.Manifest.Parse
import SemanticLayer.Proofs.Manifest.Restored

/-!
# Written manifests are read back

The text of a manifest passes the checks that are made before it is read, and what is read is the
manifest: `parse_serialize`.
-/

namespace SemanticLayer.Manifest

variable (m : Manifest)

/-! ### The checks of the text -/

lemma separatorLines_eq_nil {lines : List (List Char)} (h : ∀ l ∈ lines, isSeparator l = false)
    (n : ℕ) : separatorLines n lines = [] := by
  induction lines generalizing n with
  | nil => rfl
  | cons l lines ih =>
    obtain ⟨hl, hlines⟩ := List.forall_mem_cons.1 h
    rw [separatorLines, hl, if_neg (by simp), ih hlines]

/-- A line that starts with a space or a bracket separates nothing. -/
lemma isSeparator_eq_false {line cs : List Char} {c : Char} (hline : line = c :: cs)
    (hc : c ≠ '-') : isSeparator line = false := by
  have hdash : "---".toList.isPrefixOf (c :: cs) = false := by
    simp [List.isPrefixOf, Ne.symm hc]
  rw [hline, isSeparator, hdash, Bool.false_and]

lemma exists_toDocument_eq : ∃ f fs, m.toDocument = .object (f :: fs) := ⟨_, _, rfl⟩

lemma exists_lines_serialize :
    ∃ lines, Text.lines m.serialize.toList = ['\x7b'] :: lines ∧
      ∀ l ∈ lines, ∃ c cs, l = c :: cs ∧ (c = ' ' ∨ c = '\x7d') := by
  obtain ⟨f, fs, hfields⟩ := exists_toDocument_eq m
  obtain ⟨ls, hls, hstart⟩ := Document.lines_object f fs
  refine ⟨ls.map String.toList, ?_, List.forall_mem_map.2 hstart⟩
  rw [serialize, Document.lines_render (restores.sound m), hfields, hls]
  rfl

/-- No line of the text separates documents. -/
lemma separatorLines_serialize : separatorLines 1 (Text.lines m.serialize.toList) = [] := by
  obtain ⟨lines, hlines, hstart⟩ := exists_lines_serialize m
  rw [hlines]
  refine separatorLines_eq_nil (List.forall_mem_cons.2 ⟨by decide, fun l hl => ?_⟩) 1
  obtain ⟨c, cs, hline, hc⟩ := hstart l hl
  refine isSeparator_eq_false hline ?_
  obtain rfl | rfl := hc <;> decide

lemma allBlank_serialize : Text.allBlank m.serialize = false := by
  obtain ⟨lines, hlines, -⟩ := exists_lines_serialize m
  rw [Text.allBlank, ← Text.unlines_lines m.serialize.toList, hlines]
  cases lines <;> rfl

/-! ### The document -/

lemma ofYaml?_serialize : Document.ofYaml? m.serialize = some m.toDocument := by
  obtain ⟨f, fs, hfields⟩ := exists_toDocument_eq m
  have hsound := restores.sound m
  rw [serialize]
  rw [hfields] at hsound ⊢
  exact Document.ofYaml?_render hsound

/-- The fields of the root are the known ones, and the manifest is restored from them. -/
lemma ofDocument_toDocument : ofDocument m.toDocument = .ok m := by
  obtain ⟨fields, hfields, hnames⟩ :
      ∃ fields, m.toDocument = .object fields ∧ fields.map Prod.fst = topLevelFields :=
    ⟨_, rfl, rfl⟩
  have hread : read (.object fields) = .ok m := hfields ▸ restores.read m
  rw [hfields, ofDocument]
  split
  · rename_i name d hfind
    have hmem : name ∈ topLevelFields :=
      hnames ▸ List.mem_map_of_mem (List.mem_of_find?_eq_some hfind)
    exact absurd (List.find?_some hfind) (by simpa using hmem)
  · rw [hread]

/-! ### The round trip -/

variable (wording : String → Option String)

/-- The text passes all checks, and nothing is said of it. -/
lemma parse_serialize_eq_ofDocument : parse m.serialize wording = ofDocument m.toDocument := by
  rw [parse, allBlank_serialize, separatorLines_serialize, ofYaml?_serialize]
  rfl

/-- Reading the text of a manifest gives the manifest back. -/
theorem parse_serialize : parse m.serialize wording = .ok m := by
  rw [parse_serialize_eq_ofDocument, ofDocument_toDocument]

end SemanticLayer.Manifest
