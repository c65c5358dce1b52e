import SemanticLayer.Proofs.Validation.Addresses

/-!
# Names and their parts

Every name is put together again from its parts, whatever stands between its underscores. The other
way round, links, element and granularity come back from the name they are joined to, as long as
each is a segment and no element behind links could be taken for a granularity.
-/

namespace SemanticLayer.DunderedName

variable {custom : List String}

/-! ### From a name to its parts -/

lemma intercalate_splitDunder (cs : List Char) :
    List.intercalate ['_', '_'] (splitDunder cs) = cs := by
  fun_induction splitDunder cs with
  | case1 => rfl
  | case2 cs ih =>
    obtain ⟨s, ss, heq, -⟩ := exists_splitDunder_eq_cons cs
    rw [heq] at ih ⊢
    rw [List.intercalate_cons_cons, ih]
    rfl
  | case3 c cs _ ih =>
    obtain ⟨s, ss, heq, -⟩ := exists_splitDunder_eq_cons cs
    rw [heq] at ih ⊢
    cases ss with
    | nil => simpa [consFirst] using ih
    | cons s' ss =>
      rw [List.intercalate_cons_cons] at ih
      rw [consFirst, List.intercalate_cons_cons, List.cons_append, List.cons_append, ih]

lemma toList_join (ss : List String) :
    (join ss).toList = List.intercalate ['_', '_'] (ss.map String.toList) := by
  rw [join, String.toList_intercalate, toList_dunder]

/-- The segments of a name are what it is joined from. -/
lemma join_segments (name : String) : join (segments name) = name := by
  rw [← String.toList_inj, toList_join, segments, List.map_map]
  have hid : String.toList ∘ String.ofList = id := by
    funext cs
    exact String.toList_ofList
  rw [hid, List.map_id, intercalate_splitDunder]

/-- Whichever part the last segment is taken for, no segment is lost. -/
lemma parts_ofReversed {ss : List String} (h : ss ≠ []) :
    (ofReversed custom ss).entityLinks ++
      (ofReversed custom ss).elementName :: (ofReversed custom ss).granularity.toList =
        ss.reverse := by
  match ss, h with
  | [element], _ => rfl
  | last :: element :: links, _ =>
    rw [ofReversed]
    split
    · simp
    · simp

/-- A name is put together again from its parts. -/
lemma text_parse (custom : List String) (name : String) : (parse custom name).text = name := by
  have hparts : (segments name).reverse ≠ [] := by simpa using segments_ne_nil name
  rw [text, parse, parts_ofReversed hparts, List.reverse_reverse, join_segments]

/-! ### From parts to a name -/

/-- Parts come back from the name they are joined to: the last segment is a granularity if it names
one, and else the element. -/
lemma parse_join {links : List String} {element : String} {granularity : Option String}
    (hlinks : ∀ s ∈ links, IsSegment s) (helement : IsSegment element)
    (hgranularity : ∀ g ∈ granularity, IsSegment g ∧ namesGranularity custom g)
    (hlast : granularity = none → ¬namesGranularity custom element) :
    parse custom (join (links ++ element :: granularity.toList)) =
      ⟨links, element, granularity⟩ := by
  have hsegments : ∀ s ∈ links ++ element :: granularity.toList, IsSegment s := by
    refine List.forall_mem_append.2 ⟨hlinks, List.forall_mem_cons.2 ⟨helement, fun g hg => ?_⟩⟩
    exact (hgranularity g (by simpa using hg)).1
  rw [parse, segments_join (by simp) hsegments]
  cases granularity with
  | some g =>
    have hnames := (hgranularity g rfl).2
    simp [ofReversed, hnames]
  | none =>
    have hnames := hlast rfl
    cases hreversed : links.reverse with
    | nil =>
      obtain rfl := List.reverse_eq_nil_iff.1 hreversed
      rfl
    | cons link links' =>
      obtain rfl := List.reverse_eq_iff.1 hreversed
      simp [ofReversed, hnames]

end DunderedName

/-- The names of the standard granularities are segments. -/
lemma isSegment_granularity (g : Granularity) : IsSegment (Vocabulary.name g) := by
  cases g <;> exact ⟨by decide, by decide⟩

namespace DunderedName

/-- Every name is put together again from its parts. Valid names joined to one, with a standard
granularity behind them or without, come back as its links, its element and its granularity. -/
theorem parse_roundTrip :
    (∀ custom name, (parse custom name).text = name) ∧
    ∀ (names : List String) (hne : names ≠ []), (∀ n ∈ names, nameFaults n = []) →
      ∀ g : Option Granularity,
        parse [] (join (names ++ (g.map Vocabulary.name).toList)) =
          ⟨names.dropLast, names.getLast hne, g.map Vocabulary.name⟩ ∧
        (parse [] (join (names ++ (g.map Vocabulary.name).toList))).withoutGranularity =
          join names := by
  refine ⟨text_parse, fun names hne hnames g => ?_⟩
  obtain ⟨links, element, rfl⟩ : ∃ links element, names = links ++ [element] :=
    ⟨_, _, (List.dropLast_append_getLast hne).symm⟩
  have hvalid : ∀ n ∈ links ++ [element], IsValidName n := fun n hn =>
    nameFaults_eq_nil_iff.1 (hnames n hn)
  obtain ⟨hlinks, helement⟩ := List.forall_mem_append.1 hvalid
  have helement := helement element List.mem_cons_self
  have hgranularity : ∀ s ∈ g.map Vocabulary.name, IsSegment s ∧ namesGranularity [] s := by
    intro s hs
    obtain ⟨granularity, -, rfl⟩ := Option.map_eq_some_iff.1 hs
    exact ⟨isSegment_granularity granularity, by simp [namesGranularity]⟩
  have hparse := parse_join (fun s hs => (hlinks s hs).isSegment) helement.isSegment hgranularity
    fun _ => by simp [helement.namesGranularity_iff_exists]
  rw [List.append_assoc, List.singleton_append, hparse]
  simp [withoutGranularity]

/-- Underscores in a row go to the segment behind them, and a name in front of a granularity is an
element. -/
theorem parse_roundTrip_createdAt :
    (parse ["Fiscal"] "___created____fiscal").text = "___created____fiscal" ∧
    (∀ n ∈ ["listing", "created_at"], nameFaults n = []) ∧
    parse [] "listing__created_at__month" = ⟨["listing"], "created_at", some "month"⟩ ∧
    (parse [] "listing__created_at__month").withoutGranularity = "listing__created_at" := by
  have hnames : ∀ n ∈ ["listing", "created_at"], nameFaults n = [] := by decide +kernel
  obtain ⟨htext, hparse⟩ := parse_roundTrip
  exact ⟨htext _ _, hnames, hparse ["listing", "created_at"] (by simp) hnames (some .month)⟩

end SemanticLayer.DunderedName
