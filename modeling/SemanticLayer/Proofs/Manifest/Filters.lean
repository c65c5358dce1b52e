import SemanticLayer.Proofs.Document.Accepted

/-!
# How filters are written

Filters are accepted in three spellings: as one of them, as a list, or as an object that holds a
list. An object that holds a template of its own is that one filter, whatever list it holds besides.
-/

namespace SemanticLayer.FilterIntersection

/-- The document is one filter: its template, or an object that holds it. -/
inductive IsTemplate : Document → String → Prop
  | text (t : String) : IsTemplate (.string t) t
  | object {fields : List (String × Document)} {t : String}
      (h : fields.lookup "where_sql_template" = some (.string t)) : IsTemplate (.object fields) t

/-- The document spells the filters with the given templates, in order. -/
inductive Spells : Document → List String → Prop
  | single {d : Document} {t : String} (h : IsTemplate d t) : Spells d [t]
  | list {items : List Document} {ts : List String} (h : List.Forall₂ IsTemplate items ts) :
      Spells (.list items) ts
  | object {fields : List (String × Document)} {items : List Document} {ts : List String}
      (hnot : ∀ t, ¬IsTemplate (.object fields) t)
      (hfield : fields.lookup "where_filters" = some (.list items))
      (h : List.Forall₂ IsTemplate items ts) : Spells (.object fields) ts

variable {d : Document}

lemma readTemplate_eq_ok_iff {t : String} : readTemplate d = .ok t ↔ IsTemplate d t := by
  simp only [readTemplate, Reader.firstOf_cons_eq_ok_iff, Reader.firstOf_nil_ne_ok, and_false,
    or_false, Reader.text_eq_ok_iff, Reader.objectOnly_required_eq_ok_iff]
  constructor
  · rintro (rfl | ⟨-, fields, v, rfl, hfield, rfl⟩)
    · exact .text t
    · exact .object hfield
  · rintro (_ | hfield)
    · exact .inl rfl
    · exact .inr ⟨by simp [Reader.text], _, _, rfl, hfield, rfl⟩

lemma list_readTemplate_eq_ok_iff {ts : List String} : Reader.list readTemplate d = .ok ts ↔
    ∃ items, d = .list items ∧ List.Forall₂ IsTemplate items ts := by
  simp only [Reader.list_eq_ok_iff, readTemplate_eq_ok_iff]

/-- The filters that are read are those that the document spells. -/
lemma read_eq_ok_iff {f : FilterIntersection} : read d = .ok f ↔ Spells d f.templates := by
  obtain ⟨ts⟩ := f
  simp only [read, Reader.firstOf_cons_eq_ok_iff, Reader.firstOf_nil_ne_ok, and_false, or_false,
    Reader.map_eq_ok_iff, Reader.objectOnly_map_eq_ok_iff, Reader.objectOnly_required_eq_ok_iff,
    readTemplate_eq_ok_iff, list_readTemplate_eq_ok_iff, mk.injEq, ne_eq, not_exists, not_and]
  constructor
  · rintro (⟨t, h, rfl⟩ | ⟨hnot, ⟨_, ⟨items, rfl, h⟩, rfl⟩ | ⟨-, _, hobject, rfl⟩⟩)
    · exact .single h
    · exact .list h
    · obtain ⟨fields, _, rfl, hfield, items, rfl, h⟩ := hobject
      exact .object (fun t ht => hnot _ t ht rfl) hfield h
  · intro h
    cases h with
    | single h => exact .inl ⟨_, h, rfl⟩
    | list h =>
      refine .inr ⟨fun _ t ht => ?_, .inl ⟨_, ⟨_, rfl, h⟩, rfl⟩⟩
      cases ht
    | object hnot hfield h =>
      refine .inr ⟨fun _ t ht => absurd ht (hnot t), .inr ⟨?_, ?_⟩⟩
      · rintro _ _ ⟨_, heq, -⟩
        cases heq
      · exact ⟨_, ⟨_, _, rfl, hfield, _, rfl, h⟩, rfl⟩

/-- A document is accepted as filters when it is one filter, a list of them or an object with a list
of them, and never otherwise. What is read are the templates in order, so all spellings of the same
templates are read alike, and a document that is one filter is read as that one. -/
theorem read_spellings (d : Document) :
    ((∃ f, read d = .ok f) ↔
      (∃ t, IsTemplate d t) ∨
      (∃ items ts, d = .list items ∧ List.Forall₂ IsTemplate items ts) ∨
      ∃ fields items ts, d = .object fields ∧
        fields.lookup "where_filters" = some (.list items) ∧ List.Forall₂ IsTemplate items ts) ∧
    (∀ f, read d = .ok f ↔ Spells d f.templates) ∧
    (∀ t, IsTemplate d t → read d = .ok ⟨[t]⟩) ∧
    ∀ d' ts, Spells d ts → Spells d' ts → read d = read d' := by
  refine ⟨⟨?_, ?_⟩, fun f => read_eq_ok_iff, fun t h => read_eq_ok_iff.2 (.single h), ?_⟩
  · rintro ⟨⟨ts⟩, hread⟩
    have hspells : Spells d ts := read_eq_ok_iff.1 hread
    cases hspells with
    | single h          => exact .inl ⟨_, h⟩
    | list h            => exact .inr (.inl ⟨_, _, rfl, h⟩)
    | object _ hfield h => exact .inr (.inr ⟨_, _, _, rfl, hfield, h⟩)
  · rintro (⟨t, h⟩ | ⟨items, ts, rfl, h⟩ | ⟨fields, items, ts, rfl, hfield, h⟩)
    · exact ⟨⟨[t]⟩, read_eq_ok_iff.2 (.single h)⟩
    · exact ⟨⟨ts⟩, read_eq_ok_iff.2 (.list h)⟩
    · -- an object with both fields is accepted too, as the one filter that it is
      by_cases hsingle : ∃ t, IsTemplate (.object fields) t
      · obtain ⟨t, ht⟩ := hsingle
        exact ⟨⟨[t]⟩, read_eq_ok_iff.2 (.single ht)⟩
      · exact ⟨⟨ts⟩, read_eq_ok_iff.2 (.object (not_exists.1 hsingle) hfield h)⟩
  · intro d' ts h h'
    have hread : read d = .ok ⟨ts⟩ := read_eq_ok_iff.2 h
    have hread' : read d' = .ok ⟨ts⟩ := read_eq_ok_iff.2 h'
    exact hread.trans hread'.symm

/-- A list that mixes the two ways to write a filter, the object with the same templates, and an
object that is a filter of its own beside a list. -/
theorem read_spellings_mixed :
    read (.list [.string "a", .object [("where_sql_template", .string "b")]]) = .ok ⟨["a", "b"]⟩ ∧
    read (.list [.string "a", .object [("where_sql_template", .string "b")]]) =
      read (.object [("where_filters", .list [.string "a", .string "b"])]) ∧
    read (.object [("where_filters", .list [.string "a"]), ("where_sql_template", .string "b")]) =
      .ok ⟨["b"]⟩ := by
  have hlist : Spells (.list [.string "a", .object [("where_sql_template", .string "b")]])
      ["a", "b"] := .list (.cons (.text "a") (.cons (.object rfl) .nil))
  have hobject : Spells (.object [("where_filters", .list [.string "a", .string "b"])])
      ["a", "b"] := by
    refine .object (fun t ht => ?_) rfl (.cons (.text "a") (.cons (.text "b") .nil))
    cases ht with
    | object h => cases h
  obtain ⟨-, hread, -, hsame⟩ := read_spellings
    (.list [.string "a", .object [("where_sql_template", .string "b")]])
  exact ⟨(hread _).2 hlist, hsame _ _ hlist hobject, (read_spellings _).2.2.1 "b" (.object rfl)⟩

end SemanticLayer.FilterIntersection
