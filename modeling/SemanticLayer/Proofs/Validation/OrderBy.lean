import Mathlib.Data.List.Infix
import SemanticLayer.Proofs.Validation.GroupBy
import SemanticLayer.Proofs.Validation.OrderItems

/-!
# Orders of saved queries

A saved query can be ordered by whatever it is grouped by, in either direction. Markers around an
order-by item matter in two cases only: a call of a metric without `group_by` counts without markers
and not in them, and so does a call of `descending` without a truth value.
-/

namespace SemanticLayer

open Rules SemanticLayer.Filter

/-- The query, ordered by one item. -/
def SavedQuery.orderedBy (q : SavedQuery) (item : String) : SavedQuery :=
  { q with params := { q.params with orderBy := [item] } }

namespace Manifest

variable {m : Manifest} {q : SavedQuery} {item g : String} {calls : CallSets} {cs : List Char}

/-- No issue is raised with the query when it is ordered by the item. -/
def CanOrderBy (m : Manifest) (q : SavedQuery) (item : String) : Prop :=
  orderByIssues (.ofManifest m) m.customGranularityNames (q.orderedBy item) = []

/-- What the group-by items of the query stand for. -/
def groupByCalls (m : Manifest) (q : SavedQuery) : List CallSets :=
  q.params.groupBy.filterMap (groupByCalls? (.ofManifest m) m.customGranularityNames)

/-- The order of a query raises no issue just when the query can be ordered by each of its items. -/
theorem orderByIssues_eq_nil_iff :
    orderByIssues (.ofManifest m) m.customGranularityNames q = [] ↔
      ∀ item ∈ q.params.orderBy, m.CanOrderBy q item := by
  simp only [CanOrderBy, orderByIssues, SavedQuery.orderedBy, List.flatMap_eq_nil_iff,
    List.forall_mem_singleton]
  rfl

lemma canOrderBy_iff : m.CanOrderBy q item ↔
    ordersBySelected m.customGranularityNames q.params.metrics (m.groupByCalls q) item := by
  rw [CanOrderBy, orderByIssues, SavedQuery.orderedBy, List.flatMap_singleton]
  exact ite_eq_left_iff.trans (by simp [groupByCalls])

/-- An item that names no metric has to stand for what a group-by item stands for. -/
lemma canOrderBy_iff_of_orderedMetric? (h : orderedMetric? (stripDescending item.toList) = none) :
    m.CanOrderBy q item ↔ ∃ calls ∈ m.groupByCalls q, parseGroupBy m.customGranularityNames
      (String.ofList (stripDescending item.toList)) = .ok calls := by
  rw [canOrderBy_iff, ordersBySelected]
  simp only [h]
  cases parseGroupBy m.customGranularityNames
      (String.ofList (stripDescending item.toList)) with
  | error e => simp
  | ok calls => simp [eq_comm]

/-- What a group-by item stands for is one call, and not of a metric. -/
lemma of_groupByCalls?_eq_some {known : KnownElements} {custom : List String}
    (h : groupByCalls? known custom g = some calls) :
    parseGroupBy custom g = .ok calls ∧ calls ≠ .empty ∧ calls.metrics = [] := by
  unfold groupByCalls? at h
  split at h
  · next calls' hparse =>
    split_ifs at h with hgroupable
    obtain rfl := Option.some.inj h
    simp only [isGroupable, Bool.and_eq_true, beq_iff_eq, List.isEmpty_iff] at hgroupable
    obtain ⟨⟨hsize, hmetrics⟩, -⟩ := hgroupable
    refine ⟨hparse, ?_, hmetrics⟩
    rintro rfl
    simp at hsize
  · contradiction

lemma metrics_eq_nil_of_mem_groupByCalls (h : calls ∈ m.groupByCalls q) : calls.metrics = [] := by
  obtain ⟨g, -, hg⟩ := List.mem_filterMap.1 h
  exact (of_groupByCalls?_eq_some hg).2.2

/-! ### Group-by items in some direction -/

/-- The item is `g`, or it is `g` with white space and a call of `descending` behind it. -/
inductive IsDirected (g : String) : String → Prop
  | plain : IsDirected g g
  | called {blanks flag : String} (hblanks : Text.allBlank blanks)
      (hflag : flag ∈ ["True", "False", "true", "false", ""]) :
      IsDirected g (g ++ blanks ++ ".descending(" ++ flag ++ ")")

/-- Taking a call of `descending` away leaves the group-by item, up to a tail. -/
lemma IsDirected.exists_tail (h : IsDirected g item) :
    ∃ tail, IsTail tail ∧ g.toList = stripDescending item.toList ++ tail := by
  cases h with
  | plain => exact exists_isTail_stripDescending item.toList
  | @called blanks flag hblanks hflag =>
    have hcall : isDescending (".descending(" ++ flag ++ ")").toList := by
      simp only [List.mem_cons, List.not_mem_nil, or_false] at hflag
      obtain rfl | rfl | rfl | rfl | rfl := hflag
      all_goals decide +kernel
    have hdescending : isDescending (blanks.toList ++ (".descending(" ++ flag ++ ")").toList) := by
      rwa [isDescending_append (by simpa [Text.allBlank, IsBlankText] using hblanks)]
    obtain ⟨tail, htail, hg⟩ := exists_blanks_stripDescending_append hdescending g.toList
    exact ⟨tail, htail.isTail, by simpa using hg⟩

/-- A query can be ordered by whatever it is grouped by, in either direction. -/
theorem canOrderBy_of_groupBy (hg : g ∈ q.params.groupBy)
    (hcalls : (groupByCalls? (.ofManifest m) m.customGranularityNames g).isSome)
    (hitem : IsDirected g item) : m.CanOrderBy q item := by
  obtain ⟨calls, hcalls⟩ := Option.isSome_iff_exists.1 hcalls
  obtain ⟨hparse, hne, hmetrics⟩ := of_groupByCalls?_eq_some hcalls
  obtain ⟨tail, htail, hstrip⟩ := hitem.exists_tail
  have hstripped : parseGroupBy m.customGranularityNames
      (String.ofList (stripDescending item.toList)) = .ok calls := by
    refine parseGroupBy_of_append htail hne ?_
    rwa [← hstrip, String.ofList_toList]
  rw [canOrderBy_iff_of_orderedMetric?
    (orderedMetric?_eq_none_of_parseGroupBy hstripped hne hmetrics)]
  exact ⟨calls, List.mem_filterMap.2 ⟨g, hg, hcalls⟩, hstripped⟩

/-- A query for the visits that were seen, grouped by the visit. -/
def seenByVisit : SavedQuery :=
  ⟨"daily", { QueryParams.empty with metrics := ["seen"], groupBy := ["Entity('visit')"] },
    none, none, [], none⟩

lemma customGranularityNames_visitsRated :
    (visitsRated "doubled" []).customGranularityNames = [] := rfl

lemma tokens_visit : tokens "Entity('visit')".toList =
    .ok [.name "Entity", .leftParen, .text "visit", .rightParen] := by
  decide +kernel

lemma derives_visit : Derives ⟨.entity, ⟨[.text "visit"], []⟩, []⟩
    [.name "Entity", .leftParen, .text "visit", .rightParen] :=
  derives_of_readExpression (by cbv)

lemma groupByCalls?_visit : groupByCalls? (.ofManifest (visitsRated "doubled" [])) []
    "Entity('visit')" = some (.ofEntity ⟨[], "visit"⟩) := by
  have hparse : parseGroupBy [] "Entity('visit')" = .ok (.ofEntity ⟨[], "visit"⟩) :=
    (parseGroupBy_eq_ok_iff_isCall (by decide) (by decide)).2
      ((isCall_iff tokens_visit derives_visit).2 (by decide +kernel))
  rw [groupByCalls?, hparse]
  decide +kernel

lemma groupByCalls_seenByVisit :
    (visitsRated "doubled" []).groupByCalls seenByVisit = [.ofEntity ⟨[], "visit"⟩] := by
  simp [groupByCalls, seenByVisit, customGranularityNames_visitsRated, groupByCalls?_visit]

/-- The visits may be listed in descending order. -/
theorem canOrderBy_visit_descending : "Entity('visit')" ∈ seenByVisit.params.groupBy ∧
    (groupByCalls? (.ofManifest (visitsRated "doubled" []))
      (visitsRated "doubled" []).customGranularityNames "Entity('visit')").isSome ∧
    IsDirected "Entity('visit')" ("Entity('visit')" ++ " " ++ ".descending(" ++ "True" ++ ")") ∧
    (visitsRated "doubled" []).CanOrderBy seenByVisit
      ("Entity('visit')" ++ " " ++ ".descending(" ++ "True" ++ ")") := by
  have hg : "Entity('visit')" ∈ seenByVisit.params.groupBy := List.mem_cons_self
  have hcalls : (groupByCalls? (.ofManifest (visitsRated "doubled" []))
      (visitsRated "doubled" []).customGranularityNames "Entity('visit')").isSome := by
    rw [customGranularityNames_visitsRated, groupByCalls?_visit]
    rfl
  have hitem : IsDirected "Entity('visit')"
      ("Entity('visit')" ++ " " ++ ".descending(" ++ "True" ++ ")") :=
    .called (by decide +kernel) List.mem_cons_self
  exact ⟨hg, hcalls, hitem, canOrderBy_of_groupBy hg hcalls hitem⟩

/-! ### Markers around an item -/

section Marked

variable {custom : List String} {c : String} {ts : List Token} {e : Expression}

/-- The item in a marker is the template that the item alone is read as. -/
lemma groupByTemplate_marked (hopen : ¬opening <:+: c.toList) :
    groupByTemplate ("\x7b\x7b " ++ c ++ " \x7d\x7d") = groupByTemplate c := by
  have hmark : hasMarker ("\x7b\x7b " ++ c ++ " \x7d\x7d").toList := by
    rw [String.toList_append, String.toList_append]
    rfl
  rw [groupByTemplate, groupByTemplate, if_pos hmark,
    if_neg (by simp [hasMarker_eq_false_iff.2 hopen])]

/-- Nothing is taken away from an item that ends with a closing brace. -/
lemma stripDescending_brace (cs : List Char) :
    stripDescending (cs ++ ['}']) = cs ++ ['}'] := by
  obtain ⟨tail, htail, hcs⟩ := exists_isTail_stripDescending (cs ++ ['}'])
  have hbrace : '}' ∉ tail := fun hmem => (htail.plain _ hmem).2.1 rfl
  obtain ⟨more, -, htail'⟩ := exists_of_append_eq_right hbrace hcs.symm
  obtain ⟨-, rfl⟩ := List.append_eq_nil_iff.1 htail'.symm
  rwa [List.append_nil, eq_comm] at hcs

/-- A query can be ordered by an item in a marker just when the call in it is that of a group-by
item. -/
lemma canOrderBy_marked (hts : tokens c.toList = .ok ts) (he : Derives e ts)
    (hopen : ¬opening <:+: c.toList) (hclose : ¬closing <:+: c.toList) :
    m.CanOrderBy q ("\x7b\x7b " ++ c ++ " \x7d\x7d") ↔
      ∃ calls ∈ m.groupByCalls q, e.call m.customGranularityNames = .ok calls := by
  have hchars : ("\x7b\x7b " ++ c ++ " \x7d\x7d").toList =
      '\x7b' :: ('\x7b' :: ' ' :: (c.toList ++ [' ', '}'])) ++ ['}'] := by
    simp
  have hstrip := stripDescending_brace ('\x7b' :: ('\x7b' :: ' ' :: (c.toList ++ [' ', '}'])))
  rw [← hchars] at hstrip
  have hmetric : orderedMetric? ("\x7b\x7b " ++ c ++ " \x7d\x7d").toList = none := by
    rw [hchars]
    refine orderedMetric?_eq_none (c := '\x7b') (fun name hname => ?_) (by simp) (by decide)
      (by decide)
    exact StartsWithMetric.not_cons (by decide) (by decide) hname.startsWithMetric
  have hparse : parseGroupBy m.customGranularityNames ("\x7b\x7b " ++ c ++ " \x7d\x7d") =
      parseGroupBy m.customGranularityNames c := by
    rw [parseGroupBy, parseGroupBy, groupByTemplate_marked hopen]
  rw [canOrderBy_iff_of_orderedMetric? (by rwa [hstrip]), hstrip, String.ofList_toList, hparse]
  simp only [parseGroupBy_eq_ok_iff_isCall hopen hclose, isCall_iff hts he]

/-- A query can be ordered by an item without a marker, which calls no metric, just when the call in
the item, without a call of `descending` behind it, is that of a group-by item. -/
lemma canOrderBy_bare (hts : tokens (stripDescending c.toList) = .ok ts) (he : Derives e ts)
    (hcallee : e.callee ≠ .metric) (hopen : ¬opening <:+: c.toList)
    (hclose : ¬closing <:+: c.toList) :
    m.CanOrderBy q c ↔
      ∃ calls ∈ m.groupByCalls q, e.call m.customGranularityNames = .ok calls := by
  have hstrip := isInfix_stripDescending c.toList
  have hopen' : ¬opening <:+: (String.ofList (stripDescending c.toList)).toList := by
    rw [String.toList_ofList]
    exact fun hin => hopen (hin.trans hstrip)
  have hclose' : ¬closing <:+: (String.ofList (stripDescending c.toList)).toList := by
    rw [String.toList_ofList]
    exact fun hin => hclose (hin.trans hstrip)
  rw [canOrderBy_iff_of_orderedMetric? (orderedMetric?_eq_none_of_derives hts he hcallee)]
  simp only [parseGroupBy_eq_ok_iff_isCall hopen' hclose', String.toList_ofList, isCall_iff hts he]

/-- Markers around an order-by item that is a call expression do not matter, unless the item calls a
metric or ends with a call of `descending` without a truth value: in a marker it is then refused. -/
theorem canOrderBy_marked_iff (hts : tokens c.toList = .ok ts) (he : Derives e ts)
    (hopen : ¬opening <:+: c.toList) (hclose : ¬closing <:+: c.toList) :
    m.CanOrderBy q ("\x7b\x7b " ++ c ++ " \x7d\x7d") ↔
      m.CanOrderBy q c ∧ e.callee ≠ .metric ∧ e.methods.getLast? ≠ some (descending none) := by
  obtain ⟨tail, htail, hc⟩ := exists_isTail_stripDescending c.toList
  have hts' : tokens (stripDescending c.toList ++ tail) = .ok ts := by
    rw [← hc]
    exact hts
  obtain ⟨us, e', hus, he', hcallee, hcall⟩ := exists_of_tokens_append htail hts' he
  have hbare (hne : e.callee ≠ .metric) :=
    canOrderBy_bare (m := m) (q := q) hus he' (by rwa [hcallee]) hopen hclose
  rw [canOrderBy_marked hts he hopen hclose]
  constructor
  · rintro ⟨calls, hmem, hcalls⟩
    have hne := (metrics_eq_nil_iff_of_call hcalls).1 (metrics_eq_nil_of_mem_groupByCalls hmem)
    obtain ⟨hlast, hcalls'⟩ := (hcall _ _).1 hcalls
    exact ⟨(hbare hne).2 ⟨calls, hmem, hcalls'⟩, hne, hlast⟩
  · rintro ⟨horder, hne, hlast⟩
    obtain ⟨calls, hmem, hcalls⟩ := (hbare hne).1 horder
    exact ⟨calls, hmem, (hcall _ _).2 ⟨hlast, hcalls⟩⟩

/-- The item is that of the visit when a call of `descending` is taken away. -/
lemma canOrderBy_visit (hstrip : stripDescending c.toList = "Entity('visit')".toList)
    (hopen : ¬opening <:+: c.toList) (hclose : ¬closing <:+: c.toList) :
    (visitsRated "doubled" []).CanOrderBy seenByVisit c := by
  rw [canOrderBy_bare (hstrip ▸ tokens_visit) derives_visit (by decide) hopen hclose,
    groupByCalls_seenByVisit]
  exact ⟨_, List.mem_cons_self, by decide +kernel⟩

/-- A visit in a marker, in descending order, counts like one without a marker. -/
theorem canOrderBy_marked_visit : ∃ ts e,
    tokens "Entity('visit').descending(True)".toList = .ok ts ∧ Derives e ts ∧
    ¬opening <:+: "Entity('visit').descending(True)".toList ∧
    ¬closing <:+: "Entity('visit').descending(True)".toList ∧
    (visitsRated "doubled" []).CanOrderBy seenByVisit
      ("\x7b\x7b " ++ "Entity('visit').descending(True)" ++ " \x7d\x7d") := by
  have htokens : tokens "Entity('visit').descending(True)".toList =
      .ok [.name "Entity", .leftParen, .text "visit", .rightParen, .dot, .name "descending",
        .leftParen, .name "True", .rightParen] := by
    decide +kernel
  have hderives : Derives ⟨.entity, ⟨[.text "visit"], []⟩, [descending (some true)]⟩
      [.name "Entity", .leftParen, .text "visit", .rightParen, .dot, .name "descending",
        .leftParen, .name "True", .rightParen] :=
    derives_of_readExpression (by cbv)
  have hopen : ¬opening <:+: "Entity('visit').descending(True)".toList := by decide
  have hclose : ¬closing <:+: "Entity('visit').descending(True)".toList := by decide
  refine ⟨_, _, htokens, hderives, hopen, hclose, ?_⟩
  refine (canOrderBy_marked_iff htokens hderives hopen hclose).2 ⟨?_, by decide, ?_⟩
  · exact canOrderBy_visit (by decide +kernel) hopen hclose
  · simp [descending]

/-- The metric of the query counts without a marker and not in one, and so does the visit with a
call of `descending` that has no truth value. -/
theorem not_canOrderBy_marked_seen :
    (∃ ts e, tokens "Metric('seen')".toList = .ok ts ∧ Derives e ts) ∧
    (visitsRated "doubled" []).CanOrderBy seenByVisit "Metric('seen')" ∧
    ¬(visitsRated "doubled" []).CanOrderBy seenByVisit
      ("\x7b\x7b " ++ "Metric('seen')" ++ " \x7d\x7d") ∧
    (visitsRated "doubled" []).CanOrderBy seenByVisit "Entity('visit').descending()" ∧
    ¬(visitsRated "doubled" []).CanOrderBy seenByVisit
      ("\x7b\x7b " ++ "Entity('visit').descending()" ++ " \x7d\x7d") := by
  have htokens : tokens "Metric('seen')".toList =
      .ok [.name "Metric", .leftParen, .text "seen", .rightParen] := by
    decide +kernel
  have hderives : Derives ⟨.metric, ⟨[.text "seen"], []⟩, []⟩
      [.name "Metric", .leftParen, .text "seen", .rightParen] :=
    derives_of_readExpression (by cbv)
  have htokens' : tokens "Entity('visit').descending()".toList =
      .ok [.name "Entity", .leftParen, .text "visit", .rightParen, .dot, .name "descending",
        .leftParen, .rightParen] := by
    decide +kernel
  have hderives' : Derives ⟨.entity, ⟨[.text "visit"], []⟩, [] ++ [descending none]⟩
      [.name "Entity", .leftParen, .text "visit", .rightParen, .dot, .name "descending",
        .leftParen, .rightParen] :=
    derives_of_readExpression (by cbv)
  refine ⟨⟨_, _, htokens, hderives⟩, ?_, ?_, ?_, ?_⟩
  · have hmetric : orderedMetric? (stripDescending "Metric('seen')".toList) = some "seen" := by
      decide +kernel
    rw [canOrderBy_iff, ordersBySelected]
    simp only [hmetric]
    decide +kernel
  · rw [canOrderBy_marked htokens hderives (by decide) (by decide)]
    rintro ⟨calls, -, hcalls⟩
    contradiction
  · exact canOrderBy_visit (by decide +kernel) (by decide) (by decide)
  · rw [canOrderBy_marked htokens' hderives' (by decide) (by decide)]
    rintro ⟨calls, -, hcalls⟩
    simpa using (call_descending_eq_ok_iff.1 hcalls).1

end Marked

end Manifest

end SemanticLayer
