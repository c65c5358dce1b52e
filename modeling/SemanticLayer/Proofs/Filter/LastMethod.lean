import SemanticLayer.Filter.Meaning
import SemanticLayer.Proofs.Filter.Derivation

/-!
# The last method of an expression

Dots stand in front of methods and nowhere else, so what stands behind the last dot of an expression
is its last method. A method `descending` at the end leaves the call of the expression as it is.
-/

namespace SemanticLayer.Filter

/-! ### Dots -/

section Splits

variable {α : Type} {a : α} {as as' bs bs' : List α}

/-- A first part without an item stands in front of the item. -/
lemma exists_of_append_eq_left (has : a ∉ as) (h : as ++ bs = as' ++ a :: bs') :
    ∃ cs, as' = as ++ cs ∧ bs = cs ++ a :: bs' := by
  obtain ⟨cs, hcs, hbs⟩ | ⟨cs, hcs, hbs⟩ := List.append_eq_append_iff.1 h
  · exact ⟨cs, hcs, hbs⟩
  · cases cs with
    | nil => exact ⟨[], by simpa using hcs.symm, by simpa using hbs.symm⟩
    | cons c cs =>
      obtain ⟨rfl, -⟩ := List.cons.inj hbs
      exact absurd (hcs ▸ by simp) has

/-- A last part without an item stands behind the item. -/
lemma exists_of_append_eq_right (hbs : a ∉ bs) (h : as ++ bs = as' ++ a :: bs') :
    ∃ cs, as = as' ++ a :: cs ∧ bs' = cs ++ bs := by
  obtain ⟨cs, -, rfl⟩ | ⟨cs, has, hbs'⟩ := List.append_eq_append_iff.1 h
  · simp at hbs
  · cases cs with
    | nil =>
      rw [List.nil_append] at hbs'
      exact absurd (hbs' ▸ List.mem_cons_self) hbs
    | cons c cs =>
      obtain ⟨rfl, hrest⟩ := List.cons.inj hbs'
      exact ⟨cs, has, hrest⟩

/-- Where an item stands for the last time, a list is taken apart in one way. -/
lemma append_cons_inj_of_last (hbs : a ∉ bs) (hbs' : a ∉ bs')
    (h : as ++ a :: bs = as' ++ a :: bs') : as = as' ∧ bs = bs' := by
  obtain ⟨cs, has, rfl⟩ := exists_of_append_eq_right hbs ((List.append_cons as a bs).symm.trans h)
  obtain rfl | ⟨cs, c, rfl⟩ := List.eq_nil_or_concat cs
  · exact ⟨(List.append_inj' has rfl).1, rfl⟩
  · have has' : as ++ [a] = as' ++ a :: cs ++ [c] := by simpa using has
    obtain rfl : a = c := by simpa using (List.append_inj' has' rfl).2
    simp at hbs'

end Splits

/-- What stands in a list with commas stands in an item, or it is a comma. -/
lemma mem_of_listed {t : Token} {tss : List (List Token)} {ts : List Token} (h : Listed tss ts)
    (ht : t ∈ ts) : t = .comma ∨ ∃ us ∈ tss, t ∈ us := by
  induction tss generalizing ts with
  | nil =>
    obtain rfl := listed_nil_iff.1 h
    simp at ht
  | cons us tss ih =>
    obtain ⟨-, rfl⟩ | ⟨us', hus', rfl⟩ := listed_cons_iff.1 h
    · exact .inr ⟨_, List.mem_cons_self, ht⟩
    · rw [List.mem_append, List.mem_cons] at ht
      obtain ht | rfl | ht := ht
      · exact .inr ⟨us, List.mem_cons_self, ht⟩
      · exact .inl rfl
      · exact (ih hus' ht).imp_right fun ⟨vs, hvs, ht⟩ => ⟨vs, List.mem_cons_of_mem us hvs, ht⟩

lemma dot_notMem_of_listed {tss : List (List Token)} {ts : List Token} (h : Listed tss ts)
    (hdots : ∀ us ∈ tss, .dot ∉ us) : .dot ∉ ts := by
  intro hdot
  obtain hcomma | ⟨us, hus, hdot⟩ := mem_of_listed h hdot
  · contradiction
  · exact hdots us hus hdot

/-- What holds of everything related to something holds of a related list. -/
lemma forall_mem_of_forall₂ {α β : Type} {R : α → β → Prop} {p : β → Prop} {as : List α}
    {bs : List β} (h : List.Forall₂ R as bs) (hp : ∀ a b, R a b → p b) : ∀ b ∈ bs, p b := by
  induction h with
  | nil => simp
  | cons hab _ ih => exact List.forall_mem_cons.2 ⟨hp _ _ hab, ih⟩

mutual

theorem DerivesLiteral.dot_notMem {v : Literal} {ts : List Token} (h : DerivesLiteral v ts) :
    .dot ∉ ts := by
  match h with
  | .text s => simp
  | .list h hts => simpa using dot_notMem_of_listed hts (forall₂_dot_notMem h)
  | .yes _ => simp
  | .no _ => simp
  | .none _ => simp
termination_by sizeOf v

theorem forall₂_dot_notMem {vs : List Literal} {tss : List (List Token)}
    (h : List.Forall₂ DerivesLiteral vs tss) : ∀ us ∈ tss, .dot ∉ us := by
  match h with
  | .nil => simp
  | .cons hv hvs => exact List.forall_mem_cons.2 ⟨hv.dot_notMem, forall₂_dot_notMem hvs⟩
termination_by sizeOf vs

end

lemma DerivesArgument.dot_notMem {arg : Option String × Literal} {ts : List Token}
    (h : DerivesArgument arg ts) : .dot ∉ ts := by
  cases h with
  | positional h => exact h.dot_notMem
  | keyword k h => simpa using h.dot_notMem

lemma DerivesArguments.dot_notMem {a : Arguments} {ts : List Token} (h : DerivesArguments a ts) :
    .dot ∉ ts := by
  cases h with
  | mk h hts =>
    have hdots := forall_mem_of_forall₂ h fun _ _ harg => harg.dot_notMem
    simpa using dot_notMem_of_listed hts hdots

/-! ### Methods -/

/-- Tokens of arguments derive from no other arguments. -/
lemma DerivesArguments.unique {a a' : Arguments} {ts : List Token} (h : DerivesArguments a ts)
    (h' : DerivesArguments a' ts) : a = a' := by
  obtain ⟨us, hus, rfl⟩ := h.exists_argumentsTokens
  obtain ⟨us', hus', heq⟩ := h'.exists_argumentsTokens
  obtain rfl := (List.cons.inj heq).2
  have hread := readArguments_of_argumentsTokens hus "" []
  have hread' := readArguments_of_argumentsTokens hus' "" []
  simpa [hread] using hread'

lemma DerivesMethod.unique {m m' : Call} {ts : List Token} (h : DerivesMethod m ts)
    (h' : DerivesMethod m' ts) : m = m' := by
  cases h with
  | mk name ha =>
    cases h' with
    | mk _ ha' => rw [ha.unique ha']

/-- A method starts with a dot, and no other one follows. -/
lemma DerivesMethod.exists_dot {m : Call} {ts : List Token} (h : DerivesMethod m ts) :
    ∃ us, ts = .dot :: us ∧ .dot ∉ us := by
  cases h with
  | mk name ha => exact ⟨_, rfl, by simpa using ha.dot_notMem⟩

/-- One more method stands behind an expression. -/
lemma Derives.append {callee : Callee} {a : Arguments} {ms : List Call} {m : Call}
    {us vs : List Token} (h : Derives ⟨callee, a, ms⟩ us) (hm : DerivesMethod m vs) :
    Derives ⟨callee, a, ms ++ [m]⟩ (us ++ vs) := by
  cases h with
  | @mk _ _ _ ts tss ha hms =>
    have hmore := List.rel_append hms (.cons hm .nil)
    simpa using Derives.mk callee ha hmore

/-- Tokens behind the last dot of an expression are its last method. -/
lemma Derives.exists_of_append {e : Expression} {us vs : List Token}
    (h : Derives e (us ++ .dot :: vs)) (hvs : .dot ∉ vs) :
    ∃ ms m, e.methods = ms ++ [m] ∧ Derives { e with methods := ms } us ∧
      DerivesMethod m (.dot :: vs) := by
  generalize hts : us ++ .dot :: vs = ts at h
  cases h with
  | @mk callee a ms as tss ha hms =>
    obtain rfl | ⟨tss, ts, rfl⟩ := List.eq_nil_or_concat tss
    · have hdot : Token.dot ∈ Token.name callee.name :: (as ++ [].flatten) := by
        rw [← hts]
        simp
      exact absurd hdot (by simpa using ha.dot_notMem)
    · rw [List.concat_eq_append] at hms hts
      have hothers := List.forall₂_take_append _ _ _ hms
      obtain ⟨m, hm, hlast⟩ : ∃ m, DerivesMethod m ts ∧ ms.drop tss.length = [m] := by
        obtain ⟨m, ms', hm, hnil, heq⟩ :=
          List.forall₂_cons_right_iff.1 (List.forall₂_drop_append _ _ _ hms)
        rw [List.forall₂_nil_right_iff.1 hnil] at heq
        exact ⟨m, hm, heq⟩
      obtain ⟨vs', rfl, hvs'⟩ := hm.exists_dot
      have hsplit : us ++ .dot :: vs =
          .name callee.name :: (as ++ tss.flatten) ++ .dot :: vs' := by
        simpa using hts
      obtain ⟨rfl, rfl⟩ := append_cons_inj_of_last hvs hvs' hsplit
      refine ⟨ms.take tss.length, m, ?_, .mk callee ha hothers, hm⟩
      rw [← hlast, List.take_append_drop]

/-! ### Calls of `descending` -/

/-- A call of the method `descending` with a truth value or without any argument. -/
def descending (value : Option Bool) : Call :=
  ⟨"descending", ⟨value.toList.map .bool, []⟩⟩

/-- The names of a truth value. -/
def truthNames : Bool → List String
  | true  => ["True", "true"]
  | false => ["False", "false"]

/-- The tokens derive from a call of `descending` that names its truth value in one of two ways. -/
inductive DescendingTokens : Option Bool → List Token → Prop
  | none : DescendingTokens none [.dot, .name "descending", .leftParen, .rightParen]
  | some {b : Bool} {s : String} (h : s ∈ truthNames b) :
      DescendingTokens (some b) [.dot, .name "descending", .leftParen, .name s, .rightParen]

lemma derivesLiteral_truthName {b : Bool} {s : String} (h : s ∈ truthNames b) :
    DerivesLiteral (.bool b) [.name s] := by
  cases b with
  | true => exact .yes h
  | false => exact .no h

lemma DescendingTokens.derivesMethod {value : Option Bool} {ts : List Token}
    (h : DescendingTokens value ts) : DerivesMethod (descending value) ts := by
  cases h with
  | none =>
    have hlisted : Listed [] [] := .between []
    exact .mk "descending" (.mk (a := .empty) .nil hlisted)
  | @some b s h =>
    have hlisted : Listed [[.name s]] [.name s] := listed_cons_iff.2 (.inl ⟨rfl, rfl⟩)
    exact .mk "descending" (.mk (.cons (.positional (derivesLiteral_truthName h)) .nil) hlisted)

lemma DescendingTokens.exists_dot {value : Option Bool} {ts : List Token}
    (h : DescendingTokens value ts) : ∃ us, ts = .dot :: us ∧ .dot ∉ us := by
  cases h <;> exact ⟨_, rfl, by simp⟩

/-- The method needs its truth value. -/
lemma checkDescending_none :
    checkDescending (descending none) = .error (.missingArgument "descending" "descending") := rfl

lemma checkDescending_some (b : Bool) : checkDescending (descending (some b)) = .ok () := rfl

/-- Where the tokens of an expression end with a call of `descending`, this is its last method. -/
lemma Derives.exists_descending {e : Expression} {value : Option Bool} {us ts : List Token}
    (h : Derives e (us ++ ts)) (hts : DescendingTokens value ts) :
    ∃ ms, e.methods = ms ++ [descending value] ∧ Derives { e with methods := ms } us := by
  obtain ⟨vs, rfl, hvs⟩ := hts.exists_dot
  obtain ⟨ms, m, hms, hderives, hm⟩ := h.exists_of_append hvs
  rw [hm.unique hts.derivesMethod] at hms
  exact ⟨ms, hms, hderives⟩

section Call

variable {custom : List String} {calls : CallSets} {callee : Callee} {a : Arguments}
  {ms : List Call} {value : Option Bool}

lemma dimensionMethods_append (granularity part : Option String) (ms ms' : List Call) :
    dimensionMethods granularity part (ms ++ ms') =
      dimensionMethods granularity part ms >>= fun r => dimensionMethods r.1 r.2 ms' := by
  induction ms generalizing granularity part with
  | nil => rfl
  | cons m ms ih =>
    rw [List.cons_append, dimensionMethods, dimensionMethods]
    split
    · simp only [bind_assoc, ih]
    · simp only [bind_assoc, ih]
    · simp only [bind_assoc, ih]
    · rfl

lemma checkDescendingOnly_append (callee : Callee) (ms ms' : List Call) :
    checkDescendingOnly callee (ms ++ ms') =
      checkDescendingOnly callee ms >>= fun _ => checkDescendingOnly callee ms' := by
  induction ms with
  | nil => rfl
  | cons m ms ih =>
    rw [List.cons_append, checkDescendingOnly, checkDescendingOnly]
    split
    · rfl
    · simp only [bind_assoc, ih]

lemma dimensionMethods_descending_eq_ok_iff {r : Option String × Option String} :
    dimensionMethods none none (ms ++ [descending value]) = .ok r ↔
      value.isSome ∧ dimensionMethods none none ms = .ok r := by
  rw [dimensionMethods_append]
  cases dimensionMethods none none ms with
  | error e => simp [bind, Except.bind]
  | ok r' =>
    change (checkDescending (descending value) >>= fun _ => .ok r') = .ok r ↔ _
    cases value with
    | none => simp [checkDescending_none, bind, Except.bind]
    | some b => simp [checkDescending_some, bind, Except.bind]

lemma checkDescendingOnly_descending_eq_ok_iff {u : Unit} :
    checkDescendingOnly callee (ms ++ [descending value]) = .ok u ↔
      value.isSome ∧ checkDescendingOnly callee ms = .ok u := by
  rw [checkDescendingOnly_append]
  cases checkDescendingOnly callee ms with
  | error e => simp [bind, Except.bind]
  | ok _ =>
    change (checkDescending (descending value) >>= fun _ => .ok ()) = .ok u ↔ _
    cases value with
    | none => simp [checkDescending_none, bind, Except.bind]
    | some b => simp [checkDescending_some, bind, Except.bind]

/-- A call of `descending` behind an expression does not change what the expression denotes. Without
a truth value it is refused. -/
lemma call_descending_eq_ok_iff :
    Expression.call custom ⟨callee, a, ms ++ [descending value]⟩ = .ok calls ↔
      value.isSome ∧ Expression.call custom ⟨callee, a, ms⟩ = .ok calls := by
  cases callee with
  | dimension =>
    simp only [Expression.call, bind_eq_ok_iff, dimensionMethods_descending_eq_ok_iff, and_assoc,
      and_left_comm (b := value.isSome = true), exists_and_left]
  | _ =>
    simp only [Expression.call, bind_eq_ok_iff, checkDescendingOnly_descending_eq_ok_iff, and_assoc,
      and_left_comm (b := value.isSome = true), exists_and_left]

/-- Where the last method is a call of `descending` without a truth value, nothing is denoted. -/
lemma getLast?_methods_of_call {e : Expression} (h : e.call custom = .ok calls) :
    e.methods.getLast? ≠ some (descending none) := by
  intro hlast
  obtain ⟨callee, a, methods⟩ := e
  obtain ⟨ms, rfl⟩ : ∃ ms, methods = ms ++ [descending none] := List.getLast?_eq_some_iff.1 hlast
  simpa using (call_descending_eq_ok_iff.1 h).1

end Call

end SemanticLayer.Filter
