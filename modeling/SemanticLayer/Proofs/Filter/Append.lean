import SemanticLayer.Proofs.Filter.Written

/-!
# Templates put together

A template in front of another one has its calls in front of the calls of the other. No quote and
no marker of the first reaches into the second, so the only way in which the two meet is that an
opening brace at the end of the first and one at the start of the second open a marker together.
-/

namespace SemanticLayer

/-! ### Places -/

/-- The fault of a template that stands `n` bytes further on in a text. Places in a marker are
counted from the start of the marker's content, so only an open marker is found further on. -/
def FilterFault.moved (n : Nat) : FilterFault → FilterFault
  | .unclosedMarker place => .unclosedMarker (n + place)
  | fault                 => fault

@[simp] lemma FilterFault.kind_moved (n : Nat) (fault : FilterFault) :
    (fault.moved n).kind = fault.kind := by
  cases fault <;> rfl

namespace Filter

lemma byteLength_append (cs ds : List Char) :
    byteLength (cs ++ ds) = byteLength cs + byteLength ds := by
  induction cs with
  | nil => simp [byteLength]
  | cons c cs ih => simp [byteLength, ih, Nat.add_assoc]

/-- A place in a text is further on by what is put in front of the text. -/
lemma placeOf_append (before : List Char) {whole rest : List Char} (h : rest <:+ whole) :
    placeOf (before ++ whole) rest = byteLength before + placeOf whole rest := by
  obtain ⟨start, rfl⟩ := h
  simp only [placeOf, byteLength_append]
  omega

/-! ### The end of a marker -/

lemma map_onBefore_eq_some_iff {cs content rest : List Char}
    {parts : Option (List Char × List Char)} :
    parts.map (onBefore cs) = some (content, rest) ↔
      ∃ inner, parts = some (inner, rest) ∧ cs ++ inner = content := by
  cases parts with
  | none => simp
  | some p =>
    obtain ⟨inner, after⟩ := p
    simp [onBefore, and_comm]

/-- The end of a marker is where it is, whatever follows. -/
lemma closeMarker?_append {quote : Option Char} {cs content rest : List Char}
    (h : closeMarker? quote cs = some (content, rest)) (ds : List Char) :
    closeMarker? quote (cs ++ ds) = some (content, rest ++ ds) := by
  fun_induction closeMarker? quote cs generalizing content rest with
  | case1 => simp at h
  | case2 => simp_all [closeMarker?]
  | case3 c cs hopen ih =>
    obtain ⟨inner, hinner, rfl⟩ := map_onBefore_eq_some_iff.1 h
    rw [List.cons_append, closeMarker?]
    · exact map_onBefore_eq_some_iff.2 ⟨inner, ih hinner, rfl⟩
    · -- a closing brace at the very end would leave nothing to close the marker with
      rintro after rfl hcs
      cases cs with
      | nil => simp [closeMarker?] at hinner
      | cons d cs =>
        obtain ⟨rfl, -⟩ : d = '}' ∧ cs ++ ds = after := by simpa using hcs
        exact hopen cs rfl rfl
  | case4 q c cs ih =>
    obtain ⟨inner, hinner, rfl⟩ := map_onBefore_eq_some_iff.1 h
    rw [List.cons_append, List.cons_append, closeMarker?]
    exact map_onBefore_eq_some_iff.2 ⟨inner, ih hinner, rfl⟩
  | case5 q c cs hescape ih =>
    obtain ⟨inner, hinner, rfl⟩ := map_onBefore_eq_some_iff.1 h
    rw [List.cons_append, closeMarker?]
    · exact map_onBefore_eq_some_iff.2 ⟨inner, ih hinner, rfl⟩
    · rintro d after rfl hcs
      cases cs with
      | nil => simp [closeMarker?] at hinner
      | cons d' cs => exact hescape d' cs rfl rfl

/-! ### All markers -/

section Markers

variable {whole cs content rest : List Char}

lemma markersFrom_closed (h : closeMarker? none cs = some (content, rest)) :
    markersFrom whole ('\x7b' :: '\x7b' :: cs) = (markersFrom whole rest).map (content :: ·) := by
  rw [markersFrom]
  split
  · next hnone => simp [h] at hnone
  · next content' rest' hsome =>
    obtain ⟨rfl, rfl⟩ : content = content' ∧ rest = rest' := by simpa [h] using hsome
    rfl

lemma markersFrom_unclosed (h : closeMarker? none cs = none) :
    markersFrom whole ('\x7b' :: '\x7b' :: cs) =
      .error (.unclosedMarker (placeOf whole ('\x7b' :: '\x7b' :: cs))) := by
  rw [markersFrom]
  split
  · rfl
  · next hsome => simp [h] at hsome

lemma markersFrom_cons {c : Char} (h : ∀ ds, c = '\x7b' → cs ≠ '\x7b' :: ds) :
    markersFrom whole (c :: cs) = markersFrom whole cs := by
  rw [markersFrom]
  exact h

/-- What follows a marker is an end of the text that the marker is in. -/
lemma suffix_of_closeMarker? (h : closeMarker? none cs = some (content, rest)) :
    rest <:+ '\x7b' :: '\x7b' :: cs :=
  ⟨'\x7b' :: '\x7b' :: (content ++ ['}', '}']), by simp [eq_of_closeMarker? h]⟩

/-- The markers of a text that stands behind another one are the same, found further on. -/
lemma markersFrom_moved (before : List Char) (h : cs <:+ whole) :
    markersFrom (before ++ whole) cs =
      (markersFrom whole cs).mapError (·.moved (byteLength before)) := by
  fun_induction markersFrom whole cs with
  | case1 => simp [markersFrom, Except.mapError]
  | case2 cs hnone =>
    rw [markersFrom_unclosed hnone, placeOf_append before h]
    rfl
  | case3 cs content rest hsome _ ih =>
    rw [markersFrom_closed hsome, ih ((suffix_of_closeMarker? hsome).trans h)]
    cases markersFrom whole rest <;> rfl
  | case4 c cs hopen ih =>
    rw [markersFrom_cons hopen, ih ((List.suffix_cons c cs).trans h)]

/-- A marker opens where the first text ends and the second one starts. -/
def OpensBetween (cs ds : List Char) : Prop := cs.getLast? = some '\x7b' ∧ ds.head? = some '\x7b'

lemma OpensBetween.of_suffix {ds : List Char} (h : OpensBetween rest ds) (hrest : rest <:+ cs) :
    OpensBetween cs ds := by
  obtain ⟨start, rfl⟩ := hrest
  exact ⟨by simp [h.1], h.2⟩

/-- The markers of a text stay in front of those of the text that follows. -/
lemma markersFrom_append {whole' ds : List Char} {contents : List (List Char)}
    (hcs : markersFrom whole cs = .ok contents) (hmeet : ¬OpensBetween cs ds) :
    markersFrom whole' (cs ++ ds) = (markersFrom whole' ds).map (contents ++ ·) := by
  fun_induction markersFrom whole cs generalizing contents with
  | case1 =>
    obtain rfl : [] = contents := by simpa using hcs
    rw [List.nil_append]
    cases markersFrom whole' ds <;> rfl
  | case2 => simp at hcs
  | case3 cs content rest hsome _ ih =>
    cases hrest : markersFrom whole rest with
    | error => simp [hrest, Except.map] at hcs
    | ok contents' =>
      obtain rfl : content :: contents' = contents := by simpa [hrest, Except.map] using hcs
      have hmeet' : ¬OpensBetween rest ds :=
        fun h => hmeet (h.of_suffix (suffix_of_closeMarker? hsome))
      have hclose : closeMarker? none (cs ++ ds) = some (content, rest ++ ds) :=
        closeMarker?_append hsome ds
      rw [List.cons_append, List.cons_append, markersFrom_closed hclose, ih hrest hmeet']
      cases markersFrom whole' ds <;> rfl
  | case4 c cs hopen ih =>
    have hmeet' : ¬OpensBetween cs ds := fun h => hmeet (h.of_suffix (List.suffix_cons c cs))
    rw [List.cons_append, markersFrom_cons, ih hcs hmeet']
    -- the two braces of an opening would both stand in the first text or meet between the texts
    rintro after rfl hcons
    cases cs with
    | nil => exact hmeet ⟨rfl, by simp at hcons; simp [hcons]⟩
    | cons d cs =>
      obtain ⟨rfl, -⟩ : d = '\x7b' ∧ cs ++ ds = after := by simpa using hcons
      exact hopen cs rfl rfl

end Markers

/-! ### Calls -/

variable {custom : List String} {a b : String} {calls : CallSets}

lemma contentCalls_append {cs ds : List (List Char)} (h : contentCalls custom cs = .ok calls) :
    contentCalls custom (cs ++ ds) = (contentCalls custom ds).map (calls ++ ·) := by
  induction cs generalizing calls with
  | nil =>
    obtain rfl : CallSets.empty = calls := by simpa [contentCalls] using h
    cases hds : contentCalls custom ds <;> simp [hds, Except.map]
  | cons c cs ih =>
    rw [List.cons_append]
    simp only [contentCalls, bind, Except.bind] at h ⊢
    cases hfirst : contentCall custom c with
    | error => simp [hfirst] at h
    | ok first =>
      cases hrest : contentCalls custom cs with
      | error => simp [hfirst, hrest] at h
      | ok rest =>
        obtain rfl : first ++ rest = calls := by simpa [hfirst, hrest] using h
        simp only [ih hrest]
        cases contentCalls custom ds with
        | error => rfl
        | ok calls' => exact congrArg Except.ok (CallSets.append_assoc first rest calls').symm

/-- Reading a template behind another one is reading it alone, with open markers found further on
and the calls of the first in front. -/
lemma templateCalls_append (ha : templateCalls custom a = .ok calls)
    (hmeet : ¬OpensBetween a.toList b.toList) :
    templateCalls custom (a ++ b) =
      ((markers b).mapError (·.moved (byteLength a.toList))).bind fun contents =>
        (contentCalls custom contents).map (calls ++ ·) := by
  cases hmarkers : markers a with
  | error => simp [templateCalls, hmarkers, bind, Except.bind] at ha
  | ok contents =>
    have hcontents : contentCalls custom contents = .ok calls := by
      simpa [templateCalls, hmarkers, bind, Except.bind] using ha
    have hmoved : markers (a ++ b) =
        ((markers b).mapError (·.moved (byteLength a.toList))).map (contents ++ ·) := by
      rw [markers, String.toList_append, markersFrom_append hmarkers hmeet,
        markersFrom_moved a.toList List.suffix_rfl, markers]
    rw [templateCalls, hmoved]
    cases markers b with
    | error => rfl
    | ok contents' => exact contentCalls_append hcontents

lemma templateCalls_append_of_ok {more : CallSets} (ha : templateCalls custom a = .ok calls)
    (hb : templateCalls custom b = .ok more) (hmeet : ¬OpensBetween a.toList b.toList) :
    templateCalls custom (a ++ b) = .ok (calls ++ more) := by
  obtain ⟨contents, hmarkers, hcontents⟩ := bind_eq_ok_iff.1 hb
  rw [templateCalls_append ha hmeet, hmarkers]
  simp [Except.mapError, Except.bind, hcontents, Except.map]

/-- A template that is read can be put in front of any other one that it does not open a marker
with: what is read are the calls of the first and then those of the second, and where the second is
refused the whole is refused for the same kind of fault. -/
theorem parseTemplate_append (ha : parseTemplate custom a = .ok calls)
    (hmeet : ¬OpensBetween a.toList b.toList) :
    (∀ calls', parseTemplate custom (a ++ b) = .ok calls' ↔
      ∃ more, parseTemplate custom b = .ok more ∧ calls' = calls ++ more) ∧
    ∀ e, parseTemplate custom b = .error e →
      ∃ e', parseTemplate custom (a ++ b) = .error e' ∧ e'.fault.kind = e.fault.kind := by
  have hab := templateCalls_append (parseTemplate_eq_ok_iff.1 ha) hmeet
  have hb : templateCalls custom b = (markers b).bind (contentCalls custom) := rfl
  simp only [parseTemplate, hab, hb]
  cases markers b with
  | error fault => simp [Except.mapError, Except.bind]
  | ok contents =>
    cases hcontents : contentCalls custom contents with
    | error fault => simp [Except.mapError, Except.bind, Except.map, hcontents]
    | ok more => simp [Except.mapError, Except.bind, Except.map, hcontents, eq_comm]

/-- A marker with a closing mark in quotes, and behind it the start of a quote and of a marker. -/
def halfOpen : String := "\x7b\x7b Metric('\x7d\x7d', group_by=['g']) \x7d\x7d 'it \x7b"

/-- What is left open behind a marker does not reach into the template that follows. -/
theorem parseTemplate_append_halfOpen :
    parseTemplate [] halfOpen = .ok (.ofMetric ⟨"\x7d\x7d", ["g"]⟩) ∧
    ¬OpensBetween halfOpen.toList " \x7b\x7b Entity('e') \x7d\x7d".toList ∧
    parseTemplate [] (halfOpen ++ " \x7b\x7b Entity('e') \x7d\x7d") =
      .ok ⟨[], [], [⟨[], "e"⟩], [⟨"\x7d\x7d", ["g"]⟩]⟩ := by
  have hmetric : templateCalls [] ((WrittenCall.metric "\x7d\x7d" ["g"]).template '\'') =
      .ok (.ofMetric ⟨"\x7d\x7d", ["g"]⟩) :=
    (WrittenCall.templateCalls_template (by decide) [] (WrittenCall.isNamed_metric _ _)).trans
      (by decide +kernel)
  have hentity : templateCalls [] ((WrittenCall.entity "e" none).template '\'') =
      .ok (.ofEntity ⟨[], "e"⟩) :=
    (WrittenCall.templateCalls_template (by decide) [] (WrittenCall.isNamed_entity _ _)).trans
      (by decide +kernel)
  have ha : parseTemplate [] halfOpen = .ok (.ofMetric ⟨"\x7d\x7d", ["g"]⟩) := by
    have hrest : templateCalls [] " 'it \x7b" = .ok .empty := by decide +kernel
    have hwritten : halfOpen =
        (WrittenCall.metric "\x7d\x7d" ["g"]).template '\'' ++ " 'it \x7b" := by decide +kernel
    rw [hwritten, parseTemplate_eq_ok_iff]
    exact templateCalls_append_of_ok hmetric hrest (by simp [OpensBetween])
  have hb : parseTemplate [] " \x7b\x7b Entity('e') \x7d\x7d" = .ok (.ofEntity ⟨[], "e"⟩) := by
    have hblank : templateCalls [] " " = .ok .empty := by decide +kernel
    have hwritten : " \x7b\x7b Entity('e') \x7d\x7d" =
        " " ++ (WrittenCall.entity "e" none).template '\'' := by decide +kernel
    rw [hwritten, parseTemplate_eq_ok_iff]
    exact templateCalls_append_of_ok hblank hentity (by simp [OpensBetween])
  have hmeet : ¬OpensBetween halfOpen.toList " \x7b\x7b Entity('e') \x7d\x7d".toList := by
    simp [OpensBetween]
  exact ⟨ha, hmeet, ((parseTemplate_append ha hmeet).1 _).2 ⟨_, hb, rfl⟩⟩

end Filter

end SemanticLayer
