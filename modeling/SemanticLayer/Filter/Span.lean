import SemanticLayer.Filter.Marker

/-!
# Places of markers

The same scanner over the bytes of a template: it tells where the content of each marker starts and
where it stops. It looks for single bytes only, since all characters that matter to it are ASCII.
-/

namespace SemanticLayer.Filter

/-- The bytes of a text from the place `start` up to the place `stop`. -/
structure Span where
  start : Nat
  stop  : Nat
  deriving DecidableEq, Repr

/-- The place of the two braces that close a marker, looked for from the place `j` on. A backslash
inside quotes hides the byte behind it, which may be the first one of a longer character. -/
def closingPlace? (bytes : ByteArray) (quote : Option UInt8) (j : Nat) : Option Nat :=
  if h : j < bytes.size then
    match quote with
    | some q =>
      if bytes[j] == '\\'.toUInt8 then closingPlace? bytes (some q) (j + 2)
      else closingPlace? bytes (if bytes[j] == q then none else some q) (j + 1)
    | none   =>
      if bytes[j] == '\''.toUInt8 || bytes[j] == '"'.toUInt8 then
        closingPlace? bytes (some bytes[j]) (j + 1)
      else if bytes[j] == '}'.toUInt8 && bytes[j + 1]? == some '}'.toUInt8 then some j
      else closingPlace? bytes none (j + 1)
  else none
termination_by bytes.size - j

theorem le_of_closingPlace? {bytes : ByteArray} {quote : Option UInt8} {j stop : Nat}
    (h : closingPlace? bytes quote j = some stop) : j ≤ stop := by
  fun_induction closingPlace? bytes quote j with
  | case1 j _ q _ ih => exact Nat.le_of_succ_le (Nat.le_of_succ_le (ih h))
  | case2 j _ q _ ih => exact Nat.le_of_succ_le (ih h)
  | case3 j _ _ ih => exact Nat.le_of_succ_le (ih h)
  | case4 j => exact Nat.le_of_eq (Option.some.inj h)
  | case5 j _ _ _ ih => exact Nat.le_of_succ_le (ih h)
  | case6 => simp at h

/-- The contents of the markers that open at the place `i` or behind it, in order, up to the first
one that is not closed. -/
def spansFrom (bytes : ByteArray) (i : Nat) : List Span × Option FilterFault :=
  if i + 1 < bytes.size then
    if bytes[i]? == some '\x7b'.toUInt8 && bytes[i + 1]? == some '\x7b'.toUInt8 then
      match h : closingPlace? bytes none (i + 2) with
      | none      => ([], some (.unclosedMarker i))
      | some stop =>
        have : i + 2 ≤ stop := le_of_closingPlace? h
        (spansFrom bytes (stop + 2)).map (⟨i + 2, stop⟩ :: ·) id
    else spansFrom bytes (i + 1)
  else ([], none)
termination_by bytes.size - i

/-- What is cut out of a template on the way to its end or to a marker that is not closed. -/
def cuts (template : String) : List Span := (spansFrom template.toUTF8 0).1

/-- The contents of the markers of a template, in order. -/
def spans (template : String) : Except FilterFault (List Span) :=
  match (spansFrom template.toUTF8 0).2 with
  | none       => .ok (cuts template)
  | some fault => .error fault

end SemanticLayer.Filter
