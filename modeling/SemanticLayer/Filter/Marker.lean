import SemanticLayer.Filter.Fault

/-!
# Markers of a template

A template is a text with markers, each an expression between two opening braces and the first two
closing braces that stand outside quotes. A backslash inside quotes hides the character behind it.
Nothing outside the markers is looked at.
-/

namespace SemanticLayer.Filter

/-- The number of bytes that the characters take. -/
def byteLength : List Char → Nat
  | []      => 0
  | c :: cs => c.utf8Size + byteLength cs

/-- The place in `whole` where its end `rest` starts, in bytes. -/
def placeOf (whole rest : List Char) : Nat := byteLength whole - byteLength rest

/-- A quotation mark. -/
def isQuote (c : Char) : Bool := c == '\'' || c == '"'

/-- Put characters in front of the first of two parts. -/
def onBefore (cs : List Char) : List Char × List Char → List Char × List Char
  | (before, after) => (cs ++ before, after)

/-- The content of a marker up to its end, and what follows. The reader stands inside the quotes
`quote`, if there are any. -/
def closeMarker? : Option Char → List Char → Option (List Char × List Char)
  | _,      []               => none
  | none,   '}' :: '}' :: cs => some ([], cs)
  | none,   c :: cs          =>
    (closeMarker? (if isQuote c then some c else none) cs).map (onBefore [c])
  | some q, '\\' :: c :: cs  => (closeMarker? (some q) cs).map (onBefore ['\\', c])
  | some q, c :: cs          =>
    (closeMarker? (if c == q then none else some q) cs).map (onBefore [c])

/-- The marker's content, its end and what follows are all there is. -/
theorem eq_of_closeMarker? {quote : Option Char} {cs content rest : List Char}
    (h : closeMarker? quote cs = some (content, rest)) : cs = content ++ '}' :: '}' :: rest := by
  fun_induction closeMarker? quote cs generalizing content rest with
  | case1 => simp at h
  | case2 => simp_all
  | case3 c cs _ ih =>
    obtain ⟨⟨b, r⟩, hb, hr⟩ := Option.map_eq_some_iff.1 h
    simp only [onBefore, Prod.mk.injEq] at hr
    obtain ⟨rfl, rfl⟩ := hr
    simp [ih hb]
  | case4 q c cs ih =>
    obtain ⟨⟨b, r⟩, hb, hr⟩ := Option.map_eq_some_iff.1 h
    simp only [onBefore, Prod.mk.injEq] at hr
    obtain ⟨rfl, rfl⟩ := hr
    simp [ih hb]
  | case5 q c cs _ ih =>
    obtain ⟨⟨b, r⟩, hb, hr⟩ := Option.map_eq_some_iff.1 h
    simp only [onBefore, Prod.mk.injEq] at hr
    obtain ⟨rfl, rfl⟩ := hr
    simp [ih hb]

/-- The contents of the markers in the end `cs` of the template `whole`, in order. -/
def markersFrom (whole : List Char) : List Char → Except FilterFault (List (List Char))
  | []                => .ok []
  | '\x7b' :: '\x7b' :: cs =>
    match h : closeMarker? none cs with
    | none                 => .error (.unclosedMarker (placeOf whole ('\x7b' :: '\x7b' :: cs)))
    | some (content, rest) =>
      have : rest.length < cs.length + 2 := by
        simp [eq_of_closeMarker? h]; omega
      (markersFrom whole rest).map (content :: ·)
  | _ :: cs           => markersFrom whole cs
termination_by cs => cs.length

/-- The contents of the markers of a template, in order. -/
def markers (template : String) : Except FilterFault (List (List Char)) :=
  markersFrom template.toList template.toList

end SemanticLayer.Filter
