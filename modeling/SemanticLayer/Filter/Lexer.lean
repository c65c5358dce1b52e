import SemanticLayer.Filter.Marker
import SemanticLayer.Text.Blank

/-!
# Reading tokens

The content of a marker is read into tokens from left to right. White space separates tokens, a
quoted text ends at the quotation mark it starts with, and a backslash in it stands for the
character behind it.
-/

namespace SemanticLayer.Filter

/-- The text up to the mark `quote`, and what follows the mark. -/
def readQuoted? (quote : Char) : List Char → Option (List Char × List Char)
  | []              => none
  | ['\\']          => none
  | '\\' :: c :: cs => (readQuoted? quote cs).map (onBefore [c])
  | c :: cs         =>
    if c == quote then some ([], cs) else (readQuoted? quote cs).map (onBefore [c])

theorem length_lt_of_readQuoted? {quote : Char} {cs text rest : List Char}
    (h : readQuoted? quote cs = some (text, rest)) : rest.length < cs.length := by
  fun_induction readQuoted? quote cs generalizing text rest with
  | case1 => simp at h
  | case2 => simp at h
  | case3 c cs ih =>
    obtain ⟨⟨b, r⟩, hb, hr⟩ := Option.map_eq_some_iff.1 h
    simp only [onBefore, Prod.mk.injEq] at hr
    obtain ⟨-, rfl⟩ := hr
    have := ih hb
    simp; omega
  | case4 c cs => simp_all
  | case5 c cs _ _ _ ih =>
    obtain ⟨⟨b, r⟩, hb, hr⟩ := Option.map_eq_some_iff.1 h
    simp only [onBefore, Prod.mk.injEq] at hr
    obtain ⟨-, rfl⟩ := hr
    have := ih hb
    simp; omega

theorem length_dropWhile_lt (p : Char → Bool) (c : Char) (cs : List Char) :
    (cs.dropWhile p).length < (c :: cs).length :=
  Nat.lt_succ_of_le (List.dropWhile_sublist p).length_le

/-- The tokens of the end `cs` of the marker content `whole`. -/
def tokensFrom (whole : List Char) : List Char → Except FilterFault (List Token)
  | []      => .ok []
  | c :: cs =>
    if Text.isBlank c then tokensFrom whole cs
    else match Token.ofMark? c with
      | some token => (tokensFrom whole cs).map (token :: ·)
      | none       =>
        if isQuote c then
          match _h : readQuoted? c cs with
          | none              => .error (.unterminatedText (placeOf whole (c :: cs)))
          | some (text, rest) => (tokensFrom whole rest).map (.text (String.ofList text) :: ·)
        else if isNameStart c then
          (tokensFrom whole (cs.dropWhile isNameCharacter)).map
            (.name (String.ofList (c :: cs.takeWhile isNameCharacter)) :: ·)
        else .error (.unexpectedCharacter c (placeOf whole (c :: cs)))
termination_by cs => cs.length
decreasing_by
  · exact Nat.lt_succ_self _
  · exact Nat.lt_succ_self _
  · exact Nat.lt_succ_of_lt (length_lt_of_readQuoted? _h)
  · exact length_dropWhile_lt isNameCharacter c cs

/-- The tokens of the content of a marker. -/
def tokens (content : List Char) : Except FilterFault (List Token) := tokensFrom content content

end SemanticLayer.Filter
