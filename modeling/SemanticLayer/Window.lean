import SemanticLayer.Name.Granularity
import SemanticLayer.Text.Blank
import SemanticLayer.Text.Digits

/-!
# Time windows

A window such as `28 days` is a count and a granularity, which may be plural. The count is a
64-bit number.
-/

namespace SemanticLayer

/-- A window in its parts. The granularity is in lower case and singular. -/
structure Window where
  count       : Nat
  granularity : String
  deriving DecidableEq, Repr

/-- Why a text is no window. -/
inductive WindowFault where
  | notTwoWords
  | unknownGranularity (granularity : String)
  | invalidCount       (count : String)
  deriving DecidableEq, Repr

/-- The wording of the fault of the text `window`. -/
def WindowFault.message (window : String) : WindowFault → String
  | .notTwoWords =>
    s!"Invalid window ({window}) in cumulative metric. Should be of the form `<count> " ++
      "<granularity>`, e.g., `28 days`"
  | .unknownGranularity granularity =>
    s!"Invalid time granularity {granularity} in cumulative metric window string: ({window})"
  | .invalidCount count =>
    s!"Invalid count ({count}) in cumulative metric window string: ({window})"

namespace Window

/-- A count: decimal digits behind an optional plus sign, below `2 ^ 64`. -/
def readCount? (word : String) : Option Nat :=
  let digits := match word.toList with
    | '+' :: cs => cs
    | cs        => cs
  (Text.digits? 10 digits).filter (· < 0x10000000000000000)

/-- The text without one `s` at its end. -/
def singular (s : String) : String :=
  match s.toList.reverse with
  | 's' :: cs => String.ofList cs.reverse
  | _         => s

/-- The known granularity that a word names, as it stands or without a plural `s`. -/
def readGranularity? (custom : List String) (word : String) : Option String :=
  let lowered := Text.lower word
  if isKnownGranularity custom lowered then some lowered
  else if isKnownGranularity custom (singular lowered) then some (singular lowered)
  else none

/-- Read a window. The granularity is looked at before the count. -/
def parse (custom : List String) (window : String) : Except WindowFault Window :=
  match Text.words window with
  | [count, granularity] =>
    match readGranularity? custom granularity with
    | none             => .error (.unknownGranularity (singular (Text.lower granularity)))
    | some granularity =>
      match readCount? count with
      | none       => .error (.invalidCount count)
      | some count => .ok ⟨count, granularity⟩
  | _ => .error .notTwoWords

end Window

end SemanticLayer
