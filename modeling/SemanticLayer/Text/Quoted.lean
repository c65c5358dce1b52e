import SemanticLayer.Text.Printable

/-!
# Quoted text

Two quotations of a text between double quotes. A document escapes the quote, the backslash and
the control characters; a message escapes every character that a reader could not see.
-/

namespace SemanticLayer.Text

/-- The digit of a value below 16. -/
def hexDigit (n : Nat) : Char := if n < 10 then Char.ofNat (48 + n) else Char.ofNat (87 + n)

/-- A number in base 16, without zeros in front. -/
def hex (n : Nat) : List Char :=
  if n < 16 then [hexDigit n] else hex (n / 16) ++ [hexDigit (n % 16)]

/-- A character inside a quotation of a document. -/
def escapeForDocument (c : Char) : List Char :=
  match c with
  | '"'    => ['\\', '"']
  | '\\'   => ['\\', '\\']
  | '\x08' => ['\\', 'b']
  | '\x0c' => ['\\', 'f']
  | '\n'   => ['\\', 'n']
  | '\r'   => ['\\', 'r']
  | '\t'   => ['\\', 't']
  | c      =>
    if c.toNat < 0x20 then ['\\', 'u', '0', '0', hexDigit (c.toNat / 16), hexDigit (c.toNat % 16)]
    else [c]

/-- A text quoted as a document writes it. -/
def quoteForDocument (s : String) : String :=
  String.ofList ('"' :: s.toList.flatMap escapeForDocument ++ ['"'])

/-- A character inside a quotation of a message. -/
def escapeForMessage (c : Char) : List Char :=
  match c with
  | '"'    => ['\\', '"']
  | '\\'   => ['\\', '\\']
  | '\x00' => ['\\', '0']
  | '\n'   => ['\\', 'n']
  | '\r'   => ['\\', 'r']
  | '\t'   => ['\\', 't']
  | c      =>
    if isPrintable c then [c] else ['\\', 'u', '\x7b'] ++ hex c.toNat ++ ['\x7d']

/-- A text quoted as a message shows it. -/
def quoteForMessage (s : String) : String :=
  String.ofList ('"' :: s.toList.flatMap escapeForMessage ++ ['"'])

end SemanticLayer.Text
