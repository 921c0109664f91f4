import AssistedWorkers.Text.Blank
import AssistedWorkers.Text.Hex

/-!
# Java string literals

A text becomes a literal between quotes.  The quote and the backslash are escaped, line feed,
carriage return and tab have escapes of their own, and every other control character is written
with the four digits of its code point.

* `quote_toList` — the characters of a literal.
-/

namespace AssistedWorkers.Java.StringLiteral

open AssistedWorkers.Text

/-- What one character of a text becomes inside a literal. -/
def escape (c : Char) : List Char :=
  match c with
  | '"' => ['\\', '"']
  | '\\' => ['\\', '\\']
  | '\n' => ['\\', 'n']
  | '\r' => ['\\', 'r']
  | '\t' => ['\\', 't']
  | c => if isControl c then '\\' :: 'u' :: Hex.fourDigits c.toNat else [c]

/-- The literal whose value is the text. -/
def quote (text : String) : String :=
  "\"" ++ String.ofList (text.toList.flatMap escape) ++ "\""

/-- A literal is made of its quotes and of the escaped characters between them. -/
theorem quote_toList (text : String) :
    (quote text).toList = '"' :: (text.toList.flatMap escape ++ ['"']) := by
  simp [quote]

end AssistedWorkers.Java.StringLiteral
