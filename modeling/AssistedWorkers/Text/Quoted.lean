import AssistedWorkers.Text.Extender
import AssistedWorkers.Text.Unprintable

/-!
# Texts quoted in messages

A message shows a text it complains about between quotes.  The quote and the backslash are
escaped, the common controls have escapes of their own, and whatever has no visible form of its
own is written as the hexadecimal number of its code point in braces.
-/

namespace AssistedWorkers.Text.Quoted

/-- What one character becomes inside the quotes. -/
def escape (c : Char) : List Char :=
  match c with
  | '"' => ['\\', '"']
  | '\\' => ['\\', '\\']
  | '\n' => ['\\', 'n']
  | '\r' => ['\\', 'r']
  | '\t' => ['\\', 't']
  | c =>
    if c.toNat = 0 then ['\\', '0']
    else if isExtender c || isUnprintable c then
      '\\' :: 'u' :: '\x7b' :: (Nat.toDigits 16 c.toNat ++ ['\x7d'])
    else [c]

/-- The text between quotes. -/
def quote (text : String) : String :=
  "\"" ++ String.ofList (text.toList.flatMap escape) ++ "\""

end AssistedWorkers.Text.Quoted
