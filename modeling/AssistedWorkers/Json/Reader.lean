import AssistedWorkers.Decimal.Shortest
import AssistedWorkers.Json.Fault
import AssistedWorkers.Text.Hex

/-!
# Reading JSON texts

Readers for the tokens of JSON: literals, strings and numbers.  A reader takes a value off the
front of a text, after spaces, and gives the rest, or stops with a fault.

Numbers keep apart what can be told apart in a message: natural and negative integers of 64
bits, and everything else as a floating point number.
-/

namespace AssistedWorkers.Json

open AssistedWorkers.Decimal
open AssistedWorkers.Text

/-- Takes a value off the front of a text. -/
abbrev Reader (α : Type) := List Char → Except Fault (α × List Char)

/-- Whether a character is white space between tokens. -/
def isSpace (c : Char) : Bool :=
  c == ' ' || c == '\t' || c == '\n' || c == '\r'

/-- The text without the spaces it starts with. -/
def skipSpaces (text : List Char) : List Char :=
  text.dropWhile isSpace

/-- Takes the given letters off a text. -/
def expectLetters : List Char → List Char → Except Fault (List Char)
  | [], text => .ok text
  | _ :: _, [] => .error .truncated
  | c :: letters, d :: text => if d = c then expectLetters letters text else .error .malformed

/-! ## Strings -/

/-- The code unit that four hexadecimal digits stand for.  A text of fewer than four bytes is
truncated, whatever they are. -/
def readCodeUnit (text : List Char) : Except Fault (Nat × List Char) :=
  match text with
  | a :: b :: c :: d :: rest =>
    match Hex.ofFour? a b c d with
    | some n => .ok (n, rest)
    | none => .error .malformed
  | short => .error (if (String.ofList short).utf8ByteSize < 4 then .truncated else .malformed)

/-- Whether a code unit starts a surrogate pair. -/
def isHighSurrogate (n : Nat) : Bool :=
  0xD800 ≤ n && n ≤ 0xDBFF

/-- Whether a code unit ends a surrogate pair. -/
def isLowSurrogate (n : Nat) : Bool :=
  0xDC00 ≤ n && n ≤ 0xDFFF

/-- The character of a surrogate pair. -/
def surrogatePair (high low : Nat) : Char :=
  Char.ofNat ((high - 0xD800) * 0x400 + (low - 0xDC00) + 0x10000)

/-- The character that an escape stands for whose letter was `u`.  Surrogates stand in pairs. -/
def readUnicodeEscape (text : List Char) : Except Fault (Char × List Char) := do
  let (n, rest) ← readCodeUnit text
  if isLowSurrogate n then .error .malformed
  else if isHighSurrogate n then
    match rest with
    | [] => .error .truncated
    | '\\' :: [] => .error .truncated
    | '\\' :: 'u' :: rest => do
      let (low, rest) ← readCodeUnit rest
      if isLowSurrogate low then .ok (surrogatePair n low, rest) else .error .malformed
    | _ => .error .malformed
  else .ok (Char.ofNat n, rest)

/-- The character that an escape stands for, its backslash being read already. -/
def readEscape (text : List Char) : Except Fault (Char × List Char) :=
  match text with
  | [] => .error .truncated
  | 'u' :: rest => readUnicodeEscape rest
  | '"' :: rest => .ok ('"', rest)
  | '\\' :: rest => .ok ('\\', rest)
  | '/' :: rest => .ok ('/', rest)
  | 'b' :: rest => .ok ('\x08', rest)
  | 'f' :: rest => .ok ('\x0c', rest)
  | 'n' :: rest => .ok ('\n', rest)
  | 'r' :: rest => .ok ('\r', rest)
  | 't' :: rest => .ok ('\t', rest)
  | _ => .error .malformed

/-- The characters of a string of at most `bound` characters up to its closing quote. -/
def readCharacters : (bound : Nat) → List Char → Except Fault (List Char × List Char)
  | 0, _ => .error .truncated
  | bound + 1, text =>
    match text with
    | [] => .error .truncated
    | '"' :: rest => .ok ([], rest)
    | '\\' :: rest => do
      let (c, rest) ← readEscape rest
      let (cs, rest) ← readCharacters bound rest
      .ok (c :: cs, rest)
    | c :: rest =>
      if c.toNat < 0x20 then .error .malformed
      else do
        let (cs, rest) ← readCharacters bound rest
        .ok (c :: cs, rest)

/-- A string whose opening quote is read already. -/
def readQuoted : Reader String :=
  fun text => do
    let (cs, rest) ← readCharacters (text.length + 1) text
    .ok (String.ofList cs, rest)

/-! ## Numbers -/

/-- A number as it can be told apart. -/
inductive Number where
  | natural (n : Nat)
  /-- The negative of a positive number. -/
  | negative (n : Nat)
  | floating (isNegative : Bool) (x : Binary64)
deriving DecidableEq, Repr

namespace Number

/-- What a message says was found where a number stands. -/
def found : Number → Found
  | natural n => .integer n
  | negative n => .integer (-n)
  | floating isNegative x => .floating ((if isNegative then "-" else "") ++ x.toText)

end Number

/-- The value of a decimal digit. -/
def digitValue (c : Char) : Nat :=
  c.toNat - '0'.toNat

/-- A significand with digits appended as long as it fits in 64 bits, and how many digits after
those were left out. -/
def appendDigits (significand : Nat) : List Char → Nat × Nat
  | [] => (significand, 0)
  | c :: cs =>
    let longer := significand * 10 + digitValue c
    if longer < UInt64.size then appendDigits longer cs else (significand, cs.length + 1)

/-- The power of ten after a number's `e`, which is read already. -/
def readPower (text : List Char) : Except Fault (Int × List Char) :=
  let (isNegative, text) := match text with
    | '+' :: rest => (false, rest)
    | '-' :: rest => (true, rest)
    | _ => (false, text)
  match text.takeWhile Char.isDigit, text with
  | [], [] => .error .truncated
  | [], _ => .error .malformed
  | digits, _ =>
    let power : Int := digits.foldl (fun n c => n * 10 + digitValue c) 0
    .ok (if isNegative then -power else power, text.dropWhile Char.isDigit)

/-- A floating point number from its significand, the power of ten so far, and the text after its
digits. -/
def readFloating (isNegative : Bool) (significand : Nat) (power : Int) :
    Reader Number :=
  fun text => do
    let (further, rest) ← match text with
      | 'e' :: rest => readPower rest
      | 'E' :: rest => readPower rest
      | _ => .ok (0, text)
    match Binary64.ofDecimal? significand (power + further) with
    | some x => .ok (.floating isNegative x, rest)
    | none => .error .malformed

/-- The rest of a number after the digits of its whole part. -/
def readNumberTail (isNegative : Bool) (significand dropped : Nat) : Reader Number :=
  fun text =>
    match text with
    | '.' :: rest =>
      match rest.takeWhile Char.isDigit, rest with
      | [], [] => .error .truncated
      | [], _ => .error .malformed
      | digits, _ =>
        let (longer, omitted) := appendDigits significand digits
        readFloating isNegative longer ((dropped : Int) - (digits.length - omitted : Nat))
          (rest.dropWhile Char.isDigit)
    | 'e' :: _ => readFloating isNegative significand dropped text
    | 'E' :: _ => readFloating isNegative significand dropped text
    | _ =>
      if dropped ≠ 0 then readFloating isNegative significand dropped text
      else if !isNegative then .ok (.natural significand, text)
      else if significand = 0 ∨ significand > UInt64.size / 2 then
        readFloating true significand 0 text
      else .ok (.negative significand, text)

/-- A number whose sign is read already.  Its whole part is zero or does not start with zero. -/
def readUnsigned (isNegative : Bool) : Reader Number :=
  fun text =>
    match text with
    | [] => .error .truncated
    | '0' :: rest =>
      match rest with
      | d :: _ => if d.isDigit then .error .malformed else readNumberTail isNegative 0 0 rest
      | [] => readNumberTail isNegative 0 0 rest
    | c :: _ =>
      if c.isDigit then
        let (significand, dropped) := appendDigits 0 (text.takeWhile Char.isDigit)
        readNumberTail isNegative significand dropped (text.dropWhile Char.isDigit)
      else .error .malformed

/-- Whether a number may start with the character. -/
def startsNumber (c : Char) : Bool :=
  c == '-' || c.isDigit

/-- A number at the front of a text. -/
def readNumber : Reader Number :=
  fun text =>
    match text with
    | '-' :: rest => readUnsigned true rest
    | _ => readUnsigned false text

/-! ## What stands there instead -/

/-- The fault of a text that starts with another kind of value than the expected one.  A scalar is
read to its end first; an array or an object is told by its bracket. -/
def faultInstead (expected : Expected) (text : List Char) : Fault :=
  let instead (found : Found) : Fault := .mismatch (.invalidType found expected)
  let whenRead {α : Type} (found : α → Found) (read : Except Fault (α × List Char)) : Fault :=
    match read with
    | .ok (a, _) => instead (found a)
    | .error fault => fault
  match text with
  | [] => .truncated
  | 'n' :: rest =>
    whenRead (fun _ => .null) ((expectLetters ['u', 'l', 'l'] rest).map fun r => ((), r))
  | 't' :: rest =>
    whenRead (fun _ => .boolean true)
      ((expectLetters ['r', 'u', 'e'] rest).map fun r => ((), r))
  | 'f' :: rest =>
    whenRead (fun _ => .boolean false)
      ((expectLetters ['a', 'l', 's', 'e'] rest).map fun r => ((), r))
  | '"' :: rest => whenRead .text (readQuoted rest)
  | '[' :: _ => instead .sequence
  | '\x7b' :: _ => instead .map
  | c :: _ => if startsNumber c then whenRead Number.found (readNumber text) else .malformed

end AssistedWorkers.Json
