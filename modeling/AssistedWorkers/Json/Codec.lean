import AssistedWorkers.Json.Reader

/-!
# JSON codecs

A codec reads a value from a JSON text and writes it as compact JSON.  The codecs of this module
are those of strings, booleans, numbers of 32 bits, lists, optional values and choices; records
have a module of their own.

A choice between names is written as the name in a string.  It is also read from an object whose
one key is the name and whose value is `null`.
-/

namespace AssistedWorkers.Json

/-- How values of a type are read and written. -/
structure Codec (α : Type) where
  read : Reader α
  write : α → List Char

/-! ## Scalars -/

/-- What one character of a string is written as. -/
def escape (c : Char) : List Char :=
  match c with
  | '"' => ['\\', '"']
  | '\\' => ['\\', '\\']
  | '\n' => ['\\', 'n']
  | '\r' => ['\\', 'r']
  | '\t' => ['\\', 't']
  | '\x08' => ['\\', 'b']
  | '\x0c' => ['\\', 'f']
  | c => if c.toNat < 0x20 then '\\' :: 'u' :: Text.Hex.fourDigits c.toNat else [c]

/-- A string as it is written. -/
def writeText (s : String) : List Char :=
  '"' :: (s.toList.flatMap escape ++ ['"'])

/-- A string. -/
def readText : Reader String :=
  fun text =>
    match skipSpaces text with
    | '"' :: rest => readQuoted rest
    | other => .error (faultInstead .text other)

/-- Strings. -/
def textCodec : Codec String where
  read := readText
  write := writeText

/-- A boolean. -/
def readBoolean : Reader Bool :=
  fun text =>
    match skipSpaces text with
    | 't' :: rest => (expectLetters ['r', 'u', 'e'] rest).map fun r => (true, r)
    | 'f' :: rest => (expectLetters ['a', 'l', 's', 'e'] rest).map fun r => (false, r)
    | other => .error (faultInstead .boolean other)

/-- Booleans. -/
def booleanCodec : Codec Bool where
  read := readBoolean
  write b := if b then ['t', 'r', 'u', 'e'] else ['f', 'a', 'l', 's', 'e']

/-- A natural number below 2^32. -/
def readWord : Reader UInt32 :=
  fun text =>
    let text := skipSpaces text
    match text with
    | [] => .error .truncated
    | c :: _ =>
      if startsNumber c then do
        let (number, rest) ← readNumber text
        match number with
        | .natural n =>
          if n < UInt32.size then .ok (UInt32.ofNat n, rest)
          else .error (.mismatch (.invalidNumber n .word))
        | .negative n => .error (.mismatch (.invalidNumber (-n) .word))
        | .floating .. => .error (.mismatch (.invalidType number.found .word))
      else .error (faultInstead .word text)

/-- Natural numbers below 2^32. -/
def wordCodec : Codec UInt32 where
  read := readWord
  write n := Nat.toDigits 10 n.toNat

/-! ## Separators -/

/-- The place of the next element of a sequence, or nothing at its closing bracket, which is left
to be read. -/
def nextElement (isFirst : Bool) (text : List Char) : Except Fault (Option (List Char)) :=
  match skipSpaces text with
  | [] => .error .truncated
  | ']' :: _ => .ok none
  | ',' :: rest =>
    if isFirst then .ok (some (',' :: rest))
    else
      match skipSpaces rest with
      | [] => .error .truncated
      | ']' :: _ => .error .malformed
      | element => .ok (some element)
  | element => if isFirst then .ok (some element) else .error .malformed

/-- Takes the closing bracket of a sequence. -/
def closeSequence (text : List Char) : Except Fault (List Char) :=
  match skipSpaces text with
  | [] => .error .truncated
  | ']' :: rest => .ok rest
  | _ => .error .malformed

/-- The next key of an object with the text after it, or nothing at its closing brace, which is
left to be read. -/
def nextKey (isFirst : Bool) (text : List Char) : Except Fault (Option (String × List Char)) :=
  match skipSpaces text with
  | [] => .error .truncated
  | '\x7d' :: _ => .ok none
  | '"' :: rest => if isFirst then (readQuoted rest).map some else .error .malformed
  | ',' :: rest =>
    if isFirst then .error .malformed
    else
      match skipSpaces rest with
      | [] => .error .truncated
      | '"' :: rest => (readQuoted rest).map some
      | _ => .error .malformed
  | _ => .error .malformed

/-- Takes the colon after a key. -/
def takeColon (text : List Char) : Except Fault (List Char) :=
  match skipSpaces text with
  | [] => .error .truncated
  | ':' :: rest => .ok rest
  | _ => .error .malformed

/-- Takes the closing brace of an object. -/
def closeObject (text : List Char) : Except Fault (List Char) :=
  match skipSpaces text with
  | [] => .error .truncated
  | '\x7d' :: rest => .ok rest
  | _ => .error .malformed

/-- Written values with commas between them. -/
def commaSeparated (written : List (List Char)) : List Char :=
  [','].intercalate written

/-! ## Lists, optional values and choices -/

/-- At most `bound` elements up to the closing bracket. -/
def readElements {α : Type} (read : Reader α) : (bound : Nat) → Bool → Reader (List α)
  | 0, _, _ => .error .truncated
  | bound + 1, isFirst, text => do
    match ← nextElement isFirst text with
    | none => .ok ([], text)
    | some text =>
      let (a, text) ← read text
      let (as, text) ← readElements read bound false text
      .ok (a :: as, text)

/-- A list. -/
def readList {α : Type} (read : Reader α) : Reader (List α) :=
  fun text =>
    match skipSpaces text with
    | '[' :: rest => do
      let (as, rest) ← readElements read (rest.length + 1) true rest
      let rest ← closeSequence rest
      .ok (as, rest)
    | other => .error (faultInstead .sequence other)

/-- Lists of values. -/
def listCodec {α : Type} (codec : Codec α) : Codec (List α) where
  read := readList codec.read
  write as := '[' :: (commaSeparated (as.map codec.write) ++ [']'])

/-- Values that may be `null`. -/
def optionCodec {α : Type} (codec : Codec α) : Codec (Option α) where
  read text :=
    match skipSpaces text with
    | 'n' :: rest => (expectLetters ['u', 'l', 'l'] rest).map fun r => (none, r)
    | other => (codec.read other).map fun (a, rest) => (some a, rest)
  write
    | none => ['n', 'u', 'l', 'l']
    | some a => codec.write a

/-- The value with a name. -/
def chosen {α : Type} (values : List α) (nameOf : α → String) (name : String) : Except Fault α :=
  match values.find? (nameOf · == name) with
  | some a => .ok a
  | none => .error (.mismatch (.unknownVariant name (values.map nameOf)))

/-- Takes the empty value of a variant. -/
def takeUnit (text : List Char) : Except Fault (List Char) :=
  match skipSpaces text with
  | 'n' :: rest => expectLetters ['u', 'l', 'l'] rest
  | other => .error (faultInstead .unit other)

/-- One of the values, by its name. -/
def readChoice {α : Type} (values : List α) (nameOf : α → String) : Reader α :=
  fun text =>
    match skipSpaces text with
    | [] => .error .truncated
    | '"' :: rest => do
      let (name, rest) ← readQuoted rest
      let a ← chosen values nameOf name
      .ok (a, rest)
    | '\x7b' :: rest =>
      match skipSpaces rest with
      | '"' :: rest => do
        let (name, rest) ← readQuoted rest
        let a ← chosen values nameOf name
        let rest ← takeUnit (← takeColon rest)
        let rest ← closeObject rest
        .ok (a, rest)
      | [] => .error .truncated
      | _ => .error .malformed
    | _ => .error .malformed

/-- A choice between named values. -/
def choiceCodec {α : Type} (values : List α) (nameOf : α → String) : Codec α where
  read := readChoice values nameOf
  write a := writeText (nameOf a)

/-! ## Whole texts -/

/-- Reads a text that holds one value and nothing else but spaces. -/
def Codec.decode {α : Type} (codec : Codec α) (text : String) : Except Fault α := do
  let (a, rest) ← codec.read text.toList
  match skipSpaces rest with
  | [] => .ok a
  | _ => .error .malformed

/-- Writes a value as a compact text. -/
def Codec.encode {α : Type} (codec : Codec α) (a : α) : String :=
  String.ofList (codec.write a)

end AssistedWorkers.Json
