import AssistedWorkers.Json.Codec

/-!
# JSON records

A record has named fields in a fixed order.  It is written as an object with its fields in that
order, and read from an object with them in any order, or from a sequence of them in the fixed
order.  A field may have a value for when it is absent; without one it is required.  Unknown and
repeated fields are faults as soon as their key is read, and a missing field is one at the end.

The types of the fields form a list, and a *row* holds one value for each of them.  A record codec
turns its values into rows and back.
-/

namespace AssistedWorkers.Json

/-- A field of a record. -/
structure Field (α : Type) where
  name : String
  codec : Codec α
  /-- The value when the field is absent; nothing for a required field. -/
  absent : Option α
  /-- Whether a value is not written. -/
  omits : α → Bool

namespace Field

/-- A field that has to be there. -/
def required {α : Type} (name : String) (codec : Codec α) : Field α :=
  ⟨name, codec, none, fun _ => false⟩

/-- A field that may be absent and is always written. -/
def defaulted {α : Type} (name : String) (codec : Codec α) (absent : α) : Field α :=
  ⟨name, codec, some absent, fun _ => false⟩

/-- A field that may be absent or `null`, and is not written when it has no value. -/
def unlessNone {α : Type} (name : String) (codec : Codec α) : Field (Option α) :=
  ⟨name, optionCodec codec, some none, Option.isNone⟩

end Field

/-- The fields of a record whose values have the given types. -/
def Fields : List Type → Type
  | [] => Unit
  | α :: αs => Field α × Fields αs

/-- One value for each of the given types. -/
def Row : List Type → Type
  | [] => Unit
  | α :: αs => α × Row αs

/-- What has been read of a row: for each field a value or nothing yet. -/
def Draft : List Type → Type
  | [] => Unit
  | α :: αs => Option α × Draft αs

/-- The draft before anything has been read. -/
def Draft.empty : (αs : List Type) → Draft αs
  | [] => ()
  | _ :: αs => (none, empty αs)

namespace Fields

/-- The names of the fields, in order. -/
def names : {αs : List Type} → Fields αs → List String
  | [], _ => []
  | _ :: _, (f, fs) => f.name :: names fs

/-- Enters the value of a key into a draft, its text starting with the colon after the key.
Nothing comes of a key that no field has. -/
def enter (key : String) (text : List Char) :
    {αs : List Type} → Fields αs → Draft αs → Option (Except Fault (Draft αs × List Char))
  | [], _, _ => none
  | _ :: _, (f, fs), (value, others) =>
    if f.name = key then
      some (match value with
        | some _ => .error (.mismatch (.duplicateField key))
        | none => do
          let (a, rest) ← f.codec.read (← takeColon text)
          .ok ((some a, others), rest))
    else (enter key text fs others).map fun entered =>
      entered.map fun (others, rest) => ((value, others), rest)

/-- The row of a draft, absent fields having their value for that. -/
def complete : {αs : List Type} → Fields αs → Draft αs → Except Fault (Row αs)
  | [], _, _ => .ok ()
  | _ :: _, (f, fs), (value, others) =>
    match value.or f.absent with
    | none => .error (.mismatch (.missingField f.name))
    | some a => (complete fs others).map fun row => (a, row)

/-- At most `bound` members of an object, up to its closing brace. -/
def readMembers {αs : List Type} (fs : Fields αs) :
    (bound : Nat) → Bool → Draft αs → Reader (Draft αs)
  | 0, _, _, _ => .error .truncated
  | bound + 1, isFirst, draft, text => do
    match ← nextKey isFirst text with
    | none => .ok (draft, text)
    | some (key, text) =>
      match fs.enter key text draft with
      | none => .error (.mismatch (.unknownField key fs.names))
      | some entered =>
        let (draft, text) ← entered
        readMembers fs bound false draft text

/-- The row of an object whose opening brace is read already. -/
def readObject {αs : List Type} (fs : Fields αs) : Reader (Row αs) :=
  fun text => do
    let (draft, text) ← fs.readMembers (text.length + 1) true (Draft.empty αs) text
    let row ← fs.complete draft
    let text ← closeObject text
    .ok (row, text)

/-- The row of the fields from `index` on, from the elements of a sequence.  Fields beyond the end
of the sequence are absent; `tooShort` is the fault for a required one. -/
def readElements (tooShort : Nat → Fault) :
    {αs : List Type} → Fields αs → (index : Nat) → Reader (Row αs)
  | [], _, _, text => .ok ((), text)
  | _ :: _, (f, fs), index, text => do
    let (a, text) ←
      match ← nextElement (index == 0) text with
      | some text => f.codec.read text
      | none =>
        match f.absent with
        | some a => .ok (a, text)
        | none => .error (tooShort index)
    let (row, text) ← readElements tooShort fs (index + 1) text
    .ok ((a, row), text)

/-- The row of a sequence whose opening bracket is read already. -/
def readSequence {αs : List Type} (tooShort : Nat → Fault) (fs : Fields αs) : Reader (Row αs) :=
  fun text => do
    let (row, text) ← readElements tooShort fs 0 text
    let text ← closeSequence text
    .ok (row, text)

/-- The written members of a row, in order. -/
def writeMembers : {αs : List Type} → Fields αs → Row αs → List (List Char)
  | [], _, _ => []
  | _ :: _, (f, fs), (a, row) =>
    let others := writeMembers fs row
    if f.omits a then others
    else (writeText f.name ++ ':' :: f.codec.write a) :: others

end Fields

/-- Records with a name, by their fields and how a record is turned into a row and back. -/
def recordCodec {β : Type} (name : String) {αs : List Type} (fields : Fields αs)
    (ofRow : Row αs → β) (toRow : β → Row αs) : Codec β where
  read text :=
    match skipSpaces text with
    | '\x7b' :: rest => (fields.readObject rest).map fun (row, rest) => (ofRow row, rest)
    | '[' :: rest =>
      (fields.readSequence
          (fun index => .mismatch (.tooShort index name fields.names.length)) rest).map
        fun (row, rest) => (ofRow row, rest)
    | other => .error (faultInstead (.record name) other)
  write b := '\x7b' :: (commaSeparated (fields.writeMembers (toRow b)) ++ ['\x7d'])

end AssistedWorkers.Json
