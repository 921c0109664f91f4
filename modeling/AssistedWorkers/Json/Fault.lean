import AssistedWorkers.Text.Quoted

/-!
# Faults in JSON texts

A JSON text is read straight into the value it should describe, and the first problem ends the
reading.  A text may be malformed, it may end too early, or it may be well-formed up to a place
where it describes something else than it should: a mismatch.

Every fault has a message, `Fault.message`; that of a mismatch says what was found and expected.
-/

namespace AssistedWorkers.Json

/-- What was found where something else was expected. -/
inductive Found where
  | null
  | boolean (value : Bool)
  | integer (value : Int)
  | floating (value : String)
  | text (value : String)
  | sequence
  | map
deriving DecidableEq, Repr

/-- What was expected. -/
inductive Expected where
  | text
  | boolean
  | sequence
  /-- A natural number below 2^32. -/
  | word
  /-- The empty value of a variant. -/
  | unit
  /-- A record, by its name. -/
  | record (name : String)
deriving DecidableEq, Repr

/-- How a well-formed text differs from the value it should describe. -/
inductive Mismatch where
  | invalidType (found : Found) (expected : Expected)
  | invalidNumber (found : Int) (expected : Expected)
  | unknownField (name : String) (known : List String)
  | duplicateField (name : String)
  | missingField (name : String)
  | unknownVariant (name : String) (known : List String)
  /-- A record written as a sequence that ends before a required field. -/
  | tooShort (length : Nat) (record : String) (fields : Nat)
deriving DecidableEq, Repr

/-- Why a text was not read. -/
inductive Fault where
  | malformed
  | truncated
  | mismatch (what : Mismatch)
deriving DecidableEq, Repr

namespace Found

/-- The words for what was found. -/
def describe : Found → String
  | null => "null"
  | boolean value => "boolean `" ++ toString value ++ "`"
  | integer value => "integer `" ++ toString value ++ "`"
  | floating value => "floating point `" ++ value ++ "`"
  | text value => "string " ++ Text.Quoted.quote value
  | sequence => "sequence"
  | map => "map"

end Found

namespace Expected

/-- The words for what was expected. -/
def describe : Expected → String
  | text => "a string"
  | boolean => "a boolean"
  | sequence => "a sequence"
  | word => "u32"
  | unit => "unit"
  | record name => "struct " ++ name

end Expected

/-- The words for a choice of names. -/
def choiceOf (names : List String) : String :=
  let quoted := names.map fun name => "`" ++ name ++ "`"
  match quoted with
  | [one] => one
  | [one, other] => one ++ " or " ++ other
  | _ => "one of " ++ ", ".intercalate quoted

namespace Mismatch

/-- The message for a mismatch. -/
def message : Mismatch → String
  | invalidType found expected =>
    "invalid type: " ++ found.describe ++ ", expected " ++ expected.describe
  | invalidNumber found expected =>
    "invalid value: " ++ (Found.integer found).describe ++ ", expected " ++ expected.describe
  | unknownField name known => "unknown field `" ++ name ++ "`, expected " ++ choiceOf known
  | duplicateField name => "duplicate field `" ++ name ++ "`"
  | missingField name => "missing field `" ++ name ++ "`"
  | unknownVariant name known => "unknown variant `" ++ name ++ "`, expected " ++ choiceOf known
  | tooShort length record fields =>
    "invalid length " ++ toString length ++ ", expected struct " ++ record ++ " with " ++
      toString fields ++ " elements"

end Mismatch

namespace Fault

/-- The message for a fault. -/
def message : Fault → String
  | malformed => "the text is no JSON"
  | truncated => "the text ends too early"
  | mismatch what => what.message

end Fault

end AssistedWorkers.Json
