import AssistedWorkers.Java.Type
import AssistedWorkers.Text.Attempt

/-!
# Reading type expressions

A type expression is a dotted name, type arguments in angle brackets and pairs of square
brackets, the last two if there are any:

    start    := Type end
    Type     := name ("." name)* Arguments? ("[" "]")*
    Arguments := "<" Argument ("," Argument)* ">"
    Argument := "?" ("extends" Type | "super" Type | nothing) | Type

Blanks may stand around every token.  A name is an ASCII identifier; the words `extends` and
`super` need no blank after them.  What cannot be read is reported with the character at the
furthest place the reading came to.

A dotted name does not say where its package ends.  `ofSegments` decides: the first segment that
starts with an ASCII capital starts the nesting chain, and a name without capitals is a class
named by its last segment.
-/

namespace AssistedWorkers.Java

open AssistedWorkers.Text

/-- A text that is no type expression, and how many characters of it were read before the place
where reading failed. -/
structure TypeFault where
  text : String
  position : Nat
deriving DecidableEq, Repr

namespace TypeFault

/-- The character at the place where reading failed; nothing at the end of the text. -/
def found (fault : TypeFault) : Option Char :=
  fault.text.toList[fault.position]?

/-- The words for what was found where reading failed. -/
def reason (fault : TypeFault) : String :=
  match fault.found with
  | some c => "found `" ++ String.singleton c ++ "`"
  | none => "found the end of the text"

end TypeFault

/-- Whether a name in a type expression may start with the character. -/
def isNameStart (c : Char) : Bool :=
  c.isAlpha || c == '_' || c == '$'

/-- Whether a name in a type expression may go on with the character. -/
def isNamePart (c : Char) : Bool :=
  c.isAlphanum || c == '_' || c == '$'

/-- A name, as long as possible and without blanks around it. -/
def nameScanner : Scanner String :=
  fun text =>
    match text with
    | [] => ⟨none, 0⟩
    | c :: rest =>
      if isNameStart c then
        let others := rest.dropWhile isNamePart
        ⟨some (String.ofList (c :: rest.takeWhile isNamePart), others), others.length⟩
      else ⟨none, text.length⟩

/-- Whether a segment of a dotted name starts with an ASCII capital. -/
def startsWithCapital (segment : String) : Bool :=
  match segment.toList with
  | [] => false
  | c :: _ => c.isUpper

/-- How many of the segments of a dotted name belong to the package: those before the first one
that starts with a capital, or all but the last one when none does. -/
def packageLength (segments : List String) : Nat :=
  (segments.findIdx? startsWithCapital).getD (segments.length - 1)

namespace ClassName

/-- The class that a dotted name stands for. -/
def ofSegments (first : String) (others : List String) : ClassName :=
  let segments := first :: others
  let length := packageLength segments
  match segments.drop length with
  | outermost :: inner => ⟨".".intercalate (segments.take length), outermost, inner⟩
  | [] => topLevelIn "" (".".intercalate segments)

end ClassName

namespace JavaType

/-- The type that a dotted name stands for, with the arguments written after it. -/
def ofSegments (first : String) (others : List String) :
    Option (List JavaType) → JavaType
  | some arguments => parameterized (.ofSegments first others) arguments
  | none =>
    match others, Primitive.ofKeyword? first with
    | [], some p => primitive p
    | _, _ => named (.ofSegments first others)

/-- A type with as many pairs of square brackets after it as the list is long. -/
def arrayOf (component : JavaType) (dimensions : List Unit) : JavaType :=
  dimensions.foldl (fun t _ => array t) component

/-- A type argument, given how to read a type: a wildcard with or without a bound, or a type. -/
def argumentScanner (type : Scanner JavaType) : Scanner JavaType :=
  .orElse
    (do
      .symbol '?'
      .orElse (do .word "extends"; upperBounded <$> type)
        (.orElse (do .word "super"; lowerBounded <$> type) (Scanner.pure unbounded)))
    type

/-- Type arguments in angle brackets, given how to read a type. -/
def argumentsScanner (type : Scanner JavaType) : Scanner (List JavaType) := do
  .symbol '<'
  let arguments ← .separatedBy (argumentScanner type) (.symbol ',')
  .symbol '>'
  return arguments

/-- One pair of square brackets. -/
def dimensionScanner : Scanner Unit := do
  .symbol '['
  .symbol ']'

/-- A type, given how to read the types inside its arguments. -/
def scannerOver (type : Scanner JavaType) : Scanner JavaType := do
  let segments ← .separatedBy nameScanner (.symbol '.')
  let arguments ← .optional (argumentsScanner type)
  let dimensions ← .many dimensionScanner
  match segments with
  | [] => .fail
  | first :: others => return arrayOf (ofSegments first others arguments) dimensions

/-- A type whose arguments are nested less than `depth` deep. -/
def scannerWithin : Nat → Scanner JavaType
  | 0 => .fail
  | depth + 1 => scannerOver (scannerWithin depth)

/-- A whole text: a type with nothing but blanks around it.  Each level of arguments takes a
bracket of its own, so the length of the text bounds their depth. -/
def textScanner : Scanner JavaType :=
  fun text =>
    (do
      let t ← scannerWithin (text.length + 1)
      .endOfText
      return t : Scanner JavaType) (skipBlanks text)

/-- Reads a type expression. -/
def read (text : String) : Except TypeFault JavaType :=
  let characters := text.toList
  let attempt := textScanner characters
  match attempt.result with
  | some (t, _) => .ok t
  | none => .error ⟨text, characters.length - attempt.left⟩

end JavaType

/-- Why a text names no class: it is no type expression, or it is another kind of type. -/
inductive ClassFault where
  | unreadable (fault : TypeFault)
  | notAClass (text : String) (actual : JavaType)
deriving DecidableEq, Repr

namespace ClassFault

/-- The text that was to name a class. -/
def text : ClassFault → String
  | unreadable fault => fault.text
  | notAClass text _ => text

/-- What is wrong with the text. -/
def reason : ClassFault → String
  | unreadable fault => fault.reason
  | notAClass _ actual => "expected a class reference, found `" ++ actual.display ++ "`"

/-- The message for a fault. -/
def message (fault : ClassFault) : String :=
  "invalid Java type `" ++ fault.text ++ "`: " ++ fault.reason

end ClassFault

/-- Reads the name of a class, without type arguments. -/
def ClassName.read (text : String) : Except ClassFault ClassName :=
  match JavaType.read text with
  | .error fault => .error (.unreadable fault)
  | .ok (.named c) => .ok c
  | .ok other => .error (.notAClass text other)

end AssistedWorkers.Java
