import AssistedWorkers.Text.Alphabetic
import AssistedWorkers.Text.Numeric

/-!
# Java identifiers

The names a Java program may give to packages, classes, parameters and methods.  An identifier
starts with an alphabetic character, an underscore or a dollar sign, goes on with those and with
numeric characters, and is none of the reserved words.
-/

namespace AssistedWorkers.Java

open AssistedWorkers.Text

/-- Whether an identifier may start with the character. -/
def isIdentifierStart (c : Char) : Bool :=
  isAlphabetic c || c == '_' || c == '$'

/-- Whether the character may stand inside an identifier. -/
def isIdentifierPart (c : Char) : Bool :=
  isIdentifierStart c || isNumeric c

/-- Words that are no identifiers although they are spelled like one: keywords, the literals
`true`, `false` and `null`, and the lone underscore. -/
def reservedWords : List String := [
  "abstract", "assert", "boolean", "break", "byte", "case", "catch", "char", "class", "const",
  "continue", "default", "do", "double", "else", "enum", "extends", "false", "final", "finally",
  "float", "for", "goto", "if", "implements", "import", "instanceof", "int", "interface", "long",
  "native", "new", "null", "package", "private", "protected", "public", "return", "short",
  "static", "strictfp", "super", "switch", "synchronized", "this", "throw", "throws",
  "transient", "true", "try", "void", "volatile", "while", "_"]

/-- Whether the characters are spelled like an identifier, reserved words included. -/
def isSpelledLikeIdentifier : List Char → Bool
  | [] => false
  | c :: rest => isIdentifierStart c && rest.all isIdentifierPart

/-- Whether the text is a Java identifier. -/
def isIdentifier (text : String) : Bool :=
  isSpelledLikeIdentifier text.toList && !reservedWords.contains text

theorem isIdentifierPart_of_start {c : Char} (h : isIdentifierStart c = true) :
    isIdentifierPart c = true := by
  simp [isIdentifierPart, h]

end AssistedWorkers.Java
