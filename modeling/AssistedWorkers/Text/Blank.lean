import AssistedWorkers.Text.CodeRange

/-!
# Blanks and controls

Two character classes small enough to read at a glance.  A *blank* is what may stand between
the tokens of a type expression: the Unicode property White_Space, which is wider than the ASCII
blanks.  A *control* is a character of the category Cc; a string literal never holds one raw.
-/

namespace AssistedWorkers.Text

/-- Code points with the property White_Space, in increasing order. -/
def blankRanges : List CodeRange := [
  ⟨0x0009, 0x000D⟩, ⟨0x0020, 0x0020⟩, ⟨0x0085, 0x0085⟩, ⟨0x00A0, 0x00A0⟩, ⟨0x1680, 0x1680⟩,
  ⟨0x2000, 0x200A⟩, ⟨0x2028, 0x2029⟩, ⟨0x202F, 0x202F⟩, ⟨0x205F, 0x205F⟩, ⟨0x3000, 0x3000⟩]

/-- Whether a character is white space. -/
def isBlank (c : Char) : Bool :=
  CodeRange.covers blankRanges c

/-- Code points of the category Cc. -/
def controlRanges : List CodeRange := [⟨0x0000, 0x001F⟩, ⟨0x007F, 0x009F⟩]

/-- Whether a character is a control character. -/
def isControl (c : Char) : Bool :=
  CodeRange.covers controlRanges c

end AssistedWorkers.Text
