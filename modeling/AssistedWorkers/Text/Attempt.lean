import AssistedWorkers.Text.Blank

/-!
# Scanners that remember how far they looked

A scanner reads a value off the front of a text.  When it fails it gives back everything it
took, so alternatives may be tried one after the other from the same place.  Beside its result
every attempt carries `left`: the fewest characters that were still unread at any place the
scanner came to, also inside an alternative that was given up.  A scanner goes on from a place
only when the character there was accepted, so when a whole text is refused this is the place of
the comparison that failed furthest to the right: what the reader of a message wants to see.

* `bind_result`, `orElse_result`, `many_succ_result` — the result of a compound scanner depends
  on the results of its parts only, never on `left`;
* `skipBlanks_length_le` — skipping blanks only shortens a text.
-/

namespace AssistedWorkers.Text

/-- What came of scanning: a value with the unread rest, or nothing, and the fewest characters
left at any place the scanner came to. -/
structure Attempt (α : Type) where
  result : Option (α × List Char)
  left : Nat

/-- A scanner takes a value off the front of a text. -/
abbrev Scanner (α : Type) := List Char → Attempt α

/-- The text without the blanks it starts with. -/
def skipBlanks (text : List Char) : List Char :=
  text.dropWhile isBlank

/-- Skipping blanks makes no text longer. -/
theorem skipBlanks_length_le (text : List Char) : (skipBlanks text).length ≤ text.length :=
  (List.dropWhile_sublist _).length_le

namespace Scanner

/-- Takes nothing and yields a value. -/
def pure {α : Type} (a : α) : Scanner α :=
  fun text => ⟨some (a, text), text.length⟩

/-- Takes nothing and yields nothing. -/
def fail {α : Type} : Scanner α :=
  fun text => ⟨none, text.length⟩

/-- Scans twice, the second scanner chosen by the first value. -/
def bind {α β : Type} (first : Scanner α) (next : α → Scanner β) : Scanner β :=
  fun text =>
    match first text with
    | ⟨none, left⟩ => ⟨none, left⟩
    | ⟨some (a, rest), left⟩ => ⟨(next a rest).result, min left (next a rest).left⟩

instance : Monad Scanner where
  pure := Scanner.pure
  bind := Scanner.bind

/-- Tries the second scanner, from the same place, when the first one fails. -/
def orElse {α : Type} (first second : Scanner α) : Scanner α :=
  fun text =>
    match first text with
    | ⟨some found, left⟩ => ⟨some found, left⟩
    | ⟨none, left⟩ => ⟨(second text).result, min left (second text).left⟩

/-- Tries once; a failure takes nothing and yields no value. -/
def optional {α : Type} (scanner : Scanner α) : Scanner (Option α) :=
  orElse (Scanner.bind scanner fun a => Scanner.pure (some a)) (Scanner.pure none)

/-- Scans as often as possible, at most `bound` times; the round that fails takes nothing. -/
def manyUpTo {α : Type} (scanner : Scanner α) : Nat → Scanner (List α)
  | 0 => Scanner.pure []
  | bound + 1 =>
    orElse
      (Scanner.bind scanner fun a =>
        Scanner.bind (manyUpTo scanner bound) fun as => Scanner.pure (a :: as))
      (Scanner.pure [])

/-- Scans as often as possible.  A scanner that takes a character each time runs out of text
before it runs out of rounds. -/
def many {α : Type} (scanner : Scanner α) : Scanner (List α) :=
  fun text => manyUpTo scanner text.length text

/-- One or more values with a separator between two of them.  A separator that no value follows
is given back. -/
def separatedBy {α : Type} (scanner : Scanner α) (separator : Scanner Unit) : Scanner (List α) :=
  Scanner.bind scanner fun a =>
    Scanner.bind (many (Scanner.bind separator fun _ => scanner)) fun as =>
      Scanner.pure (a :: as)

/-- One given character, with blanks allowed on both sides. -/
def symbol (c : Char) : Scanner Unit :=
  fun text =>
    match skipBlanks text with
    | [] => ⟨none, 0⟩
    | d :: rest => ⟨if d = c then some ((), skipBlanks rest) else none, rest.length + 1⟩

/-- Compares a text with the letters of a word, one by one. -/
def letters : List Char → Scanner Unit
  | [], text => ⟨some ((), text), text.length⟩
  | _ :: _, [] => ⟨none, 0⟩
  | c :: word, d :: rest =>
    if d = c then letters word rest
    else ⟨none, rest.length + 1⟩

/-- One given word, with blanks allowed on both sides.  Nothing need separate it from what
follows. -/
def word (w : String) : Scanner Unit :=
  fun text =>
    match letters w.toList (skipBlanks text) with
    | ⟨none, left⟩ => ⟨none, left⟩
    | ⟨some (_, rest), left⟩ => ⟨some ((), skipBlanks rest), left⟩

/-- Nothing but blanks up to the end of the text. -/
def endOfText : Scanner Unit :=
  fun text =>
    match skipBlanks text with
    | [] => ⟨some ((), []), 0⟩
    | _ :: rest => ⟨none, rest.length + 1⟩

theorem bind_result {α β : Type} (first : Scanner α) (next : α → Scanner β) (text : List Char) :
    (Scanner.bind first next text).result =
      (first text).result.bind fun found => (next found.1 found.2).result := by
  unfold Scanner.bind
  cases h : first text with
  | mk result left => cases result <;> rfl

theorem orElse_result {α : Type} (first second : Scanner α) (text : List Char) :
    (orElse first second text).result = (first text).result.or (second text).result := by
  unfold orElse
  cases h : first text with
  | mk result left => cases result <;> rfl

theorem many_succ_result {α : Type} (scanner : Scanner α) (bound : Nat) (text : List Char) :
    (manyUpTo scanner (bound + 1) text).result =
      (((scanner text).result.bind fun found =>
        (manyUpTo scanner bound found.2).result.map fun more => (found.1 :: more.1, more.2)).or
          (some ([], text))) := by
  rw [manyUpTo, orElse_result, bind_result]
  congr 1
  cases (scanner text).result with
  | none => rfl
  | some found =>
    simp only [Option.bind_some, bind_result]
    cases (manyUpTo scanner bound found.2).result <;> rfl

end Scanner

end AssistedWorkers.Text
