import AssistedWorkers.Java.StringLiteral

/-!
# What a string literal stands for

A compiler reads source text in two phases.  The first one replaces every `\u` with four
hexadecimal digits after it by the character that has this code, wherever it stands; a backslash
that comes after an odd number of other backslashes is no start of such an escape.  Only the
second phase knows literals: characters and escape sequences between two quotes, on one line.

So an escaped backslash in front of the letter `u` must not be taken for the start of an escape by
the first phase, and a character that the first phase puts into the text must not mean anything to
the second one.  Both hold for what `quote` writes: it escapes every backslash, so the number of
backslashes in front of a character of the text is always even, and the characters that it writes
by their codes are neither quotes nor backslashes nor line ends.

The reader here is the stricter one wherever compilers allow more than is ever written: it knows no
octal escapes, no second `u` in an escape, and no escapes for halves of characters.

* `StandsFor` — what the first phase makes of a part of a literal, after an even number of
  backslashes, and what the second phase reads in this;
* `exists_standsFor_escape` — every escaped character stands for the character;
* `quoted_text_is_one_literal` — so a quoted text stands for the text.
-/

namespace AssistedWorkers.Java.StringLiteral

open AssistedWorkers.Text

/-! ### Reading literals -/

/-- The character whose code four hexadecimal digits give. -/
def coded? (a b c d : Char) : Option Char := do
  let n ← Hex.ofFour? a b c d
  if n.isValidChar then some (Char.ofNat n) else none

/-- The first phase, on a text with `before` backslashes directly in front of it. -/
def translate : (before : Nat) → List Char → Option (List Char)
  | _, [] => some []
  | before, c :: rest =>
    if c = '\\' ∧ before % 2 = 0 then
      match rest with
      | 'u' :: a :: b :: c :: d :: rest => do
        let coded ← coded? a b c d
        let rest ← translate 0 rest
        return coded :: rest
      | 'u' :: _ => none
      | rest => (translate (before + 1) rest).map ('\\' :: ·)
    else (translate (if c = '\\' then before + 1 else 0) rest).map (c :: ·)

/-- The character that an escape sequence stands for, by the character after its backslash. -/
def escaped? : Char → Option Char
  | 'b' => some '\x08'
  | 's' => some ' '
  | 't' => some '\t'
  | 'n' => some '\n'
  | 'f' => some '\x0c'
  | 'r' => some '\r'
  | '"' => some '"'
  | '\'' => some '\''
  | '\\' => some '\\'
  | _ => none

/-- The value of a literal whose opening quote is read already, and what follows its closing quote.
A line end inside a literal is an error. -/
def readCharacters : List Char → Option (List Char × List Char)
  | [] => none
  | '"' :: rest => some ([], rest)
  | '\\' :: [] => none
  | '\\' :: c :: rest => do
    let value ← escaped? c
    let (values, rest) ← readCharacters rest
    return (value :: values, rest)
  | c :: rest =>
    if c = '\n' ∨ c = '\r' then none
    else (readCharacters rest).map fun (values, rest) => (c :: values, rest)

/-- The second phase at the start of a literal: its value, and what follows it. -/
def readLiteral : List Char → Option (String × List Char)
  | '"' :: rest => (readCharacters rest).map fun (values, rest) => (String.ofList values, rest)
  | _ => none

/-! ### Either phase on one character -/

/-- A character that is no backslash stands for itself in the first phase. -/
theorem translate_cons {c : Char} (hc : c ≠ '\\') (before : Nat) (rest : List Char) :
    translate before (c :: rest) = (translate 0 rest).map (c :: ·) := by
  conv => lhs; unfold translate
  simp [hc]

/-- A backslash after an odd number of others starts no escape, whatever comes next. -/
theorem translate_backslash_of_odd {before : Nat} (hbefore : before % 2 ≠ 0) (rest : List Char) :
    translate before ('\\' :: rest) = (translate (before + 1) rest).map ('\\' :: ·) := by
  conv => lhs; unfold translate
  simp [hbefore]

/-- A backslash starts no escape without the letter after it, however many others it follows. -/
theorem translate_backslash {d : Char} (hd : d ≠ 'u') (before : Nat) (rest : List Char) :
    translate before ('\\' :: d :: rest) =
      (translate (before + 1) (d :: rest)).map ('\\' :: ·) := by
  by_cases hbefore : before % 2 = 0
  · conv => lhs; unfold translate
    simp only [hbefore, and_self, if_true]
    split
    next heq => exact absurd (List.cons.inj heq).1 hd
    next heq => exact absurd (List.cons.inj heq).1 hd
    next => rfl
  · exact translate_backslash_of_odd hbefore _

/-- The four digits of a code are read as the character. -/
theorem coded?_fourDigits (c : Char) (h : c.toNat < 65536) :
    coded? (Hex.digit (c.toNat / 4096 % 16)) (Hex.digit (c.toNat / 256 % 16))
      (Hex.digit (c.toNat / 16 % 16)) (Hex.digit (c.toNat % 16)) = some c := by
  have hvalid : c.toNat.isValidChar := c.valid
  simp [coded?, Hex.ofFour?_fourDigits h, hvalid]

/-- A Unicode escape stands for its character when its backslash is not escaped itself. -/
theorem translate_code {c : Char} (h : c.toNat < 65536) {before : Nat} (hbefore : before % 2 = 0)
    (rest : List Char) :
    translate before ('\\' :: 'u' :: Hex.fourDigits c.toNat ++ rest) =
      (translate 0 rest).map (c :: ·) := by
  simp only [Hex.fourDigits, List.cons_append, List.nil_append, translate, hbefore, if_true,
    coded?_fourDigits c h, Option.bind_eq_bind, Option.bind_some]
  cases translate 0 rest <;> rfl

/-- A character that neither ends the literal nor the line stands for itself in the second phase.
-/
theorem readCharacters_cons {c : Char} (hquote : c ≠ '"') (hbackslash : c ≠ '\\')
    (hfeed : c ≠ '\n') (hreturn : c ≠ '\r') (rest : List Char) :
    readCharacters (c :: rest) =
      (readCharacters rest).map fun (values, rest) => (c :: values, rest) := by
  rw [readCharacters]
  · simp [hfeed, hreturn]
  · exact hquote
  · exact fun h => absurd h hbackslash
  · exact fun d rest' h => absurd h hbackslash

/-- A character after a backslash stands for what the escape says. -/
theorem readCharacters_escaped {c d : Char} (h : escaped? d = some c) (rest : List Char) :
    readCharacters ('\\' :: d :: rest) =
      (readCharacters rest).map fun (values, rest) => (c :: values, rest) := by
  simp only [readCharacters, h, Option.bind_eq_bind, Option.bind_some]
  cases readCharacters rest <;> rfl

/-! ### Texts inside a literal -/

/-- After an even number of backslashes the first phase makes `plain` of what is `written`, with an
even number of backslashes at its end; the second phase reads this as `value`. -/
structure StandsFor (written plain value : List Char) : Prop where
  translated : ∀ before, before % 2 = 0 → ∃ after, after % 2 = 0 ∧
    ∀ rest, translate before (written ++ rest) = (translate after rest).map (plain ++ ·)
  on_one_line : '\n' ∉ plain ∧ '\r' ∉ plain
  read : ∀ rest, readCharacters (plain ++ rest) =
    (readCharacters rest).map fun (values, rest) => (value ++ values, rest)

theorem StandsFor.nil : StandsFor [] [] [] where
  translated before hbefore := ⟨before, hbefore, fun rest => by simp⟩
  on_one_line := by simp
  read rest := by simp

/-- Parts of a literal are read apart, for what is before a part matters by its backslashes only.
-/
theorem StandsFor.append {written plain value written' plain' value' : List Char}
    (h : StandsFor written plain value) (h' : StandsFor written' plain' value') :
    StandsFor (written ++ written') (plain ++ plain') (value ++ value') where
  translated before hbefore := by
    obtain ⟨middle, hmiddle, hfirst⟩ := h.translated before hbefore
    obtain ⟨after, hafter, hsecond⟩ := h'.translated middle hmiddle
    refine ⟨after, hafter, fun rest => ?_⟩
    rw [List.append_assoc, hfirst, hsecond, Option.map_map]
    congr 1
    funext text
    simp
  on_one_line := by
    have ⟨hfeed, hreturn⟩ := h.on_one_line
    have ⟨hfeed', hreturn'⟩ := h'.on_one_line
    simp [hfeed, hreturn, hfeed', hreturn']
  read rest := by
    rw [List.append_assoc, h.read, h'.read, Option.map_map]
    congr 1
    funext found
    simp

/-- A character that neither phase minds stands for itself. -/
theorem standsFor_self {c : Char} (hquote : c ≠ '"') (hbackslash : c ≠ '\\') (hfeed : c ≠ '\n')
    (hreturn : c ≠ '\r') : StandsFor [c] [c] [c] where
  translated before _ := ⟨0, rfl, translate_cons hbackslash before⟩
  on_one_line := by simp [hfeed.symm, hreturn.symm]
  read := readCharacters_cons hquote hbackslash hfeed hreturn

/-- A character code is replaced by the first phase already. -/
theorem standsFor_code {c : Char} (h : c.toNat < 65536) (hquote : c ≠ '"')
    (hbackslash : c ≠ '\\') (hfeed : c ≠ '\n') (hreturn : c ≠ '\r') :
    StandsFor ('\\' :: 'u' :: Hex.fourDigits c.toNat) [c] [c] where
  translated before hbefore := ⟨0, rfl, translate_code h hbefore⟩
  on_one_line := by simp [hfeed.symm, hreturn.symm]
  read := readCharacters_cons hquote hbackslash hfeed hreturn

/-- An escape sequence goes through the first phase as it is. -/
theorem standsFor_escaped {c d : Char} (h : escaped? d = some c) (hunicode : d ≠ 'u')
    (hbackslash : d ≠ '\\') (hfeed : d ≠ '\n') (hreturn : d ≠ '\r') :
    StandsFor ['\\', d] ['\\', d] [c] where
  translated before _ := by
    refine ⟨0, rfl, fun rest => ?_⟩
    rw [List.cons_append, List.cons_append, List.nil_append, translate_backslash hunicode,
      translate_cons hbackslash, Option.map_map]
    rfl
  on_one_line := by simp [hfeed.symm, hreturn.symm]
  read := readCharacters_escaped h

/-- The second backslash of an escaped one follows an odd number of backslashes, and leaves an even
number behind it. -/
theorem standsFor_backslash : StandsFor ['\\', '\\'] ['\\', '\\'] ['\\'] where
  translated before hbefore := by
    refine ⟨before + 2, by omega, fun rest => ?_⟩
    have hodd : (before + 1) % 2 ≠ 0 := by omega
    rw [List.cons_append, List.cons_append, List.nil_append, translate_backslash (by decide),
      translate_backslash_of_odd hodd, Option.map_map]
    rfl
  on_one_line := by decide
  read := readCharacters_escaped rfl

/-- Every character stands for itself when it is escaped. -/
theorem exists_standsFor_escape (c : Char) : ∃ plain, StandsFor (escape c) plain [c] := by
  unfold escape
  split
  · exact ⟨_, standsFor_escaped rfl (by decide) (by decide) (by decide) (by decide)⟩
  · exact ⟨_, standsFor_backslash⟩
  · exact ⟨_, standsFor_escaped rfl (by decide) (by decide) (by decide) (by decide)⟩
  · exact ⟨_, standsFor_escaped rfl (by decide) (by decide) (by decide) (by decide)⟩
  · exact ⟨_, standsFor_escaped rfl (by decide) (by decide) (by decide) (by decide)⟩
  next hquote hbackslash hfeed hreturn _ =>
    split
    next hcontrol =>
      refine ⟨_, standsFor_code ?_ hquote hbackslash hfeed hreturn⟩
      obtain ⟨range, hrange, -, hlast⟩ := CodeRange.covers_iff.1 hcontrol
      simp only [controlRanges, List.mem_cons, List.not_mem_nil, or_false] at hrange
      rcases hrange with rfl | rfl <;> simp only at hlast <;> omega
    next => exact ⟨_, standsFor_self hquote hbackslash hfeed hreturn⟩

/-- The escaped characters of a text stand for the text. -/
theorem exists_standsFor_flatMap_escape (text : List Char) :
    ∃ plain, StandsFor (text.flatMap escape) plain text := by
  induction text with
  | nil => exact ⟨[], .nil⟩
  | cons c text ih =>
    obtain ⟨first, hfirst⟩ := exists_standsFor_escape c
    obtain ⟨others, hothers⟩ := ih
    exact ⟨first ++ others, hfirst.append hothers⟩

/-! ### Whole literals -/

/-- **A quoted text is one literal, whose value is the text.**  Whatever stands around it in the
source, the first phase makes an opening quote, a body without line ends and a closing quote of it;
and whatever comes after these, the second phase reads exactly them as one literal, which is worth
the text. -/
theorem quoted_text_is_one_literal (text : String) :
    ∃ body,
      (∀ before rest, translate before ((quote text).toList ++ rest) =
        (translate 0 rest).map fun rest => '"' :: (body ++ '"' :: rest)) ∧
      '\n' ∉ body ∧ '\r' ∉ body ∧
      ∀ rest, readLiteral ('"' :: (body ++ '"' :: rest)) = some (text, rest) := by
  obtain ⟨body, hbody⟩ := exists_standsFor_flatMap_escape text.toList
  refine ⟨body, fun before rest => ?_, hbody.on_one_line.1, hbody.on_one_line.2, fun rest => ?_⟩
  · obtain ⟨after, -, htranslated⟩ := hbody.translated 0 rfl
    rw [quote_toList, List.cons_append, List.append_assoc, translate_cons (by decide),
      htranslated, List.cons_append, List.nil_append, translate_cons (by decide)]
    simp [Function.comp_def]
  · rw [readLiteral, hbody.read]
    simp [readCharacters]

/-- A backslash in front of what looks like a code keeps its meaning only because it is escaped. -/
example : (translate 0 "\"\\u0041\"".toList).bind readLiteral = some ("A", []) ∧
    (translate 0 (quote "\\u0041").toList).bind readLiteral = some ("\\u0041", []) := by
  decide +kernel

end AssistedWorkers.Java.StringLiteral
