import AssistedWorkers.Json.Record

/-!
# Written JSON reads back

A codec is lawful when it reads back every value that it writes, and leaves what follows alone.
What follows a value in a compact text is a comma, a closing bracket or nothing, and that is all
that may be assumed of it: a number has no end of its own.

* `readCharacters_escape` — an escaped character reads back;
* `readNumber_toDigits` — the digits of a number read back;
* `readElements_written`, `readMembers_written` — what is written with commas in between is read
  element by element, and member by member;
* `listCodec_lawful`, `optionCodec_readsBack`, `choiceCodec_lawful`, `recordCodec_lawful` — codecs
  are lawful when their parts are;
* `decode_encode` — whole texts.
-/

namespace AssistedWorkers.Json

open AssistedWorkers.Text

/-! ### Where values begin and end -/

/-- What follows a written value: a comma, a closing bracket or nothing. -/
def EndsValue (rest : List Char) : Prop :=
  ∀ c ∈ rest.head?, c = ',' ∨ c = ']' ∨ c = '\x7d'

/-- Whether a value that is not `null` may start with the character: it is no space, and it neither
separates nor closes. -/
def opensValue (c : Char) : Bool :=
  !isSpace c && c != ',' && c != ']' && c != 'n'

/-- A codec reads back what it writes. -/
def Codec.ReadsBack {α : Type} (codec : Codec α) : Prop :=
  ∀ a rest, EndsValue rest → codec.read (codec.write a ++ rest) = .ok (a, rest)

/-- A codec of values that are never `null`. -/
structure Codec.Lawful {α : Type} (codec : Codec α) : Prop where
  reads_back : codec.ReadsBack
  opens : ∀ a, ∃ c cs, codec.write a = c :: cs ∧ opensValue c = true

theorem endsValue_nil : EndsValue [] := by
  simp [EndsValue]

/-- Another value may come after a value. -/
theorem endsValue_comma (rest : List Char) : EndsValue (',' :: rest) := by
  simp [EndsValue]

/-- A list may end after a value. -/
theorem endsValue_bracket (rest : List Char) : EndsValue (']' :: rest) := by
  simp [EndsValue]

/-- A record may end after a value. -/
theorem endsValue_brace (rest : List Char) : EndsValue ('\x7d' :: rest) := by
  simp [EndsValue]

/-- Nothing is skipped in front of a character that is no space. -/
theorem skipSpaces_cons {c : Char} (h : isSpace c = false) (text : List Char) :
    skipSpaces (c :: text) = c :: text :=
  List.dropWhile_cons_of_neg (by simp [h])

theorem not_isSpace_of_opensValue {c : Char} (h : opensValue c = true) : isSpace c = false := by
  simp only [opensValue, Bool.and_eq_true, Bool.not_eq_true'] at h
  exact h.1.1.1

/-- A character that opens a value is none of those that do not. -/
theorem ne_of_opensValue {c d : Char} (hc : opensValue c = true) (hd : opensValue d = false) :
    c ≠ d := by
  rintro rfl
  cases hc.symm.trans hd

/-! ### Strings -/

/-- A code unit outside the surrogates stands for its character. -/
theorem readUnicodeEscape_fourDigits {c : Char} (h : c.toNat < 0x20) (rest : List Char) :
    readUnicodeEscape (Hex.fourDigits c.toNat ++ rest) = .ok (c, rest) := by
  have hunit : readCodeUnit (Hex.fourDigits c.toNat ++ rest) = .ok (c.toNat, rest) := by
    simp only [Hex.fourDigits, List.cons_append, List.nil_append, readCodeUnit,
      Hex.ofFour?_fourDigits (n := c.toNat) (by omega)]
  have hlow : isLowSurrogate c.toNat = false := by
    simp only [isLowSurrogate, Bool.and_eq_false_iff, decide_eq_false_iff_not]
    omega
  have hhigh : isHighSurrogate c.toNat = false := by
    simp only [isHighSurrogate, Bool.and_eq_false_iff, decide_eq_false_iff_not]
    omega
  simp only [readUnicodeEscape, hunit, bind, Except.bind, hlow, hhigh, Bool.false_eq_true,
    if_false, Char.ofNat_toNat]

/-- An escaped character reads back. -/
theorem readCharacters_escape (bound : Nat) (c : Char) (rest : List Char) :
    readCharacters (bound + 1) (escape c ++ rest) =
      (readCharacters bound rest).map fun (cs, rest) => (c :: cs, rest) := by
  have hmap : ∀ x : Except Fault (List Char × List Char),
      (x.bind fun p => .ok (c :: p.1, p.2)) = x.map fun (cs, rest) => (c :: cs, rest) := by
    intro x
    cases x <;> rfl
  rw [← hmap]
  unfold escape
  split
  all_goals try rfl
  rename_i hquote hbackslash _ _ _ _ _
  by_cases hcontrol : c.toNat < 0x20
  · rw [if_pos hcontrol]
    simp only [List.cons_append, readCharacters, readEscape,
      readUnicodeEscape_fourDigits hcontrol, bind, Except.bind]
  · rw [if_neg hcontrol]
    simp [readCharacters, hcontrol, bind]

/-- Escaped characters up to a quote read back. -/
theorem readCharacters_flatMap_escape {bound : Nat} {cs : List Char} (h : cs.length < bound)
    (rest : List Char) :
    readCharacters bound (cs.flatMap escape ++ '"' :: rest) = .ok (cs, rest) := by
  induction cs generalizing bound with
  | nil =>
    obtain ⟨bound, rfl⟩ := Nat.exists_eq_add_one_of_ne_zero (Nat.ne_zero_of_lt h)
    simp [readCharacters]
  | cons c cs ih =>
    obtain ⟨bound, rfl⟩ := Nat.exists_eq_add_one_of_ne_zero (Nat.ne_zero_of_lt h)
    rw [List.flatMap_cons, List.append_assoc, readCharacters_escape, ih (by simpa using h)]
    rfl

/-- Escaping makes no text shorter, so the written text bounds the rounds of its reader. -/
theorem length_le_length_flatMap_escape (cs : List Char) :
    cs.length ≤ (cs.flatMap escape).length := by
  have hpos : ∀ c, 0 < (escape c).length := by
    intro c
    unfold escape
    split
    all_goals try simp
    split <;> simp
  induction cs with
  | nil => simp
  | cons c cs ih =>
    have := hpos c
    simp only [List.flatMap_cons, List.length_append, List.length_cons]
    omega

/-- A written string reads back after its opening quote, whatever follows. -/
theorem readQuoted_escaped (s : String) (rest : List Char) :
    readQuoted (s.toList.flatMap escape ++ '"' :: rest) = .ok (s, rest) := by
  have hbound : s.toList.length < (s.toList.flatMap escape ++ '"' :: rest).length + 1 := by
    have := length_le_length_flatMap_escape s.toList
    simp only [List.length_append]
    omega
  simp only [readQuoted, readCharacters_flatMap_escape hbound, bind, Except.bind,
    String.ofList_toList]

/-- A written string starts with a quote. -/
theorem writeText_append (s : String) (rest : List Char) :
    writeText s ++ rest = '"' :: (s.toList.flatMap escape ++ '"' :: rest) := by
  simp [writeText]

theorem textCodec_lawful : textCodec.Lawful where
  reads_back s rest _ := by
    change readText (writeText s ++ rest) = _
    rw [writeText_append, readText, skipSpaces_cons rfl]
    exact readQuoted_escaped s rest
  opens s := ⟨'"', _, rfl, rfl⟩

/-! ### Booleans and numbers -/

theorem booleanCodec_lawful : booleanCodec.Lawful where
  reads_back b rest _ := by
    cases b <;>
      simp [booleanCodec, readBoolean, skipSpaces_cons, isSpace, expectLetters, Except.map]
  opens b := by
    cases b
    · exact ⟨'f', _, rfl, rfl⟩
    · exact ⟨'t', _, rfl, rfl⟩

/-- As long as a number fits in 64 bits, none of its digits is dropped. -/
theorem appendDigits_eq {significand : Nat} {digits : List Char}
    (h : Nat.ofDigitChars 10 digits significand < UInt64.size) :
    appendDigits significand digits = (Nat.ofDigitChars 10 digits significand, 0) := by
  have hgrow : ∀ (ds : List Char) (n : Nat), n ≤ Nat.ofDigitChars 10 ds n := by
    intro ds
    induction ds with
    | nil => exact fun n => Nat.le_refl n
    | cons d ds ih =>
      intro n
      have := ih (10 * n + (d.toNat - '0'.toNat))
      rw [Nat.ofDigitChars_cons]
      omega
  induction digits generalizing significand with
  | nil => rfl
  | cons d ds ih =>
    have hlonger : significand * 10 + digitValue d = 10 * significand + (d.toNat - '0'.toNat) := by
      rw [digitValue, Nat.mul_comm]
    rw [Nat.ofDigitChars_cons] at h ⊢
    have hfits := Nat.lt_of_le_of_lt (hgrow ds _) h
    rw [appendDigits, hlonger, if_pos hfits]
    exact ih h

/-- A positive number does not start with zero. -/
theorem head_toDigits_ne_zero {n : Nat} (h : 0 < n) :
    ∃ d ds, Nat.toDigits 10 n = d :: ds ∧ d ≠ '0' := by
  induction n using Nat.strongRecOn with
  | _ n ih =>
    by_cases hsmall : n < 10
    · have hdigit : ∀ m < 10, 0 < m → m.digitChar ≠ '0' := by decide
      exact ⟨n.digitChar, [], Nat.toDigits_of_lt_base hsmall, hdigit n hsmall h⟩
    · obtain ⟨d, ds, hd, hne⟩ := ih (n / 10) (by omega) (by omega)
      exact ⟨d, ds ++ [(n % 10).digitChar],
        by rw [Nat.toDigits_of_base_le (by decide) (by omega), hd]; rfl, hne⟩

/-- None of the digits of a number of 64 bits is dropped. -/
theorem appendDigits_toDigits {n : Nat} (hn : n < UInt64.size) :
    appendDigits 0 (Nat.toDigits 10 n) = (n, 0) := by
  have hvalue : Nat.ofDigitChars 10 (Nat.toDigits 10 n) 0 = n :=
    Nat.ofDigitChars_toDigits (by decide) (by decide)
  rw [appendDigits_eq (by rwa [hvalue]), hvalue]

theorem isDigit_of_mem_toDigits {n : Nat} {d : Char} (h : d ∈ Nat.toDigits 10 n) :
    d.isDigit = true :=
  Nat.isDigit_of_mem_toDigits (by decide) (by decide) h

/-- The digits of a number end where the number does. -/
theorem span_toDigits_append (n : Nat) {rest : List Char} (h : EndsValue rest) :
    (Nat.toDigits 10 n ++ rest).takeWhile Char.isDigit = Nat.toDigits 10 n ∧
      (Nat.toDigits 10 n ++ rest).dropWhile Char.isDigit = rest := by
  have hend : rest.takeWhile Char.isDigit = [] ∧ rest.dropWhile Char.isDigit = rest := by
    cases rest with
    | nil => exact ⟨rfl, rfl⟩
    | cons c rest =>
      rcases h c rfl with rfl | rfl | rfl <;> exact ⟨rfl, rfl⟩
  rw [List.takeWhile_append_of_pos fun _ => isDigit_of_mem_toDigits,
    List.dropWhile_append_of_pos fun _ => isDigit_of_mem_toDigits, hend.1, hend.2,
    List.append_nil]
  exact ⟨rfl, rfl⟩

/-- A number without a fraction and an exponent is the natural number of its digits. -/
theorem readNumberTail_of_endsValue {rest : List Char} (h : EndsValue rest) (n : Nat) :
    readNumberTail false n 0 rest = .ok (.natural n, rest) := by
  cases rest with
  | nil => rfl
  | cons c rest =>
    rcases h c rfl with rfl | rfl | rfl <;> rfl

/-- The digits of a number of 64 bits read back. -/
theorem readNumber_toDigits {n : Nat} (hn : n < UInt64.size) {rest : List Char}
    (hrest : EndsValue rest) :
    readNumber (Nat.toDigits 10 n ++ rest) = .ok (.natural n, rest) := by
  have htail := readNumberTail_of_endsValue hrest n
  rcases Nat.eq_zero_or_pos n with rfl | hpos
  · -- Zero is a single digit, and no other one follows.
    have hzero : Nat.toDigits 10 0 = ['0'] := rfl
    rw [hzero]
    cases rest with
    | nil => exact htail
    | cons c rest =>
      rcases hrest c rfl with rfl | rfl | rfl <;> exact htail
  · -- The first digit being no zero, all digits are read at once.
    obtain ⟨d, ds, htext, hnonzero⟩ := head_toDigits_ne_zero hpos
    have hd : d.isDigit = true := isDigit_of_mem_toDigits (htext ▸ List.mem_cons_self)
    have hminus : d ≠ '-' := fun h => by simp [h] at hd
    have hspan := span_toDigits_append n hrest
    have happend := appendDigits_toDigits hn
    rw [htext, List.cons_append] at hspan
    rw [htext] at happend ⊢
    simp [readNumber, readUnsigned, hminus, hd, hspan, happend, htail]

theorem opensValue_of_isDigit {c : Char} (h : c.isDigit = true) : opensValue c = true := by
  have hne : ∀ d : Char, d.isDigit = false → c ≠ d := by
    rintro d hd rfl
    simp [hd] at h
  simp [opensValue, isSpace, hne]

/-- What is written for a number starts with a digit. -/
theorem toDigits_eq_cons (n : Nat) :
    ∃ d ds, Nat.toDigits 10 n = d :: ds ∧ d.isDigit = true := by
  obtain ⟨d, ds, htext⟩ := List.exists_cons_of_ne_nil (Nat.toDigits_ne_nil (n := n) (b := 10))
  exact ⟨d, ds, htext, isDigit_of_mem_toDigits (htext ▸ List.mem_cons_self)⟩

theorem wordCodec_lawful : wordCodec.Lawful where
  reads_back n rest hrest := by
    have hword : n.toNat < UInt32.size := n.toNat_lt_size
    have hread := readNumber_toDigits (Nat.lt_trans hword (by decide)) hrest
    obtain ⟨d, ds, htext, hd⟩ := toDigits_eq_cons n.toNat
    have hspace := not_isSpace_of_opensValue (opensValue_of_isDigit hd)
    change readWord (Nat.toDigits 10 n.toNat ++ rest) = _
    rw [htext, List.cons_append] at hread ⊢
    simp [readWord, skipSpaces_cons hspace, startsNumber, hd, hread, hword, bind, Except.bind]
  opens n := by
    obtain ⟨d, ds, htext, hd⟩ := toDigits_eq_cons n.toNat
    exact ⟨d, ds, htext, opensValue_of_isDigit hd⟩

/-! ### Values with commas in between -/

/-- Written values from some place of a sequence on: all but the first one of the sequence come
after a comma. -/
def separatedText (isFirst : Bool) (written : List (List Char)) : List Char :=
  if isFirst then commaSeparated written else written.flatMap (',' :: ·)

@[simp] theorem separatedText_nil (isFirst : Bool) : separatedText isFirst [] = [] := by
  cases isFirst <;> rfl

/-- After the first element each one has a comma in front of it. -/
theorem commaSeparated_cons (w : List Char) (ws : List (List Char)) :
    commaSeparated (w :: ws) = w ++ separatedText false ws := by
  induction ws generalizing w with
  | nil => simp [commaSeparated, List.intercalate]
  | cons w' ws ih =>
    have hnext : commaSeparated (w :: w' :: ws) = w ++ ',' :: commaSeparated (w' :: ws) := by
      simp [commaSeparated, List.intercalate]
    rw [hnext, ih]
    simp [separatedText]

/-- An element that is not the first one has a comma in front of it. -/
theorem separatedText_cons (isFirst : Bool) (w : List Char) (ws : List (List Char)) :
    separatedText isFirst (w :: ws) =
      (if isFirst then w else ',' :: w) ++ separatedText false ws := by
  cases isFirst
  · simp [separatedText]
  · exact commaSeparated_cons w ws

/-- What comes after an element of a list ends it. -/
theorem endsValue_separatedText (ws : List (List Char)) {rest : List Char} (h : EndsValue rest) :
    EndsValue (separatedText false ws ++ rest) := by
  cases ws with
  | nil => simpa using h
  | cons w ws => simpa [separatedText] using endsValue_comma _

theorem length_le_length_separatedText (ws : List (List Char)) :
    ws.length ≤ (separatedText false ws).length := by
  induction ws with
  | nil => simp
  | cons w ws ih =>
    simp only [separatedText_cons, List.length_append, List.length_cons, Bool.false_eq_true,
      if_false]
    omega

/-- The length of a sequence with its closing character is bound enough for its values, as the
commas alone are almost as many. -/
theorem length_lt_length_commaSeparated (ws : List (List Char)) (closing : Char)
    (rest : List Char) : ws.length < (commaSeparated ws ++ closing :: rest).length + 1 := by
  cases ws with
  | nil => simp
  | cons w ws =>
    have := length_le_length_separatedText ws
    simp only [commaSeparated_cons, List.length_append, List.length_cons]
    omega

/-- The next element is found behind its comma. -/
theorem nextElement_separatedText (isFirst : Bool) {c : Char} (hc : opensValue c = true)
    (w : List Char) (ws : List (List Char)) (rest : List Char) :
    nextElement isFirst (separatedText isFirst ((c :: w) :: ws) ++ rest) =
      .ok (some (c :: w ++ (separatedText false ws ++ rest))) := by
  have hspace := not_isSpace_of_opensValue hc
  have hcomma : c ≠ ',' := ne_of_opensValue hc rfl
  have hbracket : c ≠ ']' := ne_of_opensValue hc rfl
  have hseparator : isSpace ',' = false := rfl
  cases isFirst <;>
    simp [separatedText_cons, nextElement, skipSpaces_cons hspace, skipSpaces_cons hseparator,
      hcomma, hbracket]

variable {α : Type} {codec : Codec α}

/-- Written elements are read one by one, up to the bracket. -/
theorem readElements_written (h : codec.Lawful) {bound : Nat} {as : List α}
    (hbound : as.length < bound) (isFirst : Bool) (rest : List Char) :
    readElements codec.read bound isFirst
        (separatedText isFirst (as.map codec.write) ++ ']' :: rest) = .ok (as, ']' :: rest) := by
  induction as generalizing bound isFirst with
  | nil =>
    obtain ⟨bound, rfl⟩ := Nat.exists_eq_add_one_of_ne_zero (Nat.ne_zero_of_lt hbound)
    simp [readElements, nextElement, skipSpaces_cons, isSpace, bind, Except.bind]
  | cons a as ih =>
    obtain ⟨bound, rfl⟩ := Nat.exists_eq_add_one_of_ne_zero (Nat.ne_zero_of_lt hbound)
    obtain ⟨c, cs, htext, hc⟩ := h.opens a
    have hread := h.reads_back a _
      (endsValue_separatedText (as.map codec.write) (endsValue_bracket rest))
    have hmore := ih (by simpa using hbound) false
    rw [htext] at hread
    rw [List.map_cons, htext, readElements, nextElement_separatedText isFirst hc]
    simp only [bind, Except.bind, hread, hmore]

theorem listCodec_lawful (h : codec.Lawful) : (listCodec codec).Lawful where
  reads_back as rest _ := by
    have hbound := length_lt_length_commaSeparated (as.map codec.write) ']' rest
    rw [List.length_map] at hbound
    have hread := readElements_written h hbound true rest
    simp only [separatedText, if_true] at hread
    simp only [List.length_append, List.length_cons] at hread
    simp [listCodec, readList, skipSpaces_cons, isSpace, hread, closeSequence, bind, Except.bind]
  opens as := ⟨'[', _, rfl, rfl⟩

/-- Nothing is written as `null`, so it is told apart from the values that are not. -/
theorem optionCodec_readsBack (h : codec.Lawful) : (optionCodec codec).ReadsBack := by
  rintro (_ | a) rest hrest
  · simp [optionCodec, skipSpaces_cons, isSpace, expectLetters, Except.map]
  · obtain ⟨c, cs, htext, hc⟩ := h.opens a
    have hread := h.reads_back a rest hrest
    have hnull : c ≠ 'n' := ne_of_opensValue hc rfl
    have hspace := not_isSpace_of_opensValue hc
    simp only [optionCodec, htext, List.cons_append] at hread ⊢
    simp [skipSpaces_cons hspace, hnull, hread, Except.map]

/-- A choice is read back when its values have names of their own. -/
theorem choiceCodec_lawful {values : List α} {nameOf : α → String}
    (h : ∀ a, values.find? (nameOf · == nameOf a) = some a) :
    (choiceCodec values nameOf).Lawful where
  reads_back a rest _ := by
    change readChoice values nameOf (writeText (nameOf a) ++ rest) = _
    rw [writeText_append, readChoice, skipSpaces_cons rfl]
    simp [readQuoted_escaped, chosen, h a, bind, Except.bind]
  opens a := ⟨'"', _, rfl, rfl⟩

/-! ### Records -/

/-- A field reads back what is written of it, and what is not written is its value when absent. -/
structure Field.Lawful {α : Type} (f : Field α) : Prop where
  reads_back : f.codec.ReadsBack
  absent_of_omits : ∀ a, f.omits a = true → f.absent = some a

/-- A required field is written always, so there is nothing to show of its absence. -/
theorem Field.Lawful.required (name : String) (h : codec.ReadsBack) :
    (Field.required name codec).Lawful :=
  ⟨h, nofun⟩

/-- A field with a default is written always, also when it holds the default. -/
theorem Field.Lawful.defaulted (name : String) (h : codec.ReadsBack) (absent : α) :
    (Field.defaulted name codec absent).Lawful :=
  ⟨h, nofun⟩

/-- A field is left out when it holds nothing, and this is what its absence stands for. -/
theorem Field.Lawful.unlessNone (name : String) (h : codec.Lawful) :
    (Field.unlessNone name codec).Lawful where
  reads_back := optionCodec_readsBack h
  absent_of_omits := by
    rintro (_ | a) homits
    · rfl
    · cases homits

namespace Fields

/-- Every field is lawful. -/
def Lawful : {αs : List Type} → Fields αs → Prop
  | [], _ => True
  | _ :: _, (f, fs) => f.Lawful ∧ Lawful fs

/-- The draft of a row after its written members have been read. -/
def written : {αs : List Type} → Fields αs → Row αs → Draft αs
  | [], _, _ => ()
  | _ :: _, (f, fs), (a, row) => (if f.omits a then none else some a, written fs row)

/-- A field takes the value of its own key. -/
theorem enter_name {β : Type} {f : Field β} {αs : List Type} (fs : Fields αs)
    (draft : Draft αs) {b : β} {text rest : List Char} (h : f.codec.read text = .ok (b, rest)) :
    @enter f.name (':' :: text) (β :: αs) (f, fs) (none, draft) =
      some (.ok ((some b, draft), rest)) := by
  simp [enter, takeColon, skipSpaces_cons, isSpace, h, bind, Except.bind]

/-- A field leaves other keys to the fields after it. -/
theorem enter_of_ne {β : Type} {f : Field β} {key : String} (h : f.name ≠ key) {αs : List Type}
    (fs : Fields αs) (value : Option β) (draft : Draft αs) (text : List Char) :
    @enter key text (β :: αs) (f, fs) (value, draft) =
      (fs.enter key text draft).map fun entered =>
        entered.map fun (others, rest) => ((value, others), rest) :=
  if_neg h

/-- A key that comes to something is that of a field. -/
theorem mem_names_of_enter {key : String} {text : List Char} {αs : List Type} {fs : Fields αs}
    {draft : Draft αs} {entered : Except Fault (Draft αs × List Char)}
    (h : fs.enter key text draft = some entered) : key ∈ fs.names := by
  induction αs with
  | nil => cases h
  | cons α αs ih =>
    obtain ⟨f, fs⟩ := fs
    obtain ⟨value, others⟩ := draft
    by_cases hname : f.name = key
    · exact List.mem_cons.mpr (.inl hname.symm)
    · rw [enter_of_ne hname] at h
      obtain ⟨_, hothers, _⟩ := Option.map_eq_some_iff.mp h
      exact List.mem_cons_of_mem _ (ih hothers)

/-- Reading members comes to an end at the closing brace, and goes on after a value that was
entered. -/
theorem readMembers_eq_ok_iff {αs : List Type} (fs : Fields αs) {bound : Nat} {isFirst : Bool}
    {draft after : Draft αs} {text rest : List Char} :
    fs.readMembers (bound + 1) isFirst draft text = .ok (after, rest) ↔
      (nextKey isFirst text = .ok none ∧ draft = after ∧ text = rest) ∨
      ∃ key valueText others left, nextKey isFirst text = .ok (some (key, valueText)) ∧
        fs.enter key valueText draft = some (.ok (others, left)) ∧
        fs.readMembers bound false others left = .ok (after, rest) := by
  rw [readMembers]
  rcases nextKey isFirst text with fault | _ | ⟨key, valueText⟩
  · simp [bind, Except.bind]
  · simp [bind, Except.bind]
  · rcases henter : fs.enter key valueText draft with _ | fault | ⟨others, left⟩ <;>
      simp [bind, Except.bind, henter, and_assoc]

/-- Members that are read for some fields are read in the same way with one more field in front,
whose value they leave alone. -/
theorem readMembers_cons {β : Type} {f : Field β} {αs : List Type} {fs : Fields αs}
    (hname : f.name ∉ fs.names) (value : Option β) {bound : Nat} {isFirst : Bool}
    {draft after : Draft αs} {text rest : List Char}
    (h : fs.readMembers bound isFirst draft text = .ok (after, rest)) :
    @readMembers (β :: αs) (f, fs) bound isFirst (value, draft) text =
      .ok ((value, after), rest) := by
  induction bound generalizing isFirst draft text with
  | zero => cases h
  | succ bound ih =>
    refine (readMembers_eq_ok_iff _).mpr ?_
    rcases (readMembers_eq_ok_iff fs).mp h with
      ⟨hend, rfl, rfl⟩ | ⟨key, valueText, others, left, hkey, henter, hmore⟩
    · exact .inl ⟨hend, rfl, rfl⟩
    · have hne : f.name ≠ key := fun heq => hname (heq ▸ mem_names_of_enter henter)
      refine .inr ⟨key, valueText, (value, others), left, hkey, ?_, ih hmore⟩
      rw [enter_of_ne hne, henter]
      rfl

/-- The next member is found behind its comma. -/
theorem nextKey_separatedText (isFirst : Bool) (name : String) (w : List Char)
    (ws : List (List Char)) (rest : List Char) :
    nextKey isFirst (separatedText isFirst ((writeText name ++ w) :: ws) ++ rest) =
      .ok (some (name, w ++ (separatedText false ws ++ rest))) := by
  have hquoted := readQuoted_escaped name (w ++ (separatedText false ws ++ rest))
  cases isFirst <;>
    simp [separatedText_cons, writeText, nextKey, skipSpaces_cons, isSpace, hquoted, Except.map]

/-- Written members are read one by one, up to the brace. -/
theorem readMembers_written {αs : List Type} {fs : Fields αs} (hfields : fs.Lawful)
    (hnames : fs.names.Nodup) (row : Row αs) {bound : Nat}
    (hbound : (fs.writeMembers row).length < bound) (isFirst : Bool) (rest : List Char) :
    fs.readMembers bound isFirst (Draft.empty αs)
        (separatedText isFirst (fs.writeMembers row) ++ '\x7d' :: rest) =
      .ok (fs.written row, '\x7d' :: rest) := by
  induction αs generalizing bound isFirst with
  | nil =>
    obtain ⟨bound, rfl⟩ := Nat.exists_eq_add_one_of_ne_zero (Nat.ne_zero_of_lt hbound)
    refine (readMembers_eq_ok_iff fs).mpr (.inl ⟨?_, rfl, ?_⟩) <;>
      simp [writeMembers, nextKey, skipSpaces_cons, isSpace]
  | cons α αs ih =>
    obtain ⟨f, fs⟩ := fs
    obtain ⟨a, row⟩ := row
    obtain ⟨hname, hothers⟩ := List.nodup_cons.mp hnames
    cases homits : f.omits a with
    | true =>
      have hread := ih hfields.2 hothers row (by simpa [writeMembers, homits] using hbound) isFirst
      simpa [writeMembers, written, Draft.empty, homits] using readMembers_cons hname none hread
    | false =>
      obtain ⟨bound, rfl⟩ := Nat.exists_eq_add_one_of_ne_zero (Nat.ne_zero_of_lt hbound)
      have hmore := ih hfields.2 hothers row
        (by simpa [writeMembers, homits] using hbound) false
      have hvalue := hfields.1.reads_back a _
        (endsValue_separatedText (fs.writeMembers row) (endsValue_brace rest))
      simp only [writeMembers, written, homits, Bool.false_eq_true, if_false]
      exact (readMembers_eq_ok_iff _).mpr (.inr ⟨f.name, _, _, _,
        nextKey_separatedText isFirst f.name _ _ _, enter_name fs (Draft.empty αs) hvalue,
        readMembers_cons hname (some a) hmore⟩)

/-- What is absent from a written row is completed to the row. -/
theorem complete_written {αs : List Type} {fs : Fields αs} (hfields : fs.Lawful) (row : Row αs) :
    fs.complete (fs.written row) = .ok row := by
  induction αs with
  | nil => rfl
  | cons α αs ih =>
    obtain ⟨f, fs⟩ := fs
    obtain ⟨a, row⟩ := row
    have hothers := ih hfields.2 row
    cases homits : f.omits a
    · simp [complete, written, homits, hothers, Except.map]
    · have habsent := hfields.1.absent_of_omits a homits
      simp [complete, written, homits, habsent, hothers, Except.map]

end Fields

/-- Records of lawful fields read back when no two fields share a name. -/
theorem recordCodec_lawful {β : Type} {name : String} {αs : List Type} {fields : Fields αs}
    (hfields : fields.Lawful) (hnames : fields.names.Nodup) {ofRow : Row αs → β}
    {toRow : β → Row αs} (hrow : ∀ b, ofRow (toRow b) = b) :
    (recordCodec name fields ofRow toRow).Lawful where
  reads_back b rest _ := by
    have hbound := length_lt_length_commaSeparated (fields.writeMembers (toRow b)) '\x7d' rest
    have hread := Fields.readMembers_written hfields hnames (toRow b) hbound true rest
    simp only [separatedText, if_true, List.length_append, List.length_cons] at hread
    have hobject : fields.readObject
        (commaSeparated (fields.writeMembers (toRow b)) ++ '\x7d' :: rest) =
          .ok (toRow b, rest) := by
      simp [Fields.readObject, hread, Fields.complete_written hfields, closeObject,
        skipSpaces_cons, isSpace, bind, Except.bind]
    simp [recordCodec, skipSpaces_cons, isSpace, hobject, Except.map, hrow]
  opens b := ⟨'\x7b', _, rfl, rfl⟩

/-! ### Whole texts -/

/-- What a codec writes is decoded to what was written. -/
theorem decode_encode (h : codec.ReadsBack) (a : α) : codec.decode (codec.encode a) = .ok a := by
  have hread := h a [] endsValue_nil
  rw [List.append_nil] at hread
  simp [Codec.decode, Codec.encode, hread, skipSpaces, bind, Except.bind]

end AssistedWorkers.Json
