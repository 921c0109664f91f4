import AssistedWorkers.Proofs.Scanning

/-!
# What the furthest place means

A scanner remembers the furthest place it came to, also inside the alternatives, options and
repetitions that it gave up.  Two properties make this the place to report when a text is refused:

* `Explores` — what stands before the place is the start of a text of the grammar: everything that
  was accepted on the way, by whichever alternative, can be completed;
* `Tracks` — the characters up to the place, and the one at it, decide: if two texts share them,
  a scanner fails on both or yields the same value on both.

Both are inherited by compound scanners, with one lemma for each way of putting scanners together.
`Explores` looks at one run.  `Tracks` compares two runs, on texts that go on differently after a
shared part; there the scanners may have different bounds on their rounds, as long as neither
bound is less than what is left of the shared part.
-/

namespace AssistedWorkers.Text

namespace Scanner

variable {α β : Type}

/-! ### Places of compound scanners -/

/-- Where the first scanner fails, its place is the furthest one. -/
theorem bind_left_of_none {first : Scanner α} {text : List Char}
    (h : (first text).result = none) (next : α → Scanner β) :
    ((first >>= next : Scanner β) text).left = (first text).left := by
  change (Scanner.bind first next text).left = _
  unfold Scanner.bind
  cases hfirst : first text with
  | mk result left =>
    obtain rfl : result = none := by rw [← h, hfirst]
    rfl

/-- Where the first scanner succeeds, the second one may come further or not. -/
theorem bind_left_of_some {first : Scanner α} {text rest : List Char} {a : α}
    (h : (first text).result = some (a, rest)) (next : α → Scanner β) :
    ((first >>= next : Scanner β) text).left = min (first text).left (next a rest).left := by
  change (Scanner.bind first next text).left = _
  unfold Scanner.bind
  cases hfirst : first text with
  | mk result left =>
    obtain rfl : result = some (a, rest) := by rw [← h, hfirst]
    rfl

/-- A second scanner never hides how far the first one came. -/
theorem bind_left_le (first : Scanner α) (next : α → Scanner β) (text : List Char) :
    ((first >>= next : Scanner β) text).left ≤ (first text).left := by
  cases h : (first text).result with
  | none => exact (bind_left_of_none h next).le
  | some found => exact (bind_left_of_some h next).trans_le (Nat.min_le_left _ _)

/-- Where the first alternative fails, the second one may come further or not. -/
theorem orElse_left_of_none {first : Scanner α} {text : List Char}
    (h : (first text).result = none) (second : Scanner α) :
    (orElse first second text).left = min (first text).left (second text).left := by
  unfold orElse
  cases hfirst : first text with
  | mk result left =>
    obtain rfl : result = none := by rw [← h, hfirst]
    rfl

/-- Where the first alternative succeeds, the second one is not tried. -/
theorem orElse_left_of_some {first : Scanner α} {text : List Char} {found : α × List Char}
    (h : (first text).result = some found) (second : Scanner α) :
    (orElse first second text).left = (first text).left := by
  unfold orElse
  cases hfirst : first text with
  | mk result left =>
    obtain rfl : result = some found := by rw [← h, hfirst]
    rfl

/-- A second alternative never hides how far the first one came. -/
theorem orElse_left_le (first second : Scanner α) (text : List Char) :
    (orElse first second text).left ≤ (first text).left := by
  cases h : (first text).result with
  | none => exact (orElse_left_of_none h second).trans_le (Nat.min_le_left _ _)
  | some found => exact (orElse_left_of_some h second).le

/-- A symbol is looked for after the blanks. -/
theorem symbol_left (c : Char) (text : List Char) :
    (symbol c text).left = (skipBlanks text).length := by
  unfold symbol
  cases skipBlanks text <;> rfl

/-- The end of the text is looked for after the blanks. -/
theorem endOfText_left (text : List Char) : (endOfText text).left = (skipBlanks text).length := by
  unfold endOfText
  cases skipBlanks text <;> rfl

/-- A word is compared letter by letter after the blanks. -/
theorem word_left (w : String) (text : List Char) :
    (word w text).left = (letters w.toList (skipBlanks text)).left := by
  unfold word
  cases letters w.toList (skipBlanks text) with
  | mk result left => cases result <;> rfl

theorem symbol_left_le (c : Char) (text : List Char) : (symbol c text).left ≤ text.length :=
  (symbol_left c text).trans_le (skipBlanks_length_le text)

theorem letters_left_le (word text : List Char) : (letters word text).left ≤ text.length := by
  induction word generalizing text with
  | nil => exact Nat.le_refl _
  | cons c word ih =>
    cases text with
    | nil => exact Nat.le_refl _
    | cons d text =>
      by_cases hd : d = c
      · rw [letters, if_pos hd]
        exact (ih text).trans (Nat.le_succ _)
      · rw [letters, if_neg hd]
        exact Nat.le_refl _

/-- A repetition comes to a place of its text when its scanner does. -/
theorem manyUpTo_left_le {scanner : Scanner α}
    (h : ∀ text, (scanner text).left ≤ text.length) (bound : Nat) (text : List Char) :
    (manyUpTo scanner bound text).left ≤ text.length := by
  cases bound with
  | zero => exact Nat.le_refl _
  | succ bound =>
    exact (orElse_left_le _ _ _).trans ((bind_left_le scanner _ text).trans (h text))

/-! ### What was explored can be completed -/

/-- What stands before the furthest place that the scanner comes to is the start of a text that
the relation knows. -/
def Explores (scanner : Scanner α) (R : List Char → α → Prop) : Prop :=
  ∀ text, ∃ seen unseen more a, text = seen ++ unseen ∧ unseen.length = (scanner text).left ∧
    R (seen ++ more) a

namespace Explores

variable {R S : List Char → α → Prop} {scanner other : Scanner α}

/-- The furthest place is a place of the text. -/
theorem left_le (h : Explores scanner R) (text : List Char) :
    (scanner text).left ≤ text.length := by
  obtain ⟨seen, unseen, more, a, rfl, hlength, -⟩ := h text
  rw [← hlength, List.length_append]
  omega

/-- What completes a text of one grammar completes one of a wider grammar. -/
theorem mono (h : Explores scanner R) (hsub : ∀ text a, R text a → S text a) :
    Explores scanner S := by
  intro text
  obtain ⟨seen, unseen, more, a, htext, hlength, hseen⟩ := h text
  exact ⟨seen, unseen, more, a, htext, hlength, hsub _ _ hseen⟩

/-- A scanner that looks at nothing explores every grammar that has a text. -/
theorem of_left_eq (h : ∀ text, (scanner text).left = text.length) {whole : List Char} {a : α}
    (hR : R whole a) : Explores scanner R :=
  fun text => ⟨[], text, whole, a, rfl, (h text).symm, hR⟩

theorem pure (a : α) : Explores (Scanner.pure a) (fun text b => text = [] ∧ b = a) :=
  of_left_eq (fun _ => rfl) ⟨rfl, rfl⟩

/-- One text after another one.  Where the first scanner came further, or failed, the text it was
in is completed and one of the second grammar is put after it. -/
theorem bind {next : α → Scanner β} {T : α → List Char → β → Prop} (h : Explores scanner R)
    (honly : OnlyTakes scanner R) (hnext : ∀ {front a}, R front a → Explores (next a) (T a)) :
    Explores (scanner >>= next)
      (fun text b => ∃ a front back, R front a ∧ T a back b ∧ text = front ++ back) := by
  intro text
  obtain ⟨seen, unseen, more, a, htext, hlength, hseen⟩ := h text
  -- Any text of the second grammar will do after the completed first one.
  obtain ⟨start, -, last, b, -, -, hback⟩ := hnext hseen []
  have hfirst (hleft : ((scanner >>= next : Scanner β) text).left = (scanner text).left) :
      ∃ seen unseen more b, text = seen ++ unseen ∧
        unseen.length = ((scanner >>= next : Scanner β) text).left ∧
        ∃ a front back, R front a ∧ T a back b ∧ seen ++ more = front ++ back :=
    ⟨seen, unseen, more ++ (start ++ last), b, htext, hlength.trans hleft.symm,
      a, seen ++ more, start ++ last, hseen, hback, (List.append_assoc ..).symm⟩
  cases hresult : (scanner text).result with
  | none => exact hfirst (bind_left_of_none hresult next)
  | some found =>
    obtain ⟨a', rest⟩ := found
    have hleft := bind_left_of_some hresult next
    rcases Nat.le_total (scanner text).left (next a' rest).left with hle | hle
    · exact hfirst (hleft.trans (Nat.min_eq_left hle))
    · obtain ⟨front, hfront, rfl⟩ := honly text a' rest hresult
      obtain ⟨seen', unseen', more', b', rfl, hlength', hback'⟩ := hnext hfront rest
      refine ⟨front ++ seen', unseen', more', b', (List.append_assoc ..).symm, ?_,
        a', front, seen' ++ more', hfront, hback', List.append_assoc ..⟩
      rw [hleft, Nat.min_eq_right hle, hlength']

theorem map {f : α → β} (h : Explores scanner R) (honly : OnlyTakes scanner R) :
    Explores (f <$> scanner) (fun text b => ∃ a, R text a ∧ f a = b) :=
  (h.bind honly fun {_ a} _ => pure (f a)).mono fun text b hjoined => by
    obtain ⟨a, front, back, hfront, ⟨rfl, rfl⟩, rfl⟩ := hjoined
    exact ⟨a, by rwa [List.append_nil], rfl⟩

/-- Of two alternatives, the one that came further is completed. -/
theorem orElse (h : Explores scanner R) (hother : Explores other R) :
    Explores (Scanner.orElse scanner other) R := by
  intro text
  obtain ⟨seen, unseen, more, a, htext, hlength, hseen⟩ := h text
  cases hresult : (scanner text).result with
  | some found =>
    exact ⟨seen, unseen, more, a, htext, by rw [orElse_left_of_some hresult, hlength], hseen⟩
  | none =>
    rw [orElse_left_of_none hresult]
    rcases Nat.le_total (scanner text).left (other text).left with hle | hle
    · exact ⟨seen, unseen, more, a, htext, by rw [Nat.min_eq_left hle, hlength], hseen⟩
    · rw [Nat.min_eq_right hle]
      exact hother text

/-- An option is completed, or nothing was begun. -/
theorem optional (h : Explores scanner R) (honly : OnlyTakes scanner R) :
    Explores (Scanner.optional scanner)
      (fun text a? => a?.elim (text = []) fun a => R text a) := by
  apply orElse
  · exact (h.bind honly fun {_ a} _ => pure (some a)).mono fun text a? hjoined => by
      obtain ⟨a, front, back, hfront, ⟨rfl, rfl⟩, rfl⟩ := hjoined
      simpa using hfront
  · exact (pure none).mono fun text a? hempty => by
      obtain ⟨rfl, rfl⟩ := hempty
      rfl

/-- Of a repetition the item that was begun is completed, and no other one follows. -/
theorem many (h : Explores scanner R) (honly : OnlyTakes scanner R) :
    Explores (Scanner.many scanner) (Repeated R) := by
  suffices hbound : ∀ bound, Explores (manyUpTo scanner bound) (Repeated R) from
    fun text => hbound text.length text
  intro bound
  induction bound with
  | zero => exact of_left_eq (fun _ => rfl) .nil
  | succ bound ih =>
    apply orElse
    · refine (h.bind honly fun {_ a} _ =>
        ih.bind (honly.manyUpTo bound) fun {_ as} _ => pure (a :: as)).mono ?_
      intro text as hjoined
      obtain ⟨a, front, back, hfront, ⟨more, items, -, hitems, ⟨rfl, rfl⟩, rfl⟩, rfl⟩ := hjoined
      rw [List.append_nil]
      exact .cons hfront hitems
    · exact of_left_eq (fun _ => rfl) .nil

/-- A separated list is completed by the item that was begun, or by one after the separator. -/
theorem separatedBy {separator : Scanner Unit} {T : List Char → Prop} (h : Explores scanner R)
    (honly : OnlyTakes scanner R) (hseparator : Explores separator fun text _ => T text)
    (hseparatorOnly : OnlyTakes separator fun text _ => T text) :
    Explores (Scanner.separatedBy scanner separator) (Separated T R) := by
  have hmoreOnly := hseparatorOnly.bind fun _ => honly
  have hmore := (hseparator.bind hseparatorOnly fun _ => h).many hmoreOnly
  refine (h.bind honly fun {_ a} _ =>
    hmore.bind hmoreOnly.many fun {_ as} _ => pure (a :: as)).mono ?_
  intro text as hjoined
  obtain ⟨a, front, back, hfront, ⟨more, items, -, hitems, ⟨rfl, rfl⟩, rfl⟩, rfl⟩ := hjoined
  rw [List.append_nil]
  exact separated_of_repeated hfront hitems

/-- The symbol itself completes what stands before it, which is blank. -/
theorem symbol (c : Char) : Explores (Scanner.symbol c) (fun text _ => Padded [c] text) := by
  intro text
  obtain ⟨before, hbefore, htext⟩ := exists_blanks text
  exact ⟨before, skipBlanks text, [c], (), htext, (symbol_left c text).symm,
    before, [], hbefore, isBlanks_nil, (List.append_nil _).symm⟩

/-- Where the comparison with a word stops, the rest of the word is missing. -/
theorem letters (word : List Char) :
    Explores (Scanner.letters word) (fun text _ => text = word) := by
  induction word with
  | nil => exact fun text => ⟨[], text, [], (), rfl, rfl, rfl⟩
  | cons c word ih =>
    intro text
    cases text with
    | nil => exact ⟨[], [], c :: word, (), rfl, rfl, rfl⟩
    | cons d text =>
      by_cases hd : d = c
      · obtain ⟨seen, unseen, more, u, rfl, hlength, hseen⟩ := ih text
        refine ⟨d :: seen, unseen, more, u, rfl, ?_, ?_⟩
        · rw [Scanner.letters, if_pos hd, hlength]
        · rw [hd, List.cons_append, hseen]
      · refine ⟨[], d :: text, c :: word, (), rfl, ?_, rfl⟩
        rw [Scanner.letters, if_neg hd, List.length_cons]

/-- A word is completed by the letters that are missing. -/
theorem word (w : String) :
    Explores (Scanner.word w) (fun text _ => Padded w.toList text) := by
  intro text
  obtain ⟨before, hbefore, htext⟩ := exists_blanks text
  obtain ⟨seen, unseen, more, u, hskip, hlength, hseen⟩ := letters w.toList (skipBlanks text)
  refine ⟨before ++ seen, unseen, more, u, ?_, ?_, before, [], hbefore, isBlanks_nil, ?_⟩
  · rw [List.append_assoc, ← hskip]
    exact htext
  · rw [word_left, hlength]
  · rw [List.append_assoc, hseen, List.append_nil]

theorem endOfText : Explores Scanner.endOfText (fun text _ => IsBlanks text) := by
  intro text
  obtain ⟨before, hbefore, htext⟩ := exists_blanks text
  exact ⟨before, skipBlanks text, [], (), htext, (endOfText_left text).symm,
    by rwa [List.append_nil]⟩

end Explores

/-! ### The characters up to the furthest place decide -/

/-- Two texts go on alike: they have the same characters left, at most `n`, before `t` in the one
and before `u` in the other.  Nothing is said when the first text is already within `t`. -/
def Alike (t u : List Char) (n : Nat) (text text' : List Char) : Prop :=
  text.length ≤ t.length ∨ ∃ shared, shared.length ≤ n ∧ text = shared ++ t ∧ text' = shared ++ u

namespace Alike

variable {t u text text' : List Char} {n m : Nat}

/-- The bound on what is shared may be raised. -/
theorem mono (h : Alike t u n text text') (hle : n ≤ m) : Alike t u m text text' := by
  rcases h with h | ⟨shared, hlength, htext, htext'⟩
  · exact .inl h
  · exact .inr ⟨shared, hlength.trans hle, htext, htext'⟩

/-- Texts are alike from the start of what they share. -/
theorem append (shared : List Char) : Alike t u shared.length (shared ++ t) (shared ++ u) :=
  .inr ⟨shared, Nat.le_refl _, rfl, rfl⟩

/-- Texts that are alike have the same next character, as long as the first one is not yet
within `t`. -/
theorem exists_cons (h : Alike t u n text text') (hlong : t.length < text.length) :
    ∃ c shared, shared.length < n ∧ text = c :: (shared ++ t) ∧ text' = c :: (shared ++ u) := by
  rcases h with h | ⟨shared, hlength, rfl, rfl⟩
  · omega
  · cases shared with
    | nil => exact absurd hlong (Nat.lt_irrefl _)
    | cons c shared => exact ⟨c, shared, hlength, rfl, rfl⟩

/-- What is alike stays alike when all characters of a kind are dropped. -/
theorem dropWhile (h : Alike t u n text text') (p : Char → Bool) :
    Alike t u n (text.dropWhile p) (text'.dropWhile p) := by
  rcases h with h | ⟨shared, hlength, rfl, rfl⟩
  · exact .inl ((List.dropWhile_sublist p).length_le.trans h)
  · rw [List.dropWhile_append, List.dropWhile_append]
    cases hend : (shared.dropWhile p).isEmpty with
    | true => exact .inl ((if_pos rfl).symm ▸ (List.dropWhile_sublist p).length_le)
    | false => exact .inr ⟨shared.dropWhile p,
        (List.dropWhile_sublist p).length_le.trans hlength, if_neg (by simp), if_neg (by simp)⟩

/-- What is dropped is the same on both sides, if what is left is not yet within `t`. -/
theorem takeWhile_eq (h : Alike t u n text text') {p : Char → Bool}
    (hlong : t.length < (text.dropWhile p).length) : text.takeWhile p = text'.takeWhile p := by
  obtain ⟨c, rest, -, hrest, hrest'⟩ := (h.dropWhile p).exists_cons hlong
  obtain ⟨d, shared, -, rfl, rfl⟩ :=
    h.exists_cons (hlong.trans_le (List.dropWhile_sublist p).length_le)
  -- On either side the dropped characters and what is left of the shared part make up the part.
  have hsplit (last : List Char)
      (hlast : (d :: (shared ++ last)).dropWhile p = c :: (rest ++ last)) :
      (d :: (shared ++ last)).takeWhile p ++ c :: rest = d :: shared := by
    refine (List.append_left_inj last).1 ?_
    have hwhole := List.takeWhile_append_dropWhile (p := p) (l := d :: (shared ++ last))
    rw [hlast] at hwhole
    simpa using hwhole
  exact List.append_cancel_right ((hsplit t hrest).trans (hsplit u hrest').symm)

end Alike

/-- On texts that are alike, either both scanners fail or both yield the same value and leave
texts that are alike, unless the first one comes to where the texts differ. -/
def Tracks (t u : List Char) (n m : Nat) (scanner scanner' : Scanner α) : Prop :=
  ∀ text text', Alike t u n text text' → t.length < (scanner text).left →
    ((scanner text).result = none ∧ (scanner' text').result = none) ∨
      ∃ a rest rest', (scanner text).result = some (a, rest) ∧
        (scanner' text').result = some (a, rest') ∧ Alike t u m rest rest'

namespace Tracks

variable {t u : List Char} {n m k : Nat} {scanner scanner' other other' : Scanner α}

/-- The bound on what is shared afterwards may be raised. -/
theorem mono (h : Tracks t u n m scanner scanner') (hle : m ≤ k) :
    Tracks t u n k scanner scanner' := by
  intro text text' halike hleft
  rcases h text text' halike hleft with hfail | ⟨a, rest, rest', hresult, hresult', hrest⟩
  · exact .inl hfail
  · exact .inr ⟨a, rest, rest', hresult, hresult', hrest.mono hle⟩

/-- The bound on what is shared at first may be lowered. -/
theorem of_le (h : Tracks t u n m scanner scanner') (hle : k ≤ n) :
    Tracks t u k m scanner scanner' :=
  fun text text' halike => h text text' (halike.mono hle)

/-- Where nothing is shared any more, there is nothing to show. -/
theorem zero (h : ∀ text, (scanner text).left ≤ text.length) :
    Tracks t u 0 m scanner scanner' := by
  intro text text' halike hleft
  obtain ⟨c, shared, hlength, -, -⟩ := halike.exists_cons (hleft.trans_le (h text))
  exact absurd hlength (Nat.not_lt_zero _)

/-- The same value without a look at the texts. -/
theorem pure (a : α) : Tracks t u n n (Scanner.pure a) (Scanner.pure a) :=
  fun text text' halike _ => .inr ⟨a, text, text', rfl, rfl, halike⟩

theorem fail : Tracks t u n m (Scanner.fail (α := α)) Scanner.fail :=
  fun _ _ _ _ => .inl ⟨rfl, rfl⟩

/-- A scanner after another one goes on where the first one stopped, on texts that are alike there.
-/
theorem bind {next next' : α → Scanner β} (h : Tracks t u n m scanner scanner')
    (hnext : ∀ a, Tracks t u m k (next a) (next' a)) :
    Tracks t u n k (scanner >>= next) (scanner' >>= next') := by
  intro text text' halike hleft
  rcases h text text' halike (hleft.trans_le (bind_left_le scanner next text)) with
    ⟨hfail, hfail'⟩ | ⟨a, rest, rest', hresult, hresult', hrest⟩
  · exact .inl ⟨bind_result_of_none hfail next, bind_result_of_none hfail' next'⟩
  · rw [bind_left_of_some hresult next] at hleft
    rcases hnext a rest rest' hrest (hleft.trans_le (Nat.min_le_right _ _)) with
      ⟨hfail, hfail'⟩ | ⟨b, last, last', hb, hb', hlast⟩
    · left
      constructor
      · change (Scanner.bind scanner next text).result = none
        rw [bind_result, hresult, Option.bind_some, hfail]
      · change (Scanner.bind scanner' next' text').result = none
        rw [bind_result, hresult', Option.bind_some, hfail']
    · exact .inr ⟨b, last, last', bind_result_eq_some_iff.2 ⟨a, rest, hresult, hb⟩,
        bind_result_eq_some_iff.2 ⟨a, rest', hresult', hb'⟩, hlast⟩

theorem map (f : α → β) (h : Tracks t u n m scanner scanner') :
    Tracks t u n m (f <$> scanner) (f <$> scanner') :=
  h.bind fun a => pure (f a)

/-- The same alternative is taken on both sides. -/
theorem orElse (h : Tracks t u n m scanner scanner') (hother : Tracks t u n m other other') :
    Tracks t u n m (Scanner.orElse scanner other) (Scanner.orElse scanner' other') := by
  intro text text' halike hleft
  rcases h text text' halike (hleft.trans_le (orElse_left_le scanner other text)) with
    ⟨hfail, hfail'⟩ | ⟨a, rest, rest', hresult, hresult', hrest⟩
  · rw [orElse_left_of_none hfail] at hleft
    rw [orElse_result_of_none hfail, orElse_result_of_none hfail']
    exact hother text text' halike (hleft.trans_le (Nat.min_le_right _ _))
  · exact .inr ⟨a, rest, rest', orElse_result_of_some hresult, orElse_result_of_some hresult',
      hrest⟩

theorem optional (h : Tracks t u n n scanner scanner') :
    Tracks t u n n (Scanner.optional scanner) (Scanner.optional scanner') :=
  (h.bind fun a => pure (some a)).orElse (pure none)

/-- Repetitions go on alike if each round takes something of what is shared and neither bound is
less than what is shared. -/
theorem manyUpTo {bound bound' : Nat} (hle : ∀ text, (scanner text).left ≤ text.length)
    (h : ∀ k < n, Tracks t u (k + 1) k scanner scanner') (hbound : n ≤ bound)
    (hbound' : n ≤ bound') :
    Tracks t u n n (Scanner.manyUpTo scanner bound) (Scanner.manyUpTo scanner' bound') := by
  induction n generalizing bound bound' with
  | zero => exact zero (manyUpTo_left_le hle bound)
  | succ n ih =>
    obtain ⟨b, rfl⟩ : ∃ b, bound = b + 1 := ⟨bound - 1, by omega⟩
    obtain ⟨b', rfl⟩ : ∃ b, bound' = b + 1 := ⟨bound' - 1, by omega⟩
    have hrest : Tracks t u n n (Scanner.manyUpTo scanner b) (Scanner.manyUpTo scanner' b') :=
      ih (fun k hk => h k (by omega)) (by omega) (by omega)
    have hround := (h n (Nat.lt_succ_self n)).bind fun a => hrest.bind fun as => pure (a :: as)
    exact (hround.mono (Nat.le_succ n)).orElse (pure [])

/-- A repetition has as many rounds as its text has characters, so both bounds are large enough. -/
theorem many (hle : ∀ text, (scanner text).left ≤ text.length)
    (h : ∀ k < n, Tracks t u (k + 1) k scanner scanner') :
    Tracks t u n n (Scanner.many scanner) (Scanner.many scanner') := by
  intro text text' halike hleft
  rcases halike with hshort | ⟨shared, hlength, rfl, rfl⟩
  · have hleft' : (Scanner.many scanner text).left ≤ text.length := manyUpTo_left_le hle _ text
    omega
  · -- The two bounds are the lengths of the texts, and both texts hold the shared part.
    have hrounds : Tracks t u shared.length shared.length
        (Scanner.manyUpTo scanner (shared ++ t).length)
        (Scanner.manyUpTo scanner' (shared ++ u).length) :=
      manyUpTo hle (fun k hk => h k (by omega)) (by simp) (by simp)
    exact hrounds.mono hlength _ _ (.append shared) hleft

/-- A character with blanks around it takes something of what is shared. -/
theorem symbol (c : Char) : Tracks t u (n + 1) n (Scanner.symbol c) (Scanner.symbol c) := by
  intro text text' halike hleft
  rw [symbol_left] at hleft
  have hskip : Alike t u (n + 1) (skipBlanks text) (skipBlanks text') := halike.dropWhile isBlank
  obtain ⟨d, shared, hlength, htext, htext'⟩ := hskip.exists_cons hleft
  unfold Scanner.symbol
  rw [htext, htext']
  by_cases hd : d = c
  · have hrest : Alike t u n (shared ++ t) (shared ++ u) := Alike.mono (.append shared) (by omega)
    exact .inr ⟨(), _, _, if_pos hd, if_pos hd, hrest.dropWhile isBlank⟩
  · exact .inl ⟨if_neg hd, if_neg hd⟩

/-- Items of separated lists need not take anything, for their separators do. -/
theorem separatedBy (hle : ∀ k ≤ n, Tracks t u k k scanner scanner') (c : Char) :
    Tracks t u n n (Scanner.separatedBy scanner (Scanner.symbol c))
      (Scanner.separatedBy scanner' (Scanner.symbol c)) := by
  have hmore : Tracks t u n n (Scanner.many (Scanner.symbol c >>= fun _ => scanner))
      (Scanner.many (Scanner.symbol c >>= fun _ => scanner')) :=
    many (fun text => (bind_left_le _ _ text).trans (symbol_left_le c text))
      fun k hk => (symbol c).bind fun _ => hle k hk.le
  exact (hle n (Nat.le_refl n)).bind fun a => hmore.bind fun as => pure (a :: as)

/-- Two texts are compared with a word up to the same letter of it. -/
theorem letters (word : List Char) :
    Tracks t u n n (Scanner.letters word) (Scanner.letters word) := by
  induction word generalizing n with
  | nil => exact pure ()
  | cons c word ih =>
    intro text text' halike hleft
    obtain ⟨d, shared, hlength, rfl, rfl⟩ :=
      halike.exists_cons (hleft.trans_le (letters_left_le _ text))
    by_cases hd : d = c
    · rw [Scanner.letters, if_pos hd] at hleft ⊢
      rw [Scanner.letters, if_pos hd]
      exact ih _ _ (Alike.mono (.append shared) hlength.le) hleft
    · rw [Scanner.letters, if_neg hd, Scanner.letters, if_neg hd]
      exact .inl ⟨rfl, rfl⟩

/-- Where the word ends, or another letter stands in its place, the texts are still alike. -/
theorem word (w : String) : Tracks t u n n (Scanner.word w) (Scanner.word w) := by
  intro text text' halike hleft
  rw [word_left] at hleft
  have hskip : Alike t u n (skipBlanks text) (skipBlanks text') := halike.dropWhile isBlank
  rw [word_result, word_result]
  rcases letters w.toList _ _ hskip hleft with
    ⟨hfail, hfail'⟩ | ⟨a, rest, rest', hresult, hresult', hrest⟩
  · rw [hfail, hfail']
    exact .inl ⟨rfl, rfl⟩
  · rw [hresult, hresult']
    exact .inr ⟨(), _, _, rfl, rfl, hrest.dropWhile isBlank⟩

/-- Neither text ends where the two are alike. -/
theorem endOfText : Tracks t u n m Scanner.endOfText Scanner.endOfText := by
  intro text text' halike hleft
  rw [endOfText_left] at hleft
  have hskip : Alike t u n (skipBlanks text) (skipBlanks text') := halike.dropWhile isBlank
  obtain ⟨d, shared, -, htext, htext'⟩ := hskip.exists_cons hleft
  unfold Scanner.endOfText
  rw [htext, htext']
  exact .inl ⟨rfl, rfl⟩

end Tracks

end Scanner

end AssistedWorkers.Text
