import AssistedWorkers.Text.Attempt
import Mathlib.Data.List.DropRight

/-!
# What scanners take

A grammar describes the texts that a scanner is to take, and the value that each of them stands
for, by a relation between the two.  This module has the operators that grammars are written
with, and says of the scanners that belong to them what is needed for either direction:

* `OnlyTakes` — a scanner takes nothing but what the grammar describes.  It is inherited by all
  compound scanners (`OnlyTakes.bind`, `OnlyTakes.orElse`, `OnlyTakes.many`,
  `OnlyTakes.separatedBy`);
* `Yields` — a scanner reads a value off the front of a text and comes to a given rest, where
  blanks at the start of the rest do not count: a token takes the blanks after it, a name leaves
  them to the token that follows;
* `many_result_of_some` — repeating a scanner that takes something each time never runs out of
  rounds, so a repetition goes on exactly as long as its scanner succeeds.
-/

namespace AssistedWorkers.Text

/-! ### Grammar operators -/

/-- A text of blanks only. -/
def IsBlanks (text : List Char) : Prop :=
  ∀ c ∈ text, isBlank c = true

/-- A token with any number of blanks on both sides. -/
def Padded (token text : List Char) : Prop :=
  ∃ before after, IsBlanks before ∧ IsBlanks after ∧ text = before ++ token ++ after

/-- `item*`: any number of items, one after the other. -/
inductive Repeated {α : Type} (item : List Char → α → Prop) : List Char → List α → Prop where
  | nil : Repeated item [] []
  | cons {front back : List Char} {a : α} {as : List α} (hfront : item front a)
      (hback : Repeated item back as) : Repeated item (front ++ back) (a :: as)

/-- `item (separator item)*`: one or more items with a separator between two of them. -/
inductive Separated {α : Type} (separator : List Char → Prop) (item : List Char → α → Prop) :
    List Char → List α → Prop where
  | one {text : List Char} {a : α} (h : item text a) : Separated separator item text [a]
  | more {front middle back : List Char} {a : α} {as : List α} (hfront : item front a)
      (hmiddle : separator middle) (hback : Separated separator item back as) :
      Separated separator item (front ++ middle ++ back) (a :: as)

namespace Separated

variable {α : Type} {separator : List Char → Prop} {item : List Char → α → Prop}

/-- No item is longer than the whole text. -/
theorem with_length {text : List Char} {as : List α} (h : Separated separator item text as) :
    Separated separator (fun front a => item front a ∧ front.length ≤ text.length) text as := by
  suffices hbound : ∀ n, text.length ≤ n →
      Separated separator (fun front a => item front a ∧ front.length ≤ n) text as from
    hbound _ (Nat.le_refl _)
  induction h with
  | one h => exact fun n hn => .one ⟨h, hn⟩
  | more hfront hmiddle _ ih =>
    intro n hn
    simp only [List.length_append] at hn
    exact .more ⟨hfront, by omega⟩ hmiddle (ih n (by omega))

/-- A separated list starts with an item and has at least one value. -/
theorem exists_first {text : List Char} {as : List α} (h : Separated separator item text as) :
    ∃ front back a more, item front a ∧ text = front ++ back ∧ as = a :: more := by
  cases h with
  | one h => exact ⟨_, [], _, [], h, (List.append_nil _).symm, rfl⟩
  | more hfront _ _ => exact ⟨_, _, _, _, hfront, List.append_assoc .., rfl⟩

end Separated

/-- A list that is written with a separator between two of its values is a separated list. -/
theorem separated_intercalate {α : Type} {T : List Char → Prop} {item : List Char → α → Prop}
    {write : α → String} {sep : String} (hsep : T sep.toList) {as : List α} (hne : as ≠ [])
    (h : ∀ a ∈ as, item (write a).toList a) :
    Separated T item (sep.intercalate (as.map write)).toList as := by
  induction as with
  | nil => exact absurd rfl hne
  | cons a as ih =>
    have ha := h a List.mem_cons_self
    cases as with
    | nil => simpa using Separated.one ha
    | cons b as =>
      have hrest := ih (List.cons_ne_nil b as) fun c hc => h c (List.mem_cons_of_mem _ hc)
      rw [List.map_cons, String.intercalate_cons_of_ne_nil (by simp), String.toList_append,
        String.toList_append]
      exact .more ha hsep hrest

/-- An item, and then separators with an item after each of them, are a separated list. -/
theorem separated_of_repeated {α : Type} {T : List Char → Prop} {item : List Char → α → Prop}
    {front items : List Char} {a : α} {as : List α} (hfront : item front a)
    (hitems : Repeated (fun text b => ∃ (_ : Unit) (middle next : List Char),
      T middle ∧ item next b ∧ text = middle ++ next) items as) :
    Separated T item (front ++ items) (a :: as) := by
  induction hitems generalizing front a with
  | nil => simpa using Separated.one hfront
  | cons hitem _ ih =>
    obtain ⟨-, middle, next, hmiddle, hnext, rfl⟩ := hitem
    have hrest := ih hnext
    simpa using Separated.more hfront hmiddle hrest

/-- One more item at the end of a repetition. -/
theorem Repeated.snoc {α : Type} {item : List Char → α → Prop} {items last : List Char}
    {as : List α} {a : α} (h : Repeated item items as) (hlast : item last a) :
    Repeated item (items ++ last) (as ++ [a]) := by
  induction h with
  | nil => simpa using Repeated.cons hlast .nil
  | cons hfront _ ih =>
    rw [List.append_assoc]
    exact .cons hfront ih

/-! ### Blanks -/

theorem isBlanks_nil : IsBlanks [] := by
  simp [IsBlanks]

/-- A token needs no blanks around it. -/
theorem padded_self (token : List Char) : Padded token token :=
  ⟨[], [], isBlanks_nil, isBlanks_nil, by simp⟩

/-- Blanks in front of a text are skipped. -/
theorem skipBlanks_append {blanks : List Char} (h : IsBlanks blanks) (text : List Char) :
    skipBlanks (blanks ++ text) = skipBlanks text :=
  List.dropWhile_append_of_pos h

/-- Nothing is skipped in front of a character that is not blank. -/
theorem skipBlanks_cons {c : Char} (h : isBlank c = false) (text : List Char) :
    skipBlanks (c :: text) = c :: text :=
  List.dropWhile_cons_of_neg (by simp [h])

@[simp] theorem skipBlanks_nil : skipBlanks [] = [] := rfl

/-- After the blanks there are no more blanks. -/
@[simp] theorem skipBlanks_skipBlanks (text : List Char) :
    skipBlanks (skipBlanks text) = skipBlanks text :=
  List.dropWhile_idempotent _ _

/-- A text is made of the blanks it starts with and of what is left when they are skipped. -/
theorem exists_blanks (text : List Char) :
    ∃ blanks, IsBlanks blanks ∧ text = blanks ++ skipBlanks text :=
  ⟨text.takeWhile isBlank, fun _ hc => List.mem_takeWhile_imp hc,
    List.takeWhile_append_dropWhile.symm⟩

/-- Skipping blanks before a token shows the token. -/
theorem skipBlanks_padded {token text : List Char} {c : Char} (h : Padded (c :: token) text)
    (hc : isBlank c = false) (rest : List Char) :
    ∃ after, IsBlanks after ∧ skipBlanks (text ++ rest) = c :: token ++ (after ++ rest) := by
  obtain ⟨before, after, hbefore, hafter, rfl⟩ := h
  refine ⟨after, hafter, ?_⟩
  rw [List.append_assoc, List.append_assoc, skipBlanks_append hbefore]
  exact skipBlanks_cons hc _

/-- What comes next in a text, blanks apart, is one of the given characters or nothing. -/
def Follows (next : List Char) (text : List Char) : Prop :=
  ∀ c rest, skipBlanks text = c :: rest → c ∈ next

/-- More characters may come next than are needed. -/
theorem Follows.mono {next next' text : List Char} (h : Follows next text)
    (hsub : ∀ c ∈ next, c ∈ next') : Follows next' text :=
  fun c rest hskip => hsub c (h c rest hskip)

/-- What comes next does not depend on the blanks before it. -/
theorem follows_of_skipBlanks_eq {next text text' : List Char} (h : Follows next text)
    (heq : skipBlanks text' = skipBlanks text) : Follows next text' :=
  fun c rest hskip => h c rest (heq ▸ hskip)

/-- A token comes next in a text that starts with it. -/
theorem follows_padded {next token text : List Char} {c : Char} (h : Padded (c :: token) text)
    (hc : isBlank c = false) (hmem : c ∈ next) (rest : List Char) :
    Follows next (text ++ rest) := by
  intro d tail hskip
  obtain ⟨after, -, heq⟩ := skipBlanks_padded h hc rest
  rw [heq] at hskip
  obtain ⟨rfl, -⟩ := List.cons.inj hskip
  exact hmem

namespace Scanner

/-! ### Results of compound scanners -/

/-- One scanner after another succeeds when both do, the second one on what the first one left. -/
theorem bind_result_eq_some_iff {α β : Type} {first : Scanner α} {next : α → Scanner β}
    {text rest : List Char} {b : β} :
    ((first >>= next : Scanner β) text).result = some (b, rest) ↔
      ∃ a middle, (first text).result = some (a, middle) ∧
        (next a middle).result = some (b, rest) := by
  change (Scanner.bind first next text).result = some (b, rest) ↔ _
  rw [bind_result, Option.bind_eq_some_iff]
  constructor
  · intro h
    obtain ⟨⟨a, middle⟩, hfirst, hnext⟩ := h
    exact ⟨a, middle, hfirst, hnext⟩
  · intro h
    obtain ⟨a, middle, hfirst, hnext⟩ := h
    exact ⟨(a, middle), hfirst, hnext⟩

/-- One scanner after another fails when the first one does. -/
theorem bind_result_of_none {α β : Type} {first : Scanner α} {text : List Char}
    (h : (first text).result = none) (next : α → Scanner β) :
    ((first >>= next : Scanner β) text).result = none := by
  change (Scanner.bind first next text).result = none
  rw [bind_result, h, Option.bind_none]

/-- A scanner with its value changed succeeds where it did before and leaves the same text. -/
theorem map_result_eq_some_iff {α β : Type} {f : α → β} {scanner : Scanner α}
    {text rest : List Char} {b : β} :
    ((f <$> scanner : Scanner β) text).result = some (b, rest) ↔
      ∃ a, (scanner text).result = some (a, rest) ∧ f a = b := by
  change ((scanner >>= fun a => Scanner.pure (f a) : Scanner β) text).result = some (b, rest) ↔ _
  rw [bind_result_eq_some_iff]
  constructor
  · intro h
    obtain ⟨a, middle, hscanner, hpure⟩ := h
    obtain ⟨hb, rfl⟩ := Prod.mk.inj (Option.some.inj hpure)
    exact ⟨a, hscanner, hb⟩
  · intro h
    obtain ⟨a, hscanner, rfl⟩ := h
    exact ⟨a, rest, hscanner, rfl⟩

theorem orElse_result_of_some {α : Type} {first second : Scanner α} {text : List Char}
    {found : α × List Char} (h : (first text).result = some found) :
    (orElse first second text).result = some found := by
  rw [orElse_result, h, Option.some_or]

theorem orElse_result_of_none {α : Type} {first second : Scanner α} {text : List Char}
    (h : (first text).result = none) :
    (orElse first second text).result = (second text).result := by
  rw [orElse_result, h, Option.none_or]

/-- The scan of one symbol depends on the text after blanks only. -/
theorem symbol_result_eq_some_iff {c : Char} {u : Unit} {text rest : List Char} :
    (symbol c text).result = some (u, rest) ↔
      ∃ tail, skipBlanks text = c :: tail ∧ rest = skipBlanks tail := by
  unfold symbol
  cases hskip : skipBlanks text with
  | nil => simp
  | cons d tail =>
    by_cases hd : d = c
    · subst hd
      simp [eq_comm]
    · simp [hd]

/-- A symbol is taken together with the blanks on both sides of it. -/
theorem symbol_result_of_padded {c : Char} (hc : isBlank c = false) {front rest text : List Char}
    (h : Padded [c] front) (htext : skipBlanks text = skipBlanks (front ++ rest)) :
    (symbol c text).result = some ((), skipBlanks rest) := by
  obtain ⟨after, hafter, heq⟩ := skipBlanks_padded h hc rest
  rw [symbol_result_eq_some_iff]
  refine ⟨after ++ rest, by rw [htext, heq]; rfl, (skipBlanks_append hafter rest).symm⟩

/-- No symbol is taken but the next one. -/
theorem symbol_result_of_follows {c : Char} {next text : List Char} (h : Follows next text)
    (hc : c ∉ next) : (symbol c text).result = none := by
  cases hresult : (symbol c text).result with
  | none => rfl
  | some found =>
    obtain ⟨tail, hskip, -⟩ := symbol_result_eq_some_iff.1 hresult
    exact absurd (h c tail hskip) hc

/-- Exactly the texts that start with the word are taken. -/
theorem letters_result_eq_some_iff {word : List Char} {u : Unit} {text rest : List Char} :
    (letters word text).result = some (u, rest) ↔ text = word ++ rest := by
  induction word generalizing text with
  | nil => simp [letters, eq_comm]
  | cons c word ih =>
    cases text with
    | nil => simp [letters]
    | cons d text =>
      by_cases hd : d = c
      · subst hd
        simpa [letters] using ih
      · simp [letters, hd]

/-- A word is a comparison of letters between blanks. -/
theorem word_result (w : String) (text : List Char) :
    (word w text).result =
      (letters w.toList (skipBlanks text)).result.map fun found => ((), skipBlanks found.2) := by
  unfold word
  cases letters w.toList (skipBlanks text) with
  | mk result left => cases result <;> rfl

/-- The scan of a word depends on the text after blanks only. -/
theorem word_result_eq_some_iff {w : String} {u : Unit} {text rest : List Char} :
    (word w text).result = some (u, rest) ↔
      ∃ tail, skipBlanks text = w.toList ++ tail ∧ rest = skipBlanks tail := by
  rw [word_result, Option.map_eq_some_iff]
  constructor
  · intro h
    obtain ⟨⟨u', tail⟩, hletters, heq⟩ := h
    obtain ⟨-, rfl⟩ := Prod.mk.inj heq
    exact ⟨tail, letters_result_eq_some_iff.1 hletters, rfl⟩
  · intro h
    obtain ⟨tail, htail, rfl⟩ := h
    exact ⟨((), tail), letters_result_eq_some_iff.2 htail, rfl⟩

/-- No word is taken that starts with another character than the next one. -/
theorem word_result_of_follows {w : String} {c : Char} {letters : List Char}
    (hw : w.toList = c :: letters) {next text : List Char} (h : Follows next text)
    (hc : c ∉ next) : (word w text).result = none := by
  cases hresult : (word w text).result with
  | none => rfl
  | some found =>
    obtain ⟨tail, hskip, -⟩ := word_result_eq_some_iff.1 hresult
    rw [hw] at hskip
    exact absurd (h c _ hskip) hc

/-! ### Repetition -/

/-- A scanner that takes at least one character whenever it succeeds. -/
def Consumes {α : Type} (scanner : Scanner α) : Prop :=
  ∀ text a rest, (scanner text).result = some (a, rest) → rest.length < text.length

/-- Any bound that is not less than the length of the text gives the same result. -/
theorem manyUpTo_result_eq {α : Type} {scanner : Scanner α} (hscanner : Consumes scanner)
    {n m : Nat} {text : List Char} (hn : text.length ≤ n) (hm : text.length ≤ m) :
    (manyUpTo scanner n text).result = (manyUpTo scanner m text).result := by
  have hnil : ∀ k, (manyUpTo scanner k []).result = some ([], []) := by
    intro k
    cases k with
    | zero => rfl
    | succ k =>
      rw [many_succ_result]
      cases hresult : (scanner []).result with
      | none => rfl
      | some found => exact absurd (hscanner [] found.1 found.2 hresult) (by simp)
  induction n generalizing m text with
  | zero =>
    obtain rfl := List.length_eq_zero_iff.1 (Nat.le_zero.1 hn)
    rw [hnil, hnil]
  | succ n ih =>
    cases m with
    | zero =>
      obtain rfl := List.length_eq_zero_iff.1 (Nat.le_zero.1 hm)
      rw [hnil, hnil]
    | succ m =>
      rw [many_succ_result, many_succ_result]
      cases hresult : (scanner text).result with
      | none => rfl
      | some found =>
        have hless := hscanner text found.1 found.2 hresult
        rw [Option.bind_some, Option.bind_some,
          ih (by omega : found.2.length ≤ n) (by omega : found.2.length ≤ m)]

/-- A repetition ends where its scanner fails. -/
theorem many_result_of_none {α : Type} {scanner : Scanner α} {text : List Char}
    (h : (scanner text).result = none) : (many scanner text).result = some ([], text) := by
  unfold many
  cases text.length with
  | zero => rfl
  | succ n => rw [many_succ_result, h, Option.bind_none, Option.none_or]

/-- A repetition goes on when its scanner succeeds. -/
theorem many_result_of_some {α : Type} {scanner : Scanner α} (hscanner : Consumes scanner)
    {text middle rest : List Char} {a : α} {as : List α}
    (h : (scanner text).result = some (a, middle))
    (hmore : (many scanner middle).result = some (as, rest)) :
    (many scanner text).result = some (a :: as, rest) := by
  have hless := hscanner text a middle h
  obtain ⟨n, hn⟩ : ∃ n, text.length = n + 1 := ⟨text.length - 1, by omega⟩
  have hrounds : (manyUpTo scanner n middle).result = some (as, rest) :=
    (manyUpTo_result_eq hscanner (by omega) (Nat.le_refl _)).trans hmore
  rw [many, hn, many_succ_result, h, Option.bind_some, hrounds]
  rfl

/-! ### Nothing but what a grammar describes -/

/-- The scanner takes nothing but texts that the relation knows, with their values. -/
def OnlyTakes {α : Type} (scanner : Scanner α) (R : List Char → α → Prop) : Prop :=
  ∀ text a rest, (scanner text).result = some (a, rest) →
    ∃ front, R front a ∧ text = front ++ rest

namespace OnlyTakes

variable {α β : Type} {R S : List Char → α → Prop} {scanner other : Scanner α}

/-- A wider grammar describes what is taken, too. -/
theorem mono (h : OnlyTakes scanner R) (hsub : ∀ text a, R text a → S text a) :
    OnlyTakes scanner S := by
  intro text a rest hresult
  obtain ⟨front, hfront, htext⟩ := h text a rest hresult
  exact ⟨front, hsub _ _ hfront, htext⟩

/-- One text after another one. -/
theorem bind {next : α → Scanner β} {T : α → List Char → β → Prop} (h : OnlyTakes scanner R)
    (hnext : ∀ a, OnlyTakes (next a) (T a)) :
    OnlyTakes (scanner >>= next)
      (fun text b => ∃ a front back, R front a ∧ T a back b ∧ text = front ++ back) := by
  intro text b rest hresult
  obtain ⟨a, middle, hscanner, hsecond⟩ := bind_result_eq_some_iff.1 hresult
  obtain ⟨front, hfront, rfl⟩ := h text a middle hscanner
  obtain ⟨back, hback, rfl⟩ := hnext a middle b rest hsecond
  exact ⟨front ++ back, ⟨a, front, back, hfront, hback, rfl⟩, (List.append_assoc ..).symm⟩

/-- A value and no text. -/
theorem pure (a : α) : OnlyTakes (Scanner.pure a) (fun text b => text = [] ∧ b = a) := by
  intro text b rest hresult
  obtain ⟨rfl, rfl⟩ := Prod.mk.inj (Option.some.inj hresult)
  exact ⟨[], ⟨rfl, rfl⟩, rfl⟩

theorem map {f : α → β} (h : OnlyTakes scanner R) :
    OnlyTakes (f <$> scanner) (fun text b => ∃ a, R text a ∧ f a = b) := by
  intro text b rest hresult
  obtain ⟨a, hscanner, hb⟩ := map_result_eq_some_iff.1 hresult
  obtain ⟨front, hfront, htext⟩ := h text a rest hscanner
  exact ⟨front, ⟨a, hfront, hb⟩, htext⟩

/-- Either alternative takes only what the grammar describes. -/
theorem orElse (h : OnlyTakes scanner R) (hother : OnlyTakes other R) :
    OnlyTakes (Scanner.orElse scanner other) R := by
  intro text a rest hresult
  rw [orElse_result, Option.or_eq_some_iff] at hresult
  rcases hresult with hresult | ⟨-, hresult⟩
  · exact h text a rest hresult
  · exact hother text a rest hresult

theorem optional (h : OnlyTakes scanner R) :
    OnlyTakes (Scanner.optional scanner)
      (fun text a? => a?.elim (text = []) fun a => R text a) := by
  apply orElse
  · exact (h.bind fun a => OnlyTakes.pure (some a)).mono fun text a? hjoined => by
      obtain ⟨a, front, back, hfront, ⟨rfl, rfl⟩, rfl⟩ := hjoined
      simpa using hfront
  · exact (OnlyTakes.pure none).mono fun text a? hempty => by
      obtain ⟨rfl, rfl⟩ := hempty
      rfl

/-- Each round of a repetition takes one item. -/
theorem manyUpTo (h : OnlyTakes scanner R) (bound : Nat) :
    OnlyTakes (Scanner.manyUpTo scanner bound) (Repeated R) := by
  induction bound with
  | zero =>
    exact (OnlyTakes.pure []).mono fun text as hempty => by
      obtain ⟨rfl, rfl⟩ := hempty
      exact .nil
  | succ bound ih =>
    intro text as rest hresult
    rw [many_succ_result, Option.or_eq_some_iff] at hresult
    rcases hresult with hresult | ⟨-, hresult⟩
    · obtain ⟨⟨a, middle⟩, hscanner, hmore⟩ := Option.bind_eq_some_iff.1 hresult
      obtain ⟨⟨as', rest'⟩, hmany, heq⟩ := Option.map_eq_some_iff.1 hmore
      obtain ⟨rfl, rfl⟩ := Prod.mk.inj heq
      obtain ⟨front, hfront, rfl⟩ := h text a middle hscanner
      obtain ⟨back, hback, rfl⟩ := ih middle as' rest' hmany
      exact ⟨front ++ back, .cons hfront hback, (List.append_assoc ..).symm⟩
    · obtain ⟨rfl, rfl⟩ := Prod.mk.inj (Option.some.inj hresult)
      exact ⟨[], .nil, rfl⟩

theorem many (h : OnlyTakes scanner R) : OnlyTakes (Scanner.many scanner) (Repeated R) :=
  fun text => h.manyUpTo text.length text

/-- After the first item each round takes a separator and an item. -/
theorem separatedBy {separator : Scanner Unit} {T : List Char → Prop} (h : OnlyTakes scanner R)
    (hseparator : OnlyTakes separator fun text _ => T text) :
    OnlyTakes (Scanner.separatedBy scanner separator) (Separated T R) := by
  have hmore := (hseparator.bind fun _ => h).many
  refine (h.bind fun a => hmore.bind fun as => OnlyTakes.pure (a :: as)).mono ?_
  intro text as h
  obtain ⟨a, front, back, hfront, ⟨more, items, empty, hitems, ⟨rfl, rfl⟩, rfl⟩, rfl⟩ := h
  rw [List.append_nil]
  exact separated_of_repeated hfront hitems

theorem symbol (c : Char) : OnlyTakes (Scanner.symbol c) (fun text _ => Padded [c] text) := by
  intro text u rest hresult
  obtain ⟨tail, hskip, rfl⟩ := symbol_result_eq_some_iff.1 hresult
  obtain ⟨before, hbefore, htext⟩ := exists_blanks text
  obtain ⟨after, hafter, htail⟩ := exists_blanks tail
  refine ⟨before ++ [c] ++ after, ⟨before, after, hbefore, hafter, rfl⟩, ?_⟩
  rw [htext, hskip, List.append_assoc, List.append_assoc, ← htail]
  rfl

theorem word (w : String) : OnlyTakes (Scanner.word w) (fun text _ => Padded w.toList text) := by
  intro text u rest hresult
  obtain ⟨tail, hskip, rfl⟩ := word_result_eq_some_iff.1 hresult
  obtain ⟨before, hbefore, htext⟩ := exists_blanks text
  obtain ⟨after, hafter, htail⟩ := exists_blanks tail
  refine ⟨before ++ w.toList ++ after, ⟨before, after, hbefore, hafter, rfl⟩, ?_⟩
  rw [htext, hskip, List.append_assoc, List.append_assoc, ← htail]

/-- A scanner of texts that are not empty takes something whenever it succeeds. -/
theorem consumes (h : OnlyTakes scanner R) (hne : ∀ text a, R text a → text ≠ []) :
    Consumes scanner := by
  intro text a rest hresult
  obtain ⟨front, hfront, rfl⟩ := h text a rest hresult
  have hpos := List.length_pos_iff.2 (hne _ _ hfront)
  rw [List.length_append]
  omega

end OnlyTakes

/-! ### All that a grammar describes -/

/-- The scanner reads the value off the front of the text and comes to the rest, where blanks at
the start of the rest do not count. -/
def Yields {α : Type} (scanner : Scanner α) (text : List Char) (a : α) (rest : List Char) : Prop :=
  ∃ rest', (scanner text).result = some (a, rest') ∧ skipBlanks rest' = skipBlanks rest

variable {α β : Type}

/-- A scanner is followed by another one that does not mind blanks at the start. -/
theorem Yields.bind {scanner : Scanner α} {next : α → Scanner β} {text middle rest : List Char}
    {a : α} {b : β} (h : Yields scanner text a middle)
    (hnext : ∀ middle', skipBlanks middle' = skipBlanks middle → Yields (next a) middle' b rest) :
    Yields (scanner >>= next) text b rest := by
  obtain ⟨middle', hscanner, hmiddle⟩ := h
  obtain ⟨rest', hresult, hrest⟩ := hnext middle' hmiddle
  exact ⟨rest', bind_result_eq_some_iff.2 ⟨a, middle', hscanner, hresult⟩, hrest⟩

/-- A scanner is followed by another one that starts exactly where the first one stops. -/
theorem yields_bind {scanner : Scanner α} {next : α → Scanner β} {text middle rest : List Char}
    {a : α} {b : β} (h : (scanner text).result = some (a, middle))
    (hnext : Yields (next a) middle b rest) : Yields (scanner >>= next) text b rest := by
  obtain ⟨rest', hresult, hrest⟩ := hnext
  exact ⟨rest', bind_result_eq_some_iff.2 ⟨a, middle, h, hresult⟩, hrest⟩

/-- A value that is read off nothing, up to blanks. -/
theorem yields_pure (a : α) {text rest : List Char} (h : skipBlanks text = skipBlanks rest) :
    Yields (Scanner.pure a) text a rest :=
  ⟨text, rfl, h⟩

theorem Yields.map {f : α → β} {scanner : Scanner α} {text rest : List Char} {a : α}
    (h : Yields scanner text a rest) : Yields (f <$> scanner) text (f a) rest := by
  obtain ⟨rest', hresult, hrest⟩ := h
  exact ⟨rest', map_result_eq_some_iff.2 ⟨a, hresult, rfl⟩, hrest⟩

/-- The first alternative is taken when it reads the value. -/
theorem Yields.orElse {first second : Scanner α} {text rest : List Char} {a : α}
    (h : Yields first text a rest) : Yields (Scanner.orElse first second) text a rest := by
  obtain ⟨rest', hresult, hrest⟩ := h
  exact ⟨rest', orElse_result_of_some hresult, hrest⟩

/-- The second alternative is taken when the first one fails. -/
theorem Yields.orElse_of_none {first second : Scanner α} {text rest : List Char} {a : α}
    (h : Yields second text a rest) (hfirst : (first text).result = none) :
    Yields (Scanner.orElse first second) text a rest := by
  obtain ⟨rest', hresult, hrest⟩ := h
  exact ⟨rest', (orElse_result_of_none hfirst).trans hresult, hrest⟩

/-- A repetition takes all items of a list, if an item is taken whenever another one or the end
of the list comes next, and nothing is taken at the end. -/
theorem yields_many {scanner : Scanner α} {item : List Char → α → Prop} (start : List Char)
    {next : List Char} (hscanner : Consumes scanner)
    (hstart : ∀ {front a}, item front a → ∀ rest, Follows start (front ++ rest))
    (hitem : ∀ {front a rest}, item front a → Follows (start ++ next) rest →
      ∀ text, skipBlanks text = skipBlanks (front ++ rest) → Yields scanner text a rest)
    (hend : ∀ text, Follows next text → (scanner text).result = none)
    {items : List Char} {as : List α} (h : Repeated item items as) {rest : List Char}
    (hrest : Follows next rest) (text : List Char)
    (htext : skipBlanks text = skipBlanks (items ++ rest)) :
    Yields (many scanner) text as rest := by
  induction h generalizing text with
  | nil =>
    exact ⟨text, many_result_of_none (hend text (follows_of_skipBlanks_eq hrest htext)), htext⟩
  | @cons front back a as hfront hback ih =>
    have hfollows : Follows (start ++ next) (back ++ rest) := by
      cases hback with
      | nil => exact hrest.mono fun c hc => List.mem_append_right _ hc
      | cons hfirst _ =>
        rw [List.append_assoc]
        exact (hstart hfirst _).mono fun c hc => List.mem_append_left _ hc
    rw [List.append_assoc] at htext
    obtain ⟨middle, hresult, hmiddle⟩ := hitem hfront hfollows text htext
    obtain ⟨rest', hmore, hrest'⟩ := ih middle hmiddle
    exact ⟨rest', many_result_of_some hscanner hresult hmore, hrest'⟩

/-- A separated list is taken, if an item is taken whenever a separator or the end of the list
comes next. -/
theorem yields_separatedBy {scanner : Scanner α} {item : List Char → α → Prop} {c : Char}
    (next : List Char) (hc : isBlank c = false) (hnext : c ∉ next) (hscanner : Consumes scanner)
    (hitem : ∀ {front a rest}, item front a → Follows (c :: next) rest →
      Yields scanner (skipBlanks (front ++ rest)) a rest)
    {items : List Char} {as : List α} (h : Separated (Padded [c]) item items as)
    {rest : List Char} (hrest : Follows next rest) :
    Yields (separatedBy scanner (symbol c)) (skipBlanks (items ++ rest)) as rest := by
  induction h with
  | one h =>
    have hrest' : Follows (c :: next) rest := hrest.mono fun d hd => List.mem_cons_of_mem _ hd
    refine (hitem h hrest').bind fun middle hmiddle => ?_
    have hstop : (symbol c middle).result = none :=
      symbol_result_of_follows (follows_of_skipBlanks_eq hrest hmiddle) hnext
    exact yields_bind (many_result_of_none (bind_result_of_none hstop _)) (yields_pure _ hmiddle)
  | @more front middle back a as hfront hmiddle hback ih =>
    have hfollows : Follows (c :: next) (middle ++ (back ++ rest)) :=
      follows_padded hmiddle hc List.mem_cons_self _
    rw [List.append_assoc, List.append_assoc]
    refine (hitem hfront hfollows).bind fun here hhere => ?_
    -- The list after the separator is one item more for the repetition after the first item.
    obtain ⟨rest', hlist, hrest'⟩ := ih
    obtain ⟨b, there, hb, hlist⟩ := bind_result_eq_some_iff.1 hlist
    obtain ⟨bs, last, hbs, hpure⟩ := bind_result_eq_some_iff.1 hlist
    obtain ⟨rfl, rfl⟩ := Prod.mk.inj (Option.some.inj hpure)
    have hround : ((symbol c >>= fun _ => scanner : Scanner α) here).result = some (b, there) :=
      bind_result_eq_some_iff.2 ⟨(), _, symbol_result_of_padded hc hmiddle hhere, hb⟩
    have hrounds : Consumes (symbol c >>= fun _ => scanner : Scanner α) := by
      intro text d tail hresult
      obtain ⟨u, mid, hsymbol, hd⟩ := bind_result_eq_some_iff.1 hresult
      obtain ⟨tail', hskip, rfl⟩ := symbol_result_eq_some_iff.1 hsymbol
      have hless := hscanner _ _ _ hd
      have htail := skipBlanks_length_le tail'
      have htext := skipBlanks_length_le text
      rw [hskip, List.length_cons] at htext
      omega
    exact yields_bind (many_result_of_some hrounds hround hbs) (yields_pure _ hrest')

end Scanner

end AssistedWorkers.Text
