import AssistedWorkers.BindingModule.Source
import Mathlib.Data.Finset.Card
import Mathlib.Data.Finset.Image
import Mathlib.Logic.Function.Iterate
import Mathlib.Order.Bounds.Basic
import Mathlib.Order.Interval.Finset.Nat
import Mathlib.Order.Lattice.Nat

/-!
# Fresh names

A name that is taken gets a number.  The numbers are tried in turn, beginning with two, and to try
a name is to enter it among the taken ones: an entry that succeeds ends the search.  No number is
the last one, so nothing in the search itself makes it end.  It ends because numbers are read back
from the names they give: the names that are tried differ from each other and from the name they
are made of, and only as many of them can be taken as there are taken names.

`NameSearch` is that search, one probe after the other, and `NameSearch.after` is where it stands
after any number of probes.  `freshName` stops of its own accord when it has tried one number more
than there are taken names.  That the two agree is what shows that it never tries too few.

* `le_card_of_numbered_mem` — numbers that give taken names are fewer than the taken names;
* `exists_isLeast_freeNumbers` — there is a least number that gives a free name;
* `freshName_of_isLeast`, `freshName_cases` — what a fresh name is, and that it is free;
* `NameSearch.after_of_isLeast` — where the search stands after any number of probes;
* `NameSearch.ends_with_least_free_name` — the search ends, and ends with what `takeName` gives.
-/

namespace AssistedWorkers

variable {taken : List String} {name : String}

/-! ### Numbered names -/

/-- Different numbers give different names. -/
theorem numbered_inj {m n : Nat} : numbered name m = numbered name n ↔ m = n := by
  rw [numbered, numbered, String.append_right_inj, ← String.toList_inj]
  simp only [Nat.toString_eq_repr, Nat.toList_repr]
  constructor
  · intro h
    rw [← Nat.ofDigitChars_ten_toDigits (n := m), h, Nat.ofDigitChars_ten_toDigits]
  · intro h
    rw [h]

/-- A name with a number behind it is longer than the name. -/
theorem numbered_ne (name : String) (n : Nat) : numbered name n ≠ name := by
  intro h
  have hlength := congrArg String.length h
  rw [numbered, String.length_append, String.length_append] at hlength
  have hseparator : "_".length = 1 := rfl
  omega

/-- The numbers that give free names.  One is not among them: the name without a number is the
first of its kind. -/
def freeNumbers (taken : List String) (name : String) : Set Nat :=
  {k | 2 ≤ k ∧ numbered name k ∉ taken}

/-- If the name is taken and so are all names with numbers below `k`, then they are different
taken names. -/
theorem le_card_of_numbered_mem {k : Nat} (hname : name ∈ taken)
    (hbelow : ∀ j, 2 ≤ j → j < k → numbered name j ∈ taken) :
    k ≤ taken.toFinset.card + 1 := by
  have hsub : insert name ((Finset.Ico 2 k).image (numbered name)) ⊆ taken.toFinset := by
    intro other hother
    rw [List.mem_toFinset]
    rcases Finset.mem_insert.1 hother with rfl | hother
    · exact hname
    · obtain ⟨j, hj, rfl⟩ := Finset.mem_image.1 hother
      obtain ⟨hfirst, hlast⟩ := Finset.mem_Ico.1 hj
      exact hbelow j hfirst hlast
  have hapart : name ∉ (Finset.Ico 2 k).image (numbered name) := by
    intro hmem
    obtain ⟨j, -, hj⟩ := Finset.mem_image.1 hmem
    exact numbered_ne name j hj
  have hcard := Finset.card_le_card hsub
  rw [Finset.card_insert_of_notMem hapart,
    Finset.card_image_of_injective _ fun _ _ => numbered_inj.1, Nat.card_Ico] at hcard
  omega

/-- Numbers below the least free one give taken names. -/
theorem numbered_mem_of_lt {j k : Nat} (hleast : IsLeast (freeNumbers taken name) k)
    (hfirst : 2 ≤ j) (hlt : j < k) : numbered name j ∈ taken := by
  by_contra hfree
  exact absurd (hleast.2 ⟨hfirst, hfree⟩) (by omega)

/-- The least number that gives a free name is not far: there is a taken name for each number
below it, and the name itself. -/
theorem le_card_of_isLeast {k : Nat} (hname : name ∈ taken)
    (hleast : IsLeast (freeNumbers taken name) k) : k ≤ taken.toFinset.card + 1 :=
  le_card_of_numbered_mem hname fun _ => numbered_mem_of_lt hleast

/-- Not all numbers give taken names, so there is a least one that does not. -/
theorem exists_isLeast_freeNumbers (hname : name ∈ taken) :
    ∃ k, IsLeast (freeNumbers taken name) k := by
  have hnonempty : (freeNumbers taken name).Nonempty := by
    by_contra hempty
    have hbelow : ∀ j, 2 ≤ j → j < taken.toFinset.card + 2 → numbered name j ∈ taken := by
      intro j hfirst _
      by_contra hfree
      exact hempty ⟨j, hfirst, hfree⟩
    have := le_card_of_numbered_mem hname hbelow
    omega
  exact ⟨_, Nat.sInf_mem hnonempty, fun _ => Nat.sInf_le⟩

/-! ### The name that is taken -/

/-- A taken name gets the least number that gives a free name: it is among the numbers that are
tried. -/
theorem freshName_of_isLeast {k : Nat} (hname : name ∈ taken)
    (hleast : IsLeast (freeNumbers taken name) k) : freshName taken name = numbered name k := by
  have hcontains : taken.contains name = true := by simpa using hname
  have hcard := le_card_of_isLeast hname hleast
  have hlength := List.toFinset_card_le taken
  obtain ⟨n, rfl⟩ := Nat.exists_eq_add_of_le' hleast.1.1
  obtain ⟨others, hothers⟩ := Nat.exists_eq_add_of_le (show n + 1 ≤ taken.length + 1 by omega)
  have hfound : (List.range (taken.length + 1)).findSome? (fun n =>
      if taken.contains (numbered name (n + 2)) then none else some (numbered name (n + 2))) =
        some (numbered name (n + 2)) := by
    refine List.findSome?_eq_some_iff.2
      ⟨List.range n, n, (List.range others).map (n + 1 + ·), ?_, ?_, fun j hj => ?_⟩
    · rw [hothers, List.range_add, List.range_succ, List.append_assoc, List.singleton_append]
    · have hfree := hleast.1.2
      simp [hfree]
    · have hlt := List.mem_range.1 hj
      have hmem := numbered_mem_of_lt hleast (Nat.le_add_left 2 j) (by omega)
      simp [hmem]
  rw [freshName, if_pos hcontains, hfound, Option.getD_some]

/-- A fresh name is free.  It is the name itself, or the name with a number behind it. -/
theorem freshName_cases (taken : List String) (name : String) :
    freshName taken name ∉ taken ∧
      (freshName taken name = name ∨ ∃ n, freshName taken name = numbered name n) := by
  by_cases hname : name ∈ taken
  · obtain ⟨k, hleast⟩ := exists_isLeast_freeNumbers hname
    rw [freshName_of_isLeast hname hleast]
    exact ⟨hleast.1.2, Or.inr ⟨k, rfl⟩⟩
  · rw [freshName_of_not_mem hname]
    exact ⟨hname, Or.inl rfl⟩

/-! ### The search -/

/-- Enters a name among the taken ones: whether it was free, and what is taken afterwards.  A name
that is taken is not entered again. -/
def enterName (taken : List String) (name : String) : Bool × List String :=
  if taken.contains name then (false, taken) else (true, name :: taken)

theorem enterName_of_mem (h : name ∈ taken) : enterName taken name = (false, taken) := by
  simp [enterName, h]

theorem enterName_of_not_mem (h : name ∉ taken) :
    enterName taken name = (true, name :: taken) := by
  simp [enterName, h]

/-- A search for a free name: the names that are taken, how many numbers were tried, and the name
that was entered, if there is one.  Then the search is over. -/
structure NameSearch where
  taken : List String
  probes : Nat
  found : Option String
deriving DecidableEq, Repr

namespace NameSearch

/-- The search begins with the name itself, before any number is tried. -/
def start (taken : List String) (name : String) : NameSearch :=
  let (free, entered) := enterName taken name
  ⟨entered, 0, if free then some name else none⟩

/-- Tries to enter the name with the next number.  The first one is two, and there is always a
next one.  A search that is over stays as it is. -/
def probe (name : String) (search : NameSearch) : NameSearch :=
  match search.found with
  | some _ => search
  | none =>
    let candidate := numbered name (search.probes + 2)
    let (free, entered) := enterName search.taken candidate
    ⟨entered, search.probes + 1, if free then some candidate else none⟩

/-- Where the search stands after `n` probes, or after fewer if it was over before. -/
def after (taken : List String) (name : String) (n : Nat) : NameSearch :=
  (probe name)^[n] (start taken name)

theorem after_zero (taken : List String) (name : String) :
    after taken name 0 = start taken name :=
  rfl

/-- Each further probe looks at what the one before left. -/
theorem after_succ (taken : List String) (name : String) (n : Nat) :
    after taken name (n + 1) = probe name (after taken name n) :=
  Function.iterate_succ_apply' _ _ _

theorem start_of_mem (h : name ∈ taken) : start taken name = ⟨taken, 0, none⟩ := by
  simp [start, enterName_of_mem h]

theorem start_of_not_mem (h : name ∉ taken) :
    start taken name = ⟨name :: taken, 0, some name⟩ := by
  simp [start, enterName_of_not_mem h]

/-- A probe that meets a taken name enters nothing, and the search goes on. -/
theorem probe_of_mem {n : Nat} (h : numbered name (n + 2) ∈ taken) :
    probe name ⟨taken, n, none⟩ = ⟨taken, n + 1, none⟩ := by
  simp [probe, enterName_of_mem h]

/-- A probe that meets a free name enters it, and the search is over. -/
theorem probe_of_not_mem {n : Nat} (h : numbered name (n + 2) ∉ taken) :
    probe name ⟨taken, n, none⟩ =
      ⟨numbered name (n + 2) :: taken, n + 1, some (numbered name (n + 2))⟩ := by
  simp [probe, enterName_of_not_mem h]

/-- After a name is found the search changes nothing any more. -/
theorem probe_of_found {fresh : String} {search : NameSearch} (h : search.found = some fresh) :
    probe name search = search := by
  simp [probe, h]

/-- As long as the names that were tried are taken, the search has entered nothing. -/
theorem after_of_numbered_mem (hname : name ∈ taken) {n : Nat}
    (hbelow : ∀ j, 2 ≤ j → j < n + 2 → numbered name j ∈ taken) :
    after taken name n = ⟨taken, n, none⟩ := by
  induction n with
  | zero => rw [after_zero, start_of_mem hname]
  | succ n ih =>
    rw [after_succ, ih fun j hfirst hlt => hbelow j hfirst (by omega)]
    exact probe_of_mem (hbelow (n + 2) (by omega) (by omega))

/-- A search that is over stays where it was when it ended. -/
theorem after_of_le {fresh : String} {m n : Nat} (h : (after taken name m).found = some fresh)
    (hle : m ≤ n) : after taken name n = after taken name m := by
  induction n, hle using Nat.le_induction with
  | base => rfl
  | succ n _ ih => rw [after_succ, ih, probe_of_found h]

/-- A search for a free name is over at once. -/
theorem after_of_not_mem (hname : name ∉ taken) (n : Nat) :
    after taken name n = ⟨name :: taken, 0, some name⟩ := by
  have hstart : after taken name 0 = ⟨name :: taken, 0, some name⟩ := by
    rw [after_zero, start_of_not_mem hname]
  rw [after_of_le (congrArg found hstart) (Nat.zero_le n), hstart]

/-- A search for a taken name goes on up to the least number that gives a free name, and is over
with the probe of that number. -/
theorem after_of_isLeast {k : Nat} (hname : name ∈ taken)
    (hleast : IsLeast (freeNumbers taken name) (k + 2)) (n : Nat) :
    after taken name n =
      if n < k + 1 then ⟨taken, n, none⟩
      else ⟨numbered name (k + 2) :: taken, k + 1, some (numbered name (k + 2))⟩ := by
  have hbelow : ∀ m, m < k + 1 → after taken name m = ⟨taken, m, none⟩ := fun m hm =>
    after_of_numbered_mem hname fun j hfirst hlt => numbered_mem_of_lt hleast hfirst (by omega)
  have hend : after taken name (k + 1) =
      ⟨numbered name (k + 2) :: taken, k + 1, some (numbered name (k + 2))⟩ := by
    rw [after_succ, hbelow k (by omega), probe_of_not_mem hleast.1.2]
  split
  case isTrue hlt => exact hbelow n hlt
  case isFalse hge => rw [after_of_le (congrArg found hend) (by omega), hend]

/-- **The search ends with the least free name.**  Whatever names are taken, there is a number of
probes, at most one for each taken name, before which the search goes on with nothing entered and
with which it is over for good.  It then has the name that `takeName` gives and the taken names
that `takeName` leaves: that name was not taken, and it alone was added.  A free name is taken as
it is, without a probe.  A taken one is never given back: it gets the least number from two on
that gives a free name, which is the number of the last probe. -/
theorem ends_with_least_free_name (taken : List String) (name : String) :
    ∃ probes ≤ taken.toFinset.card,
      (∀ n, after taken name n =
        if n < probes then ⟨taken, n, none⟩
        else ⟨(takeName taken name).2, probes, some (takeName taken name).1⟩) ∧
      (takeName taken name).1 ∉ taken ∧
      (takeName taken name).2.toFinset = insert (takeName taken name).1 taken.toFinset ∧
      (name ∉ taken ∧ probes = 0 ∧ (takeName taken name).1 = name ∨
        name ∈ taken ∧ IsLeast (freeNumbers taken name) (probes + 1) ∧
          (takeName taken name).1 = numbered name (probes + 1)) := by
  have hfree := (freshName_cases taken name).1
  have hadded : (freshName taken name :: taken).toFinset =
      insert (freshName taken name) taken.toFinset := List.toFinset_cons
  by_cases hname : name ∈ taken
  · obtain ⟨k, hleast⟩ := exists_isLeast_freeNumbers hname
    obtain ⟨k, rfl⟩ := Nat.exists_eq_add_of_le' hleast.1.1
    have hcard := le_card_of_isLeast hname hleast
    have hfresh := freshName_of_isLeast hname hleast
    refine ⟨k + 1, by omega, fun n => ?_, hfree, hadded, Or.inr ⟨hname, hleast, hfresh⟩⟩
    rw [after_of_isLeast hname hleast, takeName, hfresh]
  · have hfresh := freshName_of_not_mem hname
    refine ⟨0, Nat.zero_le _, fun n => ?_, hfree, hadded, Or.inl ⟨hname, rfl, hfresh⟩⟩
    rw [after_of_not_mem hname, if_neg (Nat.not_lt_zero n), takeName, hfresh]

/-- Two names are taken, and both of them are met before the third one is entered. -/
example : after ["bind_A", "bind_A_2"] "bind_A" 5 =
    ⟨["bind_A_3", "bind_A", "bind_A_2"], 2, some "bind_A_3"⟩ := by
  decide +kernel

end NameSearch

end AssistedWorkers
