import AssistedWorkers.Hierarchy
import Mathlib.Logic.Relation

/-!
# Subtypes

A class is a subtype of another one when a chain of known supertypes leads to it.  The search for
such a chain goes on from no class twice, so it ends on every hierarchy, cyclic ones included,
and the number of steps that it is allowed always suffices.

A search proceeds in turns (`Turn`), and each turn uses up one of the classes still to be looked
at and of the pairs not followed yet.  What makes the search right is said of the classes still
to be looked at and those already visited (`Searching`): from a visited class a chain leads to the
goal only through a class still to be looked at.  Neither depends on the order in which pending
classes are taken.

* `Turn.remaining_eq`, `Turn.reaches_iff` — what a turn uses up, and what it keeps;
* `turns_from` — the same for any number of turns, so that there are not many;
* `search_eq_true_iff` — what a search finds from any such state, given enough steps;
* `isSubtype_iff`, `turns_decide` — subtypes are the classes that a chain leads from, and turns in
  any order come to that result;
* `isSubtype_of_subset`, `isSubtype_congr` — more pairs keep subtypes, and the order of the pairs
  does not matter.
-/

namespace AssistedWorkers

open Java

namespace Hierarchy

variable {h : Hierarchy}

/-- A chain of known supertypes, of any length, leads from a class to another one. -/
def Reaches (h : Hierarchy) : ClassName → ClassName → Prop :=
  Relation.ReflTransGen fun c d => (c, d) ∈ h.edges

theorem mem_supertypesOf {c d : ClassName} : d ∈ h.supertypesOf c ↔ (c, d) ∈ h.edges := by
  simp only [supertypesOf, List.mem_map, List.mem_filter, beq_iff_eq]
  constructor
  · rintro ⟨⟨c', d'⟩, ⟨hmem, rfl⟩, rfl⟩
    exact hmem
  · intro hmem
    exact ⟨(c, d), ⟨hmem, rfl⟩, rfl⟩

/-- The state of a search: it has not come past its goal, and the supertypes of what it visited
are visited or still to be looked at. -/
structure Searching (h : Hierarchy) (goal : ClassName) (pending visited : List ClassName) :
    Prop where
  goal_not_mem : goal ∉ visited
  closed : ∀ c ∈ visited, ∀ d, (c, d) ∈ h.edges → d ∈ visited ∨ d ∈ pending

namespace Searching

variable {goal c : ClassName} {pending visited : List ClassName}

/-- A chain from a visited class to the goal comes through a class still to be looked at. -/
theorem exists_pending (hs : Searching h goal pending visited) (hc : c ∈ visited)
    (hreaches : h.Reaches c goal) : ∃ d ∈ pending, h.Reaches d goal := by
  induction hreaches using Relation.ReflTransGen.head_induction_on with
  | refl => exact absurd hc hs.goal_not_mem
  | @head c d hedge hrest ih =>
    rcases hs.closed c hc d hedge with hd | hd
    · exact ih hd
    · exact ⟨d, hd, hrest⟩

/-- The order of the classes still to be looked at does not matter. -/
theorem of_perm {pending' : List ClassName} (hs : Searching h goal pending visited)
    (hperm : pending.Perm pending') : Searching h goal pending' visited where
  goal_not_mem := hs.goal_not_mem
  closed := fun d hd e hedge => (hs.closed d hd e hedge).imp_right hperm.mem_iff.1

/-- A class that was visited before is passed over. -/
theorem pass (hs : Searching h goal (c :: pending) visited) (hc : c ∈ visited) :
    Searching h goal pending visited where
  goal_not_mem := hs.goal_not_mem
  closed := by
    intro d hd e hedge
    rcases hs.closed d hd e hedge with he | he
    · exact Or.inl he
    · rcases List.mem_cons.1 he with rfl | he
      · exact Or.inl hc
      · exact Or.inr he

/-- A class that is visited has its supertypes looked at next. -/
theorem visit (hs : Searching h goal (c :: pending) visited) (hc : c ≠ goal) :
    Searching h goal (h.supertypesOf c ++ pending) (c :: visited) where
  goal_not_mem := by simp [hs.goal_not_mem, Ne.symm hc]
  closed := by
    intro d hd e hedge
    rcases List.mem_cons.1 hd with rfl | hd
    · exact Or.inr (List.mem_append_left _ (mem_supertypesOf.2 hedge))
    · rcases hs.closed d hd e hedge with he | he
      · exact Or.inl (List.mem_cons_of_mem _ he)
      · rcases List.mem_cons.1 he with rfl | he
        · exact Or.inl List.mem_cons_self
        · exact Or.inr (List.mem_append_right _ he)

end Searching

/-- The pairs that a search has not followed yet. -/
def unfollowed (h : Hierarchy) (visited : List ClassName) : List (ClassName × ClassName) :=
  h.edges.filter (·.1 ∉ visited)

@[simp] theorem unfollowed_nil : h.unfollowed [] = h.edges := by
  simp [unfollowed]

/-- Visiting a class follows its pairs. -/
theorem length_unfollowed_cons {c : ClassName} {visited : List ClassName} (hc : c ∉ visited) :
    (h.unfollowed visited).length =
      (h.supertypesOf c).length + (h.unfollowed (c :: visited)).length := by
  rw [unfollowed, unfollowed, supertypesOf, List.length_map]
  induction h.edges with
  | nil => rfl
  | cons edge edges ih =>
    by_cases hedge : edge.1 = c
    · subst hedge
      simp only [List.filter_cons, hc, List.mem_cons_self, not_false_eq_true, not_true_eq_false,
        decide_true, decide_false, beq_self_eq_true, if_true, if_false, Bool.false_eq_true,
        List.length_cons, ih]
      omega
    · have hskip : (edge.1 == c) = false := beq_false_of_ne hedge
      by_cases hvisited : edge.1 ∈ visited
      · simpa [List.filter_cons, hskip, hvisited] using ih
      · simp only [List.filter_cons, hskip, hvisited, hedge, List.mem_cons, or_self,
          not_false_eq_true, decide_true, if_true, if_false, Bool.false_eq_true,
          List.length_cons, ih]
        omega

/-- A class other than the goal reaches the goal through one of its supertypes. -/
theorem reaches_iff_of_ne {goal c : ClassName} (hc : c ≠ goal) :
    h.Reaches c goal ↔ ∃ d ∈ h.supertypesOf c, h.Reaches d goal := by
  constructor
  · intro hreaches
    obtain heq | ⟨d, hedge, hrest⟩ := hreaches.cases_head
    · exact absurd heq hc
    · exact ⟨d, mem_supertypesOf.2 hedge, hrest⟩
  · rintro ⟨d, hd, hrest⟩
    exact .head (mem_supertypesOf.1 hd) hrest

/-! ### Turns of a search -/

/-- One turn of a search that goes on, from pending and visited classes to the next ones.  Some
pending class is taken that is not the goal.  One that was visited before is passed over, and one
that was not has its supertypes put in its place. -/
inductive Turn (h : Hierarchy) (goal : ClassName) :
    List ClassName × List ClassName → List ClassName × List ClassName → Prop
  | pass {c : ClassName} {pending rest visited : List ClassName} (htaken : pending.Perm (c :: rest))
      (hgoal : c ≠ goal) (hvisited : c ∈ visited) : Turn h goal (pending, visited) (rest, visited)
  | visit {c : ClassName} {pending rest next visited : List ClassName}
      (htaken : pending.Perm (c :: rest)) (hgoal : c ≠ goal) (hnew : c ∉ visited)
      (hput : next.Perm (h.supertypesOf c ++ rest)) :
      Turn h goal (pending, visited) (next, c :: visited)

/-- How much a search has before it: the pending classes, and the pairs that it has not followed. -/
def remaining (h : Hierarchy) (state : List ClassName × List ClassName) : Nat :=
  state.1.length + (h.unfollowed state.2).length

namespace Turn

variable {goal : ClassName} {state next : List ClassName × List ClassName}

/-- **Every turn uses up one** of what a search has before it. -/
theorem remaining_eq (turn : h.Turn goal state next) :
    h.remaining state = h.remaining next + 1 := by
  cases turn with
  | pass htaken _ _ =>
    simp only [remaining, htaken.length_eq, List.length_cons]
    omega
  | visit htaken _ hnew hput =>
    simp only [remaining, htaken.length_eq, hput.length_eq, List.length_cons, List.length_append,
      length_unfollowed_cons hnew]
    omega

/-- A turn leads from one state of a search to another one. -/
theorem searching (turn : h.Turn goal state next) (hs : Searching h goal state.1 state.2) :
    Searching h goal next.1 next.2 := by
  cases turn with
  | pass htaken _ hvisited => exact (hs.of_perm htaken).pass hvisited
  | visit htaken hgoal _ hput => exact ((hs.of_perm htaken).visit hgoal).of_perm hput.symm

/-- A turn does not change whether a chain leads from a pending class to the goal. -/
theorem reaches_iff (turn : h.Turn goal state next) (hs : Searching h goal state.1 state.2) :
    (∃ c ∈ state.1, h.Reaches c goal) ↔ ∃ c ∈ next.1, h.Reaches c goal := by
  cases turn with
  | pass htaken _ hvisited =>
    have hpass := (hs.of_perm htaken).pass hvisited
    simp only [htaken.mem_iff, List.mem_cons, exists_eq_or_imp]
    exact ⟨fun hreaches => hreaches.elim (hpass.exists_pending hvisited) id, Or.inr⟩
  | visit htaken hgoal _ hput =>
    simp only [htaken.mem_iff, hput.mem_iff, List.mem_cons, exists_eq_or_imp,
      reaches_iff_of_ne hgoal]
    simp only [List.mem_append, or_and_right, exists_or]

end Turn

/-- After any number of turns of a search from one class there is as much less before it, and the
class reaches the goal exactly if a pending class does. -/
theorem turns_from {goal c : ClassName} {run : Nat → List ClassName × List ClassName} {n : Nat}
    (hstart : run 0 = ([c], [])) (hturns : ∀ i < n, h.Turn goal (run i) (run (i + 1))) :
    h.remaining (run n) + n = h.edges.length + 1 ∧
      Searching h goal (run n).1 (run n).2 ∧
      (h.Reaches c goal ↔ ∃ d ∈ (run n).1, h.Reaches d goal) := by
  induction n with
  | zero =>
    rw [hstart]
    refine ⟨?_, ⟨by simp, by simp⟩, by simp⟩
    simp only [remaining, unfollowed_nil, List.length_singleton]
    omega
  | succ n ih =>
    obtain ⟨hremaining, hs, hreaches⟩ := ih fun i hi => hturns i (by omega)
    have turn := hturns n (by omega)
    have hless := turn.remaining_eq
    exact ⟨by omega, turn.searching hs, hreaches.trans (turn.reaches_iff hs)⟩

/-- A search that takes a class other than the goal goes on after a turn. -/
theorem exists_turn_search {goal c : ClassName} (hc : c ≠ goal) (pending visited : List ClassName) :
    ∃ next, h.Turn goal (c :: pending, visited) next ∧
      ∀ bound, h.search goal (bound + 1) (c :: pending) visited =
        h.search goal bound next.1 next.2 := by
  by_cases hvisited : c ∈ visited
  · refine ⟨(pending, visited), .pass (.refl _) hc hvisited, fun bound => ?_⟩
    rw [search, if_neg hc, if_pos hvisited]
  · refine ⟨(h.supertypesOf c ++ pending, c :: visited), .visit (.refl _) hc hvisited (.refl _),
      fun bound => ?_⟩
    rw [search, if_neg hc, if_neg hvisited]

/-- **A search finds what a chain leads to** from a class still to be looked at, if it may take
more steps than there are such classes and pairs left to follow. -/
theorem search_eq_true_iff {goal : ClassName} {bound : Nat} {pending visited : List ClassName}
    (hs : Searching h goal pending visited)
    (hbound : pending.length + (h.unfollowed visited).length < bound) :
    h.search goal bound pending visited = true ↔ ∃ c ∈ pending, h.Reaches c goal := by
  induction bound generalizing pending visited with
  | zero => omega
  | succ bound ih =>
    cases pending with
    | nil => simp [search]
    | cons c pending =>
      by_cases hgoal : c = goal
      · subst hgoal
        rw [search, if_pos rfl]
        exact ⟨fun _ => ⟨c, List.mem_cons_self, .refl⟩, fun _ => rfl⟩
      · obtain ⟨next, turn, hsearch⟩ := exists_turn_search (h := h) hgoal pending visited
        have hless := turn.remaining_eq
        simp only [remaining] at hless
        rw [hsearch, ih (turn.searching hs) (by omega)]
        exact (turn.reaches_iff hs).symm

/-- Any bound from the one that is used on gives the same answer. -/
theorem search_from_eq_true_iff {c base : ClassName} {bound : Nat}
    (hbound : h.edges.length + 2 ≤ bound) :
    h.search base bound [c] [] = true ↔ h.Reaches c base := by
  have hs : Searching h base [c] [] := ⟨by simp, by simp⟩
  rw [search_eq_true_iff hs (by simp only [unfollowed_nil, List.length_singleton]; omega)]
  simp

/-- **Subtypes are the classes that a chain leads from**, of any length, none included. -/
theorem isSubtype_iff {c base : ClassName} : h.isSubtype c base = true ↔ h.Reaches c base :=
  search_from_eq_true_iff (Nat.le_refl _)

/-- **Turns cannot go wrong.**  There are at most as many as there are pairs, and one more.  When
they have come to the goal there is a chain, when nothing is pending there is none, and otherwise
another turn can be taken. -/
theorem turns_decide {c base : ClassName} {run : Nat → List ClassName × List ClassName} {n : Nat}
    (hstart : run 0 = ([c], [])) (hturns : ∀ i < n, h.Turn base (run i) (run (i + 1))) :
    n ≤ h.edges.length + 1 ∧
      (base ∈ (run n).1 → h.isSubtype c base = true) ∧
      ((run n).1 = [] → h.isSubtype c base = false) ∧
      ((run n).1 ≠ [] → base ∉ (run n).1 → ∃ next, h.Turn base (run n) next) := by
  obtain ⟨hremaining, -, hreaches⟩ := turns_from hstart hturns
  refine ⟨by omega, fun hbase => ?_, fun hnil => ?_, fun hne hbase => ?_⟩
  · exact isSubtype_iff.2 (hreaches.2 ⟨base, hbase, .refl⟩)
  · rw [← Bool.not_eq_true, isSubtype_iff, hreaches, hnil]
    simp
  · obtain ⟨d, rest, hpending⟩ := List.exists_cons_of_ne_nil hne
    have hd : d ≠ base := by
      rintro rfl
      exact hbase (hpending ▸ List.mem_cons_self)
    obtain ⟨next, turn, -⟩ := exists_turn_search (h := h) hd rest (run n).2
    rw [← hpending] at turn
    exact ⟨next, turn⟩

/-- Whether a chain leads from one class to another is found out by searching for it. -/
instance (c base : ClassName) : Decidable (h.Reaches c base) :=
  decidable_of_iff _ isSubtype_iff

/-- A subtype stays one when more pairs become known. -/
theorem isSubtype_of_subset {h' : Hierarchy} (hsub : ∀ edge ∈ h.edges, edge ∈ h'.edges)
    {c base : ClassName} (hc : h.isSubtype c base = true) : h'.isSubtype c base = true :=
  isSubtype_iff.2 (Relation.ReflTransGen.mono (fun c d => hsub (c, d)) _ _ (isSubtype_iff.1 hc))

/-- Which classes are subtypes depends on the known pairs only, not on their order. -/
theorem isSubtype_congr {h' : Hierarchy} (heq : ∀ edge, edge ∈ h.edges ↔ edge ∈ h'.edges)
    (c base : ClassName) : h.isSubtype c base = h'.isSubtype c base :=
  Bool.eq_iff_iff.2 ⟨isSubtype_of_subset fun edge => (heq edge).1,
    isSubtype_of_subset fun edge => (heq edge).2⟩

end Hierarchy

end AssistedWorkers
