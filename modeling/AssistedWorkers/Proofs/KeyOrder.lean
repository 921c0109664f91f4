import AssistedWorkers.Proofs.Registry
import Mathlib.Data.List.Pairwise

/-!
# The order of keys

The methods of a binding module are sorted by the keys of the workers, and workers with equal keys
stay in the order in which they were accepted.  A sorted list is determined by what it holds of
each key, and sorting moves nothing within a key.  The order of acceptance therefore shows in a
binding module only between workers whose keys are equal.

* `eq_of_filter_key_eq` — sorted lists that agree in each key;
* `filter_key_mergeSort` — sorting is stable;
* `keyed_append_of_perm` — the order in which workers with different keys were accepted does not
  matter.
-/

namespace AssistedWorkers

open Java

section

variable {α : Type} {key : α → String}

/-- Of lists with different keys, one that is a permutation of the other has the same elements of
each key, in the same order: one or none. -/
theorem filter_key_eq_of_perm {us vs : List α} (h : us.Perm vs) (hkeys : (us.map key).Nodup)
    (k : String) : us.filter (fun a => key a = k) = vs.filter (fun a => key a = k) := by
  have hfilter := h.filter fun a => decide (key a = k)
  by_cases hk : ∃ a ∈ us, key a = k
  · obtain ⟨a, ha, rfl⟩ := hk
    rw [filter_eq_singleton_of_nodup hkeys ha] at hfilter ⊢
    exact List.singleton_perm.1 hfilter
  · have hnil : us.filter (fun a => key a = k) = [] :=
      List.filter_eq_nil_iff.2 fun a ha => by simpa using fun heq => hk ⟨a, ha, heq⟩
    rw [hnil] at hfilter ⊢
    exact (List.nil_perm.1 hfilter).symm

/-- Lists that are sorted by keys are equal if they have the same elements of each key, in the
same order. -/
theorem eq_of_filter_key_eq {l l' : List α} (hl : l.Pairwise fun a b => key a ≤ key b)
    (hl' : l'.Pairwise fun a b => key a ≤ key b)
    (h : ∀ k, l.filter (fun a => key a = k) = l'.filter (fun a => key a = k)) : l = l' := by
  have hmem : ∀ a, a ∈ l ↔ a ∈ l' := by
    intro a
    have ha := congrArg (a ∈ ·) (h (key a))
    simpa using ha
  induction l generalizing l' with
  | nil =>
    exact (List.eq_nil_iff_forall_not_mem.2 fun a ha => by simpa using (hmem a).2 ha).symm
  | cons a l ih =>
    cases l' with
    | nil => exact absurd ((hmem a).1 List.mem_cons_self) (by simp)
    | cons b l' =>
      -- Each of the first elements comes first in its own list, so they have the same key.
      have hkey : key a = key b := by
        have hle : ∀ {c d : α} {cs : List α}, (c :: cs).Pairwise (fun a b => key a ≤ key b) →
            d ∈ c :: cs → key c ≤ key d := by
          intro c d cs hsorted hd
          rcases List.mem_cons.1 hd with rfl | hd
          · exact String.le_refl _
          · exact (List.pairwise_cons.1 hsorted).1 d hd
        exact String.le_antisymm (hle hl ((hmem b).2 List.mem_cons_self))
          (hle hl' ((hmem a).1 List.mem_cons_self))
      have hfirst := h (key a)
      simp only [List.filter_cons, hkey, decide_true, if_true, List.cons.injEq] at hfirst
      obtain ⟨rfl, -⟩ := hfirst
      have hrest : ∀ k, l.filter (fun c => key c = k) = l'.filter (fun c => key c = k) := by
        intro k
        have hk := h k
        by_cases hak : key a = k
        · simpa [List.filter_cons, hak] using hk
        · simpa [List.filter_cons, hak] using hk
      rw [ih (List.pairwise_cons.1 hl).2 (List.pairwise_cons.1 hl').2 hrest fun c => ?_]
      have hc := congrArg (c ∈ ·) (hrest (key c))
      simpa using hc

/-- Keys are compared by a total order. -/
theorem keyLe_trans (a b c : α) (hab : decide (key a ≤ key b) = true)
    (hbc : decide (key b ≤ key c) = true) : decide (key a ≤ key c) = true := by
  rw [decide_eq_true_eq] at hab hbc ⊢
  exact String.le_trans hab hbc

theorem keyLe_total (a b : α) : (decide (key a ≤ key b) || decide (key b ≤ key a)) = true := by
  rw [Bool.or_eq_true, decide_eq_true_eq, decide_eq_true_eq]
  exact String.le_total ..

/-- Sorting by keys puts the elements in the order of their keys. -/
theorem pairwise_key_mergeSort (l : List α) :
    (l.mergeSort fun a b => decide (key a ≤ key b)).Pairwise fun a b => key a ≤ key b :=
  (List.pairwise_mergeSort keyLe_trans keyLe_total l).imp of_decide_eq_true

/-- Sorting by keys keeps the elements of each key in their order. -/
theorem filter_key_mergeSort (l : List α) (k : String) :
    (l.mergeSort fun a b => decide (key a ≤ key b)).filter (fun a => key a = k) =
      l.filter (fun a => key a = k) := by
  have hsame : (l.filter fun a => key a = k).Pairwise fun a b =>
      decide (key a ≤ key b) = true := by
    refine List.pairwise_of_forall_mem_list fun a ha b hb => ?_
    have ha : key a = k := of_decide_eq_true (List.mem_filter.1 ha).2
    have hb : key b = k := of_decide_eq_true (List.mem_filter.1 hb).2
    have hle : key a ≤ key b := ha.trans hb.symm ▸ String.le_refl (key a)
    exact decide_eq_true hle
  have hsub := (List.sublist_mergeSort keyLe_trans keyLe_total hsame List.filter_sublist).filter
    fun a => decide (key a = k)
  rw [List.filter_filter] at hsub
  simp only [Bool.and_self] at hsub
  exact (hsub.eq_of_length ((List.mergeSort_perm l _).filter _).length_eq.symm).symm

end

/-- The methods of a binding module do not tell in which order the last workers were accepted, if
these have different keys. -/
theorem BindingModule.keyed_append_of_perm {style : NestingStyle} {us vs : List Worker}
    (h : us.Perm vs) (hkeys : (us.map fun w => style.bindingKey w.owner).Nodup)
    (ws : List Worker) : keyed style (ws ++ us) = keyed style (ws ++ vs) := by
  have hkeys : ((us.map fun w => (style.bindingKey w.owner, w)).map Prod.fst).Nodup := by
    simpa [Function.comp_def] using hkeys
  refine eq_of_filter_key_eq (pairwise_key_mergeSort _) (pairwise_key_mergeSort _) fun k => ?_
  rw [keyed, keyed, filter_key_mergeSort, filter_key_mergeSort, List.map_append, List.map_append,
    List.filter_append, List.filter_append, filter_key_eq_of_perm (h.map _) hkeys k]

end AssistedWorkers
