import AssistedWorkers.Proofs.DisplayedTypes
import AssistedWorkers.Proofs.RoundNames
import AssistedWorkers.Worker
import Mathlib.Data.List.Perm.Subperm

/-!
# Parameters as they are displayed

Whether the caller supplies what a factory passes on is decided by comparing displayed parameters.
The display of a parameter does not determine it: who supplies it is left out, and the value of a
qualifier is shown as it is, so that it may look like anything.  But the display of a qualified
parameter starts like no type does, and without a qualifier what stands behind the last blank is
the name, and what stands before it is read back as the type.  So nothing but a parameter without
a qualifier is displayed like one, and the comparison is right for the parameters of a round that
was read.

* `key_eq_iff` — what is displayed like a parameter without a qualifier;
* `suitsCaller_iff` — the caller supplies just what a factory passes on exactly when the check
  says so.
-/

namespace AssistedWorkers

open Java

/-- What stands behind the last of some separators is determined, and so is what stands before. -/
theorem eq_of_append_cons {α : Type} {sep : α} {as bs cs ds : List α} (hbs : sep ∉ bs)
    (hds : sep ∉ ds) (h : as ++ sep :: bs = cs ++ sep :: ds) : as = cs ∧ bs = ds := by
  rcases List.append_eq_append_iff.1 h with ⟨between, rfl, hbetween⟩ | ⟨between, rfl, hbetween⟩
  · cases between with
    | nil => exact ⟨by simp, (List.cons.inj hbetween).2⟩
    | cons c between => exact absurd (by simp [(List.cons.inj hbetween).2]) hbs
  · cases between with
    | nil => exact ⟨by simp, (List.cons.inj hbetween).2.symm⟩
    | cons c between => exact absurd (by simp [(List.cons.inj hbetween).2]) hds

namespace Java.JavaType

/-- Well-formed types are displayed differently. -/
theorem display_inj {t u : JavaType} (ht : WellFormed t) (hu : WellFormed u) :
    t.display = u.display ↔ t = u := by
  refine ⟨fun h => ?_, fun h => h ▸ rfl⟩
  have hread := read_display_iff.2 ht
  rw [h, read_display_iff.2 hu] at hread
  exact (Except.ok.inj hread).symm

/-- The display of a well-formed type does not start like a qualifier. -/
theorem display_ne_at {t : JavaType} (ht : WellFormed t) (rest back : List Char) :
    t.display.toList ++ rest ≠ '@' :: back := by
  intro h
  obtain ⟨c, tail, hskip, hstart⟩ :=
    TypeGrammar.exists_start_of_derivesType (TypeGrammar.derivesType_display ht) rest
  have hat : Text.skipBlanks ('@' :: back) = '@' :: back :=
    List.dropWhile_cons_of_neg (by decide +kernel)
  rw [h, hat] at hskip
  rw [← (List.cons.inj hskip).1] at hstart
  exact absurd hstart (by decide +kernel)

end Java.JavaType

namespace Parameter

/-- A parameter whose name is an identifier and whose type is read from its display. -/
structure Displayable (p : Parameter) : Prop where
  name : isIdentifier p.name = true
  type : JavaType.WellFormed p.type

instance (p : Parameter) : Decidable p.Displayable :=
  decidable_of_iff (isIdentifier p.name = true ∧ JavaType.WellFormed p.type)
    ⟨fun h => ⟨h.1, h.2⟩, fun h => ⟨h.name, h.type⟩⟩

/-- Every parameter of a round that was read is displayable. -/
theorem displayable_of_described {r : Round} (h : r.Described) {p : Parameter}
    (hp : p ∈ r.parameters) : p.Displayable := by
  obtain ⟨owner, d, hd⟩ := Round.exists_check_of_mem_parameters h hp
  obtain ⟨hname, htype, -, hkept, -⟩ := ParameterDescription.check_eq_ok_iff.1 hd
  exact ⟨hkept ▸ hname, JavaType.wellFormed_of_read htype⟩

/-- What a factory passes on is displayable. -/
theorem displayable_of_mem_callerParameters {p : Parameter} (hp : p ∈ Worker.callerParameters) :
    p.Displayable := by
  revert p
  decide +kernel

variable {p q : Parameter}

/-- A parameter without a qualifier is displayed as its type, a blank and its name. -/
theorem key_toList (h : p.qualifier = none) :
    p.key.toList = p.type.display.toList ++ ' ' :: p.name.toList := by
  simp [key, h]

/-- The display of a parameter with a qualifier starts with an at sign. -/
theorem exists_key_toList (h : p.qualifier ≠ none) : ∃ back, p.key.toList = '@' :: back := by
  obtain ⟨q, hq⟩ := Option.ne_none_iff_exists'.1 h
  rw [key, hq]
  cases hvalue : q.value <;> simp [Qualifier.display, hvalue]

/-- **What is displayed like a parameter without a qualifier** is another one of the same type and
the same name. -/
theorem key_eq_iff (hp : p.Displayable) (hq : q.Displayable) (hplain : q.qualifier = none) :
    p.key = q.key ↔ p.qualifier = none ∧ p.type = q.type ∧ p.name = q.name := by
  rw [← String.toList_inj, key_toList hplain]
  constructor
  · intro h
    by_cases hnone : p.qualifier = none
    · -- Types are displayed with blanks between their arguments, names without any, so it is the
      -- last blank that separates the two.
      have hblank : ∀ {name : String}, isIdentifier name = true → ' ' ∉ name.toList :=
        fun hname => not_mem_of_isIdentifier hname (by decide +kernel)
      rw [key_toList hnone] at h
      obtain ⟨htype, hname⟩ := eq_of_append_cons (hblank hp.name) (hblank hq.name) h
      exact ⟨hnone, (JavaType.display_inj hp.type hq.type).1 (String.toList_inj.1 htype),
        String.toList_inj.1 hname⟩
    · obtain ⟨back, hback⟩ := exists_key_toList hnone
      rw [hback] at h
      exact absurd h.symm (JavaType.display_ne_at hq.type _ _)
  · rintro ⟨hnone, htype, hname⟩
    rw [key_toList hnone, htype, hname]

/-- A parameter that the caller supplies and that is displayed like one that a factory passes on
is that one. -/
theorem key_eq_callerKey_iff (hp : p.Displayable) (hcaller : p.isCallerSupplied = true)
    (hq : q ∈ Worker.callerParameters) : p.key = q.key ↔ p = q := by
  have hplain : q.qualifier = none ∧ q.supplier = .caller := by
    revert q
    decide
  have hsupplier : p.supplier = .caller := by simpa [isCallerSupplied] using hcaller
  rw [key_eq_iff hp (displayable_of_mem_callerParameters hq) hplain.1]
  constructor
  · rintro ⟨hnone, htype, hname⟩
    obtain ⟨name, type, supplier, qualifier⟩ := p
    obtain ⟨name', type', supplier', qualifier'⟩ := q
    simp_all
  · rintro rfl
    exact ⟨hplain.1, rfl, rfl⟩

end Parameter

namespace InjectConstructor

/-- **The caller supplies just what a factory passes on**, in either order and anywhere in the
list, exactly when the check of the displayed parameters says so. -/
theorem suitsCaller_iff {k : InjectConstructor} (hk : ∀ p ∈ k.parameters, p.Displayable) :
    k.suitsCaller = true ↔
      (k.parameters.filter Parameter.isCallerSupplied).Perm Worker.callerParameters := by
  have hkey : ∀ q ∈ Worker.callerParameters,
      q.key ∈ k.callerKeys ↔ q ∈ k.parameters.filter Parameter.isCallerSupplied := by
    intro q hq
    refine ⟨fun h => ?_, fun h => List.mem_map_of_mem h⟩
    obtain ⟨p, hp, hpq⟩ := List.mem_map.1 h
    obtain ⟨hmem, hcaller⟩ := List.mem_filter.1 hp
    exact (Parameter.key_eq_callerKey_iff (hk p hmem) hcaller hq).1 hpq ▸ hp
  have hsuits : k.suitsCaller = true ↔
      (k.parameters.filter Parameter.isCallerSupplied).length = Worker.callerParameters.length ∧
        Worker.callerParameters ⊆ k.parameters.filter Parameter.isCallerSupplied := by
    simp only [suitsCaller, callerKeys, List.length_map, List.all_map, Bool.and_eq_true,
      beq_iff_eq, List.all_eq_true, Function.comp_apply, List.contains_iff_mem]
    exact and_congr_right fun _ => forall₂_congr hkey
  have hnodup : Worker.callerParameters.Nodup := by decide
  -- The two that are expected differ, so if they are among as many others they are all of them.
  rw [hsuits]
  constructor
  · intro h
    exact ((List.subperm_of_subset hnodup h.2).perm_of_length_le h.1.le).symm
  · intro h
    exact ⟨h.length_eq, h.symm.subset⟩

end InjectConstructor

end AssistedWorkers
