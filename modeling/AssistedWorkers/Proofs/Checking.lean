import AssistedWorkers.Proofs.Names
import Mathlib.Data.List.Forall2

/-!
# What a checked description says

Checking goes through a description element by element and stops at the first fault.  So when it
succeeds, every element was checked on its own, and the lists of the round match those of the
description entry by entry.

* `mapM_eq_ok_iff` — checking a list is checking its entries;
* `check_eq_ok_iff` — one statement for each kind of description: when it is accepted, and as what.
-/

namespace AssistedWorkers

open Java

/-! ### Checks one after the other -/

section

variable {ε α β : Type}

theorem bind_eq_ok_iff {x : Except ε α} {f : α → Except ε β} {b : β} :
    x >>= f = .ok b ↔ ∃ a, x = .ok a ∧ f a = .ok b := by
  constructor
  · exact exists_of_bind_eq_ok
  · intro h
    obtain ⟨a, rfl, h⟩ := h
    exact h

/-- Checking a list is checking its entries, and gives a result for each. -/
theorem mapM_eq_ok_iff {f : α → Except ε β} {as : List α} {bs : List β} :
    as.mapM f = .ok bs ↔ List.Forall₂ (fun a b => f a = .ok b) as bs := by
  induction as generalizing bs with
  | nil => cases bs <;> simp [pure, Except.pure]
  | cons a as ih =>
    simp only [List.mapM_cons, bind_eq_ok_iff, ih, List.forall₂_cons_left_iff]
    constructor
    · intro h
      obtain ⟨b, hb, bs', hbs, h⟩ := h
      exact ⟨b, bs', hb, hbs, (Except.ok.inj h).symm⟩
    · intro h
      obtain ⟨b, bs', hb, hbs, rfl⟩ := h
      exact ⟨b, hb, bs', hbs, rfl⟩

/-- Checking what may be absent is checking it when it is there. -/
theorem option_mapM_eq_ok_iff {f : α → Except ε β} {a? : Option α} {b? : Option β} :
    a?.mapM f = .ok b? ↔ Option.Rel (fun a b => f a = .ok b) a? b? := by
  cases a? with
  | none =>
    rw [Option.mapM_none]
    constructor
    · intro h
      obtain rfl := Except.ok.inj h
      exact .none
    · intro h
      cases h
      rfl
  | some a =>
    rw [Option.mapM_some]
    constructor
    · intro h
      cases ha : f a with
      | error e => simp [ha, Functor.map, Except.map] at h
      | ok b =>
        rw [ha] at h
        obtain rfl := Except.ok.inj h
        exact .some ha
    · intro h
      cases h with
      | some h =>
        rw [h]
        rfl

/-- Every entry of a checked list has a result. -/
theorem exists_mem_right {R : α → β → Prop} {as : List α} {bs : List β}
    (h : List.Forall₂ R as bs) {a : α} (ha : a ∈ as) : ∃ b ∈ bs, R a b := by
  induction h with
  | nil => simp at ha
  | cons hr _ ih =>
    rcases List.mem_cons.1 ha with rfl | ha
    · exact ⟨_, List.mem_cons_self, hr⟩
    · obtain ⟨b, hb, hr⟩ := ih ha
      exact ⟨b, List.mem_cons_of_mem _ hb, hr⟩

/-- Every result belongs to an entry. -/
theorem exists_mem_left {R : α → β → Prop} {as : List α} {bs : List β}
    (h : List.Forall₂ R as bs) {b : β} (hb : b ∈ bs) : ∃ a ∈ as, R a b :=
  exists_mem_right h.flip hb

end

/-! ### Descriptions -/

theorem readTypeIn_eq_ok_iff {element : Element} {text : String} {t : JavaType} :
    readTypeIn element text = .ok t ↔ JavaType.read text = .ok t := by
  unfold readTypeIn
  cases JavaType.read text <;> simp [Except.mapError]

/-- A reference is accepted when its text can be read as a type that has a class. -/
theorem readReference_eq_ok_iff {element : Element} {text : String} {c : ClassName} :
    readReference element text = .ok c ↔
      ∃ t, JavaType.read text = .ok t ∧ t.rawClass? = some c := by
  simp only [readReference, bind_eq_ok_iff, readTypeIn_eq_ok_iff]
  refine exists_congr fun t => and_congr_right fun _ => ?_
  cases t.rawClass? <;> simp

/-- A parameter is accepted when its name is an identifier, its type can be read, and its
qualifier is a class if there is one. -/
theorem ParameterDescription.check_eq_ok_iff {owner : ClassName} {d : ParameterDescription}
    {p : Parameter} :
    d.check owner = .ok p ↔ isIdentifier d.name = true ∧
      JavaType.read d.type = .ok p.type ∧
      Option.Rel (fun q (q' : Qualifier) =>
        readReference (.qualifier d.name owner) q.type = .ok q'.type ∧ q'.value = q.value)
        d.qualifier p.qualifier ∧
      p.name = d.name ∧ p.supplier = if d.assisted then .caller else .injector := by
  obtain ⟨name, type, supplier, qualifier⟩ := p
  have hqualifier : ∀ (q : QualifierDescription) (q' : Qualifier),
      (do
        let type ← readReference (.qualifier d.name owner) q.type
        return (⟨type, q.value⟩ : Qualifier)) = .ok q' ↔
        readReference (.qualifier d.name owner) q.type = .ok q'.type ∧ q'.value = q.value := by
    intro q q'
    obtain ⟨type, value⟩ := q'
    rw [bind_eq_ok_iff]
    constructor
    · intro h
      obtain ⟨c, hc, h⟩ := h
      obtain ⟨rfl, rfl⟩ := Qualifier.mk.inj (Except.ok.inj h)
      exact ⟨hc, rfl⟩
    · intro h
      obtain ⟨hc, rfl⟩ := h
      exact ⟨type, hc, rfl⟩
  unfold check
  by_cases hname : isIdentifier d.name = true
  · simp only [hname, Bool.not_true, Bool.false_eq_true, if_false, bind_eq_ok_iff,
      option_mapM_eq_ok_iff, readTypeIn_eq_ok_iff, hqualifier, true_and]
    constructor
    · intro h
      obtain ⟨t, ht, q, hq, h⟩ := h
      obtain ⟨rfl, rfl, rfl, rfl⟩ := Parameter.mk.inj (Except.ok.inj h)
      exact ⟨ht, hq, rfl, rfl⟩
    · intro h
      obtain ⟨ht, hq, rfl, rfl⟩ := h
      exact ⟨type, ht, qualifier, hq, rfl⟩
  · simp [hname, bind, Except.bind]

/-- A marked constructor is accepted when its parameters are. -/
theorem ConstructorDescription.check_eq_ok_iff {owner : ClassName} {place : Location}
    {d : ConstructorDescription} {k : InjectConstructor} :
    d.check owner place = .ok k ↔
      List.Forall₂ (fun p p' => p.check owner = .ok p') d.parameters k.parameters ∧
      k.visibility = d.visibility ∧ k.location = d.location.getD place := by
  obtain ⟨visibility, location, parameters⟩ := k
  simp only [check, bind_eq_ok_iff, mapM_eq_ok_iff]
  constructor
  · intro h
    obtain ⟨ps, hps, h⟩ := h
    obtain ⟨rfl, rfl, rfl⟩ := InjectConstructor.mk.inj (Except.ok.inj h)
    exact ⟨hps, rfl, rfl⟩
  · intro h
    obtain ⟨hps, rfl, rfl⟩ := h
    exact ⟨parameters, hps, rfl⟩

/-- A class is accepted when its name, its supertypes and its marked constructors are. -/
theorem ClassDescription.check_eq_ok_iff {d : ClassDescription} {c : ListedClass} :
    d.check = .ok c ↔ declaredName d.package d.enclosing d.name = .ok c.name ∧
      List.Forall₂ (fun text s => readReference (.supertype c.name) text = .ok s)
        d.supertypes c.supertypes ∧
      List.Forall₂ (fun k k' => k.check c.name d.location = .ok k')
        (d.constructors.filter (·.workerInject)) c.constructors ∧
      c.visibility = d.visibility ∧ c.enclosingVisibility = d.enclosing.map (·.visibility) ∧
      c.isStatic = d.isStatic ∧ c.location = d.location := by
  obtain ⟨name, visibility, enclosingVisibility, isStatic, supertypes, location, constructors⟩ := c
  simp only [check, bind_eq_ok_iff, mapM_eq_ok_iff]
  constructor
  · intro h
    obtain ⟨n, hn, ss, hss, ks, hks, h⟩ := h
    obtain ⟨rfl, rfl, rfl, rfl, rfl, rfl, rfl⟩ := ListedClass.mk.inj (Except.ok.inj h)
    exact ⟨hn, hss, hks, rfl, rfl, rfl, rfl⟩
  · intro h
    obtain ⟨hn, hss, hks, rfl, rfl, rfl, rfl⟩ := h
    exact ⟨name, hn, supertypes, hss, constructors, hks, rfl⟩

/-- A module is accepted when its name and its includes are. -/
theorem ModuleDescription.check_eq_ok_iff {d : ModuleDescription} {l : ListedModule} :
    d.check = .ok l ↔ declaredName d.package d.enclosing d.name = .ok l.name ∧
      Option.Rel (fun (a : DaggerModuleDescription) includes =>
        List.Forall₂ (fun text c => readReference (.inclusion l.name) text = .ok c)
          a.includes includes) d.daggerModule l.includes ∧
      l.visibility = d.visibility ∧ l.location = d.location := by
  obtain ⟨name, visibility, includes, location⟩ := l
  simp only [check, bind_eq_ok_iff, mapM_eq_ok_iff, option_mapM_eq_ok_iff]
  constructor
  · intro h
    obtain ⟨n, hn, cs, hcs, h⟩ := h
    obtain ⟨rfl, rfl, rfl, rfl⟩ := ListedModule.mk.inj (Except.ok.inj h)
    exact ⟨hn, hcs, rfl, rfl⟩
  · intro h
    obtain ⟨hn, hcs, rfl, rfl⟩ := h
    exact ⟨name, hn, includes, hcs, rfl⟩

/-- A round is accepted when its classes and its modules are. -/
theorem RoundDescription.check_eq_ok_iff {d : RoundDescription} {r : Round} :
    d.check = .ok r ↔ List.Forall₂ (fun c c' => c.check = .ok c') d.classes r.classes ∧
      List.Forall₂ (fun m m' => m.check = .ok m') d.modules r.modules := by
  obtain ⟨classes, modules⟩ := r
  simp only [check, bind_eq_ok_iff, mapM_eq_ok_iff]
  constructor
  · intro h
    obtain ⟨cs, hcs, ms, hms, h⟩ := h
    obtain ⟨rfl, rfl⟩ := Round.mk.inj (Except.ok.inj h)
    exact ⟨hcs, hms⟩
  · intro h
    obtain ⟨hcs, hms⟩ := h
    exact ⟨classes, hcs, modules, hms, rfl⟩

end AssistedWorkers
