import AssistedWorkers.Proofs.ParameterKeys
import AssistedWorkers.Proofs.Steps
import AssistedWorkers.Proofs.Subtypes

/-!
# The rules for workers

What makes a class with a marked constructor a worker can be said without any search and without
comparing texts: there is one such constructor, it and the classes around it are not private, a
nested class is static, a chain of known supertypes leads to the base of all workers, and the
parameters that the caller supplies are those that a factory passes on, in some order.  Each rule
that is broken is reported once, in the order of the rules, and then each constructor is reported
for its parameters.  A class is a worker exactly if the reports hold no error, so that counting
the errors before and after finds out the same, whatever was reported before.

* `violations` — what is reported, rule by rule;
* `reports_eq_violations` — nothing else is, and nothing twice;
* `harmless_violations_iff_valid` — no error is among it exactly if no rule is broken;
* `worker?_eq_some_iff` — what a class has to be for a factory to be generated;
* `validated_exactly` — all of that for the classes of a round, whatever was reported before.
-/

namespace AssistedWorkers

open Java

/-- A report if something is the case. -/
def reportWhen (broken : Prop) [Decidable broken] (finding : Finding) (place : Location) :
    List Report :=
  if broken then [⟨finding, place⟩] else []

/-- What would be an error is not reported exactly if it is not the case. -/
theorem harmless_reportWhen_iff {broken : Prop} [Decidable broken] {finding : Finding}
    {place : Location} (h : finding.severity = .error) :
    (∀ report ∈ reportWhen broken finding place, report.isError = false) ↔ ¬ broken := by
  unfold reportWhen
  split <;> simp_all [Report.isError]

/-- A warning is no error, be it reported or not. -/
theorem harmless_reportWhen {broken : Prop} [Decidable broken] {finding : Finding}
    {place : Location} (h : finding.severity = .warning) :
    ∀ report ∈ reportWhen broken finding place, report.isError = false := by
  unfold reportWhen
  split <;> simp_all [Report.isError]

/-- What is wrong with the parameters of a marked constructor. -/
def InjectConstructor.violations (k : InjectConstructor) : List Report :=
  let callers := k.parameters.filter Parameter.isCallerSupplied
  reportWhen (¬ callers.Perm Worker.callerParameters)
      (.wrongCallerParameters (callers.map Parameter.key)
        (Worker.callerParameters.map Parameter.key)) k.location ++
    reportWhen (∀ p ∈ k.parameters, p.supplier = .caller) .nothingInjected k.location

namespace ListedClass

/-- Everything that is wrong with a class with marked constructors. -/
def violations (known : Hierarchy) (c : ListedClass) : List Report :=
  reportWhen (1 < c.constructors.length) .severalConstructors c.location ++
    (c.constructors.filter (·.visibility = .priv)).map
      (fun k => ⟨.privateConstructor, k.location⟩) ++
    reportWhen (.priv ∈ c.visibility :: c.enclosingVisibility) .privateType c.location ++
    reportWhen (c.name.inner ≠ [] ∧ c.isStatic = false) .notStatic c.location ++
    reportWhen (¬ known.Reaches c.name Framework.listenableWorker) .notAWorker c.location ++
    c.constructors.flatMap InjectConstructor.violations

/-- A class whose only marked constructor is `k` and that breaks no rule. -/
structure ValidWith (known : Hierarchy) (c : ListedClass) (k : InjectConstructor) : Prop where
  sole : c.constructors = [k]
  callable : k.visibility ≠ .priv
  visible : .priv ∉ c.visibility :: c.enclosingVisibility
  static : c.name.inner ≠ [] → c.isStatic = true
  worker : known.Reaches c.name Framework.listenableWorker
  callers : (k.parameters.filter Parameter.isCallerSupplied).Perm Worker.callerParameters

/-- Every parameter of every marked constructor is displayable. -/
def Displayable (c : ListedClass) : Prop :=
  ∀ k ∈ c.constructors, ∀ p ∈ k.parameters, p.Displayable

theorem displayable_of_described {r : Round} (h : r.Described) {c : ListedClass}
    (hc : c ∈ r.classes) : c.Displayable := by
  intro k hk p hp
  exact Parameter.displayable_of_described h
    (List.mem_flatMap.2 ⟨c, hc, List.mem_flatMap.2 ⟨k, hk, hp⟩⟩)

/-! ### What is reported -/

/-- A rule that is checked is reported when it is broken. -/
theorem reportIf_eq_reportWhen {c : ListedClass} {broken : Bool} {p : Prop} [Decidable p]
    (h : broken = true ↔ p) (finding : Finding) :
    c.reportIf broken finding = reportWhen p finding c.location := by
  unfold reportIf reportWhen
  by_cases hp : p
  · rw [if_pos hp, if_pos (h.2 hp)]
  · rw [if_neg hp, if_neg fun hbroken => hp (h.1 hbroken)]

end ListedClass

/-- The parameters of a constructor are reported when they break a rule. -/
theorem InjectConstructor.parameterReports_eq_violations {k : InjectConstructor}
    (hk : ∀ p ∈ k.parameters, p.Displayable) : k.parameterReports = k.violations := by
  have hsuits := suitsCaller_iff hk
  have hall : k.parameters.all Parameter.isCallerSupplied = true ↔
      ∀ p ∈ k.parameters, p.supplier = .caller := by
    simp [Parameter.isCallerSupplied]
  unfold parameterReports violations reportWhen
  congr 1
  · by_cases hcallers : (k.parameters.filter Parameter.isCallerSupplied).Perm
        Worker.callerParameters
    · rw [if_pos (hsuits.2 hcallers), if_neg (not_not_intro hcallers)]
    · rw [if_neg fun h => hcallers (hsuits.1 h), if_pos hcallers]
      rfl
  · exact if_congr hall rfl rfl

namespace ListedClass

variable {known : Hierarchy} {c : ListedClass} {k : InjectConstructor} {w : Worker}

/-- **Every violation is reported once**, in the order of the rules, and nothing else is. -/
theorem reports_eq_violations (hc : c.Displayable) : c.reports known = c.violations known := by
  have hpriv : (c.visibility == .priv || c.enclosingVisibility.contains .priv) = true ↔
      .priv ∈ c.visibility :: c.enclosingVisibility := by
    rw [Bool.or_eq_true, beq_iff_eq, List.contains_iff_mem, List.mem_cons, eq_comm]
  have hstatic : (c.name.isNested && !c.isStatic) = true ↔
      c.name.inner ≠ [] ∧ c.isStatic = false := by
    simp [ClassName.isNested]
  have hworker : (!known.isSubtype c.name Framework.listenableWorker) = true ↔
      ¬ known.Reaches c.name Framework.listenableWorker := by
    rw [← Hierarchy.isSubtype_iff]
    simp
  have hconstructors : c.constructors.filter (·.visibility == .priv) =
      c.constructors.filter (·.visibility = .priv) :=
    List.filter_congr fun k _ => by rw [beq_eq_decide]
  have hparameters : c.constructors.flatMap InjectConstructor.parameterReports =
      c.constructors.flatMap InjectConstructor.violations :=
    List.flatMap_congr fun k hk => InjectConstructor.parameterReports_eq_violations (hc k hk)
  rw [reports, violations, reportIf_eq_reportWhen decide_eq_true_iff,
    reportIf_eq_reportWhen hpriv, reportIf_eq_reportWhen hstatic, reportIf_eq_reportWhen hworker,
    hconstructors, hparameters]

/-! ### What is accepted -/

/-- A constructor has no error reported for its parameters exactly if the caller supplies what a
factory passes on. -/
theorem harmless_parameters_iff :
    (∀ report ∈ k.violations, report.isError = false) ↔
      (k.parameters.filter Parameter.isCallerSupplied).Perm Worker.callerParameters := by
  rw [InjectConstructor.violations, List.forall_mem_append, harmless_reportWhen_iff rfl,
    and_iff_left (harmless_reportWhen rfl), not_not]

/-- No error is reported about a class exactly if there is no second constructor, none is private,
and the other rules are kept. -/
theorem harmless_violations_iff :
    (∀ report ∈ c.violations known, report.isError = false) ↔
      ¬ 1 < c.constructors.length ∧ (∀ k ∈ c.constructors, k.visibility ≠ .priv) ∧
      .priv ∉ c.visibility :: c.enclosingVisibility ∧
      ¬ (c.name.inner ≠ [] ∧ c.isStatic = false) ∧
      known.Reaches c.name Framework.listenableWorker ∧
      ∀ k ∈ c.constructors,
        (k.parameters.filter Parameter.isCallerSupplied).Perm Worker.callerParameters := by
  have hpriv : (∀ report ∈ (c.constructors.filter (·.visibility = .priv)).map
      (fun k => (⟨.privateConstructor, k.location⟩ : Report)), report.isError = false) ↔
        ∀ k ∈ c.constructors, k.visibility ≠ .priv := by
    constructor
    · intro h k hk hpriv
      have hreport := h _ (List.mem_map_of_mem (List.mem_filter.2 ⟨hk, decide_eq_true hpriv⟩))
      simp [Report.isError, Finding.severity] at hreport
    · intro h report hreport
      obtain ⟨k, hk, rfl⟩ := List.mem_map.1 hreport
      obtain ⟨hk, hpriv⟩ := List.mem_filter.1 hk
      exact absurd (of_decide_eq_true hpriv) (h k hk)
  rw [violations]
  simp only [List.forall_mem_append, List.forall_mem_flatMap, and_assoc]
  rw [harmless_reportWhen_iff rfl, hpriv, harmless_reportWhen_iff rfl, harmless_reportWhen_iff rfl,
    harmless_reportWhen_iff rfl, not_not]
  simp only [harmless_parameters_iff]

/-- **No error is reported exactly if no rule is broken.** -/
theorem harmless_violations_iff_valid (hinjected : c.isInjected = true) :
    (∀ report ∈ c.violations known, report.isError = false) ↔ ∃ k, c.ValidWith known k := by
  rw [harmless_violations_iff]
  constructor
  · rintro ⟨hsole, hcallable, hvisible, hstatic, hworker, hcallers⟩
    obtain ⟨k, ks, hk⟩ := List.exists_cons_of_ne_nil (l := c.constructors)
      (by simpa [isInjected] using hinjected)
    have hks : ks = [] := by
      rw [hk, List.length_cons] at hsole
      exact List.length_eq_zero_iff.1 (by omega)
    have hmem : k ∈ c.constructors := hk ▸ List.mem_cons_self
    refine ⟨k, hks ▸ hk, hcallable k hmem, hvisible, fun hnested => ?_, hworker, hcallers k hmem⟩
    by_contra hinner
    exact hstatic ⟨hnested, by simpa using hinner⟩
  · intro h
    obtain ⟨k, hk⟩ := h
    rw [hk.sole]
    refine ⟨by simp, ?_, hk.visible, fun hinner => ?_, hk.worker, ?_⟩
    · simpa using hk.callable
    · rw [hk.static hinner.1] at hinner
      exact absurd hinner.2 (by decide)
    · simpa using hk.callers

/-- **The worker that a class is**: one that breaks no rule, with the parameters of its only
marked constructor. -/
theorem worker?_eq_some_iff (hc : c.Displayable) :
    c.worker? known = some w ↔
      ∃ k, c.ValidWith known k ∧ w = ⟨c.name, k.parameters, c.location⟩ := by
  have hworker : ∀ k, c.constructors = [k] →
      c.constructors.head?.map (fun k => (⟨c.name, k.parameters, c.location⟩ : Worker)) =
        some ⟨c.name, k.parameters, c.location⟩ := by
    intro k hk
    rw [hk]
    rfl
  by_cases hinjected : c.isInjected = true
  · have hharmless : (c.reports known).any Report.isError = true ↔
        ¬ ∃ k, c.ValidWith known k := by
      rw [← harmless_violations_iff_valid hinjected, reports_eq_violations hc, List.any_eq_true]
      simp
    unfold worker?
    constructor
    · intro h
      split at h
      next => simp at h
      next hany =>
        obtain ⟨k, hk⟩ := not_not.1 fun hn => hany (hharmless.2 hn)
        rw [hworker k hk.sole] at h
        exact ⟨k, hk, (Option.some.inj h).symm⟩
    · rintro ⟨k, hk, rfl⟩
      rw [if_neg fun hany => hharmless.1 hany ⟨k, hk⟩, hworker k hk.sole]
  · have hnone : c.constructors = [] := by simpa [isInjected] using hinjected
    constructor
    · intro h
      simp [worker?_eq_none_iff.2 (Or.inr hnone)] at h
    · rintro ⟨k, hk, -⟩
      simp [hk.sole] at hnone

end ListedClass

namespace Session

/-- **Classes are validated exactly.**  Take any class of a round that was read, with at least one
marked constructor, and any hierarchy.  What is reported about the class is what the rules say,
each violation once and in their order.  Whatever was reported before, the class is no worker
exactly if it adds to the number of errors.  It is a worker exactly if it breaks no rule, and then
with its own name and place and the parameters of its only marked constructor.  When a session has
gone over some classes, going over this one as well keeps their reports and adds these, and after
them nothing but what naming the factory of a worker gives rise to. -/
theorem validated_exactly (r : Round) (hr : r.Described) (c : ListedClass) (hc : c ∈ r.classes)
    (hinjected : c.isInjected = true) :
    (∀ known : Hierarchy,
      c.reports known = c.violations known ∧
      (∀ earlier : List Report, c.worker? known = none ↔
        earlier.countP Report.isError < (earlier ++ c.reports known).countP Report.isError) ∧
      ∀ w, c.worker? known = some w ↔
        ∃ k, c.ValidWith known k ∧ w = ⟨c.name, k.parameters, c.location⟩) ∧
    ∀ (s : Session) (before : List ListedClass),
      let front := foldSteps admitClass s before
      (foldSteps admitClass s (before ++ [c])).2.reports =
        front.2.reports ++ c.violations s.hierarchy ++
          ((c.worker? s.hierarchy).map fun w => (front.1.admitWorker w).2.reports).getD [] := by
  have hdisplayable := ListedClass.displayable_of_described hr hc
  have hmarked : c.constructors ≠ [] := by simpa [ListedClass.isInjected] using hinjected
  refine ⟨fun known => ⟨ListedClass.reports_eq_violations hdisplayable, fun earlier => ?counts,
    fun w => ListedClass.worker?_eq_some_iff hdisplayable⟩, fun s before => ?session⟩
  case counts =>
    rw [List.countP_append, ListedClass.worker?_eq_none_iff, or_iff_left hmarked,
      ← List.countP_pos_iff]
    omega
  case session =>
    intro front
    have hhierarchy : front.1.hierarchy = s.hierarchy := hierarchy_foldSteps_admitClass s before
    rw [foldSteps_append, ← ListedClass.reports_eq_violations hdisplayable, ← hhierarchy]
    simp only [foldSteps, Outcome.append_empty]
    rw [Outcome.append_def, reports_admitClass, List.append_assoc]

/-- A class that breaks every rule, as it is described. -/
def unruly : ClassDescription :=
  { testWorker "test" "test/Outer.java" with
    enclosing := [⟨"Outer", .priv⟩]
    supertypes := []
    constructors := [
      ⟨.priv, true, none, [
        ⟨"context", "android.content.Context", true, some ⟨"javax.inject.Named", some "app"⟩⟩,
        ⟨"workerParameters", "androidx.work.WorkerParameters", true, none⟩]⟩,
      ⟨.pack, true, none, [
        ⟨"workerParameters", "androidx.work.WorkerParameters", true, none⟩,
        ⟨"foo", "java.lang.String", false, none⟩,
        ⟨"context", "android.content.Context", true, none⟩]⟩] }

/-- That class when it is checked. -/
def listedUnruly : ListedClass where
  name := ⟨"test", "Outer", ["TestWorker"]⟩
  visibility := .pack
  enclosingVisibility := [.priv]
  isStatic := false
  supertypes := []
  location := ⟨"test/Outer.java", 3, none⟩
  constructors := [
    ⟨.priv, ⟨"test/Outer.java", 3, none⟩, [
      ⟨"context", .named Framework.context, .caller,
        some ⟨.topLevelIn "javax.inject" "Named", some "app"⟩⟩,
      ⟨"workerParameters", .named Framework.workerParameters, .caller, none⟩]⟩,
    ⟨.pack, ⟨"test/Outer.java", 3, none⟩, [
      ⟨"workerParameters", .named Framework.workerParameters, .caller, none⟩,
      ⟨"foo", .named (.topLevelIn "java.lang" "String"), .injector, none⟩,
      ⟨"context", .named Framework.context, .caller, none⟩]⟩]

/-- A class may break every rule at once. -/
theorem every_violation_of_unruly :
    (⟨[listedUnruly], []⟩ : Round).Described ∧ listedUnruly ∈ [listedUnruly] ∧
    listedUnruly.isInjected = true ∧
    (listedUnruly.reports .initial).map (·.finding) = [.severalConstructors, .privateConstructor,
      .privateType, .notStatic, .notAWorker,
      .wrongCallerParameters
        ["@javax.inject.Named(\"app\") android.content.Context context",
          "androidx.work.WorkerParameters workerParameters"]
        ["android.content.Context context", "androidx.work.WorkerParameters workerParameters"],
      .nothingInjected] ∧
    listedUnruly.worker? .initial = none := by
  have hdescribed : (⟨[listedUnruly], []⟩ : Round).Described := ⟨⟨[unruly], []⟩, by decide +kernel⟩
  have hmem : listedUnruly ∈ (⟨[listedUnruly], []⟩ : Round).classes := List.mem_cons_self
  obtain ⟨hvalidated, -⟩ := validated_exactly _ hdescribed listedUnruly hmem rfl
  obtain ⟨hreports, hcounts, -⟩ := hvalidated .initial
  refine ⟨hdescribed, hmem, rfl, ?_, (hcounts []).2 (by decide +kernel)⟩
  rw [hreports]
  decide +kernel

end Session

end AssistedWorkers
