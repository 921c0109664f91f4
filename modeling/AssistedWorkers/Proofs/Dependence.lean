import AssistedWorkers.Proofs.Growth
import AssistedWorkers.Proofs.Subtypes

/-!
# What steps depend on

A session is large, and each step of it looks at little.  What is said of a class depends on the
known supertypes only through whether the class is a subtype of the framework's worker.  Nothing
but that depends on the known supertypes at all, and no step depends on the totals.  A session in
which these two are replaced therefore goes through the same classes and modules with the same
outcome.

* `reports_of_subset` — a class that is a worker stays one when more supertypes are known;
* `foldSteps_hom` — what every step leaves apart, all steps together leave apart;
* `foldSteps_admitClass_replacing`, `foldSteps_admitModule_replacing` — steps with the hierarchy
  and the totals replaced;
* `mem_reports_processRound` — a round reports what is wrong with its injected classes.
-/

namespace AssistedWorkers

open Java

namespace ListedClass

variable {h h' : Hierarchy} {c : ListedClass}

/-- What is wrong with a class depends on the hierarchy only in whether it is a subtype of the
framework's worker. -/
theorem reports_congr
    (heq : h.isSubtype c.name Framework.listenableWorker =
      h'.isSubtype c.name Framework.listenableWorker) : c.reports h = c.reports h' := by
  rw [reports, reports, heq]

/-- The same is wrong with a class whatever order its supertypes were learned in. -/
theorem reports_of_same_edges (heq : ∀ edge, edge ∈ h.edges ↔ edge ∈ h'.edges) (c : ListedClass) :
    c.reports h = c.reports h' :=
  reports_congr (Hierarchy.isSubtype_congr heq c.name Framework.listenableWorker)

/-- A class that is not reported for not being a worker is a subtype of the framework's. -/
theorem isSubtype_of_reports (hreports : ∀ r ∈ c.reports h, r.finding ≠ .notAWorker) :
    h.isSubtype c.name Framework.listenableWorker = true := by
  rw [← Bool.not_eq_false]
  intro hsubtype
  have hmem : ⟨.notAWorker, c.location⟩ ∈ c.reports h := by
    simp [reports, reportIf, hsubtype]
  exact hreports _ hmem rfl

/-- With a class that is a subtype of the framework's worker nothing else is wrong when more
supertypes are known. -/
theorem reports_of_subset (hsub : ∀ edge ∈ h.edges, edge ∈ h'.edges)
    (hreports : ∀ r ∈ c.reports h, r.finding ≠ .notAWorker) : c.reports h' = c.reports h := by
  have hsubtype := isSubtype_of_reports hreports
  exact reports_congr ((Hierarchy.isSubtype_of_subset hsub hsubtype).trans hsubtype.symm)

/-- The worker that a class is depends on what is wrong with the class. -/
theorem worker?_congr (heq : c.reports h = c.reports h') : c.worker? h = c.worker? h' := by
  rw [worker?, worker?, heq]

end ListedClass

/-- A change `f` of the session that every step passes on, all steps together pass on. -/
theorem foldSteps_hom {α : Type} {step : Session → α → Session × Outcome}
    {f : Session → Session} {P : Session → Prop} {as : List α}
    (hstep : ∀ a ∈ as, ∀ s, P s → step (f s) a = (f (step s a).1, (step s a).2) ∧ P (step s a).1)
    {s : Session} (hs : P s) :
    foldSteps step (f s) as = (f (foldSteps step s as).1, (foldSteps step s as).2) := by
  induction as generalizing s with
  | nil => rfl
  | cons a as ih =>
    obtain ⟨hnext, hP⟩ := hstep a List.mem_cons_self s hs
    rw [foldSteps, foldSteps, hnext]
    dsimp only
    rw [ih (fun b hb => hstep b (List.mem_cons_of_mem _ hb)) hP]

namespace Session

/-- The session with another hierarchy and other totals. -/
def replacing (s : Session) (hierarchy : Hierarchy) (summary : Summary) : Session :=
  { s with hierarchy, summary }

/-- A class for which the hierarchy makes no difference is gone over as before. -/
theorem admitClass_replacing {s : Session} {h : Hierarchy} {c : ListedClass}
    (hc : c.reports h = c.reports s.hierarchy) (summary : Summary) :
    (s.replacing h summary).admitClass c =
      ((s.admitClass c).1.replacing h summary, (s.admitClass c).2) := by
  have hworker : c.worker? h = c.worker? s.hierarchy := ListedClass.worker?_congr hc
  cases hw : c.worker? s.hierarchy with
  | none =>
    simp only [admitClass, replacing, hworker, hw, hc]
  | some w =>
    have hclaim : ∀ name, (s.replacing h summary).claim name w.owner = s.claim name w.owner :=
      fun _ => rfl
    have hstyle : (s.replacing h summary).style = s.style := rfl
    have hadmit : (s.replacing h summary).admitWorker w =
        ((s.admitWorker w).1.replacing h summary, (s.admitWorker w).2) := by
      simp only [admitWorker, hclaim, hstyle]
      cases s.claim (s.style.factoryName w.owner) w.owner <;> rfl
    have hhierarchy : (s.replacing h summary).hierarchy = h := rfl
    simp only [admitClass, hhierarchy, hworker, hw, hc, hadmit]

/-- Classes for which the hierarchy makes no difference are gone over as before. -/
theorem foldSteps_admitClass_replacing {s : Session} {h : Hierarchy} {cs : List ListedClass}
    (hcs : ∀ c ∈ cs, c.reports h = c.reports s.hierarchy) (summary : Summary) :
    foldSteps admitClass (s.replacing h summary) cs =
      ((foldSteps admitClass s cs).1.replacing h summary, (foldSteps admitClass s cs).2) := by
  -- No step changes the hierarchy, so the classes stay what they are to the first session.
  refine foldSteps_hom (f := (·.replacing h summary))
    (P := fun t => t.hierarchy = s.hierarchy) (fun c hc t ht => ⟨?_, ?_⟩) rfl
  · exact admitClass_replacing (ht ▸ hcs c hc) summary
  · rw [hierarchy_admitClass]
    exact ht

/-- A module is gone over as before with any hierarchy. -/
theorem admitModule_replacing (s : Session) (h : Hierarchy) (summary : Summary)
    (l : ListedModule) :
    (s.replacing h summary).admitModule l =
      ((s.admitModule l).1.replacing h summary, (s.admitModule l).2) := by
  have hstyle : (s.replacing h summary).style = s.style := rfl
  have hpublic : (s.replacing h summary).options = s.options := rfl
  simp only [admitModule, hstyle, hpublic]
  cases l.bindingModule s.style s.options.publicModule with
  | error finding => rfl
  | ok m =>
    have hclaim : (s.replacing h summary).claim m.generatedName m.owner =
        s.claim m.generatedName m.owner := rfl
    have hcensus : (s.replacing h summary).census = s.census := rfl
    have hemitted : (s.replacing h summary).emitted = s.emitted := rfl
    simp only [emitModule, hclaim, hcensus, hemitted]
    split
    · rfl
    · cases s.claim m.generatedName m.owner <;> rfl

/-- Modules are gone over as before with any hierarchy. -/
theorem foldSteps_admitModule_replacing (s : Session) (h : Hierarchy) (summary : Summary)
    (ls : List ListedModule) :
    foldSteps admitModule (s.replacing h summary) ls =
      ((foldSteps admitModule s ls).1.replacing h summary, (foldSteps admitModule s ls).2) :=
  foldSteps_hom (f := (·.replacing h summary)) (P := fun _ => True)
    (fun l _ t _ => ⟨admitModule_replacing t h summary l, trivial⟩) trivial

/-- Going over a class reports what is wrong with the class. -/
theorem mem_reports_admitClass {s : Session} {c : ListedClass} {r : Report}
    (hr : r ∈ c.reports s.hierarchy) : r ∈ (s.admitClass c).2.reports := by
  rw [reports_admitClass]
  exact List.mem_append_left _ hr

/-- Going over classes reports what is wrong with each of them. -/
theorem mem_reports_foldSteps {s : Session} {cs : List ListedClass} {c : ListedClass}
    (hc : c ∈ cs) {r : Report} (hr : r ∈ c.reports s.hierarchy) :
    r ∈ (foldSteps admitClass s cs).2.reports := by
  induction cs generalizing s with
  | nil => simp at hc
  | cons d cs ih =>
    rcases List.mem_cons.1 hc with rfl | hc
    · exact List.mem_append_left _ (mem_reports_admitClass hr)
    · have hnext : r ∈ c.reports (s.admitClass d).1.hierarchy := by
        rw [hierarchy_admitClass]
        exact hr
      exact List.mem_append_right _ (ih hc hnext)

/-- A round reports what is wrong with its injected classes. -/
theorem mem_reports_processRound {s : Session} {r : Round} {c : ListedClass}
    (hc : c ∈ r.classes.filter (·.isInjected)) {report : Report}
    (hreport : report ∈ c.reports (s.begun r).hierarchy) :
    report ∈ (s.processRound r).2.reports := by
  have hclasses : report ∈ (s.admitClasses r).2.reports := mem_reports_foldSteps hc hreport
  rw [processRound_reports]
  exact List.mem_append_left _ (List.mem_append_left _ hclasses)

end Session

end AssistedWorkers
