import AssistedWorkers.Proofs.Bindings
import AssistedWorkers.Proofs.Checking

/-!
# Classes that yield no factory

A class that is listed with a marked constructor may yield no factory, because a rule is broken or
because the name of its factory is taken.  Such a class leaves nothing behind but its reports: had
it been listed without its marked constructors, the round would have generated the same files and
ended in the same state.

All classes share the known supertypes, the registry and the list of workers.  The known
supertypes do not depend on constructors, and a class adds to the other two only when its factory
comes out.

* `admitClass_of_files_eq_nil` — a class without a factory changes nothing;
* `admitClasses_unmark` — how the classes of a round are gone over without it;
* `rejected_class_leaves_no_trace` — files, reports and state of the round.
-/

namespace AssistedWorkers

open Java

/-- The class without its marked constructors. -/
def ListedClass.unmark (c : ListedClass) : ListedClass :=
  { c with constructors := [] }

/-- A host takes the marks away by not describing the marked constructors. -/
theorem ClassDescription.check_unmark {d : ClassDescription} {c : ListedClass}
    (h : d.check = .ok c) :
    { d with constructors := d.constructors.filter (!·.workerInject) }.check = .ok c.unmark := by
  obtain ⟨hname, hsupertypes, -, hrest⟩ := check_eq_ok_iff.1 h
  have hnone : (d.constructors.filter (!·.workerInject)).filter (·.workerInject) = [] := by
    rw [List.filter_filter]
    exact List.filter_eq_nil_iff.2 fun k _ => by cases k.workerInject <;> simp
  refine check_eq_ok_iff.2 ⟨hname, hsupertypes, ?_, hrest⟩
  rw [hnone]
  exact List.Forall₂.nil

namespace Session

/-- A class that yields no factory changes nothing. -/
theorem admitClass_of_files_eq_nil {s : Session} {c : ListedClass}
    (h : (s.admitClass c).2.files = []) : (s.admitClass c).1 = s := by
  obtain ⟨ws, hws⟩ := exists_accepting_admitClass s c
  have hnone : ws = [] := by
    rw [hws.files_eq] at h
    exact List.map_eq_nil_iff.1 h
  rw [hws.session_eq, hnone, withWorkers_nil]

section

variable (s : Session) (before : List ListedClass) (c : ListedClass) (after : List ListedClass)
  (modules : List ListedModule)

/-- The supertypes that a round learns do not depend on constructors. -/
theorem begun_unmark :
    s.begun ⟨before ++ c.unmark :: after, modules⟩ = s.begun ⟨before ++ c :: after, modules⟩ := by
  simp only [begun, List.foldl_append, List.foldl_cons]
  rfl

variable {s before c after modules}

/-- Without the marked constructors of a class that yields no factory, the classes of a round are
gone over with the same end, and only what comes out of that class is missing. -/
theorem admitClasses_unmark (hinjected : c.isInjected = true)
    (hrejected : ((foldSteps admitClass (s.begun ⟨before ++ c :: after, modules⟩)
      (before.filter (·.isInjected))).1.admitClass c).2.files = []) :
    let front := foldSteps admitClass (s.begun ⟨before ++ c :: after, modules⟩)
      (before.filter (·.isInjected))
    let back := foldSteps admitClass front.1 (after.filter (·.isInjected))
    s.admitClasses ⟨before ++ c :: after, modules⟩ =
      (back.1, front.2 ++ (front.1.admitClass c).2 ++ back.2) ∧
    s.admitClasses ⟨before ++ c.unmark :: after, modules⟩ = (back.1, front.2 ++ back.2) := by
  intro front back
  have hstay : (front.1.admitClass c).1 = front.1 := admitClass_of_files_eq_nil hrejected
  have hunmarked : c.unmark.isInjected = false := rfl
  constructor
  · rw [admitClasses, List.filter_append, List.filter_cons_of_pos hinjected, foldSteps_append,
      foldSteps]
    dsimp only
    rw [hstay, Outcome.append_assoc]
  · rw [admitClasses, begun_unmark, List.filter_append,
      List.filter_cons_of_neg (by simp [hunmarked]), foldSteps_append]

end

/-- **A rejected class leaves no trace.**  Take any session, any round and any of its classes, at
one of the places where it is listed with a marked constructor, such that it yields no factory
there.  When the round lists the class without marked constructors in that place, the same files
come out, and the session ends in the same state but for the numbers of errors and warnings, which
are less by those of the class.  Of all that comes out of the round only the reports and events of
the class in that place are missing. -/
theorem rejected_class_leaves_no_trace (s : Session) (before : List ListedClass) (c : ListedClass)
    (after : List ListedClass) (modules : List ListedModule) (hinjected : c.isInjected = true)
    (hrejected : ((foldSteps admitClass (s.begun ⟨before ++ c :: after, modules⟩)
      (before.filter (·.isInjected))).1.admitClass c).2.files = []) :
    let front := foldSteps admitClass (s.begun ⟨before ++ c :: after, modules⟩)
      (before.filter (·.isInjected))
    let own := (front.1.admitClass c).2
    let listed := s.processRound ⟨before ++ c :: after, modules⟩
    let unmarked := s.processRound ⟨before ++ c.unmark :: after, modules⟩
    unmarked.2.files = listed.2.files ∧
    unmarked.1 = { listed.1 with
      summary.errors := unmarked.1.summary.errors
      summary.warnings := unmarked.1.summary.warnings } ∧
    listed.1.summary.errors = unmarked.1.summary.errors + own.reports.countP Report.isError ∧
    listed.1.summary.warnings = unmarked.1.summary.warnings + own.reports.countP (!·.isError) ∧
    ∃ earlier later : Outcome, earlier.reports = front.2.reports ∧
      listed.2 = earlier ++ own ++ later ∧ unmarked.2 = earlier ++ later := by
  intro front own listed unmarked
  let back := foldSteps admitClass front.1 (after.filter (·.isInjected))
  let counted := back.1.countModules modules
  let last := foldSteps admitModule counted.1 modules
  let started : Outcome :=
    ⟨[], [], [.round (s.summary.rounds + 1) (before ++ c :: after).length modules.length]⟩
  -- The class leaves the session as it found it, so all that follows is the same in both rounds.
  obtain ⟨hclasses, hothers⟩ := admitClasses_unmark hinjected hrejected
  have hlisted : listed =
      let outcome := front.2 ++ own ++ back.2 ++ counted.2 ++ last.2
      ({ last.1 with summary := last.1.totals outcome }, started ++ outcome) := by
    simp only [listed, processRound_eq, Session.counted, hclasses]
    rfl
  have hunmarked : unmarked =
      let outcome := front.2 ++ back.2 ++ counted.2 ++ last.2
      ({ last.1 with summary := last.1.totals outcome }, started ++ outcome) := by
    simp only [unmarked, processRound_eq, Session.counted, hothers, List.length_append,
      List.length_cons, started]
    rfl
  have hown : own.files = [] := hrejected
  refine ⟨?files, ?session, ?errors, ?warnings, started ++ front.2,
    back.2 ++ counted.2 ++ last.2, rfl, ?listed, ?unmarked⟩
  case files => simp [hlisted, hunmarked, Outcome.append_def, hown]
  case session => simp [hlisted, hunmarked, totals, Outcome.append_def, hown]
  case errors =>
    simp only [hlisted, hunmarked, totals, Outcome.append_def, List.countP_append]
    omega
  case warnings =>
    simp only [hlisted, hunmarked, totals, Outcome.append_def, List.countP_append]
    omega
  case listed => simp only [hlisted, Outcome.append_assoc]
  case unmarked => simp only [hunmarked, Outcome.append_assoc]

/-- A worker `Outer_Worker`. -/
def listedFlatWorker : ListedClass :=
  { listedTestWorker "test" "test/Outer_Worker.java" with
    name := .topLevelIn "test" "Outer_Worker" }

/-- A worker `Worker` in a class `Outer`, whose factory has the same name. -/
def listedNestedWorker : ListedClass :=
  { listedTestWorker "test" "test/Outer.java" with
    name := ⟨"test", "Outer", ["Worker"]⟩
    isStatic := true }

/-- Of two workers whose factories have the same name, the second one could as well be unmarked. -/
theorem colliding_class_leaves_no_trace :
    listedNestedWorker.isInjected = true ∧
    ((foldSteps admitClass ((start .default none).begun
        ⟨[listedFlatWorker] ++ listedNestedWorker :: [], []⟩)
      ([listedFlatWorker].filter (·.isInjected))).1.admitClass listedNestedWorker).2.files = [] ∧
    ((start .default none).processRound
        ⟨[listedFlatWorker] ++ listedNestedWorker :: [], []⟩).2.reports.map (·.finding) =
      [.nameTaken (.topLevelIn "test" "Outer_Worker_AssistedFactory") listedNestedWorker.name
        listedFlatWorker.name] ∧
    ((start .default none).processRound
        ⟨[listedFlatWorker] ++ listedNestedWorker.unmark :: [], []⟩).2.files =
      ((start .default none).processRound
        ⟨[listedFlatWorker] ++ listedNestedWorker :: [], []⟩).2.files := by
  have hrejected : ((foldSteps admitClass ((start .default none).begun
        ⟨[listedFlatWorker] ++ listedNestedWorker :: [], []⟩)
      ([listedFlatWorker].filter (·.isInjected))).1.admitClass listedNestedWorker).2.files =
        [] := by
    decide +kernel
  have hreports : ((start .default none).processRound
        ⟨[listedFlatWorker] ++ listedNestedWorker :: [], []⟩).2.reports.map (·.finding) =
      [.nameTaken (.topLevelIn "test" "Outer_Worker_AssistedFactory") listedNestedWorker.name
        listedFlatWorker.name] := by
    decide +kernel
  have h := rejected_class_leaves_no_trace (start .default none) [listedFlatWorker]
    listedNestedWorker [] [] rfl hrejected
  exact ⟨rfl, hrejected, hreports, h.1⟩

end Session

end AssistedWorkers
