import AssistedWorkers.Proofs.Bindings
import AssistedWorkers.Proofs.Dependence
import AssistedWorkers.Proofs.SoleModule

/-!
# Where one round ends and the next begins

A host may list the classes of two rounds in one, as long as the first round lists no modules and
none of its classes waits for a supertype that only the second round makes known.

In the joined round the classes of the first round are gone over with the supertypes of both
rounds known, and no totals are taken before those of the second round.  Neither makes a
difference: the classes stay workers when more supertypes are known, and no step depends on the
totals.

* `record_nil` — a round without modules says nothing of modules;
* `admitClasses_join` — how the joined round goes over its classes;
* `accepted_join`, `emittedIn_join`, `processRound_reports_join` — what it accepts, generates and
  reports;
* `join_rounds` — files, reports and state after any run.
-/

namespace AssistedWorkers

open Java

attribute [ext] Session

/-- Counting no modules reports none and changes nothing. -/
theorem ModuleCensus.record_nil {census : ModuleCensus} {ls : List ListedModule}
    (h : census.Counts ls) : census.record [] = (census, []) := by
  have hunreported : census.unreported = [] := by
    have hrecord : (census.record []).2 = [] := by
      have hnone : ListedModule.newlyCrowded ls [] = [] :=
        List.filter_eq_nil_iff.2 fun l _ => by simp
      rw [(record_of_counts h []).2, hnone, List.map_nil]
    exact List.map_eq_nil_iff.1 hrecord
  simp only [record, List.foldl_nil, hunreported, List.map_nil, List.append_nil]

/-- The round that lists the classes of two rounds, and the modules of the second one. -/
def Round.join (r₁ r₂ : Round) : Round :=
  ⟨r₁.classes ++ r₂.classes, r₂.modules⟩

namespace Session

variable {s : Session} {r₁ : Round}

/-- A round without modules generates no binding module. -/
theorem emittedIn_of_modules_eq_nil {r : Round} (hmodules : r.modules = []) :
    s.emittedIn r = none := by
  rw [emittedIn_eq_emission, hmodules, emission, List.findSome?_nil]

section

variable (hmodules : r₁.modules = []) (hrecord : s.census.record [] = (s.census, []))

include hmodules hrecord

/-- A round without modules ends when its classes are gone over. -/
theorem processRound_of_modules_eq_nil : ∃ summary,
    (s.processRound r₁).1 =
      (s.admitClasses r₁).1.replacing (s.begun r₁).hierarchy summary ∧
    (s.processRound r₁).2.reports = (s.admitClasses r₁).2.reports := by
  obtain ⟨summary, hsession⟩ := s.processRound_session r₁
  refine ⟨summary, ?_, ?_⟩
  · rw [hsession, hmodules, hrecord, emittedIn_of_modules_eq_nil hmodules, withModule_none,
      (s.accepting_admitClasses r₁).session_eq]
    rfl
  · rw [processRound_reports, hmodules, hrecord]
    simp [foldSteps, Outcome.empty]

variable (hworkers : ∀ report ∈ (s.processRound r₁).2.reports, report.finding ≠ .notAWorker)
  (r₂ : Round)

include hworkers

/-- The joined round goes over the classes of the first round as that round does, and over those
of the second one as that round does after the first one. -/
theorem admitClasses_join :
    (s.admitClasses (r₁.join r₂)).2 =
      (s.admitClasses r₁).2 ++ ((s.processRound r₁).1.admitClasses r₂).2 ∧
    ((s.processRound r₁).1.admitClasses r₂).1 =
      (s.admitClasses (r₁.join r₂)).1.replacing (s.begun (r₁.join r₂)).hierarchy
        ((s.processRound r₁).1.begun r₂).summary := by
  let both := (s.begun (r₁.join r₂)).hierarchy
  let first := s.admitClasses r₁
  let between := first.1.replacing both (s.begun r₁).summary
  let second := foldSteps admitClass between (r₂.classes.filter (·.isInjected))
  have hboth : both = r₂.classes.foldl (fun h c => h.record c.name c.supertypes)
      (s.begun r₁).hierarchy := List.foldl_append
  have hsub : ∀ edge ∈ (s.begun r₁).hierarchy.edges, edge ∈ both.edges := by
    intro edge hedge
    rw [hboth, mem_foldl_record]
    exact Or.inl hedge
  have hfirst : foldSteps admitClass (s.begun (r₁.join r₂)) (r₁.classes.filter (·.isInjected)) =
      (between, first.2) := by
    -- The classes of the first round are workers already without the supertypes of the second.
    refine foldSteps_admitClass_replacing (s := s.begun r₁) (fun c hc => ?_) (s.begun r₁).summary
    exact ListedClass.reports_of_subset hsub fun report hreport =>
      hworkers report (mem_reports_processRound hc hreport)
  have hjoined : s.admitClasses (r₁.join r₂) = (second.1, first.2 ++ second.2) := by
    have hclasses : (r₁.join r₂).classes.filter (·.isInjected) =
        r₁.classes.filter (·.isInjected) ++ r₂.classes.filter (·.isInjected) :=
      List.filter_append ..
    rw [admitClasses, hclasses, foldSteps_append, hfirst]
  have hbegun : (s.processRound r₁).1.begun r₂ =
      between.replacing both ((s.processRound r₁).1.begun r₂).summary := by
    obtain ⟨summary, hsession, -⟩ := processRound_of_modules_eq_nil hmodules hrecord
    rw [hboth, hsession]
    rfl
  have hsecond : (s.processRound r₁).1.admitClasses r₂ =
      (second.1.replacing both ((s.processRound r₁).1.begun r₂).summary, second.2) := by
    rw [admitClasses, hbegun]
    exact foldSteps_admitClass_replacing (fun _ _ => rfl) _
  rw [hjoined, hsecond]
  exact ⟨rfl, rfl⟩

/-- The joined round accepts the workers of both rounds. -/
theorem accepted_join :
    s.accepted (r₁.join r₂) = s.accepted r₁ ++ (s.processRound r₁).1.accepted r₂ := by
  have hadmitted := congrArg workers (admitClasses_join hmodules hrecord hworkers r₂).2
  rw [(accepting_admitClasses _ r₂).session_eq] at hadmitted
  change (s.processRound r₁).1.workers ++ _ = (s.admitClasses (r₁.join r₂)).1.workers at hadmitted
  rw [processRound_workers, (accepting_admitClasses _ (r₁.join r₂)).session_eq] at hadmitted
  change _ = s.workers ++ s.accepted (r₁.join r₂) at hadmitted
  rw [List.append_assoc] at hadmitted
  exact (List.append_cancel_left hadmitted).symm

/-- The joined round goes over its modules in the state in which the second round does, but for
the totals. -/
theorem counted_join :
    (s.processRound r₁).1.counted r₂ = (s.counted (r₁.join r₂)).replacing
      (s.begun (r₁.join r₂)).hierarchy ((s.processRound r₁).1.begun r₂).summary := by
  rw [counted, (admitClasses_join hmodules hrecord hworkers r₂).2]
  rfl

/-- The joined round generates the binding module that the second round does. -/
theorem emittedIn_join :
    s.emittedIn (r₁.join r₂) = (s.processRound r₁).1.emittedIn r₂ := by
  rw [emittedIn_eq_emission, emittedIn_eq_emission, counted_join hmodules hrecord hworkers r₂]
  rfl

/-- The joined round reports what the two rounds report. -/
theorem processRound_reports_join :
    (s.processRound (r₁.join r₂)).2.reports =
      (s.processRound r₁).2.reports ++ ((s.processRound r₁).1.processRound r₂).2.reports := by
  obtain ⟨summary, hsession, hreports⟩ := processRound_of_modules_eq_nil hmodules hrecord
  have hcensus : (s.processRound r₁).1.census = s.census := by
    rw [processRound_census, hmodules, hrecord]
  rw [processRound_reports s (r₁.join r₂), processRound_reports _ r₂, hreports, hcensus,
    (admitClasses_join hmodules hrecord hworkers r₂).1, counted_join hmodules hrecord hworkers r₂,
    foldSteps_admitModule_replacing]
  simp only [Outcome.append_def, List.append_assoc]
  rfl

end

/-- **Round boundaries are only batch boundaries.**  Take any session of a run and a first round
that lists no modules and reports of no class that it is not a worker.  The round that lists the
classes of this round and of a second one, and the modules of the second one, generates the same
files and makes the same reports as the two rounds one after the other, in the same order, and
leaves the session in the same state but for the number of rounds. -/
theorem join_rounds (options : Options) (marker : Option AnnotationUse) (earlier : List Round)
    (r₁ r₂ : Round) (hmodules : r₁.modules = [])
    (hworkers : ∀ report ∈ (((start options marker).after earlier).processRound r₁).2.reports,
      report.finding ≠ .notAWorker) :
    let s := (start options marker).after earlier
    s.filesOf [r₁, r₂] = s.filesOf [r₁.join r₂] ∧
    s.reportsOf [r₁, r₂] = s.reportsOf [r₁.join r₂] ∧
    s.after [r₁, r₂] = { s.after [r₁.join r₂] with
      summary.rounds := (s.after [r₁.join r₂]).summary.rounds + 1 } := by
  intro s
  have hrecord : s.census.record [] = (s.census, []) :=
    ModuleCensus.record_nil (counts_after (s := start options marker) ModuleCensus.counts_empty
      earlier)
  have haccepted := accepted_join hmodules hrecord hworkers r₂
  have hemitted := emittedIn_join hmodules hrecord hworkers r₂
  have hnone : s.emittedIn r₁ = none := emittedIn_of_modules_eq_nil hmodules
  have hfiles : (s.processRound (r₁.join r₂)).2.files =
      (s.processRound r₁).2.files ++ ((s.processRound r₁).1.processRound r₂).2.files := by
    simp [processRound_files, processRound_workers, haccepted, hemitted, hnone]
  have hreports := processRound_reports_join hmodules hrecord hworkers r₂
  have hlastWorkers : (s.after [r₁, r₂]).workers = (s.after [r₁.join r₂]).workers := by
    simp [processRound_workers, haccepted]
  have hlastCensus : (s.after [r₁, r₂]).census = (s.after [r₁.join r₂]).census := by
    simp only [after_cons, after_nil, processRound_census, hmodules, hrecord]
    rfl
  refine ⟨by simp [hfiles], by simp [hreports], Session.ext (by simp) (by simp) ?hierarchy
    hlastWorkers ?generated hlastCensus ?emitted ?summary⟩
  case hierarchy =>
    change ((s.processRound r₁).1.processRound r₂).1.hierarchy =
      (s.processRound (r₁.join r₂)).1.hierarchy
    simp only [processRound_hierarchy, begun, Round.join, List.foldl_append]
  case generated =>
    simp [processRound_generated, haccepted, hemitted, hnone]
  case emitted =>
    simp [processRound_emitted, hemitted, hnone]
  case summary =>
    simp only [after_cons, after_nil] at hlastWorkers hlastCensus ⊢
    simp only [processRound_summary, hlastWorkers, hlastCensus, hfiles, hreports,
      List.length_append, List.countP_append, Nat.add_assoc]

/-- Two workers that are found in rounds of their own are bound as if found in one. -/
theorem join_rounds_namesakes :
    let first : Round := ⟨[listedTestWorker "" "TestWorker.java"], []⟩
    let second : Round := ⟨[listedTestWorker "test" "test/TestWorker.java"],
      listedNamesakes.modules⟩
    first.modules = [] ∧
    (∀ report ∈ (((start .default none).after []).processRound first).2.reports,
      report.finding ≠ .notAWorker) ∧
    (start .default none).filesOf [first, second] =
      (start .default none).filesOf [listedNamesakes] := by
  intro first second
  have hworkers : ∀ report ∈ (((start .default none).after []).processRound first).2.reports,
      report.finding ≠ .notAWorker := by
    decide +kernel
  exact ⟨rfl, hworkers, (join_rounds .default none [] first second rfl hworkers).1⟩

/-- A class whose supertypes are not known before the second round is no worker in the first one. -/
example :
    let derived : ListedClass := { listedTestWorker "" "TestWorker.java" with
      supertypes := [.topLevelIn "" "Base"] }
    let base : ListedClass := { listedTestWorker "" "Base.java" with
      name := .topLevelIn "" "Base"
      constructors := [] }
    let first : Round := ⟨[derived], []⟩
    let second : Round := ⟨[base], []⟩
    (start .default none).reportsOf [first, second] =
        [⟨.notAWorker, ⟨"TestWorker.java", 3, none⟩⟩] ∧
      (start .default none).reportsOf [first.join second] = [] := by
  decide +kernel

end Session

end AssistedWorkers
