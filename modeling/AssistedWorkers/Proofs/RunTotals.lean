import AssistedWorkers.Proofs.SoleModule
import Mathlib.Data.Finset.Card

/-!
# The totals of a run

A session keeps totals over the rounds of a run.  Rounds, files, errors and warnings are added up
round by round, while workers and modules are counted anew from the state at the end of each
round.  That both give the same picture is a matter of the registry: every file that comes out
has one entry there, for an accepted worker or for the binding module.

* `after_summary` — what rounds add to the totals that are added up;
* `tallied_after` — the totals that are counted anew, and the entries of the registry;
* `length_firstDeclarations` — the census counts distinct modules;
* `totals_of_run` — all totals of a run, against what came out of it.
-/

namespace AssistedWorkers

open Java

/-- There are as many first declarations as there are distinct modules. -/
theorem ListedModule.length_firstDeclarations (ls : List ListedModule) :
    (firstDeclarations ls).length = (ls.map (·.name)).toFinset.card := by
  have hnames : (ls.map (·.name)).toFinset = ((firstDeclarations ls).map (·.name)).toFinset := by
    ext name
    have hany := any_firstDeclarations ls name
    rw [Bool.eq_iff_iff, List.any_eq_true, List.any_eq_true] at hany
    simpa using hany.symm
  rw [hnames, List.toFinset_card_of_nodup (firstDeclarations_names_nodup ls), List.length_map]

namespace Session

/-- Rounds, files, errors and warnings are added up over a run. -/
theorem after_summary (s : Session) (rounds : List Round) :
    (s.after rounds).summary.rounds = s.summary.rounds + rounds.length ∧
    (s.after rounds).summary.files = s.summary.files + (s.filesOf rounds).length ∧
    (s.after rounds).summary.errors =
      s.summary.errors + (s.reportsOf rounds).countP Report.isError ∧
    (s.after rounds).summary.warnings =
      s.summary.warnings + (s.reportsOf rounds).countP (!·.isError) := by
  induction rounds generalizing s with
  | nil => exact ⟨rfl, rfl, rfl, rfl⟩
  | cons r rounds ih =>
    obtain ⟨hrounds, hfiles, herrors, hwarnings⟩ := ih (s.processRound r).1
    rw [after_cons, hrounds, hfiles, herrors, hwarnings, processRound_summary, filesOf_cons,
      reportsOf_cons]
    simp only [List.length_cons, List.length_append, List.countP_append]
    omega

/-- The totals that are counted anew agree with the state, and the registry has an entry for each
worker and one for the binding module. -/
structure Tallied (s : Session) : Prop where
  workers_eq : s.summary.workers = s.workers.length
  modules_eq : s.summary.modules = s.census.seen.length
  generated_length : s.generated.length = s.workers.length + s.emitted.toList.length

/-- A round counts its workers and modules, and registers what it generates. -/
theorem Tallied.processRound {s : Session} (h : s.Tallied) (r : Round) :
    (s.processRound r).1.Tallied where
  workers_eq := by rw [processRound_summary]
  modules_eq := by rw [processRound_summary]
  generated_length := by
    have hemitted : (s.processRound r).1.emitted.toList.length =
        s.emitted.toList.length + (s.emittedIn r).toList.length := by
      rw [processRound_emitted]
      cases hm : s.emittedIn r with
      | none => simp
      | some m => simp [(emitted_of_emittedIn_eq_some hm).1]
    rw [hemitted, processRound_generated, processRound_workers]
    simp only [List.length_append, List.length_map, h.generated_length]
    omega

/-- The counts agree with the state after every run. -/
theorem tallied_after (options : Options) (marker : Option AnnotationUse) (rounds : List Round) :
    ((start options marker).after rounds).Tallied :=
  after_induction (P := Tallied) ⟨rfl, rfl, rfl⟩ fun r _ _ h => h.processRound r

/-- An error is reported in a run when one of its rounds has an error. -/
theorem countP_isError_reportsOf_pos_iff (s : Session) (rounds : List Round) :
    0 < (s.reportsOf rounds).countP Report.isError ↔
      ∃ outcome ∈ (s.processRounds rounds).2, outcome.hasErrors = true := by
  simp only [List.countP_pos_iff, reportsOf, List.mem_flatMap, Outcome.hasErrors, List.any_eq_true]
  grind

/-- **The totals are exact.**  Take any run that starts afresh.  Its rounds, errors, warnings and
files are those that it was given and that came out of it; the files are as many as its workers
and its binding module, if there is one, and as many as the names in the registry, which are
distinct; its modules are the distinct ones that were declared.  The run has failed when one of
its outcomes has an error.  To reset the session is to start the next run afresh. -/
theorem totals_of_run (options : Options) (marker : Option AnnotationUse) (rounds : List Round) :
    let s := start options marker
    let last := s.after rounds
    let diagnostics := (s.reportsOf rounds).map Report.diagnostic
    last.summary.rounds = rounds.length ∧
    last.summary.errors = diagnostics.countP Diagnostic.isError ∧
    last.summary.warnings = diagnostics.countP (!·.isError) ∧
    last.summary.files = (s.filesOf rounds).length ∧
    last.summary.files = last.workers.length + (if last.emitted.isSome then 1 else 0) ∧
    last.summary.files = last.generated.length ∧ last.generatedNames.Nodup ∧
    last.summary.workers = last.workers.length ∧
    last.summary.modules = ((declarationsIn rounds).map (·.name)).toFinset.card ∧
    (last.summary.isSuccess = false ↔
      ∃ outcome ∈ (s.processRounds rounds).2, outcome.hasErrors = true) ∧
    last.reset = s := by
  intro s last diagnostics
  have htallied : last.Tallied := tallied_after options marker rounds
  have hzero : s.summary = .zero := rfl
  obtain ⟨hrounds, hfiles, herrors, hwarnings⟩ := s.after_summary rounds
  simp only [hzero, Summary.zero, Nat.zero_add] at hrounds hfiles herrors hwarnings
  have hnames : last.generated.length = (s.filesOf rounds).length := by
    have h := congrArg List.length (s.generatedNames_after rounds)
    rwa [start_generatedNames, List.nil_append, generatedNames, List.length_map,
      List.length_map] at h
  have hmodules : last.census.seen.length =
      ((declarationsIn rounds).map (·.name)).toFinset.card := by
    have hcounts := counts_after (s := s) ModuleCensus.counts_empty rounds
    rw [hcounts.seen_eq, List.length_map, List.nil_append, ListedModule.length_firstDeclarations]
  have hone : last.emitted.toList.length = if last.emitted.isSome then 1 else 0 := by
    cases last.emitted <;> rfl
  refine ⟨hrounds, ?errors, ?warnings, hfiles, ?parts, hfiles.trans hnames.symm,
    generatedNames_nodup options marker rounds, htallied.workers_eq,
    htallied.modules_eq.trans hmodules, ?success, ?reset⟩
  case errors =>
    rw [List.countP_map]
    exact herrors.trans (List.countP_congr fun r _ => by rw [Function.comp, r.isError_diagnostic])
  case warnings =>
    rw [List.countP_map]
    exact hwarnings.trans (List.countP_congr fun r _ => by rw [Function.comp, r.isError_diagnostic])
  case parts => rw [← hone, ← htallied.generated_length]; exact hfiles.trans hnames.symm
  case success =>
    rw [← countP_isError_reportsOf_pos_iff, ← herrors, Summary.isSuccess, beq_eq_false_iff_ne]
    exact Nat.pos_iff_ne_zero.symm
  case reset =>
    rw [reset, show last.options = options by simp [last, s, start],
      show last.marker = marker by simp [last, s]]

end Session

end AssistedWorkers
