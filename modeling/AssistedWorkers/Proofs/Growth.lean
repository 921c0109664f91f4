import AssistedWorkers.Proofs.Steps

/-!
# What rounds add to a run

A round accepts workers and generates at most one binding module.  From these two everything
else follows that it does to the workers, the registry, the kept binding module and the files,
and what it says of late workers and of modules that are not alone.  What holds of a whole run
is derived from that by induction on its rounds.

* `processRound_workers`, `processRound_emitted`, `processRound_generated` — how a round changes
  the session;
* `processRound_files`, `processRound_reports`, `processRound_late`, `processRound_several` — what
  comes out of it;
* `processRound_summary` — the totals after it;
* `after_append`, `filesOf_append`, `reportsOf_append` — a run may be cut between any two rounds;
* `after_induction` — a property that every round keeps holds after every run.
-/

namespace AssistedWorkers

open Java

namespace Session

/-! ### Runs -/

/-- The session after some rounds. -/
def after (s : Session) (rounds : List Round) : Session :=
  (s.processRounds rounds).1

/-- The files generated in some rounds, in the order in which they come out. -/
def filesOf (s : Session) (rounds : List Round) : List SourceFile :=
  (s.processRounds rounds).2.flatMap (·.files)

/-- The reports made in some rounds, in the order in which they come out. -/
def reportsOf (s : Session) (rounds : List Round) : List Report :=
  (s.processRounds rounds).2.flatMap (·.reports)

@[simp] theorem after_nil (s : Session) : s.after [] = s := rfl

/-- A run takes its first round and goes on with the others. -/
@[simp] theorem after_cons (s : Session) (r : Round) (rounds : List Round) :
    s.after (r :: rounds) = (s.processRound r).1.after rounds := rfl

@[simp] theorem filesOf_nil (s : Session) : s.filesOf [] = [] := rfl

@[simp] theorem filesOf_cons (s : Session) (r : Round) (rounds : List Round) :
    s.filesOf (r :: rounds) =
      (s.processRound r).2.files ++ (s.processRound r).1.filesOf rounds := rfl

@[simp] theorem reportsOf_nil (s : Session) : s.reportsOf [] = [] := rfl

@[simp] theorem reportsOf_cons (s : Session) (r : Round) (rounds : List Round) :
    s.reportsOf (r :: rounds) =
      (s.processRound r).2.reports ++ (s.processRound r).1.reportsOf rounds := rfl

/-- A run may be cut anywhere. -/
theorem after_append (s : Session) (earlier later : List Round) :
    s.after (earlier ++ later) = (s.after earlier).after later := by
  simp [after, processRounds_append]

/-- The files of the later rounds come after those of the earlier ones. -/
theorem filesOf_append (s : Session) (earlier later : List Round) :
    s.filesOf (earlier ++ later) = s.filesOf earlier ++ (s.after earlier).filesOf later := by
  simp [filesOf, after, processRounds_append]

/-- The reports of the later rounds come after those of the earlier ones. -/
theorem reportsOf_append (s : Session) (earlier later : List Round) :
    s.reportsOf (earlier ++ later) =
      s.reportsOf earlier ++ (s.after earlier).reportsOf later := by
  simp [reportsOf, after, processRounds_append]

/-- A property that every round of a run keeps holds after the run if it holds before. -/
theorem after_induction {P : Session → Prop} {rounds : List Round} {s : Session} (h : P s)
    (step : ∀ r ∈ rounds, ∀ s, P s → P (s.processRound r).1) : P (s.after rounds) := by
  induction rounds generalizing s with
  | nil => exact h
  | cons r rounds ih =>
    rw [after_cons]
    exact ih (step r List.mem_cons_self s h) fun q hq => step q (List.mem_cons_of_mem _ hq)

/-! ### Rounds -/

/-- The session when a round has begun and the supertypes of its classes are learned. -/
def begun (s : Session) (r : Round) : Session :=
  { s with
    hierarchy := r.classes.foldl (fun h c => h.record c.name c.supertypes) s.hierarchy
    summary.rounds := s.summary.rounds + 1 }

@[simp] theorem lateReports_begun (s : Session) (r : Round) :
    (s.begun r).lateReports = s.lateReports := rfl

/-- What comes out of the classes of a round. -/
def admitClasses (s : Session) (r : Round) : Session × Outcome :=
  foldSteps admitClass (s.begun r) (r.classes.filter (·.isInjected))

/-- The session when the classes of a round are gone over and its modules are counted. -/
def counted (s : Session) (r : Round) : Session :=
  ((s.admitClasses r).1.countModules r.modules).1

/-- The workers that a round accepts. -/
def accepted (s : Session) (r : Round) : List Worker :=
  (s.processRound r).1.workers.drop s.workers.length

/-- The binding module that a round generates. -/
def emittedIn (s : Session) (r : Round) : Option BindingModule :=
  if s.emitted.isSome then none else (s.processRound r).1.emitted

/-- Learning supertypes changes the hierarchy only. -/
theorem foldl_learn (s : Session) (cs : List ListedClass) :
    cs.foldl learn s =
      { s with hierarchy := cs.foldl (fun h c => h.record c.name c.supertypes) s.hierarchy } := by
  induction cs generalizing s with
  | nil => rfl
  | cons c cs ih => rw [List.foldl_cons, ih]; rfl

/-- A round goes over its classes, counts its modules and goes over these. -/
theorem processRound_eq (s : Session) (r : Round) :
    s.processRound r =
      let modules := foldSteps admitModule (s.counted r) r.modules
      let outcome := (s.admitClasses r).2 ++
        ((s.admitClasses r).1.countModules r.modules).2 ++ modules.2
      ({ modules.1 with summary := modules.1.totals outcome },
        ⟨[], [], [.round (s.summary.rounds + 1) r.classes.length r.modules.length]⟩ ++
          outcome) := by
  simp only [processRound, admitRound, foldl_learn]
  rfl

/-- Counting modules changes the census only, and says of modules at most that they are not
alone. -/
theorem countModules_eq (s : Session) (ls : List ListedModule) :
    s.countModules ls =
      ({ s with census := (s.census.record ls).1 }, ⟨[], (s.census.record ls).2, []⟩) :=
  rfl

/-- Counting modules reports nothing but that there are several. -/
theorem isNotBound_of_mem_record {census : ModuleCensus} {ls : List ListedModule} {r : Report}
    (hr : r ∈ (census.record ls).2) : r.isNotBound = false ∧ r.isSeveralModules = true := by
  simp only [ModuleCensus.record, List.mem_map] at hr
  obtain ⟨p, -, rfl⟩ := hr
  exact ⟨rfl, rfl⟩

/-- What a round accepts when it goes over its classes. -/
theorem accepting_admitClasses (s : Session) (r : Round) :
    Accepting (s.begun r) (r.classes.filter (·.isInjected)) (s.accepted r)
      (s.admitClasses r) := by
  obtain ⟨ws, hws⟩ := exists_accepting_foldSteps (s.begun r) (r.classes.filter (·.isInjected))
  have hcounted : (s.counted r).workers = s.workers ++ ws := by
    change (s.admitClasses r).1.workers = s.workers ++ ws
    rw [admitClasses, hws.session_eq]
    rfl
  have haccepted : s.accepted r = ws := by
    rw [accepted, processRound_eq]
    dsimp only
    rw [(emitting_foldSteps _ _).session_eq]
    change (s.counted r).workers.drop s.workers.length = ws
    rw [hcounted, List.drop_left]
  exact haccepted ▸ hws

/-- The session when the modules of a round are counted. -/
theorem counted_eq (s : Session) (r : Round) :
    s.counted r = { (s.begun r).withWorkers (s.accepted r) with
      census := (s.census.record r.modules).1 } := by
  rw [counted, countModules_eq, (s.accepting_admitClasses r).session_eq]
  rfl

/-- The binding module of a round is the one that is generated when it goes over its modules. -/
theorem emittedIn_eq_emission (s : Session) (r : Round) :
    s.emittedIn r = (s.counted r).emission r.modules := by
  have hcounted : (s.counted r).emitted = s.emitted := by
    rw [counted_eq]
    rfl
  rw [emittedIn, processRound_eq]
  dsimp only
  rw [(emitting_foldSteps _ _).session_eq]
  cases he : s.emitted with
  | none => simp [withModule, hcounted, he]
  | some m => simp [emission_of_isSome, hcounted, he]

/-- What a round generates when it goes over its modules. -/
theorem emitting_modules (s : Session) (r : Round) :
    Emitting (s.counted r) (s.emittedIn r)
      (foldSteps admitModule (s.counted r) r.modules) := by
  rw [emittedIn_eq_emission]
  exact emitting_foldSteps _ _

/-- The state that a round ends in, its totals apart. -/
theorem processRound_session (s : Session) (r : Round) :
    ∃ summary, (s.processRound r).1 =
      { ((s.begun r).withWorkers (s.accepted r)).withModule (s.emittedIn r) with
        census := (s.census.record r.modules).1
        summary } := by
  have hws := s.accepting_admitClasses r
  have hms := s.emitting_modules r
  refine ⟨(s.processRound r).1.summary, ?_⟩
  rw [processRound_eq]
  dsimp only
  rw [hms.session_eq, counted, countModules_eq, hws.session_eq]
  rfl

/-- A round does not change the options. -/
@[simp] theorem processRound_options (s : Session) (r : Round) :
    (s.processRound r).1.options = s.options := by
  obtain ⟨summary, h⟩ := s.processRound_session r
  rw [h]
  rfl

@[simp] theorem processRound_style (s : Session) (r : Round) :
    (s.processRound r).1.style = s.style := by
  simp [style]

/-- A round does not change the marker. -/
@[simp] theorem processRound_marker (s : Session) (r : Round) :
    (s.processRound r).1.marker = s.marker := by
  obtain ⟨summary, h⟩ := s.processRound_session r
  rw [h]
  rfl

/-- A round learns the supertypes of its classes. -/
theorem processRound_hierarchy (s : Session) (r : Round) :
    (s.processRound r).1.hierarchy = (s.begun r).hierarchy := by
  obtain ⟨summary, h⟩ := s.processRound_session r
  rw [h]
  rfl

/-- A round appends the workers that it accepts. -/
theorem processRound_workers (s : Session) (r : Round) :
    (s.processRound r).1.workers = s.workers ++ s.accepted r := by
  obtain ⟨summary, h⟩ := s.processRound_session r
  rw [h]
  rfl

/-- A round keeps a binding module, or else keeps the one that it generates. -/
theorem processRound_emitted (s : Session) (r : Round) :
    (s.processRound r).1.emitted = s.emitted.or (s.emittedIn r) := by
  obtain ⟨summary, h⟩ := s.processRound_session r
  rw [h]
  rfl

/-- A round that generates a binding module had none, and keeps it. -/
theorem emitted_of_emittedIn_eq_some {s : Session} {r : Round} {m : BindingModule}
    (h : s.emittedIn r = some m) : s.emitted = none ∧ (s.processRound r).1.emitted = some m := by
  cases he : s.emitted with
  | none => exact ⟨rfl, by rw [processRound_emitted, he, h, Option.none_or]⟩
  | some n => simp [emittedIn, he] at h

/-- A round registers what it generates. -/
theorem processRound_generated (s : Session) (r : Round) :
    (s.processRound r).1.generated = s.generated ++
      (s.accepted r).map (fun w => (s.style.factoryName w.owner, w.owner)) ++
      (s.emittedIn r).toList.map fun m => (m.generatedName, m.owner) := by
  obtain ⟨summary, h⟩ := s.processRound_session r
  rw [h]
  rfl

/-- What comes out of a round as files: factories first, then the binding module. -/
theorem processRound_files (s : Session) (r : Round) :
    (s.processRound r).2.files = (s.accepted r).map (·.factory s.style s.marker) ++
      (s.emittedIn r).toList.map
        (·.source s.style s.marker (s.workers ++ s.accepted r)) := by
  have hws := s.accepting_admitClasses r
  have hms := s.emitting_modules r
  rw [processRound_eq]
  simp only [Outcome.append_def, countModules_eq, hws.files_eq, hms.files_eq]
  rw [counted_eq]
  simp [begun, withWorkers, style]

/-- What a round reports: first about its classes, then about the number of modules, and at last
about single modules. -/
theorem processRound_reports (s : Session) (r : Round) :
    (s.processRound r).2.reports = (s.admitClasses r).2.reports ++
      (s.census.record r.modules).2 ++
      (foldSteps admitModule (s.counted r) r.modules).2.reports := by
  have hcensus : (s.admitClasses r).1.census = s.census := by
    rw [(s.accepting_admitClasses r).session_eq]
    rfl
  rw [processRound_eq]
  simp only [Outcome.append_def, countModules_eq, hcensus, List.nil_append]

/-- The workers of a round that come too late are reported in their order, and nobody else. -/
theorem processRound_late (s : Session) (r : Round) :
    (s.processRound r).2.reports.filter (·.isNotBound) = (s.accepted r).flatMap s.lateReports := by
  have hcount : (s.census.record r.modules).2.filter (·.isNotBound) = [] :=
    List.filter_eq_nil_iff.2 fun r hr => by simp [isNotBound_of_mem_record hr]
  rw [processRound_reports, List.filter_append, List.filter_append, hcount,
    (s.accepting_admitClasses r).late_eq, (s.emitting_modules r).not_late]
  simp

/-- The modules that are not alone are reported when they are counted and at no other time. -/
theorem processRound_several (s : Session) (r : Round) :
    (s.processRound r).2.reports.filter (·.isSeveralModules) =
      (s.census.record r.modules).2 := by
  have hcount : (s.census.record r.modules).2.filter (·.isSeveralModules) =
      (s.census.record r.modules).2 :=
    List.filter_eq_self.2 fun r hr => (isNotBound_of_mem_record hr).2
  rw [processRound_reports, List.filter_append, List.filter_append, hcount,
    (s.accepting_admitClasses r).not_several, (s.emitting_modules r).not_several,
    List.nil_append, List.append_nil]

/-- A round counts its modules. -/
theorem processRound_census (s : Session) (r : Round) :
    (s.processRound r).1.census = (s.census.record r.modules).1 := by
  obtain ⟨summary, h⟩ := s.processRound_session r
  rw [h]

/-- The totals after a round: the round is counted, and what came out of it. -/
theorem processRound_summary (s : Session) (r : Round) :
    (s.processRound r).1.summary = {
      rounds := s.summary.rounds + 1
      workers := (s.processRound r).1.workers.length
      modules := (s.processRound r).1.census.seen.length
      files := s.summary.files + (s.processRound r).2.files.length
      errors := s.summary.errors + (s.processRound r).2.reports.countP Report.isError
      warnings := s.summary.warnings + (s.processRound r).2.reports.countP (!·.isError) } := by
  have hsummary : (foldSteps admitModule (s.counted r) r.modules).1.summary =
      (s.begun r).summary := by
    rw [(s.emitting_modules r).session_eq, counted_eq]
    rfl
  rw [processRound_eq]
  simp only [totals, hsummary, Outcome.append_def, List.nil_append]
  rfl

/-- What is recorded of a list of classes are their edges, each from the class to a supertype. -/
theorem mem_foldl_record {h : Hierarchy} {cs : List ListedClass} {edge : ClassName × ClassName} :
    edge ∈ (cs.foldl (fun h c => h.record c.name c.supertypes) h).edges ↔
      edge ∈ h.edges ∨ ∃ c ∈ cs, edge.1 = c.name ∧ edge.2 ∈ c.supertypes := by
  induction cs generalizing h with
  | nil => simp
  | cons c cs ih =>
    rw [List.foldl_cons, ih, Hierarchy.mem_record, or_assoc]
    simp only [List.mem_cons, exists_eq_or_imp]

/-- A round learns the supertypes of its classes and no others. -/
theorem mem_processRound_hierarchy {s : Session} {r : Round} {edge : ClassName × ClassName} :
    edge ∈ (s.processRound r).1.hierarchy.edges ↔
      edge ∈ s.hierarchy.edges ∨ ∃ c ∈ r.classes, edge.1 = c.name ∧ edge.2 ∈ c.supertypes := by
  rw [processRound_hierarchy]
  exact mem_foldl_record

/-- Names that are generated stay distinct. -/
theorem processRound_generatedNames_nodup {s : Session} (h : s.generatedNames.Nodup) (r : Round) :
    (s.processRound r).1.generatedNames.Nodup := by
  have hws := s.accepting_admitClasses r
  have hms := s.emitting_modules r
  have hcounted : (s.counted r).generatedNames.Nodup := by
    rw [counted]
    exact hws.names_nodup h
  rw [processRound_eq]
  exact hms.names_nodup hcounted

end Session

end AssistedWorkers
