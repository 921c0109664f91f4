import AssistedWorkers.Proofs.Diagnostics
import AssistedWorkers.Proofs.Registry

/-!
# Every worker is made and bound once

A worker that a run accepts gets one factory, in the round that accepts it.  The binding module,
once it is generated, binds the workers accepted so far, each under its own key and by its own
factory.  A worker that comes later is not in it, and is reported once for that.

* `bindings_source` — what a binding module binds;
* `after_workers_nodup` — no class is accepted as a worker twice;
* `diagnosticsOf_of_isBindingModule` — whom a host is told of afterwards;
* `workers_made_and_bound_once` — the three statements above, for every round of every run.
-/

namespace AssistedWorkers

open Java

/-- Whether the report is that the worker `owner` came too late for the binding module. -/
def Report.isNotBoundFor (owner : ClassName) (r : Report) : Bool :=
  match r.finding with
  | .notBound worker _ => worker == owner
  | _ => false

theorem Report.isNotBound_of_isNotBoundFor {owner : ClassName} {r : Report}
    (h : r.isNotBoundFor owner = true) : r.isNotBound = true := by
  unfold isNotBoundFor at h
  unfold isNotBound
  cases hr : r.finding <;> simp_all

namespace Java

/-- The text of the annotation `@StringKey` that a method has. -/
def Method.stringKey? (m : Method) : Option String :=
  m.annotations.findSome? fun a =>
    match a.members with
    | [("value", .text key)] =>
      if a.type = .topLevelIn "dagger.multibindings" "StringKey" then some key else none
    | _ => none

/-- The string key and the parameter types of each method of a file, constructors apart. -/
def SourceFile.bindings (file : SourceFile) : List (Option String × List JavaType) :=
  (file.declaration.methods.filter (!·.isConstructor)).map fun m =>
    (m.stringKey?, m.parameters.map (·.type))

end Java

namespace BindingModule

/-- Each method binds the factory of a worker under the key of the worker. -/
theorem bindMethods_eq (style : NestingStyle) (taken : List String)
    (keyed : List (String × Worker)) :
    ((bindMethods style taken keyed).filter (!·.isConstructor)).map
        (fun m => (m.stringKey?, m.parameters.map (·.type))) =
      keyed.map fun p => (some p.1, [.named (style.factoryName p.2.owner)]) := by
  induction keyed generalizing taken with
  | nil => rfl
  | cons p keyed ih =>
    obtain ⟨key, w⟩ := p
    have hkey : ∀ name, (bindMethod style name key w).stringKey? = some key := by
      intro name
      have hclass : Framework.stringKey = .topLevelIn "dagger.multibindings" "StringKey" := rfl
      simp [bindMethod, Method.stringKey?, AnnotationUse.marker, AnnotationUse.withText, hclass]
    have hmethod : ∀ name, (bindMethod style name key w).isConstructor = false := fun _ => rfl
    simp only [bindMethods, List.filter_cons, hmethod, Bool.not_false, if_true, List.map_cons, ih,
      hkey]
    rfl

/-- A binding module binds the given workers, each once. -/
theorem bindings_source (style : NestingStyle) (marker : Option AnnotationUse) (ws : List Worker)
    (m : BindingModule) :
    (m.source style marker ws).bindings.Perm (ws.map fun w =>
      (some (style.bindingKey w.owner), [.named (style.factoryName w.owner)])) := by
  have hsource : (m.source style marker ws).bindings =
      (keyed style ws).map fun p => (some p.1, [.named (style.factoryName p.2.owner)]) :=
    bindMethods_eq style [] (keyed style ws)
  rw [hsource]
  have h := (keyed_perm style ws).map
    fun p => (some p.1, [JavaType.named (style.factoryName p.2.owner)])
  rwa [List.map_map] at h

end BindingModule

namespace Session

/-- The workers that some rounds accept. -/
def acceptedOf (s : Session) (rounds : List Round) : List Worker :=
  (s.after rounds).workers.drop s.workers.length

theorem after_workers (s : Session) (rounds : List Round) :
    (s.after rounds).workers = s.workers ++ s.acceptedOf rounds := by
  obtain ⟨ws, h⟩ := s.workers_prefix_after rounds
  rw [acceptedOf, ← h, List.drop_left]

theorem acceptedOf_cons (s : Session) (r : Round) (rounds : List Round) :
    s.acceptedOf (r :: rounds) = s.accepted r ++ (s.processRound r).1.acceptedOf rounds := by
  have h : s.workers ++ s.acceptedOf (r :: rounds) =
      s.workers ++ (s.accepted r ++ (s.processRound r).1.acceptedOf rounds) := by
    rw [← after_workers, after_cons, after_workers, processRound_workers, List.append_assoc]
  exact List.append_cancel_left h

/-- The factories of all workers are registered. -/
theorem factoryNames_sublist (options : Options) (marker : Option AnnotationUse)
    (rounds : List Round) :
    (((start options marker).after rounds).workers.map
        fun w => options.nestingStyle.factoryName w.owner).Sublist
      ((start options marker).after rounds).generatedNames := by
  let Registered : Session → Prop := fun t => t.style = options.nestingStyle ∧
    (t.workers.map fun w => options.nestingStyle.factoryName w.owner).Sublist t.generatedNames
  have hround : ∀ r ∈ rounds, ∀ t, Registered t → Registered (t.processRound r).1 := by
    rintro r - t ⟨hstyle, hsub⟩
    refine ⟨by simp [hstyle], ?_⟩
    rw [processRound_workers, generatedNames, processRound_generated, List.append_assoc,
      List.map_append, List.map_append]
    apply hsub.append
    simp [hstyle, Function.comp_def]
  exact (after_induction (P := Registered) ⟨rfl, List.Sublist.refl _⟩ hround).2

/-- No class is accepted as a worker twice. -/
theorem after_workers_nodup (options : Options) (marker : Option AnnotationUse)
    (rounds : List Round) :
    (((start options marker).after rounds).workers.map (·.owner)).Nodup := by
  have h := (factoryNames_sublist options marker rounds).nodup
    (generatedNames_nodup options marker rounds)
  have hmap : (((start options marker).after rounds).workers.map (·.owner)).map
      options.nestingStyle.factoryName =
      ((start options marker).after rounds).workers.map
        fun w => options.nestingStyle.factoryName w.owner := by
    simp [Function.comp_def]
  rw [← hmap] at h
  exact List.Pairwise.of_map _ (fun a b hne heq => hne (heq ▸ rfl)) h

/-- No class is accepted as a worker twice in one round. -/
theorem accepted_owners_nodup (options : Options) (marker : Option AnnotationUse)
    (earlier : List Round) (r : Round) :
    ((((start options marker).after earlier).accepted r).map (·.owner)).Nodup := by
  have h := after_workers_nodup options marker (earlier ++ [r])
  rw [after_append, after_cons, after_nil, processRound_workers, List.map_append] at h
  exact (List.nodup_append.1 h).2.1

/-- Among reports about late workers of different classes there is one about each. -/
theorem filter_isNotBoundFor_eq {ws : List Worker} (h : (ws.map (·.owner)).Nodup) {w : Worker}
    (hw : w ∈ ws) (module : ClassName) :
    (ws.map fun v => (⟨.notBound v.owner module, v.location⟩ : Report)).filter
        (·.isNotBoundFor w.owner) = [⟨.notBound w.owner module, w.location⟩] := by
  have habout : (fun report : Report => report.isNotBoundFor w.owner) ∘
      (fun v : Worker => (⟨.notBound v.owner module, v.location⟩ : Report)) =
      fun v => decide (v.owner = w.owner) := rfl
  rw [List.filter_map, habout, filter_eq_singleton_of_nodup h hw]
  rfl

/-- A worker is reported as late at most in the round that accepts it. -/
theorem owner_mem_of_isNotBoundFor {s : Session} {rounds : List Round} {report : Report}
    {owner : ClassName} (hreport : report ∈ s.reportsOf rounds)
    (h : report.isNotBoundFor owner = true) :
    owner ∈ (s.acceptedOf rounds).map (·.owner) := by
  induction rounds generalizing s with
  | nil => simp at hreport
  | cons r rounds ih =>
    rw [acceptedOf_cons, List.map_append]
    rw [reportsOf_cons] at hreport
    rcases List.mem_append.1 hreport with hreport | hreport
    · have hlate : report ∈ (s.accepted r).flatMap s.lateReports := by
        rw [← processRound_late]
        exact List.mem_filter.2 ⟨hreport, Report.isNotBound_of_isNotBoundFor h⟩
      obtain ⟨w, hw, hwr⟩ := List.mem_flatMap.1 hlate
      have howner : w.owner = owner := by
        unfold lateReports at hwr
        split at hwr
        · simp at hwr
        · obtain rfl := List.mem_singleton.1 hwr
          simpa [Report.isNotBoundFor] using h
      exact List.mem_append_left _ (List.mem_map.2 ⟨w, hw, howner⟩)
    · exact List.mem_append_right _ (ih hreport)

/-- The class of the binding module that a run generated. -/
theorem className_eq_of_isBindingModule {options : Options} {marker : Option AnnotationUse}
    {rounds : List Round} {file : SourceFile}
    (hfile : file ∈ (start options marker).filesOf rounds) (h : file.isBindingModule = true) :
    ∃ m, ((start options marker).after rounds).emitted = some m ∧
      file.className = m.generatedName := by
  obtain ⟨m, ws, hm, rfl⟩ := exists_source_of_isBindingModule hfile h
  rcases exists_of_emitted_after hm with hstart | ⟨r, -, l, -, hl⟩
  · simp at hstart
  · exact ⟨m, hm, BindingModule.className_source hl _ _ _⟩

/-- What a round says of late workers when there is a binding module. -/
theorem processRound_late_of_eq_some {s : Session} {m : BindingModule} (h : s.emitted = some m)
    (r : Round) :
    (s.processRound r).2.reports.filter (·.isNotBound) =
      (s.accepted r).map fun w => ⟨.notBound w.owner m.generatedName, w.location⟩ := by
  have hlate : s.lateReports = fun w => [⟨.notBound w.owner m.generatedName, w.location⟩] := by
    funext w
    simp [lateReports, h]
  rw [processRound_late, hlate, List.map_eq_flatMap]

/-- What a round says of late workers when there is no binding module. -/
theorem processRound_late_of_eq_none {s : Session} (h : s.emitted = none) (r : Round) :
    (s.processRound r).2.reports.filter (·.isNotBound) = [] := by
  have hlate : s.lateReports = fun _ => [] := by
    funext w
    simp [lateReports, h]
  rw [processRound_late, hlate]
  simp

/-- A worker is reported as late in the round that accepts it or never. -/
theorem reportsOf_filter_eq {options : Options} {marker : Option AnnotationUse}
    {earlier later : List Round} {r : Round} {w : Worker}
    (hw : w ∈ ((start options marker).after earlier).accepted r) :
    ((start options marker).reportsOf (earlier ++ r :: later)).filter (·.isNotBoundFor w.owner) =
      ((((start options marker).after earlier).processRound r).2.reports.filter
        (·.isNotBound)).filter (·.isNotBoundFor w.owner) := by
  have hnodup := after_workers_nodup options marker (earlier ++ r :: later)
  rw [after_append, after_workers, after_workers, start_workers, List.nil_append, acceptedOf_cons,
    List.map_append, List.map_append, List.nodup_append, List.nodup_append] at hnodup
  obtain ⟨-, ⟨-, -, hlater⟩, hearlier⟩ := hnodup
  have hmem : w.owner ∈ (((start options marker).after earlier).accepted r).map (·.owner) :=
    List.mem_map_of_mem hw
  -- Reports about `w.owner` in other rounds would have another worker with that owner accepted.
  have hbefore : ((start options marker).reportsOf earlier).filter
      (·.isNotBoundFor w.owner) = [] :=
    List.filter_eq_nil_iff.2 fun report hreport h =>
      hearlier _ (owner_mem_of_isNotBoundFor hreport h) _ (List.mem_append_left _ hmem) rfl
  have hafter : ((((start options marker).after earlier).processRound r).1.reportsOf later).filter
      (·.isNotBoundFor w.owner) = [] :=
    List.filter_eq_nil_iff.2 fun report hreport h =>
      hlater _ hmem _ (owner_mem_of_isNotBoundFor hreport h) rfl
  rw [reportsOf_append, reportsOf_cons, List.filter_append, List.filter_append, hbefore, hafter,
    List.filter_filter]
  simp only [List.nil_append, List.append_nil]
  apply List.filter_congr
  intro report _
  cases h : report.isNotBoundFor w.owner with
  | false => rfl
  | true => simp [Report.isNotBound_of_isNotBoundFor h]

/-- When there is a binding module, a run reports each worker that it accepts as late. -/
theorem reportsOf_late_of_eq_some {s : Session} {m : BindingModule} (h : s.emitted = some m)
    (rounds : List Round) :
    (s.reportsOf rounds).filter (·.isNotBound) =
      (s.acceptedOf rounds).map fun w => ⟨.notBound w.owner m.generatedName, w.location⟩ := by
  induction rounds generalizing s with
  | nil => simp [acceptedOf]
  | cons r rounds ih =>
    have hnext : (s.processRound r).1.emitted = some m := by
      rw [processRound_emitted, h, Option.some_or]
    rw [reportsOf_cons, List.filter_append, processRound_late_of_eq_some h, ih hnext,
      acceptedOf_cons, List.map_append]

/-- A run that generates no binding module reports no worker as late. -/
theorem reportsOf_late_of_eq_none {s : Session} {rounds : List Round}
    (h : (s.after rounds).emitted = none) : (s.reportsOf rounds).filter (·.isNotBound) = [] := by
  induction rounds generalizing s with
  | nil => rfl
  | cons r rounds ih =>
    have hs : s.emitted = none := by
      cases he : s.emitted with
      | none => rfl
      | some m => rw [emitted_after_of_eq_some he] at h; simp at h
    rw [reportsOf_cons, List.filter_append, processRound_late_of_eq_none hs, ih h]
    rfl

/-- The factory of a worker is the only file of the run that declares its class, and comes out of
the round that accepts the worker. -/
theorem filesOf_filter_factoryName {options : Options} {marker : Option AnnotationUse}
    {earlier later : List Round} {r : Round} {w : Worker}
    (hw : w ∈ ((start options marker).after earlier).accepted r) :
    (((start options marker).after earlier).processRound r).2.files.filter
        (·.className = options.nestingStyle.factoryName w.owner) =
      [w.factory options.nestingStyle marker] ∧
    ((start options marker).filesOf (earlier ++ r :: later)).filter
        (·.className = options.nestingStyle.factoryName w.owner) =
      [w.factory options.nestingStyle marker] := by
  have hnodup := classNames_nodup options marker (earlier ++ r :: later)
  have hround : w.factory options.nestingStyle marker ∈
      (((start options marker).after earlier).processRound r).2.files := by
    rw [processRound_files]
    apply List.mem_append_left
    simpa using List.mem_map_of_mem hw
  have hrun : w.factory options.nestingStyle marker ∈
      (start options marker).filesOf (earlier ++ r :: later) := by
    rw [filesOf_append, filesOf_cons]
    exact List.mem_append_right _ (List.mem_append_left _ hround)
  refine ⟨?_, filter_eq_singleton_of_nodup hnodup hrun⟩
  rw [filesOf_append, filesOf_cons, List.map_append, List.map_append] at hnodup
  exact filter_eq_singleton_of_nodup
    (List.nodup_append.1 (List.nodup_append.1 hnodup).2.1).1 hround

/-- The binding module that comes out of a round binds the workers accepted so far. -/
theorem bindings_of_isBindingModule {s : Session} {r : Round} {file : SourceFile}
    (hfile : file ∈ (s.processRound r).2.files) (h : file.isBindingModule = true) :
    file.bindings.Perm ((s.processRound r).1.workers.map fun w =>
      (some (s.style.bindingKey w.owner), [.named (s.style.factoryName w.owner)])) := by
  obtain ⟨m, -, rfl⟩ := exists_source_of_mem_processRound hfile h
  exact BindingModule.bindings_source _ _ _ _

/-- A binding module that comes out of a round is the first one, and is kept. -/
theorem emitted_of_isBindingModule {s : Session} {r : Round} {file : SourceFile}
    (hfile : file ∈ (s.processRound r).2.files) (h : file.isBindingModule = true) :
    s.emitted = none ∧ ∃ m, (s.processRound r).1.emitted = some m ∧
      file.className = m.generatedName := by
  obtain ⟨m, hm, rfl⟩ := exists_source_of_mem_processRound hfile h
  obtain ⟨l, -, hl⟩ := exists_of_emittedIn_eq_some hm
  have hnone : s.emitted = none := by
    cases he : s.emitted with
    | none => rfl
    | some _ => simp [emittedIn, he] at hm
  refine ⟨hnone, m, ?_, BindingModule.className_source hl _ _ _⟩
  rw [processRound_emitted, hnone, hm, Option.none_or]

/-- What a host reads of workers that come too late. -/
theorem diagnostics_late (module : ClassName) (ws : List Worker) :
    (ws.map fun w => (⟨.notBound w.owner module, w.location⟩ : Report)).map Report.diagnostic =
      ws.map fun w => .notBound w.owner module w.location := by
  rw [List.map_map]
  exact List.map_congr_left fun w _ => Report.diagnostic_notBound w.owner module w.location

/-- Whom a host is told of after a binding module came out of a round: of each worker that is
accepted later, and of nobody else. -/
theorem diagnosticsOf_of_isBindingModule {options : Options} {marker : Option AnnotationUse}
    {earlier later : List Round} {r : Round} {file : SourceFile}
    (hfile : file ∈ (((start options marker).after earlier).processRound r).2.files)
    (h : file.isBindingModule = true) :
    ((start options marker).diagnosticsOf (earlier ++ r :: later)).filter (·.saysNotBound) =
      ((((start options marker).after earlier).processRound r).1.acceptedOf later).map
        fun w => .notBound w.owner file.className w.location := by
  obtain ⟨hnone, m, hm, hname⟩ := emitted_of_isBindingModule hfile h
  rw [diagnosticsOf_eq, filter_saysNotBound, reportsOf_append, reportsOf_cons, List.filter_append,
    List.filter_append, reportsOf_late_of_eq_none hnone, processRound_late_of_eq_none hnone,
    reportsOf_late_of_eq_some hm, List.nil_append, List.nil_append, diagnostics_late, hname]

/-- **Every worker is made and bound once.**  Take any round of any run that starts afresh.  The
round appends the workers that it accepts, and each of them has one factory among all files of
the run, which comes out of this round.  If a binding module comes out of the round, it binds
the workers accepted so far and nothing else, and what a host reads over the whole run of workers
that are not bound is one warning for each worker accepted afterwards.  If a binding module came
out of an earlier round, a host reads that each worker that the round accepts is not bound in it,
at the place of the worker, in this round and in no other one; if none did, neither this round
says such a thing nor any round says it of a worker accepted here. -/
theorem workers_made_and_bound_once (options : Options) (marker : Option AnnotationUse)
    (earlier : List Round) (r : Round) (later : List Round) :
    let s := start options marker
    let before := s.after earlier
    let next := before.processRound r
    let run := earlier ++ r :: later
    let style := options.nestingStyle
    let late : ClassName → Worker → Diagnostic := fun module w =>
      .notBound w.owner module w.location
    next.1.workers = before.workers ++ before.accepted r ∧
    (∀ w ∈ before.accepted r,
      next.2.files.filter (·.className = style.factoryName w.owner) = [w.factory style marker] ∧
      (s.filesOf run).filter (·.className = style.factoryName w.owner) =
        [w.factory style marker]) ∧
    (∀ file ∈ next.2.files, file.isBindingModule →
      file.bindings.Perm (next.1.workers.map fun w =>
        (some (style.bindingKey w.owner), [.named (style.factoryName w.owner)])) ∧
      (s.diagnosticsOf run).filter (·.saysNotBound) =
        ((s.after run).workers.drop next.1.workers.length).map (late file.className)) ∧
    (∀ file ∈ s.filesOf earlier, file.isBindingModule →
      next.2.diagnostics.filter (·.saysNotBound) =
        (before.accepted r).map (late file.className) ∧
      ∀ w ∈ before.accepted r,
        ((s.reportsOf run).filter (·.isNotBoundFor w.owner)).map Report.diagnostic =
          [late file.className w]) ∧
    ((∀ file ∈ s.filesOf earlier, ¬ file.isBindingModule) →
      next.2.diagnostics.filter (·.saysNotBound) = [] ∧
      ∀ w ∈ before.accepted r, (s.reportsOf run).filter (·.isNotBoundFor w.owner) = []) ∧
    ((∀ file ∈ s.filesOf run, ¬ file.isBindingModule) →
      (s.diagnosticsOf run).filter (·.saysNotBound) = []) := by
  intro s before next run style late
  refine ⟨before.processRound_workers r, fun w hw => filesOf_filter_factoryName hw, ?_, ?_, ?_, ?_⟩
  · intro file hfile hmodule
    have h := bindings_of_isBindingModule hfile hmodule
    rw [show before.style = style by simp [before, s, style]] at h
    have hafter : s.after run = next.1.after later := after_append s earlier (r :: later)
    refine ⟨h, ?_⟩
    rw [hafter]
    exact diagnosticsOf_of_isBindingModule hfile hmodule
  · intro file hfile hmodule
    obtain ⟨m, hm, hname⟩ := className_eq_of_isBindingModule hfile hmodule
    have hround := processRound_late_of_eq_some hm r
    rw [← hname] at hround
    refine ⟨?_, fun w hw => ?_⟩
    · rw [Outcome.diagnostics, filter_saysNotBound, hround, diagnostics_late]
    · have howners : ((before.accepted r).map (·.owner)).Nodup := accepted_owners_nodup _ _ _ _
      rw [reportsOf_filter_eq hw, hround, filter_isNotBoundFor_eq howners hw, List.map_singleton,
        Report.diagnostic_notBound]
  · intro hfiles
    have hround := processRound_late_of_eq_none (emitted_eq_none_iff.2 hfiles) r
    refine ⟨?_, fun w hw => ?_⟩
    · rw [Outcome.diagnostics, filter_saysNotBound, hround]
      rfl
    · rw [reportsOf_filter_eq hw, hround]
      rfl
  · intro hfiles
    rw [diagnosticsOf_eq, filter_saysNotBound,
      reportsOf_late_of_eq_none (emitted_eq_none_iff.2 hfiles)]
    rfl

/-- The parameters of the constructor of `TestWorker`. -/
def testWorkerParameters : List Parameter := [
  ⟨"context", .named Framework.context, .caller, none⟩,
  ⟨"workerParameters", .named Framework.workerParameters, .caller, none⟩,
  ⟨"foo", .named (.topLevelIn "java.lang" "String"), .injector, none⟩]

/-- A class `TestWorker` that is a worker. -/
def listedTestWorker (package file : String) : ListedClass where
  name := .topLevelIn package "TestWorker"
  visibility := .pack
  enclosingVisibility := []
  isStatic := false
  supertypes := [Framework.listenableWorker]
  location := ⟨file, 3, none⟩
  constructors := [⟨.pack, ⟨file, 3, none⟩, testWorkerParameters⟩]

/-- Two workers of the same simple name, and a module in the package of one of them. -/
def listedNamesakes : Round where
  classes := [listedTestWorker "" "TestWorker.java", listedTestWorker "test" "test/TestWorker.java"]
  modules := [⟨.topLevelIn "test" "AppModule", .pack,
    some [.topLevelIn "" "WorkerInject_AppModule"], ⟨"test/AppModule.java", 7, none⟩⟩]

/-- A worker that comes after the binding module is reported once, with a warning that names
both. -/
theorem late_worker_reported :
    (∃ file ∈ (start .default none).filesOf [listedNamesakes], file.isBindingModule = true) ∧
      (((start .default none).reportsOf ([listedNamesakes] ++
          ⟨[listedTestWorker "late" "late/TestWorker.java"], []⟩ :: [])).filter
          (·.isNotBoundFor (.topLevelIn "late" "TestWorker"))).map Report.diagnostic =
        [⟨.warning, "late.TestWorker is not bound in test.WorkerInject_AppModule, " ++
          "which was generated in an earlier round", ⟨"late/TestWorker.java", 3, none⟩⟩] := by
  have hmodule : ∃ file ∈ (start .default none).filesOf [listedNamesakes],
      file.isBindingModule = true ∧
        file.className = .topLevelIn "test" "WorkerInject_AppModule" := by
    decide +kernel
  have hlate : (⟨.topLevelIn "late" "TestWorker", testWorkerParameters,
      ⟨"late/TestWorker.java", 3, none⟩⟩ : Worker) ∈
      ((start .default none).after [listedNamesakes]).accepted
        ⟨[listedTestWorker "late" "late/TestWorker.java"], []⟩ := by
    decide +kernel
  have hwarning : Diagnostic.notBound (.topLevelIn "late" "TestWorker")
      (.topLevelIn "test" "WorkerInject_AppModule") ⟨"late/TestWorker.java", 3, none⟩ =
      ⟨.warning, "late.TestWorker is not bound in test.WorkerInject_AppModule, " ++
        "which was generated in an earlier round", ⟨"late/TestWorker.java", 3, none⟩⟩ := by
    decide +kernel
  obtain ⟨file, hfile, habstract, hname⟩ := hmodule
  refine ⟨⟨file, hfile, habstract⟩, ?_⟩
  have h := ((workers_made_and_bound_once .default none [listedNamesakes]
    ⟨[listedTestWorker "late" "late/TestWorker.java"], []⟩ []).2.2.2.1 file hfile habstract).2
      _ hlate
  rw [hname] at h
  rw [← hwarning]
  exact h

end Session

end AssistedWorkers
