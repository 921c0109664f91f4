import AssistedWorkers.Proofs.Bindings
import AssistedWorkers.Proofs.Dependence
import AssistedWorkers.Proofs.KeyOrder

/-!
# The order of discovery

A host lists the classes of a round in the order in which it found them.  As long as no two
injected ones among them ask for the same name or key, that order shows only in the order of what
comes out.

A class that is gone over meets the names that were registered before the round and the names of
the classes before it.  The latter are not its own, so each class adds what it would add alone.
The registry and the known supertypes are the same maps in any order, and modules see nothing else
of the classes but the keys and factories that they bind, sorted by keys.

* `foldSteps_admitClass` — what going over classes adds, class by class;
* `foldSteps_admitModule_alike` — what modules cannot tell apart;
* `AlikeSince` — sessions that differ in an order only;
* `discovery_order_irrelevant` — files, reports and state of a round whose classes are permuted.
-/

namespace AssistedWorkers

open Java

/-- What comes out of several steps. -/
def Outcome.join (outcomes : List Outcome) : Outcome :=
  ⟨outcomes.flatMap (·.files), outcomes.flatMap (·.reports), outcomes.flatMap (·.events)⟩

namespace Hierarchy

theorem nodup_add {h : Hierarchy} (hnodup : h.edges.Nodup) (edge : ClassName × ClassName) :
    (h.add edge).edges.Nodup := by
  unfold add
  split
  · exact hnodup
  · rename_i hedge
    rw [List.nodup_append]
    refine ⟨hnodup, by simp, fun e he e' he' heq => hedge ?_⟩
    rwa [← List.mem_singleton.1 he', ← heq]

/-- Recording a class keeps every pair once. -/
theorem nodup_record {h : Hierarchy} (hnodup : h.edges.Nodup) (c : ClassName)
    (supertypes : List ClassName) : (h.record c supertypes).edges.Nodup := by
  unfold record
  induction supertypes generalizing h with
  | nil => exact hnodup
  | cons s ss ih => exact ih (nodup_add hnodup (c, s))

theorem nodup_foldl_record {h : Hierarchy} (hnodup : h.edges.Nodup) (cs : List ListedClass) :
    (cs.foldl (fun h c => h.record c.name c.supertypes) h).edges.Nodup := by
  induction cs generalizing h with
  | nil => exact hnodup
  | cons c cs ih => exact ih (nodup_record hnodup c.name c.supertypes)

end Hierarchy

namespace Session

variable {s t : Session}

/-! ### Going over classes -/

/-- The worker that going over a class accepts: the one that the class is, if the name of its
factory is granted. -/
def newWorker? (s : Session) (c : ListedClass) : Option Worker :=
  (c.worker? s.hierarchy).filter fun w =>
    s.claim (s.style.factoryName w.owner) w.owner = .granted

theorem owner_of_newWorker? {c : ListedClass} {w : Worker} (h : s.newWorker? c = some w) :
    c.name = w.owner :=
  owner_of_worker? (Option.filter_eq_some_iff.1 h).1

/-- The workers that classes are have the names of these classes, in their order. -/
theorem owners_sublist (s : Session) (cs : List ListedClass) :
    ((cs.filterMap s.newWorker?).map (·.owner)).Sublist (cs.map (·.name)) := by
  induction cs with
  | nil => exact List.Sublist.slnil
  | cons c cs ih =>
    cases hw : s.newWorker? c with
    | none => simpa [hw] using ih.cons c.name
    | some w => simpa [hw, owner_of_newWorker? hw] using ih

/-- The workers that were accepted do not matter to classes that ask for other names. -/
theorem claim_withWorkers {ws : List Worker} {name : ClassName}
    (hname : ∀ w ∈ ws, s.style.factoryName w.owner ≠ name) (owner : ClassName) :
    (s.withWorkers ws).claim name owner = s.claim name owner := by
  have hadded : (ws.map fun w => (s.style.factoryName w.owner, w.owner)).lookup name = none := by
    rw [List.lookup_eq_none_iff]
    intro p hp
    obtain ⟨w, hw, rfl⟩ := List.mem_map.1 hp
    simpa using (hname w hw).symm
  have hlookup : (s.withWorkers ws).generated.lookup name = s.generated.lookup name := by
    rw [withWorkers, List.lookup_append, hadded, Option.or_none]
  rw [claim, claim, hlookup]

/-- A class that asks for a name of its own adds what it would add alone. -/
theorem admitClass_withWorkers {ws : List Worker} {c : ListedClass}
    (hname : ∀ w ∈ ws, s.style.factoryName w.owner ≠ s.style.factoryName c.name) :
    (s.withWorkers ws).admitClass c =
      (s.withWorkers (ws ++ (s.newWorker? c).toList), (s.admitClass c).2) := by
  have hhierarchy : (s.withWorkers ws).hierarchy = s.hierarchy := rfl
  cases hw : c.worker? s.hierarchy with
  | none => simp [admitClass, newWorker?, hhierarchy, hw]
  | some w =>
    rw [owner_of_worker? hw] at hname
    have hclaim := claim_withWorkers hname w.owner
    simp only [admitClass, newWorker?, hhierarchy, hw, admitWorker, style_withWorkers, hclaim,
      Option.filter_some]
    cases hs : s.claim (s.style.factoryName w.owner) w.owner with
    | granted => simp [withWorkers, style, lateReports]
    | repeated => simp
    | taken existing => simp

/-- Classes that ask for different names add what each of them would add alone. -/
theorem foldSteps_admitClass_withWorkers (ws : List Worker) {cs : List ListedClass}
    (hnames : (cs.map fun c => s.style.factoryName c.name).Nodup)
    (hapart : ∀ w ∈ ws, ∀ c ∈ cs, s.style.factoryName w.owner ≠ s.style.factoryName c.name) :
    foldSteps admitClass (s.withWorkers ws) cs =
      (s.withWorkers (ws ++ cs.filterMap s.newWorker?),
        .join (cs.map fun c => (s.admitClass c).2)) := by
  induction cs generalizing ws with
  | nil => simp [foldSteps, Outcome.join, Outcome.empty]
  | cons c cs ih =>
    rw [List.map_cons, List.nodup_cons] at hnames
    have hnext : ∀ w ∈ ws ++ (s.newWorker? c).toList, ∀ d ∈ cs,
        s.style.factoryName w.owner ≠ s.style.factoryName d.name := by
      intro w hw d hd heq
      rcases List.mem_append.1 hw with hw | hw
      · exact hapart w hw d (List.mem_cons_of_mem _ hd) heq
      · rw [← owner_of_newWorker? (Option.mem_toList.1 hw)] at heq
        exact hnames.1 (List.mem_map.2 ⟨d, hd, heq.symm⟩)
    rw [foldSteps, admitClass_withWorkers fun w hw => hapart w hw c List.mem_cons_self]
    dsimp only
    rw [ih _ hnames.2 hnext]
    cases hw : s.newWorker? c <;> simp [hw, Outcome.join, Outcome.append_def]

/-- Going over classes that ask for different names adds what each of them would add alone. -/
theorem foldSteps_admitClass {cs : List ListedClass}
    (hnames : (cs.map fun c => s.style.factoryName c.name).Nodup) :
    foldSteps admitClass s cs = (s.withWorkers (cs.filterMap s.newWorker?),
      .join (cs.map fun c => (s.admitClass c).2)) := by
  have h := foldSteps_admitClass_withWorkers [] hnames (by simp)
  rwa [withWorkers_nil, List.nil_append] at h

/-! ### Going over modules -/

/-- Sessions that modules cannot tell apart. -/
structure AlikeToModules (s t : Session) : Prop where
  options_eq : s.options = t.options
  census_eq : s.census = t.census
  emitted_eq : s.emitted = t.emitted
  lookup_eq : ∀ name, s.generated.lookup name = t.generated.lookup name

/-- Going over a module, sessions that it cannot tell apart stay so, and report the same. -/
theorem admitModule_alike (h : AlikeToModules s t) (l : ListedModule) :
    AlikeToModules (s.admitModule l).1 (t.admitModule l).1 ∧
      (s.admitModule l).2.reports = (t.admitModule l).2.reports := by
  have hstyle : s.style = t.style := by rw [style, style, h.options_eq]
  have hclaim : ∀ name owner, s.claim name owner = t.claim name owner := by
    intro name owner
    rw [claim, claim, h.lookup_eq]
  simp only [admitModule, hstyle, h.options_eq]
  cases l.bindingModule t.style t.options.publicModule with
  | error finding => exact ⟨h, rfl⟩
  | ok m =>
    simp only [emitModule, h.census_eq, h.emitted_eq, hclaim]
    split
    · exact ⟨h, rfl⟩
    · cases t.claim m.generatedName m.owner with
      | repeated => exact ⟨h, rfl⟩
      | taken existing => exact ⟨h, rfl⟩
      | granted =>
        refine ⟨⟨h.options_eq, rfl, rfl, fun name => ?_⟩, rfl⟩
        simp only [List.lookup_append, h.lookup_eq]

/-- Sessions that modules cannot tell apart go over modules alike. -/
theorem foldSteps_admitModule_alike (h : AlikeToModules s t) (ls : List ListedModule) :
    AlikeToModules (foldSteps admitModule s ls).1 (foldSteps admitModule t ls).1 ∧
      (foldSteps admitModule s ls).2.reports = (foldSteps admitModule t ls).2.reports := by
  induction ls generalizing s t with
  | nil => exact ⟨h, rfl⟩
  | cons l ls ih =>
    obtain ⟨hnext, hreports⟩ := admitModule_alike h l
    obtain ⟨hlast, hrest⟩ := ih hnext
    refine ⟨hlast, ?_⟩
    simp only [foldSteps, Outcome.append_def, hreports, hrest]

/-! ### Rounds -/

/-- A run keeps every known supertype once. -/
theorem hierarchy_nodup (options : Options) (marker : Option AnnotationUse)
    (rounds : List Round) :
    ((start options marker).after rounds).hierarchy.edges.Nodup := by
  have hinitial : Hierarchy.initial.edges.Nodup := by decide
  refine after_induction (P := fun t => t.hierarchy.edges.Nodup) hinitial fun r _ t ht => ?_
  rw [processRound_hierarchy]
  exact Hierarchy.nodup_foldl_record ht r.classes

/-- In a registry without repeated names the order of the entries does not matter. -/
theorem lookup_generated_of_perm (h : s.generated.Perm t.generated)
    (hnodup : t.generatedNames.Nodup) (name : ClassName) :
    s.generated.lookup name = t.generated.lookup name := by
  have hiff : ∀ {u : Session}, u.generatedNames.Nodup → ∀ owner,
      u.generated.lookup name = some owner ↔ (name, owner) ∈ u.generated := by
    intro u hu owner
    refine ⟨fun hlookup => ?_, lookup_generated_of_mem hu⟩
    obtain ⟨front, back, hsplit, -⟩ := List.lookup_eq_some_iff.1 hlookup
    exact hsplit ▸ List.mem_append_right _ List.mem_cons_self
  have hs : s.generatedNames.Nodup := (h.map Prod.fst).nodup_iff.2 hnodup
  exact Option.ext fun owner => by rw [hiff hs, hiff hnodup, h.mem_iff]

/-- Two sessions went on from `before` alike but for the order in which they accepted workers.
The known supertypes and the registry are maps, so that they have no order. -/
structure AlikeSince (before s t : Session) : Prop where
  options_eq : s.options = t.options
  marker_eq : s.marker = t.marker
  hierarchy_perm : s.hierarchy.edges.Perm t.hierarchy.edges
  workers_perm : ∃ ws vs, s.workers = before.workers ++ ws ∧ t.workers = before.workers ++ vs ∧
    ws.Perm vs
  generated_perm : s.generated.Perm t.generated
  lookup_eq : ∀ name, s.generated.lookup name = t.generated.lookup name
  census_eq : s.census = t.census
  emitted_eq : s.emitted = t.emitted
  summary_eq : s.summary = t.summary

section

variable {r : Round} {classes : List ListedClass} (hperm : classes.Perm r.classes)

include hperm

/-- A round begins with the same supertypes known, whatever the order of its classes. -/
theorem mem_begun_permuted (s : Session) (edge : ClassName × ClassName) :
    edge ∈ (s.begun { r with classes }).hierarchy.edges ↔ edge ∈ (s.begun r).hierarchy.edges := by
  simp only [begun, mem_foldl_record, hperm.mem_iff]

variable (hnames : ((r.classes.filter (·.isInjected)).map fun c =>
  s.style.factoryName c.name).Nodup)

include hnames

/-- A round whose injected classes ask for different names adds what each of them would add
alone, whatever their order. -/
theorem admitClasses_permuted :
    (s.admitClasses { r with classes }).1 =
      ((s.begun r).withWorkers ((classes.filter (·.isInjected)).filterMap
        (s.begun r).newWorker?)).replacing (s.begun { r with classes }).hierarchy
          (s.begun r).summary ∧
    (s.admitClasses { r with classes }).2 =
      .join ((classes.filter (·.isInjected)).map fun c => ((s.begun r).admitClass c).2) := by
  have hnames' : ((classes.filter (·.isInjected)).map fun c =>
      (s.begun r).style.factoryName c.name).Nodup :=
    ((hperm.filter _).map _).nodup_iff.2 hnames
  have hreports : ∀ c ∈ classes.filter (·.isInjected),
      c.reports (s.begun { r with classes }).hierarchy = c.reports (s.begun r).hierarchy :=
    fun c _ => ListedClass.reports_of_same_edges (mem_begun_permuted hperm s) c
  have h := foldSteps_admitClass_replacing hreports (s.begun r).summary
  rw [foldSteps_admitClass hnames'] at h
  exact ⟨congrArg Prod.fst h, congrArg Prod.snd h⟩

/-- The workers that a round accepts, in the order of its classes. -/
theorem accepted_permuted : s.accepted { r with classes } =
    (classes.filter (·.isInjected)).filterMap (s.begun r).newWorker? := by
  have h := congrArg workers (admitClasses_permuted hperm hnames).1
  rw [(s.accepting_admitClasses _).session_eq] at h
  exact List.append_cancel_left h

/-- A round accepts the same workers, whatever the order of its classes. -/
theorem accepted_perm : (s.accepted { r with classes }).Perm (s.accepted r) := by
  have h : s.accepted r = _ := accepted_permuted (.refl r.classes) hnames
  rw [accepted_permuted hperm hnames, h]
  exact (hperm.filter _).filterMap _

variable (hnodup : s.generatedNames.Nodup)

include hnodup

/-- When a round comes to its modules, these cannot tell the order of its classes. -/
theorem counted_alike : AlikeToModules (s.counted { r with classes }) (s.counted r) := by
  have hcounted : (s.counted r).generatedNames.Nodup :=
    (s.accepting_admitClasses r).names_nodup hnodup
  have hgenerated : (s.counted { r with classes }).generated.Perm (s.counted r).generated := by
    rw [counted_eq, counted_eq]
    exact ((accepted_perm hperm hnames).map _).append_left _
  refine ⟨?_, ?_, ?_, lookup_generated_of_perm hgenerated hcounted⟩
  · rw [counted_eq, counted_eq]
    rfl
  · rw [counted_eq, counted_eq]
  · rw [counted_eq, counted_eq]
    rfl

/-- A round generates the same binding module, whatever the order of its classes. -/
theorem emittedIn_permuted : s.emittedIn { r with classes } = s.emittedIn r := by
  have halike := (foldSteps_admitModule_alike (counted_alike hperm hnames hnodup) r.modules).1
  have hemitted : (s.processRound { r with classes }).1.emitted = (s.processRound r).1.emitted := by
    rw [processRound_eq, processRound_eq]
    exact halike.emitted_eq
  rw [emittedIn, emittedIn, hemitted]

/-- A round reports the same, whatever the order of its classes. -/
theorem processRound_reports_perm :
    (s.processRound { r with classes }).2.reports.Perm (s.processRound r).2.reports := by
  have halike := foldSteps_admitModule_alike (counted_alike hperm hnames hnodup) r.modules
  have hlisted : (s.admitClasses r).2 = _ := (admitClasses_permuted (.refl r.classes) hnames).2
  rw [processRound_reports, processRound_reports, (admitClasses_permuted hperm hnames).2, hlisted]
  dsimp only
  rw [halike.2]
  exact ((((hperm.filter _).map _).flatMap_right _).append_right _).append_right _

/-- A round generates the same factories in the order of its classes, and then the same binding
module. -/
theorem processRound_files_permuted
    (hkeys : ((r.classes.filter (·.isInjected)).map fun c => s.style.bindingKey c.name).Nodup) :
    (s.processRound { r with classes }).2.files =
      (s.accepted { r with classes }).map (·.factory s.style s.marker) ++
        (s.emittedIn r).toList.map
          (·.source s.style s.marker (s.workers ++ s.accepted r)) := by
  have hadded : (((s.accepted r).map fun w => s.style.bindingKey w.owner)).Nodup := by
    have haccepted : s.accepted r = _ := accepted_permuted (.refl r.classes) hnames
    have hsub := ((s.begun r).owners_sublist (r.classes.filter (·.isInjected))).map
      s.style.bindingKey
    rw [List.map_map, List.map_map] at hsub
    rw [haccepted]
    exact hsub.nodup hkeys
  have hkeyed := BindingModule.keyed_append_of_perm (accepted_perm hperm hnames).symm hadded
    s.workers
  rw [processRound_files, emittedIn_permuted hperm hnames hnodup]
  simp only [BindingModule.source, hkeyed]

end

/-- **The order of discovery does not matter.**  Take any session of a run and a round of which no
two injected classes ask for the same factory name or the same binding key.  When the classes of
the round are permuted, so are its factories and reports and the workers that it accepts.  Its
binding module, if it generates one, and the rest of the state stay the same. -/
theorem discovery_order_irrelevant (options : Options) (marker : Option AnnotationUse)
    (earlier : List Round) (r : Round) (classes : List ListedClass)
    (hperm : classes.Perm r.classes)
    (hnames : ((r.classes.filter (·.isInjected)).map fun c =>
      options.nestingStyle.factoryName c.name).Nodup)
    (hkeys : ((r.classes.filter (·.isInjected)).map fun c =>
      options.nestingStyle.bindingKey c.name).Nodup) :
    let s := (start options marker).after earlier
    let listed := s.processRound r
    let permuted := s.processRound { r with classes }
    (permuted.2.files.filter (!·.isBindingModule)).Perm
      (listed.2.files.filter (!·.isBindingModule)) ∧
    permuted.2.files.filter (·.isBindingModule) = listed.2.files.filter (·.isBindingModule) ∧
    permuted.2.reports.Perm listed.2.reports ∧
    AlikeSince s permuted.1 listed.1 := by
  intro s listed permuted
  have hstyle : s.style = options.nestingStyle := by simp [s]
  rw [← hstyle] at hnames hkeys
  have hnodup : s.generatedNames.Nodup := generatedNames_nodup options marker earlier
  have hedges : s.hierarchy.edges.Nodup := hierarchy_nodup options marker earlier
  have haccepted := accepted_perm hperm hnames
  have hemitted := emittedIn_permuted hperm hnames hnodup
  have hfiles : permuted.2.files = _ := processRound_files_permuted hperm hnames hnodup hkeys
  have hlisted : listed.2.files = _ := processRound_files s r
  have hreports : permuted.2.reports.Perm listed.2.reports :=
    processRound_reports_perm hperm hnames hnodup
  have hfactories := haccepted.map (·.factory s.style s.marker)
  have hworkers : permuted.1.workers = _ := processRound_workers s _
  have hlistedWorkers : listed.1.workers = _ := processRound_workers s r
  have hgenerated : permuted.1.generated.Perm listed.1.generated := by
    rw [processRound_generated, processRound_generated, hemitted]
    exact ((haccepted.map _).append_left _).append_right _
  have hcensus : permuted.1.census = listed.1.census := by
    rw [processRound_census, processRound_census]
  refine ⟨?_, ?_, hreports, ?_⟩
  · rw [hfiles, hlisted, List.filter_append, List.filter_append]
    exact (hfactories.filter _).append_right _
  · rw [hfiles, hlisted, List.filter_append, List.filter_append,
      Worker.filter_isBindingModule_map_factory, Worker.filter_isBindingModule_map_factory]
  · exact {
      options_eq := by simp [permuted, listed]
      marker_eq := by simp [permuted, listed]
      hierarchy_perm := by
        rw [processRound_hierarchy, processRound_hierarchy]
        exact (List.perm_ext_iff_of_nodup (Hierarchy.nodup_foldl_record hedges _)
          (Hierarchy.nodup_foldl_record hedges _)).2 (mem_begun_permuted hperm s)
      workers_perm := ⟨_, _, hworkers, hlistedWorkers, haccepted⟩
      generated_perm := hgenerated
      lookup_eq := lookup_generated_of_perm hgenerated (processRound_generatedNames_nodup hnodup r)
      census_eq := hcensus
      emitted_eq := by rw [processRound_emitted, processRound_emitted, hemitted]
      summary_eq := by
        have hlength : permuted.2.files.length = listed.2.files.length := by
          rw [hfiles, hlisted]
          exact (hfactories.append_right _).length_eq
        have hcount : permuted.1.workers.length = listed.1.workers.length := by
          rw [hworkers, hlistedWorkers]
          exact (haccepted.append_left _).length_eq
        have hsummary : permuted.1.summary = _ := processRound_summary s _
        have hlistedSummary : listed.1.summary = _ := processRound_summary s r
        rw [hsummary, hlistedSummary, Summary.mk.injEq]
        exact ⟨rfl, hcount, congrArg (·.seen.length) hcensus, congrArg _ hlength,
          congrArg _ (hreports.countP_eq _), congrArg _ (hreports.countP_eq _)⟩ }

/-- A class that a worker may extend, listed before and after the workers `listedNamesakes`. -/
def namesakesAround : Round :=
  let base : ListedClass := { listedTestWorker "" "Base.java" with
    name := .topLevelIn "" "Base"
    constructors := [] }
  { listedNamesakes with classes := base :: listedNamesakes.classes ++ [base] }

/-- The binding module of the two workers is the same when the classes are listed backwards. -/
theorem same_module_backwards :
    let backwards := namesakesAround.classes.reverse
    backwards.Perm namesakesAround.classes ∧
    ((namesakesAround.classes.filter (·.isInjected)).map fun c =>
      Options.default.nestingStyle.factoryName c.name).Nodup ∧
    ((namesakesAround.classes.filter (·.isInjected)).map fun c =>
      Options.default.nestingStyle.bindingKey c.name).Nodup ∧
    ((start .default none).processRound namesakesAround).2.files.filter (·.isBindingModule) ≠ [] ∧
    ((start .default none).processRound ⟨backwards, namesakesAround.modules⟩).2.files.filter
        (·.isBindingModule) =
      ((start .default none).processRound namesakesAround).2.files.filter (·.isBindingModule) := by
  intro backwards
  have hperm : backwards.Perm namesakesAround.classes := List.reverse_perm _
  have hnames : ((namesakesAround.classes.filter (·.isInjected)).map fun c =>
      Options.default.nestingStyle.factoryName c.name).Nodup := by
    decide +kernel
  have hkeys : ((namesakesAround.classes.filter (·.isInjected)).map fun c =>
      Options.default.nestingStyle.bindingKey c.name).Nodup := by
    decide +kernel
  have hmodule : ((start .default none).processRound namesakesAround).2.files.any
      (·.isBindingModule) = true := by
    decide +kernel
  have hsame := (discovery_order_irrelevant .default none [] namesakesAround backwards hperm
    hnames hkeys).2.1
  rw [after_nil] at hsame
  refine ⟨hperm, hnames, hkeys, ?_, hsame⟩
  simpa using hmodule

end Session

end AssistedWorkers
