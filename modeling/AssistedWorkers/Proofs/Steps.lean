import AssistedWorkers.Session

/-!
# What single steps add to a session

Going over a class accepts a worker or nobody.  An accepted worker is appended to the workers of
the run, the name of its factory is registered, and the factory comes out as a file.  Going over
a module generates its binding module or nothing.  No other part of a session changes.

The effect of a step, and of several steps one after the other, is described by what was added,
so that whoever wants to know what becomes of a session need not look at the checks again.

* `claim_eq_granted_iff` — names are granted when they are not registered;
* `exists_accepting_foldSteps` — what going over classes adds;
* `emitting_foldSteps` — what going over modules adds.
-/

namespace AssistedWorkers

open Java

namespace Report

/-- Whether the report is that a worker came too late for the binding module. -/
def isNotBound (r : Report) : Bool :=
  match r.finding with
  | .notBound _ _ => true
  | _ => false

/-- Whether the report is that a module is not alone. -/
def isSeveralModules (r : Report) : Bool :=
  r.finding == .severalModules

end Report

/-- Going over a class reports neither late workers nor modules. -/
theorem ListedClass.not_isNotBound_of_mem_reports {h : Hierarchy} {c : ListedClass} {r : Report}
    (hr : r ∈ c.reports h) : r.isNotBound = false ∧ r.isSeveralModules = false := by
  simp only [reports, reportIf, InjectConstructor.parameterReports, List.mem_append,
    List.mem_flatMap, List.mem_map] at hr
  grind [Report.isNotBound, Report.isSeveralModules]

namespace ListedModule

/-- A finding about a module concerns neither late workers nor the number of modules. -/
theorem eq_of_bindingModule_error {style : NestingStyle} {publicModule : Bool}
    {l : ListedModule} {finding : Finding}
    (h : l.bindingModule style publicModule = .error finding) :
    finding = .noDaggerModule ∨ ∃ name, finding = .notIncluded name := by
  unfold bindingModule at h
  grind

/-- The binding module of a module is generated for it under the name that is derived from it. -/
theorem owner_of_bindingModule_ok {style : NestingStyle} {publicModule : Bool} {l : ListedModule}
    {m : BindingModule} (h : l.bindingModule style publicModule = .ok m) :
    m.owner = l.name ∧ m.generatedName = style.moduleName l.name := by
  unfold bindingModule at h
  grind

end ListedModule

namespace Session

/-! ### Going over classes -/

/-- The session with more workers accepted and their factories registered. -/
def withWorkers (s : Session) (ws : List Worker) : Session :=
  { s with
    workers := s.workers ++ ws
    generated := s.generated ++ ws.map fun w => (s.style.factoryName w.owner, w.owner) }

/-- The names of the generated classes. -/
def generatedNames (s : Session) : List ClassName :=
  s.generated.map Prod.fst

@[simp] theorem withWorkers_nil (s : Session) : s.withWorkers [] = s := by
  simp [withWorkers]

@[simp] theorem withWorkers_withWorkers (s : Session) (ws vs : List Worker) :
    (s.withWorkers ws).withWorkers vs = s.withWorkers (ws ++ vs) := by
  simp [withWorkers, style]

@[simp] theorem style_withWorkers (s : Session) (ws : List Worker) :
    (s.withWorkers ws).style = s.style := rfl

@[simp] theorem marker_withWorkers (s : Session) (ws : List Worker) :
    (s.withWorkers ws).marker = s.marker := rfl

@[simp] theorem lateReports_withWorkers (s : Session) (ws : List Worker) :
    (s.withWorkers ws).lateReports = s.lateReports := rfl

/-- The names of the factories are entered in the order of the workers. -/
theorem generatedNames_withWorkers (s : Session) (ws : List Worker) :
    (s.withWorkers ws).generatedNames =
      s.generatedNames ++ ws.map fun w => s.style.factoryName w.owner := by
  simp [generatedNames, withWorkers, Function.comp_def]

/-- A name is granted when it is not registered. -/
theorem claim_eq_granted_iff {s : Session} {name owner : ClassName} :
    s.claim name owner = .granted ↔ name ∉ s.generatedNames := by
  have hlookup : s.generated.lookup name = none ↔ name ∉ s.generatedNames := by
    rw [List.lookup_eq_none_iff]
    grind [generatedNames]
  unfold claim
  split
  · simp [hlookup.1 ‹_›]
  · rename_i existing h
    have : name ∈ s.generatedNames := by
      apply Classical.byContradiction
      intro hn
      simp [hlookup.2 hn] at h
    split <;> simp [this]

/-- Going from `s` over the classes `cs` accepts the workers `ws`, and `next` is what comes out. -/
structure Accepting (s : Session) (cs : List ListedClass) (ws : List Worker)
    (next : Session × Outcome) : Prop where
  session_eq : next.1 = s.withWorkers ws
  files_eq : next.2.files = ws.map (·.factory s.style s.marker)
  late_eq : next.2.reports.filter (·.isNotBound) = ws.flatMap s.lateReports
  not_several : next.2.reports.filter (·.isSeveralModules) = []
  owner_listed : ∀ w ∈ ws, ∃ c ∈ cs, c.name = w.owner
  names_nodup : s.generatedNames.Nodup → next.1.generatedNames.Nodup

namespace Accepting

/-- A step that accepts nobody. -/
theorem none {s : Session} {cs : List ListedClass} {next : Session × Outcome}
    (hsession : next.1 = s) (hfiles : next.2.files = [])
    (hlate : next.2.reports.filter (·.isNotBound) = [])
    (hseveral : next.2.reports.filter (·.isSeveralModules) = []) : Accepting s cs [] next where
  session_eq := by simp [hsession]
  files_eq := by simp [hfiles]
  late_eq := by simp [hlate]
  not_several := hseveral
  owner_listed := by simp
  names_nodup := by simp [hsession]

/-- Steps one after the other accept the workers of both. -/
theorem append {s : Session} {cs ds : List ListedClass} {ws vs : List Worker}
    {next last : Session × Outcome} (h : Accepting s cs ws next)
    (h' : Accepting next.1 ds vs last) :
    Accepting s (cs ++ ds) (ws ++ vs) (last.1, next.2 ++ last.2) where
  session_eq := by rw [h'.session_eq, h.session_eq, withWorkers_withWorkers]
  files_eq := by simp [Outcome.append_def, h.files_eq, h'.files_eq, h.session_eq]
  late_eq := by simp [Outcome.append_def, h.late_eq, h'.late_eq, h.session_eq]
  not_several := by simp [Outcome.append_def, h.not_several, h'.not_several]
  owner_listed := by
    intro w hw
    rcases List.mem_append.1 hw with hw | hw
    · obtain ⟨c, hc, hcw⟩ := h.owner_listed w hw
      exact ⟨c, List.mem_append_left _ hc, hcw⟩
    · obtain ⟨c, hc, hcw⟩ := h'.owner_listed w hw
      exact ⟨c, List.mem_append_right _ hc, hcw⟩
  names_nodup hs := h'.names_nodup (h.names_nodup hs)

end Accepting

/-- A worker is accepted when the name of its factory is free, and else nobody is. -/
theorem exists_accepting_admitWorker (s : Session) {c : ListedClass} {w : Worker}
    (hc : c.name = w.owner) : ∃ ws, Accepting s [c] ws (s.admitWorker w) := by
  cases hclaim : s.claim (s.style.factoryName w.owner) w.owner with
  | repeated =>
    simp only [admitWorker, hclaim]
    exact ⟨[], .none rfl rfl rfl rfl⟩
  | taken existing =>
    simp only [admitWorker, hclaim]
    exact ⟨[], .none rfl rfl rfl rfl⟩
  | granted =>
    have hfree := claim_eq_granted_iff.1 hclaim
    simp only [admitWorker, hclaim]
    refine ⟨[w], rfl, rfl, ?_, ?_, by simpa using hc, ?_⟩
    · cases he : s.emitted <;> simp [lateReports, he, Report.isNotBound]
    · cases he : s.emitted <;> simp [lateReports, he, Report.isSeveralModules]
    · intro hs
      change (s.withWorkers [w]).generatedNames.Nodup
      rw [generatedNames_withWorkers, List.nodup_append]
      grind

/-- The worker that a class is has the name of the class. -/
theorem owner_of_worker? {h : Hierarchy} {c : ListedClass} {w : Worker}
    (hw : c.worker? h = some w) : c.name = w.owner := by
  unfold ListedClass.worker? at hw
  split at hw
  · simp at hw
  · obtain ⟨k, -, rfl⟩ := Option.map_eq_some_iff.1 hw
    rfl

/-- Going over a class accepts the worker that the class is or nobody. -/
theorem exists_accepting_admitClass (s : Session) (c : ListedClass) :
    ∃ ws, Accepting s [c] ws (s.admitClass c) := by
  -- What is wrong with the class itself concerns neither late workers nor modules.
  have hlate : (c.reports s.hierarchy).filter (·.isNotBound) = [] :=
    List.filter_eq_nil_iff.2 fun r hr => by simp [ListedClass.not_isNotBound_of_mem_reports hr]
  have hseveral : (c.reports s.hierarchy).filter (·.isSeveralModules) = [] :=
    List.filter_eq_nil_iff.2 fun r hr => by simp [ListedClass.not_isNotBound_of_mem_reports hr]
  have checked : Accepting s [] [] (s, ⟨[], c.reports s.hierarchy, []⟩) :=
    .none rfl rfl hlate hseveral
  unfold admitClass
  split
  · exact ⟨[], .none rfl rfl hlate hseveral⟩
  · rename_i w hw
    obtain ⟨ws, h⟩ := exists_accepting_admitWorker s (owner_of_worker? hw)
    exact ⟨ws, checked.append h⟩

/-- Going over classes accepts some workers and does nothing else to workers, registry and files. -/
theorem exists_accepting_foldSteps (s : Session) (cs : List ListedClass) :
    ∃ ws, Accepting s cs ws (foldSteps admitClass s cs) := by
  induction cs generalizing s with
  | nil => exact ⟨[], .none rfl rfl rfl rfl⟩
  | cons c cs ih =>
    obtain ⟨ws, h⟩ := exists_accepting_admitClass s c
    obtain ⟨vs, h'⟩ := ih (s.admitClass c).1
    exact ⟨ws ++ vs, h.append h'⟩

/-- Going over a class reports what is wrong with it, and then what naming its factory gives rise
to. -/
theorem reports_admitClass (s : Session) (c : ListedClass) :
    (s.admitClass c).2.reports = c.reports s.hierarchy ++
      ((c.worker? s.hierarchy).map fun w => (s.admitWorker w).2.reports).getD [] := by
  unfold admitClass
  cases c.worker? s.hierarchy <;> simp [Outcome.append_def]

/-- Going over a class does not change what is known of supertypes. -/
theorem hierarchy_admitClass (s : Session) (c : ListedClass) :
    (s.admitClass c).1.hierarchy = s.hierarchy := by
  obtain ⟨ws, hws⟩ := exists_accepting_admitClass s c
  rw [hws.session_eq]
  rfl

/-- Going over classes does not change what is known of supertypes. -/
theorem hierarchy_foldSteps_admitClass (s : Session) (cs : List ListedClass) :
    (foldSteps admitClass s cs).1.hierarchy = s.hierarchy := by
  obtain ⟨ws, hws⟩ := exists_accepting_foldSteps s cs
  rw [hws.session_eq]
  rfl

/-! ### Going over modules -/

/-- The session with a binding module generated and registered, if there is one. -/
def withModule (s : Session) (m? : Option BindingModule) : Session :=
  { s with
    generated := s.generated ++ m?.toList.map fun m => (m.generatedName, m.owner)
    emitted := s.emitted.or m? }

@[simp] theorem withModule_none (s : Session) : s.withModule none = s := by
  simp [withModule]

/-- The name of the binding module is entered, if there is one. -/
theorem generatedNames_withModule (s : Session) (m? : Option BindingModule) :
    (s.withModule m?).generatedNames =
      s.generatedNames ++ m?.toList.map fun m => m.generatedName := by
  simp [generatedNames, withModule, Function.comp_def]

/-- Whether a binding module may be generated: exactly one module was listed, and there is no
binding module yet. -/
def awaitsModule (s : Session) : Bool :=
  s.census.isSole && s.emitted.isNone

/-- The given binding module if it may be generated and its name is free. -/
def grant? (s : Session) (m : BindingModule) : Option BindingModule :=
  if s.awaitsModule ∧ m.generatedName ∉ s.generatedNames then some m else none

/-- The binding module that is generated when a session goes over some modules: that of the first
valid declaration that is granted one. -/
def emission (s : Session) (ls : List ListedModule) : Option BindingModule :=
  ls.findSome? fun l => (l.bindingModule s.style s.options.publicModule).toOption.bind s.grant?

/-- Going from `s` over modules generates the binding module `m?`, and `next` is what comes out. -/
structure Emitting (s : Session) (m? : Option BindingModule) (next : Session × Outcome) :
    Prop where
  session_eq : next.1 = s.withModule m?
  files_eq : next.2.files = m?.toList.map (·.source s.style s.marker s.workers)
  not_late : next.2.reports.filter (·.isNotBound) = []
  not_several : next.2.reports.filter (·.isSeveralModules) = []
  names_nodup : s.generatedNames.Nodup → next.1.generatedNames.Nodup

namespace Emitting

/-- A step that generates nothing. -/
theorem none {s : Session} {next : Session × Outcome} (hsession : next.1 = s)
    (hfiles : next.2.files = []) (hlate : next.2.reports.filter (·.isNotBound) = [])
    (hseveral : next.2.reports.filter (·.isSeveralModules) = []) :
    Emitting s Option.none next where
  session_eq := by simp [hsession]
  files_eq := by simp [hfiles]
  not_late := hlate
  not_several := hseveral
  names_nodup := by simp [hsession]

/-- Steps one after the other, of which at most one generates a module. -/
theorem append {s : Session} {m? n? : Option BindingModule} {next last : Session × Outcome}
    (h : Emitting s m? next) (h' : Emitting next.1 n? last) (hone : m?.isSome → n? = Option.none) :
    Emitting s (m?.or n?) (last.1, next.2 ++ last.2) := by
  have hnext := h.session_eq
  cases m? with
  | none =>
    rw [withModule_none] at hnext
    exact ⟨by simp [h'.session_eq, hnext],
      by simp [Outcome.append_def, h.files_eq, h'.files_eq, hnext],
      by simp [Outcome.append_def, h.not_late, h'.not_late],
      by simp [Outcome.append_def, h.not_several, h'.not_several],
      fun hs => h'.names_nodup (h.names_nodup hs)⟩
  | some m =>
    obtain rfl := hone rfl
    exact ⟨by simp [h'.session_eq, hnext],
      by simp [Outcome.append_def, h.files_eq, h'.files_eq],
      by simp [Outcome.append_def, h.not_late, h'.not_late],
      by simp [Outcome.append_def, h.not_several, h'.not_several],
      fun hs => h'.names_nodup (h.names_nodup hs)⟩

end Emitting

/-- A binding module is generated when it is granted. -/
theorem emitting_emitModule (s : Session) (m : BindingModule) (location : Location) :
    Emitting s (s.grant? m) (s.emitModule m location) := by
  unfold emitModule grant? awaitsModule
  by_cases hs : s.census.isSole && s.emitted.isNone
  · have hs' : (!s.census.isSole || s.emitted.isSome) = false := by
      cases he : s.emitted <;> simp_all
    have hnone : s.emitted = none := by simp_all
    by_cases htaken : m.generatedName ∈ s.generatedNames
    · have hclaim : s.claim m.generatedName m.owner ≠ .granted :=
        fun h => claim_eq_granted_iff.1 h htaken
      simp only [hs', htaken, not_true_eq_false, and_false, if_false, Bool.false_eq_true]
      split
      · exact .none rfl rfl rfl rfl
      · exact .none rfl rfl rfl rfl
      · exact absurd ‹_› hclaim
    · have hclaim : s.claim m.generatedName m.owner = .granted := claim_eq_granted_iff.2 htaken
      simp only [hs, hs', htaken, hclaim, not_false_eq_true, and_self, if_true, if_false,
        Bool.false_eq_true]
      refine ⟨by simp [withModule, hnone], rfl, rfl, rfl, fun h => ?_⟩
      change (s.withModule (some m)).generatedNames.Nodup
      rw [generatedNames_withModule, List.nodup_append]
      simpa using ⟨h, fun a ha => fun haeq => htaken (haeq ▸ ha)⟩
  · have hs' : (!s.census.isSole || s.emitted.isSome) = true := by
      cases he : s.emitted <;> simp_all
    simp only [hs, hs', false_and, if_true, if_false, Bool.false_eq_true]
    exact .none rfl rfl rfl rfl

/-- Going over a module generates its binding module if it is valid and granted one. -/
theorem emitting_admitModule (s : Session) (l : ListedModule) :
    Emitting s (s.emission [l]) (s.admitModule l) := by
  cases hl : l.bindingModule s.style s.options.publicModule with
  | error finding =>
    simp only [emission, admitModule, hl, List.findSome?_cons, List.findSome?_nil,
      Except.toOption, Option.bind_none]
    rcases ListedModule.eq_of_bindingModule_error hl with rfl | ⟨name, rfl⟩ <;>
      exact .none rfl rfl rfl rfl
  | ok m =>
    have h := emitting_emitModule s m l.location
    have hm : s.emission [l] = s.grant? m := by
      simp only [emission, hl, List.findSome?_cons, List.findSome?_nil, Except.toOption,
        Option.bind_some]
      cases s.grant? m <;> rfl
    simpa [admitModule, hl, hm] using h

/-- A binding module that is generated belongs to a valid declaration and has a free name. -/
theorem exists_of_emission_eq_some {s : Session} {ls : List ListedModule} {m : BindingModule}
    (h : s.emission ls = some m) :
    s.awaitsModule = true ∧ m.generatedName ∉ s.generatedNames ∧
      ∃ l ∈ ls, l.bindingModule s.style s.options.publicModule = .ok m := by
  obtain ⟨l, hl, hm⟩ := List.exists_of_findSome?_eq_some h
  cases hb : l.bindingModule s.style s.options.publicModule with
  | error finding => simp [hb, Except.toOption] at hm
  | ok n =>
    simp only [hb, Except.toOption, Option.bind_some, grant?] at hm
    split at hm
    · obtain rfl := Option.some.inj hm
      exact ⟨‹_ ∧ _›.1, ‹_ ∧ _›.2, l, hl, hb⟩
    · simp at hm

/-- Once there is a binding module, no other one is granted. -/
theorem emission_of_isSome {s : Session} (h : s.emitted.isSome) (ls : List ListedModule) :
    s.emission ls = none := by
  have hawaits : s.awaitsModule = false := by
    cases he : s.emitted <;> simp_all [awaitsModule]
  have hgrant : s.grant? = fun _ => none := by
    funext m
    simp [grant?, hawaits]
  simp [emission, hgrant]

/-- Going over modules generates the binding module of the first of them that is granted one. -/
theorem emitting_foldSteps (s : Session) (ls : List ListedModule) :
    Emitting s (s.emission ls) (foldSteps admitModule s ls) := by
  induction ls generalizing s with
  | nil => exact .none rfl rfl rfl rfl
  | cons l ls ih =>
    have h := emitting_admitModule s l
    have h' := ih (s.admitModule l).1
    cases hm : s.emission [l] with
    | none =>
      have hls : s.emission (l :: ls) = (s.admitModule l).1.emission ls := by
        rw [h.session_eq, hm, withModule_none]
        grind [emission]
      rw [hls]
      simpa [hm, foldSteps] using h.append h' (by simp [hm])
    | some m =>
      have hnext : (s.admitModule l).1.emission ls = none := by
        apply emission_of_isSome
        cases he : s.emitted <;> simp [h.session_eq, hm, withModule, he]
      have hls : s.emission (l :: ls) = some m := by
        grind [emission]
      rw [hls]
      simpa [hm, hnext, foldSteps] using h.append h' (by simp [hnext])

end Session

end AssistedWorkers
