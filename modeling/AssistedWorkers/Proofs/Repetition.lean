import AssistedWorkers.Proofs.Dependence

/-!
# A round taken twice

A host may list again what it listed already.  When a session takes a round a second time, right
after the first one, every check ends as it did: the supertypes are known, the names belong to
their owners, the modules are counted, and a binding module that was generated is there.  So
nothing is generated and nothing but the totals changes.  The same is wrong as before, except for
what is said only once, about late workers and about modules that are not alone.

* `foldl_record_of_known`, `record_again` — supertypes and modules are learned once;
* `repeats_admitWorker` — a name that was claimed before stays with its owner;
* `repeats_admitClasses`, `repeats_admitModules` — how classes and modules are gone over again;
* `repeated_round_changes_nothing` — the second of two equal rounds.
-/

namespace AssistedWorkers

open Java

/-- Whether the report is made about a class or module once only, however often it is listed. -/
def Report.isMadeOnce (r : Report) : Bool :=
  r.isSeveralModules || r.isNotBound

/-- Reports of which none is made once only. -/
theorem Report.filter_isMadeOnce_eq_self {reports : List Report}
    (hseveral : reports.filter (·.isSeveralModules) = [])
    (hlate : reports.filter (·.isNotBound) = []) :
    reports.filter (!·.isMadeOnce) = reports := by
  refine List.filter_eq_self.2 fun r hr => ?_
  have hs := List.filter_eq_nil_iff.1 hseveral r hr
  have hl := List.filter_eq_nil_iff.1 hlate r hr
  simp [isMadeOnce, hs, hl]

/-! ### What is learned and counted once -/

namespace Hierarchy

/-- Nothing is added for supertypes that are known already. -/
theorem record_of_known {h : Hierarchy} {c : ClassName} {supertypes : List ClassName}
    (hknown : ∀ t ∈ supertypes, (c, t) ∈ h.edges) : h.record c supertypes = h := by
  unfold record
  induction supertypes with
  | nil => rfl
  | cons t ts ih =>
    have hadd : h.add (c, t) = h := if_pos (hknown t List.mem_cons_self)
    rw [List.foldl_cons, hadd]
    exact ih fun u hu => hknown u (List.mem_cons_of_mem _ hu)

/-- Classes whose supertypes are known teach nothing. -/
theorem foldl_record_of_known {h : Hierarchy} {cs : List ListedClass}
    (hknown : ∀ c ∈ cs, ∀ t ∈ c.supertypes, (c.name, t) ∈ h.edges) :
    cs.foldl (fun h c => h.record c.name c.supertypes) h = h := by
  induction cs with
  | nil => rfl
  | cons c cs ih =>
    rw [List.foldl_cons, record_of_known (hknown c List.mem_cons_self)]
    exact ih fun d hd => hknown d (List.mem_cons_of_mem _ hd)

end Hierarchy

namespace ModuleCensus

/-- Counting a module adds its name to those that were seen. -/
theorem any_seen_count (census : ModuleCensus) (l : ListedModule) (name : ClassName) :
    (census.count l).seen.any (·.1 == name) =
      (census.seen.any (·.1 == name) || l.name == name) := by
  unfold count
  split
  · -- A module that is not counted was seen under its name.
    cases hname : l.name == name with
    | false => simp
    | true =>
      rw [beq_iff_eq] at hname
      simp_all
  · simp

/-- Counting makes seen what was seen before and what is counted. -/
theorem any_seen_foldl_count (census : ModuleCensus) (ls : List ListedModule) (name : ClassName) :
    (ls.foldl count census).seen.any (·.1 == name) =
      (census.seen.any (·.1 == name) || ls.any (·.name == name)) := by
  induction ls generalizing census with
  | nil => simp
  | cons l ls ih => rw [List.foldl_cons, ih, any_seen_count, List.any_cons, Bool.or_assoc]

/-- A module that was recorded was seen. -/
theorem any_seen_record (census : ModuleCensus) {ls : List ListedModule} {l : ListedModule}
    (hl : l ∈ ls) : (census.record ls).1.seen.any (·.1 == l.name) = true := by
  have hany : ls.any (·.name == l.name) = true := List.any_eq_true.2 ⟨l, hl, beq_self_eq_true _⟩
  have h := any_seen_foldl_count census ls l.name
  rwa [hany, Bool.or_true] at h

/-- Modules that were seen already are not counted again. -/
theorem foldl_count_of_seen {census : ModuleCensus} {ls : List ListedModule}
    (hseen : ∀ l ∈ ls, census.seen.any (·.1 == l.name) = true) :
    ls.foldl count census = census := by
  induction ls with
  | nil => rfl
  | cons l ls ih =>
    have hcount : census.count l = census := if_pos (hseen l List.mem_cons_self)
    rw [List.foldl_cons, hcount]
    exact ih fun k hk => hseen k (List.mem_cons_of_mem _ hk)

/-- Nobody is left to be reported when those who were left are reported. -/
theorem unreported_reporting (census : ModuleCensus) :
    unreported { census with
      reported := census.reported ++ census.unreported.map (·.1) } = [] := by
  by_cases hlength : census.seen.length < 2
  · simp [unreported, hlength]
  · simp only [unreported, hlength, if_false]
    refine List.filter_eq_nil_iff.2 fun p hp => ?_
    by_cases hreported : p.1 ∈ census.reported
    · simp [hreported]
    · have hseen : ∃ location, (p.1, location) ∈ census.seen := ⟨p.2, hp⟩
      simpa [hreported] using hseen

/-- Modules that were counted and are counted again change nothing and are not reported. -/
theorem record_again (census : ModuleCensus) (ls : List ListedModule) :
    (census.record ls).1.record ls = ((census.record ls).1, []) := by
  have hcounted : ls.foldl count (census.record ls).1 = (census.record ls).1 :=
    foldl_count_of_seen fun l hl => any_seen_record census hl
  have hunreported : (census.record ls).1.unreported = [] := unreported_reporting _
  rw [record, hcounted, hunreported]
  simp

/-- When one module was listed, all declarations that were counted are of it. -/
theorem name_eq_of_isSole {census : ModuleCensus} {ls : List ListedModule}
    (hsole : (census.record ls).1.isSole = true) {k l : ListedModule} (hk : k ∈ ls) (hl : l ∈ ls) :
    k.name = l.name := by
  obtain ⟨p, hp⟩ := List.length_eq_one_iff.1 (beq_iff_eq.1 hsole)
  have hkp := any_seen_record census hk
  have hlp := any_seen_record census hl
  rw [hp] at hkp hlp
  simp only [List.any_cons, List.any_nil, Bool.or_false, beq_iff_eq] at hkp hlp
  rw [← hkp, hlp]

end ModuleCensus

namespace Session

variable {s t : Session}

/-- The step `second` goes from `t` over what the step `first` went over before: it changes
nothing, and reports what `first` did, unless that is said once only. -/
structure Repeats (t : Session) (first second : Session × Outcome) : Prop where
  session_eq : second.1 = t
  files_eq : second.2.files = []
  reports_eq : second.2.reports = first.2.reports.filter (!·.isMadeOnce)

/-- Steps one after the other are repeated one after the other. -/
theorem Repeats.append {first last second final : Session × Outcome} (h : Repeats t first second)
    (h' : Repeats t last final) :
    Repeats t (last.1, first.2 ++ last.2) (final.1, second.2 ++ final.2) where
  session_eq := h'.session_eq
  files_eq := by simp [Outcome.append_def, h.files_eq, h'.files_eq]
  reports_eq := by simp [Outcome.append_def, h.reports_eq, h'.reports_eq]

/-! ### Going over classes again -/

/-- A name is claimed again when its owner has it already. -/
theorem claim_eq_repeated_iff {name owner : ClassName} :
    s.claim name owner = .repeated ↔ s.generated.lookup name = some owner := by
  unfold claim
  grind

/-- A name is taken when somebody else has it. -/
theorem claim_eq_taken_iff {name owner existing : ClassName} :
    s.claim name owner = .taken existing ↔
      s.generated.lookup name = some existing ∧ existing ≠ owner := by
  unfold claim
  grind

/-- A worker that was admitted or refused is gone over again in a session that has not forgotten
the names registered then. -/
theorem repeats_admitWorker {w : Worker} (hstyle : t.style = s.style)
    (hregistered : (s.admitWorker w).1.generated <+: t.generated) :
    Repeats t (s.admitWorker w) (t.admitWorker w) := by
  cases hclaim : s.claim (s.style.factoryName w.owner) w.owner with
  | granted =>
    simp only [admitWorker, hclaim] at hregistered ⊢
    have hfree : s.generated.lookup (s.style.factoryName w.owner) = none := by
      unfold claim at hclaim
      grind
    have hlookup : t.generated.lookup (s.style.factoryName w.owner) = some w.owner :=
      hregistered.lookup_eq_some (by simp [List.lookup_append, hfree])
    rw [hstyle, claim_eq_repeated_iff.2 hlookup]
    refine ⟨rfl, rfl, ?_⟩
    cases he : s.emitted <;> simp [lateReports, he, Report.isMadeOnce, Report.isNotBound]
  | repeated =>
    simp only [admitWorker, hclaim] at hregistered ⊢
    have hlookup := hregistered.lookup_eq_some (claim_eq_repeated_iff.1 hclaim)
    rw [hstyle, claim_eq_repeated_iff.2 hlookup]
    exact ⟨rfl, rfl, rfl⟩
  | taken existing =>
    simp only [admitWorker, hclaim] at hregistered ⊢
    obtain ⟨hlookup, hother⟩ := claim_eq_taken_iff.1 hclaim
    rw [hstyle, claim_eq_taken_iff.2 ⟨hregistered.lookup_eq_some hlookup, hother⟩]
    exact ⟨rfl, rfl, rfl⟩

/-- A class is gone over again. -/
theorem repeats_admitClass {c : ListedClass} (hhierarchy : t.hierarchy = s.hierarchy)
    (hstyle : t.style = s.style) (hregistered : (s.admitClass c).1.generated <+: t.generated) :
    Repeats t (s.admitClass c) (t.admitClass c) := by
  have hchecked : ∀ u : Session, Repeats t (u, ⟨[], c.reports s.hierarchy, []⟩)
      (t, ⟨[], c.reports s.hierarchy, []⟩) := by
    refine fun u => ⟨rfl, rfl, (List.filter_eq_self.2 fun r hr => ?_).symm⟩
    simp [Report.isMadeOnce, ListedClass.not_isNotBound_of_mem_reports hr]
  cases hw : c.worker? s.hierarchy with
  | none =>
    simp only [admitClass, hhierarchy, hw]
    exact hchecked s
  | some w =>
    simp only [admitClass, hw] at hregistered
    simp only [admitClass, hhierarchy, hw]
    exact (hchecked s).append (repeats_admitWorker hstyle hregistered)

/-- Classes are gone over again. -/
theorem repeats_admitClasses {cs : List ListedClass} (hhierarchy : t.hierarchy = s.hierarchy)
    (hstyle : t.style = s.style)
    (hregistered : (foldSteps admitClass s cs).1.generated <+: t.generated) :
    Repeats t (foldSteps admitClass s cs) (foldSteps admitClass t cs) := by
  induction cs generalizing s with
  | nil => exact ⟨rfl, rfl, rfl⟩
  | cons c cs ih =>
    obtain ⟨ws, hws⟩ := exists_accepting_admitClass s c
    obtain ⟨vs, hvs⟩ := exists_accepting_foldSteps (s.admitClass c).1 cs
    have hstep : (s.admitClass c).1.generated <+: t.generated := by
      refine List.IsPrefix.trans ?_ hregistered
      rw [foldSteps, hvs.session_eq]
      exact List.prefix_append _ _
    have hfirst := repeats_admitClass hhierarchy hstyle hstep
    have hrest := ih (s := (s.admitClass c).1) (by rw [hws.session_eq]; exact hhierarchy)
      (by rw [hws.session_eq]; exact hstyle) hregistered
    have hsecond : foldSteps admitClass t (c :: cs) =
        ((foldSteps admitClass t cs).1, (t.admitClass c).2 ++ (foldSteps admitClass t cs).2) := by
      rw [foldSteps, hfirst.session_eq]
    rw [hsecond]
    exact hfirst.append hrest

/-! ### Going over modules again -/

/-- The report of what is wrong with a module, if anything is. -/
def faultReports (s : Session) (l : ListedModule) : List Report :=
  match l.bindingModule s.style s.options.publicModule with
  | .error finding => [⟨finding, l.location⟩]
  | .ok _ => []

/-- Once there is a binding module, only what is wrong with modules is reported. -/
theorem foldSteps_admitModule_of_isSome (h : s.emitted.isSome) (ls : List ListedModule) :
    foldSteps admitModule s ls = (s, ⟨[], ls.flatMap s.faultReports, []⟩) := by
  induction ls with
  | nil => rfl
  | cons l ls ih =>
    have hstep : s.admitModule l = (s, ⟨[], s.faultReports l, []⟩) := by
      unfold admitModule faultReports
      cases l.bindingModule s.style s.options.publicModule with
      | error finding => rfl
      | ok m => simp [emitModule, h, Outcome.empty]
    rw [foldSteps, hstep]
    dsimp only
    rw [ih]
    simp [Outcome.append_def]

/-- When a binding module is generated and all declarations are of its module, only what is wrong
with them is reported. -/
theorem reports_of_emission {ls : List ListedModule} {m : BindingModule}
    (h : s.emission ls = some m) (hsame : ∀ l ∈ ls, l.name = m.owner) :
    (foldSteps admitModule s ls).2.reports = ls.flatMap s.faultReports := by
  induction ls with
  | nil => rfl
  | cons l ls ih =>
    cases hl : l.bindingModule s.style s.options.publicModule with
    | error finding =>
      have hrest : s.emission ls = some m := by
        simpa [emission, hl, Except.toOption] using h
      have hstep : s.admitModule l = (s, ⟨[], s.faultReports l, []⟩) := by
        simp [admitModule, faultReports, hl]
      rw [foldSteps, hstep]
      dsimp only [Outcome.append_def]
      rw [ih hrest fun k hk => hsame k (List.mem_cons_of_mem _ hk), List.flatMap_cons]
    | ok n =>
      -- The first valid declaration has the name that was granted.
      obtain ⟨hawaits, hfree, k, hk, hm⟩ := exists_of_emission_eq_some h
      have hname : n.generatedName = m.generatedName := by
        rw [(ListedModule.owner_of_bindingModule_ok hl).2,
          (ListedModule.owner_of_bindingModule_ok hm).2, hsame l List.mem_cons_self, hsame k hk]
      have hclaim : s.claim n.generatedName n.owner = .granted :=
        claim_eq_granted_iff.2 (hname ▸ hfree)
      have hopen : (!s.census.isSole || s.emitted.isSome) = false := by
        simp only [awaitsModule, Bool.and_eq_true, Option.isNone_iff_eq_none] at hawaits
        simp [hawaits]
      have hstep : ∃ generated files events, s.admitModule l =
          ({ s with generated, emitted := some n }, ⟨files, [], events⟩) := by
        simp only [admitModule, hl, emitModule, hopen, hclaim, Bool.false_eq_true, if_false]
        exact ⟨_, _, _, rfl⟩
      obtain ⟨generated, files, events, hstep⟩ := hstep
      have hnone : s.faultReports l = [] := by simp [faultReports, hl]
      rw [foldSteps, hstep, foldSteps_admitModule_of_isSome rfl, List.flatMap_cons, hnone]
      rfl

/-- Modules are gone over again in a session that is as the first time left it, the hierarchy and
the totals apart. -/
theorem repeats_admitModules {ls : List ListedModule} (h : Hierarchy) (summary : Summary)
    (ht : t = (foldSteps admitModule s ls).1.replacing h summary)
    (hsame : s.census.isSole = true → ∀ k ∈ ls, ∀ l ∈ ls, k.name = l.name) :
    Repeats t (foldSteps admitModule s ls) (foldSteps admitModule t ls) := by
  have hfirst := emitting_foldSteps s ls
  have hkept := Report.filter_isMadeOnce_eq_self hfirst.not_several hfirst.not_late
  cases hm : s.emission ls with
  | none =>
    -- Nothing was generated, so the second time begins where the first one did.
    have hs : (foldSteps admitModule s ls).1 = s := by
      rw [hfirst.session_eq, hm, withModule_none]
    have hagain := foldSteps_admitModule_replacing s h summary ls
    rw [ht, hs, hagain, hs]
    exact ⟨rfl, by simpa [hm] using hfirst.files_eq, hkept.symm⟩
  | some m =>
    obtain ⟨hawaits, -, k, hk, hkm⟩ := exists_of_emission_eq_some hm
    have hsole : s.census.isSole = true := (Bool.and_eq_true_iff.1 hawaits).1
    have howner : ∀ l ∈ ls, l.name = m.owner := fun l hl =>
      (hsame hsole l hl k hk).trans (ListedModule.owner_of_bindingModule_ok hkm).1.symm
    have hsome : t.emitted.isSome := by
      rw [ht, hfirst.session_eq, hm]
      cases he : s.emitted <;> simp [replacing, withModule, he]
    have hfaults : t.faultReports = s.faultReports := by
      rw [ht, hfirst.session_eq]
      rfl
    rw [foldSteps_admitModule_of_isSome hsome, hfaults, ← reports_of_emission hm howner]
    exact ⟨rfl, rfl, hkept.symm⟩

/-! ### Rounds -/

/-- A round that was just taken finds its supertypes known. -/
theorem begun_again (s : Session) (r : Round) :
    ((s.processRound r).1.begun r).hierarchy = (s.processRound r).1.hierarchy := by
  refine Hierarchy.foldl_record_of_known fun c hc u hu => ?_
  exact mem_processRound_hierarchy.2 (Or.inr ⟨c, hc, rfl, hu⟩)

/-- The classes of a round that was just taken are gone over again. -/
theorem repeats_classes (s : Session) (r : Round) :
    Repeats ((s.processRound r).1.begun r) (s.admitClasses r)
      ((s.processRound r).1.admitClasses r) := by
  apply repeats_admitClasses
  · rw [begun_again, processRound_hierarchy]
  · exact processRound_style s r
  · change (s.admitClasses r).1.generated <+: (s.processRound r).1.generated
    rw [(s.accepting_admitClasses r).session_eq, processRound_generated]
    exact List.prefix_append _ _

/-- When a round that was just taken comes to its modules again, nothing has changed. -/
theorem counted_again (s : Session) (r : Round) :
    (s.processRound r).1.counted r = (s.processRound r).1.begun r := by
  rw [counted, (s.repeats_classes r).session_eq, countModules_eq]
  have hcensus : ((s.processRound r).1.begun r).census = (s.census.record r.modules).1 :=
    processRound_census s r
  rw [hcensus, ModuleCensus.record_again, ← hcensus]

/-- The modules of a round that was just taken are gone over again. -/
theorem repeats_modules (s : Session) (r : Round) :
    Repeats ((s.processRound r).1.begun r) (foldSteps admitModule (s.counted r) r.modules)
      (foldSteps admitModule ((s.processRound r).1.counted r) r.modules) := by
  rw [counted_again]
  refine repeats_admitModules ((s.processRound r).1.begun r).hierarchy
    ((s.processRound r).1.begun r).summary ?_ fun hsole k hk l hl => ?_
  · rw [(s.emitting_modules r).session_eq, counted_eq]
    obtain ⟨summary, hsession⟩ := s.processRound_session r
    rw [hsession]
    rfl
  · rw [counted_eq] at hsole
    exact ModuleCensus.name_eq_of_isSole hsole hk hl

/-- **A round taken twice.**  Take any session and any round, in which classes and modules may be
listed several times.  When the session takes the round again right after it took it, no file
comes out and nothing changes but the totals: neither the workers nor the registry, the
hierarchy, the census or the binding module.  The reports are those of the first time, in the same
order, without those that modules are not alone and that workers came too late. -/
theorem repeated_round_changes_nothing (s : Session) (r : Round) :
    let first := s.processRound r
    let second := first.1.processRound r
    second.2.files = [] ∧
    second.1 = { first.1 with summary := second.1.summary } ∧
    second.2.reports =
      first.2.reports.filter (fun report => !(report.isSeveralModules || report.isNotBound)) := by
  intro first second
  have hclasses : Repeats (first.1.begun r) (s.admitClasses r) (first.1.admitClasses r) :=
    s.repeats_classes r
  have hmodules : Repeats (first.1.begun r) (foldSteps admitModule (s.counted r) r.modules)
      (foldSteps admitModule (first.1.counted r) r.modules) := s.repeats_modules r
  have hcensus : first.1.census.record r.modules = (first.1.census, []) := by
    rw [processRound_census, ModuleCensus.record_again]
  refine ⟨?files, ?session, ?reports⟩
  case files =>
    change (first.1.processRound r).2.files = []
    rw [processRound_eq]
    simp [Outcome.append_def, countModules_eq, hclasses.files_eq, hmodules.files_eq]
  case session =>
    have hlast : ∃ summary, second.1 = { first.1.begun r with summary } := by
      change ∃ summary, (first.1.processRound r).1 = { first.1.begun r with summary }
      rw [processRound_eq]
      dsimp only
      rw [hmodules.session_eq]
      exact ⟨_, rfl⟩
    obtain ⟨summary, hlast⟩ := hlast
    rw [hlast]
    change { first.1 with hierarchy := (first.1.begun r).hierarchy, summary } = _
    rw [begun_again]
  case reports =>
    have hcounts : (s.census.record r.modules).2.filter (!·.isMadeOnce) = [] :=
      List.filter_eq_nil_iff.2 fun report hreport => by
        simp [Report.isMadeOnce, isNotBound_of_mem_record hreport]
    have hfirst := congrArg (List.filter (!·.isMadeOnce)) (s.processRound_reports r)
    rw [List.filter_append, List.filter_append, hcounts, List.append_nil, ← hclasses.reports_eq,
      ← hmodules.reports_eq] at hfirst
    change (first.1.processRound r).2.reports = _
    rw [processRound_reports, hcensus, List.append_nil]
    exact hfirst.symm

end Session

end AssistedWorkers
