import AssistedWorkers.Proofs.Diagnostics
import AssistedWorkers.Proofs.Registry

/-!
# One module per run

A run generates one binding module at most.  It does so in the first round that ends with one
module listed so far, in which a valid declaration of the module stands and no worker has taken
the name.  Modules that are not alone are reported at their first declarations, each of them in
the first round that ends with another one listed.

The census of a session is tied to the declarations of the run so far by `Counts`, which every
round keeps.

* `mem_firstDeclarations_iff` — which declaration of a module is its first one;
* `newlyCrowded_append` — a module is found not to be alone once;
* `emission_isSome_iff` — when a binding module is generated;
* `counts_after` — the census of every run;
* `one_module_per_run` — the statements above, for every round of every run.
-/

namespace AssistedWorkers

open Java

/-! ### The modules of a run -/

/-- The declarations of modules in some rounds, in order. -/
def declarationsIn (rounds : List Round) : List ListedModule :=
  rounds.flatMap (·.modules)

namespace ListedModule

/-- The first declaration of each module, in order. -/
def firstDeclarations : List ListedModule → List ListedModule
  | [] => []
  | l :: ls => l :: (firstDeclarations ls).filter (·.name ≠ l.name)

/-- Whether a module is declared and another one is, too. -/
def isCrowded (ls : List ListedModule) (name : ClassName) : Bool :=
  ls.any (·.name = name) && ls.any (·.name ≠ name)

/-- The modules that are not alone once `ks` are declared after `ls`, but were before, at their
first declarations. -/
def newlyCrowded (ls ks : List ListedModule) : List ListedModule :=
  (firstDeclarations (ls ++ ks)).filter fun l =>
    isCrowded (ls ++ ks) l.name && !isCrowded ls l.name

/-- The first declarations are those that a search for the name of their module finds. -/
theorem mem_firstDeclarations_iff {ls : List ListedModule} {l : ListedModule} :
    l ∈ firstDeclarations ls ↔ ls.find? (·.name = l.name) = some l := by
  induction ls with
  | nil => simp [firstDeclarations]
  | cons k ls ih =>
    rw [firstDeclarations, List.mem_cons, List.mem_filter, ih, List.find?_cons]
    by_cases hname : k.name = l.name
    · simp [hname, eq_comm]
    · have hne : l ≠ k := fun h => hname (h ▸ rfl)
      simp [hname, hne, Ne.symm hname]

/-- A first declaration is a declaration. -/
theorem mem_of_mem_firstDeclarations {ls : List ListedModule} {l : ListedModule}
    (h : l ∈ firstDeclarations ls) : l ∈ ls :=
  List.mem_of_find?_eq_some (mem_firstDeclarations_iff.1 h)

/-- Every module has a first declaration. -/
theorem exists_mem_firstDeclarations {ls : List ListedModule} {l : ListedModule} (h : l ∈ ls) :
    ∃ k ∈ firstDeclarations ls, k.name = l.name := by
  have hfound : (ls.find? (·.name = l.name)).isSome := List.find?_isSome.2 ⟨l, h, by simp⟩
  obtain ⟨k, hk⟩ := Option.isSome_iff_exists.1 hfound
  have hname : k.name = l.name := by simpa using List.find?_some hk
  rw [← hname] at hk
  exact ⟨k, mem_firstDeclarations_iff.2 hk, hname⟩

/-- The modules with a first declaration are those that are declared. -/
theorem any_firstDeclarations (ls : List ListedModule) (name : ClassName) :
    (firstDeclarations ls).any (·.name = name) = ls.any (·.name = name) := by
  rw [Bool.eq_iff_iff, List.any_eq_true, List.any_eq_true]
  constructor
  · rintro ⟨l, hl, hname⟩
    exact ⟨l, mem_of_mem_firstDeclarations hl, hname⟩
  · rintro ⟨l, hl, hname⟩
    obtain ⟨k, hk, hkl⟩ := exists_mem_firstDeclarations hl
    exact ⟨k, hk, by simpa [hkl] using hname⟩

/-- Declarations that follow add the first declarations of other modules. -/
theorem firstDeclarations_append (ls ks : List ListedModule) :
    firstDeclarations (ls ++ ks) = firstDeclarations ls ++
      (firstDeclarations ks).filter fun k => !ls.any (·.name = k.name) := by
  induction ls with
  | nil => exact (List.filter_eq_self.2 fun _ _ => rfl).symm
  | cons l ls ih =>
    simp only [List.cons_append, firstDeclarations, ih, List.filter_append, List.filter_filter]
    congr 2
    apply List.filter_congr
    intro k _
    by_cases h : k.name = l.name <;> simp [h, eq_comm]

/-- No module has two first declarations. -/
theorem firstDeclarations_names_nodup (ls : List ListedModule) :
    ((firstDeclarations ls).map (·.name)).Nodup := by
  induction ls with
  | nil => exact List.nodup_nil
  | cons l ls ih =>
    rw [firstDeclarations, List.map_cons, List.nodup_cons]
    refine ⟨?_, (ih.sublist (List.filter_sublist.map _))⟩
    simp

theorem isCrowded_append {ls : List ListedModule} {name : ClassName}
    (h : isCrowded ls name = true) (ks : List ListedModule) :
    isCrowded (ls ++ ks) name = true := by
  simp only [isCrowded, Bool.and_eq_true, List.any_append, Bool.or_eq_true] at h ⊢
  exact ⟨Or.inl h.1, Or.inl h.2⟩

/-- A declared module is alone when there is one first declaration. -/
theorem isCrowded_eq_false_iff {ls : List ListedModule} {l : ListedModule} (h : l ∈ ls) :
    isCrowded ls l.name = false ↔ ∀ k ∈ ls, k.name = l.name := by
  have hl : ls.any (·.name = l.name) = true := List.any_eq_true.2 ⟨l, h, by simp⟩
  simp [isCrowded, hl]

/-- There are two first declarations when a module is not alone. -/
theorem two_le_length_firstDeclarations_iff {ls : List ListedModule} {l : ListedModule}
    (h : l ∈ ls) : 2 ≤ (firstDeclarations ls).length ↔ isCrowded ls l.name = true := by
  have hnodup := firstDeclarations_names_nodup ls
  constructor
  · intro hlength
    apply Classical.byContradiction
    intro hcrowded
    rw [Bool.not_eq_true, isCrowded_eq_false_iff h] at hcrowded
    match hls : firstDeclarations ls, hlength with
    | a :: b :: rest, _ =>
      have ha : a ∈ ls := mem_of_mem_firstDeclarations (hls ▸ List.mem_cons_self)
      have hb : b ∈ ls :=
        mem_of_mem_firstDeclarations (hls ▸ List.mem_cons_of_mem _ List.mem_cons_self)
      simp [hls, hcrowded a ha, hcrowded b hb] at hnodup
  · intro hcrowded
    apply Classical.byContradiction
    intro hlength
    obtain ⟨k, hk, hkl⟩ : ∃ k ∈ ls, k.name ≠ l.name := by
      simpa [isCrowded] using (Bool.and_eq_true_iff.1 hcrowded).2
    obtain ⟨a, ha, hal⟩ := exists_mem_firstDeclarations h
    obtain ⟨b, hb, hbk⟩ := exists_mem_firstDeclarations hk
    match hls : firstDeclarations ls, hlength with
    | [], _ => simp [hls] at ha
    | [c], _ =>
      rw [hls, List.mem_singleton] at ha hb
      exact hkl (by rw [← hbk, ← hal, ha, hb])
    | _ :: _ :: _, hlength => exact hlength (by simp)

/-- A module is found not to be alone once: what two steps find is what they find together. -/
theorem newlyCrowded_append (ls ks js : List ListedModule) :
    newlyCrowded ls (ks ++ js) = newlyCrowded ls ks ++ newlyCrowded (ls ++ ks) js := by
  -- The modules that `js` adds are crowded neither before nor after `ks`.
  have hadded : ∀ k ∈ (firstDeclarations js).filter fun k => !(ls ++ ks).any (·.name = k.name),
      isCrowded ls k.name = isCrowded (ls ++ ks) k.name := by
    intro k hk
    have hnew : (ls ++ ks).any (·.name = k.name) = false := by
      simpa using (List.mem_filter.1 hk).2
    have hls : ls.any (·.name = k.name) = false := by
      rw [List.any_append, Bool.or_eq_false_iff] at hnew
      exact hnew.1
    rw [isCrowded, isCrowded, hnew, hls, Bool.false_and, Bool.false_and]
  simp only [newlyCrowded, ← List.append_assoc]
  rw [firstDeclarations_append (ls ++ ks) js, List.filter_append, List.filter_append,
    ← List.append_assoc]
  congr 1
  · -- Of the modules before `js`, either all are crowded after `ks` or none is.
    by_cases hlength : 2 ≤ (firstDeclarations (ls ++ ks)).length
    · have hcrowded : ∀ l ∈ firstDeclarations (ls ++ ks), isCrowded (ls ++ ks) l.name = true :=
        fun l hl =>
          (two_le_length_firstDeclarations_iff (mem_of_mem_firstDeclarations hl)).1 hlength
      have hnone : (firstDeclarations (ls ++ ks)).filter (fun l =>
          isCrowded (ls ++ ks ++ js) l.name && !isCrowded (ls ++ ks) l.name) = [] :=
        List.filter_eq_nil_iff.2 fun l hl => by simp [hcrowded l hl]
      rw [hnone, List.append_nil]
      apply List.filter_congr
      intro l hl
      rw [hcrowded l hl, isCrowded_append (hcrowded l hl) js]
    · have halone : ∀ l ∈ firstDeclarations (ls ++ ks), isCrowded (ls ++ ks) l.name = false := by
        intro l hl
        rw [← Bool.not_eq_true]
        exact fun h =>
          hlength ((two_le_length_firstDeclarations_iff (mem_of_mem_firstDeclarations hl)).2 h)
      have hnone : (firstDeclarations (ls ++ ks)).filter (fun l =>
          isCrowded (ls ++ ks) l.name && !isCrowded ls l.name) = [] :=
        List.filter_eq_nil_iff.2 fun l hl => by simp [halone l hl]
      rw [hnone, List.nil_append]
      apply List.filter_congr
      intro l hl
      have hls : isCrowded ls l.name = false := by
        have h := halone l hl
        rw [← Bool.not_eq_true] at h ⊢
        exact fun hcrowded => h (isCrowded_append hcrowded ks)
      rw [halone l hl, hls]
  · apply List.filter_congr
    intro k hk
    rw [hadded k hk]

/-- No module is found not to be alone when all declarations are of one module. -/
theorem newlyCrowded_of_same {ls : List ListedModule}
    (h : ∀ k ∈ ls, ∀ l ∈ ls, k.name = l.name) : newlyCrowded [] ls = [] := by
  refine List.filter_eq_nil_iff.2 fun l hl => ?_
  have hl := mem_of_mem_firstDeclarations hl
  have halone := (isCrowded_eq_false_iff hl).2 fun k hk => h k hk l hl
  rw [List.nil_append] at halone ⊢
  simp [halone]

/-- Every module is found not to be alone when there are declarations of two. -/
theorem newlyCrowded_of_ne {ls : List ListedModule} {k l : ListedModule} (hk : k ∈ ls)
    (hl : l ∈ ls) (hne : k.name ≠ l.name) : newlyCrowded [] ls = firstDeclarations ls := by
  refine List.filter_eq_self.2 fun j hj => ?_
  have hj := mem_of_mem_firstDeclarations hj
  have hother : ∃ i ∈ ls, i.name ≠ j.name := by
    by_cases hkj : k.name = j.name
    · exact ⟨l, hl, fun hlj => hne (hkj.trans hlj.symm)⟩
    · exact ⟨k, hk, hkj⟩
  have hcrowded : isCrowded ls j.name = true := by
    obtain ⟨i, hi, hij⟩ := hother
    simp only [isCrowded, Bool.and_eq_true, List.any_eq_true, decide_eq_true_eq]
    exact ⟨⟨j, hj, rfl⟩, i, hi, hij⟩
  rw [List.nil_append, hcrowded]
  rfl

end ListedModule

/-! ### The census -/

/-- The census keeps the first declarations of the modules declared so far, and has reported
those modules that are not alone. -/
structure ModuleCensus.Counts (census : ModuleCensus) (ls : List ListedModule) : Prop where
  seen_eq : census.seen = (ListedModule.firstDeclarations ls).map fun l => (l.name, l.location)
  mem_reported_iff : ∀ name, name ∈ census.reported ↔ ListedModule.isCrowded ls name

namespace ModuleCensus

open ListedModule

theorem counts_empty : empty.Counts [] where
  seen_eq := rfl
  mem_reported_iff := by simp [empty, isCrowded]

/-- Counting adds the first declarations of modules that were not declared before. -/
theorem foldl_count (census : ModuleCensus) (ls ks : List ListedModule)
    (h : census.seen = (firstDeclarations ls).map fun l => (l.name, l.location)) :
    ks.foldl count census =
      ⟨(firstDeclarations (ls ++ ks)).map fun l => (l.name, l.location), census.reported⟩ := by
  induction ks generalizing census ls with
  | nil => cases census; simpa using h
  | cons k ks ih =>
    have hcount : (census.count k).seen =
        (firstDeclarations (ls ++ [k])).map fun l => (l.name, l.location) := by
      rw [firstDeclarations_append, List.map_append, ← h]
      have hany : census.seen.any (·.1 == k.name) = ls.any (·.name = k.name) := by
        rw [h, List.any_map, ← any_firstDeclarations]
        rfl
      unfold count
      rw [hany]
      split <;> simp_all [firstDeclarations]
    have hreported : (census.count k).reported = census.reported := by
      unfold count
      split <;> rfl
    rw [List.foldl_cons, ih _ _ hcount, hreported, List.append_assoc]
    rfl

/-- A round reports the modules that it finds not to be alone, and counts its declarations. -/
theorem record_of_counts {census : ModuleCensus} {ls : List ListedModule} (h : census.Counts ls)
    (ks : List ListedModule) :
    (census.record ks).1.Counts (ls ++ ks) ∧
      (census.record ks).2 =
        (newlyCrowded ls ks).map fun l => ⟨.severalModules, l.location⟩ := by
  have hcounted := foldl_count census ls ks h.seen_eq
  have hfound : (ks.foldl count census).unreported =
      (newlyCrowded ls ks).map fun l => (l.name, l.location) := by
    simp only [hcounted, unreported, List.length_map]
    split
    -- With one name at most no module is crowded; with more names every module is.
    · have hnone : newlyCrowded ls ks = [] := by
        refine List.filter_eq_nil_iff.2 fun l hl hcrowded => ?_
        have hl := mem_of_mem_firstDeclarations hl
        have := (two_le_length_firstDeclarations_iff hl).2 (Bool.and_eq_true_iff.1 hcrowded).1
        omega
      rw [hnone, List.map_nil]
    · rw [newlyCrowded, List.filter_map]
      congr 1
      apply List.filter_congr
      intro l hl
      have hl := mem_of_mem_firstDeclarations hl
      have hcrowded := (two_le_length_firstDeclarations_iff hl).1 (by omega)
      have hreported := h.mem_reported_iff l.name
      cases hls : isCrowded ls l.name <;> simp_all
  have hrecord : census.record ks =
      (⟨(firstDeclarations (ls ++ ks)).map fun l => (l.name, l.location),
        census.reported ++ (newlyCrowded ls ks).map (·.name)⟩,
      (newlyCrowded ls ks).map fun l => ⟨.severalModules, l.location⟩) := by
    simp only [record]
    rw [hfound, hcounted]
    simp [Function.comp_def]
  rw [hrecord]
  refine ⟨⟨rfl, fun name => ?_⟩, rfl⟩
  rw [List.mem_append, h.mem_reported_iff, List.mem_map]
  constructor
  · rintro (hname | ⟨l, hl, rfl⟩)
    · exact isCrowded_append hname ks
    · exact (Bool.and_eq_true_iff.1 (List.mem_filter.1 hl).2).1
  · intro hname
    by_cases hls : isCrowded ls name = true
    · exact Or.inl hls
    · obtain ⟨l, hl, hln⟩ := List.any_eq_true.1 (Bool.and_eq_true_iff.1 hname).1
      obtain ⟨k, hk, hkl⟩ := exists_mem_firstDeclarations hl
      have hkn : k.name = name := by simpa [hkl] using hln
      exact Or.inr ⟨k, List.mem_filter.2 ⟨hk, by simp [hkn, hname, hls]⟩, hkn⟩

/-- One module was listed when all declarations are of the same. -/
theorem isSole_iff_of_counts {census : ModuleCensus} {ls : List ListedModule}
    (h : census.Counts ls) {l : ListedModule} (hl : l ∈ ls) :
    census.isSole = true ↔ ∀ k ∈ ls, k.name = l.name := by
  have hcrowded := two_le_length_firstDeclarations_iff hl
  have hpos : 0 < (firstDeclarations ls).length := by
    obtain ⟨k, hk, -⟩ := exists_mem_firstDeclarations hl
    exact List.length_pos_of_mem hk
  rw [← isCrowded_eq_false_iff hl, isSole, h.seen_eq, List.length_map, beq_iff_eq,
    ← Bool.not_eq_true, ← hcrowded]
  omega

end ModuleCensus

/-! ### Runs -/

namespace Session

open ListedModule

/-- The census of a session that goes on counts the declarations of the rounds to come. -/
theorem counts_after {s : Session} {ls : List ListedModule} (h : s.census.Counts ls)
    (rounds : List Round) : (s.after rounds).census.Counts (ls ++ declarationsIn rounds) := by
  induction rounds generalizing s ls with
  | nil => simpa [declarationsIn] using h
  | cons r rounds ih =>
    have hround : (s.processRound r).1.census.Counts (ls ++ r.modules) := by
      rw [processRound_census]
      exact (ModuleCensus.record_of_counts h r.modules).1
    have := ih hround
    rwa [List.append_assoc] at this

/-- What a run that goes on says of modules that are not alone. -/
theorem reportsOf_several {s : Session} {ls : List ListedModule} (h : s.census.Counts ls)
    (rounds : List Round) :
    (s.reportsOf rounds).filter (·.isSeveralModules) =
      (newlyCrowded ls (declarationsIn rounds)).map fun l => ⟨.severalModules, l.location⟩ := by
  induction rounds generalizing s ls with
  | nil =>
    have hnone : newlyCrowded ls (declarationsIn []) = [] :=
      List.filter_eq_nil_iff.2 fun l _ => by simp [declarationsIn]
    rw [hnone]
    rfl
  | cons r rounds ih =>
    obtain ⟨hround, hreports⟩ := ModuleCensus.record_of_counts h r.modules
    rw [← processRound_census] at hround
    have hcons : declarationsIn (r :: rounds) = r.modules ++ declarationsIn rounds := rfl
    rw [reportsOf_cons, List.filter_append, processRound_several, hreports, ih hround, hcons,
      newlyCrowded_append, List.map_append]

/-- What a host reads of modules that are not alone. -/
theorem diagnostics_several (ls : List ListedModule) :
    (ls.map fun l => (⟨.severalModules, l.location⟩ : Report)).map Report.diagnostic =
      ls.map fun l => .severalModules l.location := by
  rw [List.map_map]
  exact List.map_congr_left fun l _ => Report.diagnostic_severalModules l.location

/-- What a host reads of modules that are not alone while a run goes on. -/
theorem diagnosticsOf_several {s : Session} {ls : List ListedModule} (h : s.census.Counts ls)
    (rounds : List Round) :
    (s.diagnosticsOf rounds).filter (·.saysSeveralModules) =
      (newlyCrowded ls (declarationsIn rounds)).map fun l => .severalModules l.location := by
  rw [diagnosticsOf_eq, filter_saysSeveralModules, reportsOf_several h, diagnostics_several]

/-- A binding module is generated for the first valid declaration if one may be and its name is
free. -/
theorem emission_isSome_iff {s : Session} {ls : List ListedModule} :
    (s.emission ls).isSome ↔ s.awaitsModule ∧
      ∃ l ∈ ls, (∃ m, l.bindingModule s.style s.options.publicModule = .ok m) ∧
        s.style.moduleName l.name ∉ s.generatedNames := by
  constructor
  · intro h
    obtain ⟨m, hm⟩ := Option.isSome_iff_exists.1 h
    obtain ⟨hawaits, hfree, l, hl, hok⟩ := exists_of_emission_eq_some hm
    rw [(owner_of_bindingModule_ok hok).2] at hfree
    exact ⟨hawaits, l, hl, ⟨m, hok⟩, hfree⟩
  · rintro ⟨hawaits, l, hl, ⟨m, hok⟩, hfree⟩
    rw [← (owner_of_bindingModule_ok hok).2] at hfree
    rw [emission, List.findSome?_isSome_iff]
    exact ⟨l, hl, by simp [hok, Except.toOption, grant?, hawaits, hfree]⟩

/-- A binding module comes out of a round when the round generates one. -/
theorem exists_isBindingModule_iff {s : Session} {r : Round} :
    (∃ file ∈ (s.processRound r).2.files, file.isBindingModule) ↔ (s.emittedIn r).isSome := by
  rw [processRound_files]
  cases hm : s.emittedIn r with
  | none => simp [Worker.isBindingModule_factory]
  | some m => simp [BindingModule.isBindingModule_source]

/-- A round generates a binding module when there is none yet, all declarations so far are of one
module, and a valid one among those of the round finds its name free. -/
theorem emittedIn_isSome_iff {s : Session} {ls : List ListedModule} (h : s.census.Counts ls)
    (r : Round) :
    (s.emittedIn r).isSome ↔ s.emitted = none ∧
      ∃ l ∈ r.modules, (∀ k ∈ ls ++ r.modules, k.name = l.name) ∧
        (∃ m, l.bindingModule s.style s.options.publicModule = .ok m) ∧
        s.style.moduleName l.name ∉ (s.admitClasses r).1.generatedNames := by
  have hcounts := (ModuleCensus.record_of_counts h r.modules).1
  have hcounted : (s.counted r).generatedNames = (s.admitClasses r).1.generatedNames := rfl
  have hstate : (s.counted r).census = (s.census.record r.modules).1 ∧
      (s.counted r).emitted = s.emitted ∧ (s.counted r).style = s.style ∧
      (s.counted r).options = s.options := by
    rw [counted_eq]
    exact ⟨rfl, rfl, rfl, rfl⟩
  obtain ⟨hcensus, hemitted, hstyle, hoptions⟩ := hstate
  rw [emittedIn_eq_emission, emission_isSome_iff, awaitsModule, hcensus, hemitted, hstyle, hoptions,
    hcounted]
  constructor
  · rintro ⟨hawaits, l, hl, hok, hfree⟩
    obtain ⟨hsole, hnone⟩ := Bool.and_eq_true_iff.1 hawaits
    exact ⟨Option.isNone_iff_eq_none.1 hnone, l, hl,
      (ModuleCensus.isSole_iff_of_counts hcounts (List.mem_append_right _ hl)).1 hsole, hok, hfree⟩
  · rintro ⟨hnone, l, hl, hsame, hok, hfree⟩
    have hsole := (ModuleCensus.isSole_iff_of_counts hcounts (List.mem_append_right _ hl)).2 hsame
    exact ⟨by rw [hsole, hnone]; rfl, l, hl, hok, hfree⟩

/-- **One module per run.**  Take any round of any run that starts afresh.  The run generates one
binding module at most and keeps it.  The round generates it when none was generated before, all
declarations so far are of one module, a valid one stands in this round, and no worker has taken
the name.  A host reads the error that there are several modules once for each module that is not
alone at the end of the round but was when it began, at the first declaration of the module.
Over the whole run it never reads this error when all declarations are of one module, and else
once for every module. -/
theorem one_module_per_run (options : Options) (marker : Option AnnotationUse)
    (earlier : List Round) (r : Round) (later : List Round) :
    let s := start options marker
    let before := s.after earlier
    let outcome := (before.processRound r).2
    let run := earlier ++ r :: later
    let sofar := declarationsIn (earlier ++ [r])
    let several : ListedModule → Diagnostic := fun l => .severalModules l.location
    ((s.filesOf run).filter (·.isBindingModule)).length ≤ 1 ∧
    (∀ m, before.emitted = some m → (s.after run).emitted = some m) ∧
    ((∃ file ∈ outcome.files, file.isBindingModule) ↔
      (∀ file ∈ s.filesOf earlier, ¬ file.isBindingModule) ∧
      ∃ l ∈ r.modules, (∀ k ∈ sofar, k.name = l.name) ∧
        (∃ m, l.bindingModule options.nestingStyle options.publicModule = .ok m) ∧
        options.nestingStyle.moduleName l.name ∉ (before.admitClasses r).1.generatedNames) ∧
    outcome.diagnostics.filter (·.saysSeveralModules) =
      ((firstDeclarations sofar).filter fun l =>
        isCrowded sofar l.name && !isCrowded (declarationsIn earlier) l.name).map several ∧
    ((∀ k ∈ declarationsIn run, ∀ l ∈ declarationsIn run, k.name = l.name) →
      (s.diagnosticsOf run).filter (·.saysSeveralModules) = []) ∧
    ((∃ k ∈ declarationsIn run, ∃ l ∈ declarationsIn run, k.name ≠ l.name) →
      (s.diagnosticsOf run).filter (·.saysSeveralModules) =
        (firstDeclarations (declarationsIn run)).map several) := by
  intro s before outcome run sofar several
  have hbefore : before.census.Counts (declarationsIn earlier) :=
    counts_after (s := s) ModuleCensus.counts_empty earlier
  have hsofar : sofar = declarationsIn earlier ++ r.modules := by
    simp [sofar, declarationsIn]
  have hrun : (s.diagnosticsOf run).filter (·.saysSeveralModules) =
      (newlyCrowded [] (declarationsIn run)).map several :=
    diagnosticsOf_several (s := s) ModuleCensus.counts_empty run
  refine ⟨?_, ?_, ?_, ?_, ?_, ?_⟩
  · obtain ⟨ws, hws⟩ := s.bindingModules_of_run run
    rw [hws, start_emitted]
    cases (s.after run).emitted <;> simp
  · intro m hm
    have hafter : s.after run = before.after (r :: later) := after_append s earlier (r :: later)
    rw [hafter]
    exact emitted_after_of_eq_some hm _
  · rw [exists_isBindingModule_iff, emittedIn_isSome_iff hbefore, ← hsofar,
      show before.style = options.nestingStyle by simp [before, s],
      show before.options = options by simp [before, s, start]]
    exact and_congr emitted_eq_none_iff Iff.rfl
  · rw [Outcome.diagnostics, filter_saysSeveralModules, processRound_several,
      (ModuleCensus.record_of_counts hbefore r.modules).2, diagnostics_several, newlyCrowded,
      ← hsofar]
  · intro hsame
    rw [hrun, newlyCrowded_of_same hsame, List.map_nil]
  · rintro ⟨k, hk, l, hl, hne⟩
    rw [hrun, newlyCrowded_of_ne hk hl hne]

end Session

end AssistedWorkers
