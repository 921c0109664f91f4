import AssistedWorkers.Proofs.BoundFactories
import AssistedWorkers.Proofs.CanonicalForm
import Mathlib.Data.List.Nodup

/-!
# Keys in a binding module

What keeps the bindings of a run apart is that no two factories have the same name.  Keys are
written differently: names of a chain are joined by what separates packages, or by dollar signs,
and the package comes in front.  With dollar signs a key tells everything that the name of the
factory tells.  With dots it does not say where the package ends, and a class that is nested in
classes named like the package of another one has the key of that one.

* `bindingKey_reflection_iff` — keys and factories coincide for the same classes;
* `bindingKey_flattened_iff` — keys coincide for classes with the same dotted name;
* `names_eq_iff` — which different classes have the same dotted name;
* `bindingKeys_nodup_iff` — when the keys of a binding module are distinct.
-/

namespace AssistedWorkers

open Java

namespace Java.ClassName

/-! ### Classes with the same dotted name -/

/-- The outermost classes around `c` are named like the last segments of the package of `d`, and
inside of them `c` has the chain that `d` has. -/
def MirrorsPackageOf (c d : ClassName) : Prop :=
  ∃ around, around ≠ [] ∧ packageSegments d.package = packageSegments c.package ++ around ∧
    c.simpleNames = around ++ d.simpleNames

/-- Classes that mirror each other have the same names in the same order. -/
theorem MirrorsPackageOf.names_eq {c d : ClassName} (h : c.MirrorsPackageOf d) :
    c.names = d.names := by
  obtain ⟨around, -, hpackage, hchain⟩ := h
  rw [names, names, hpackage, hchain, List.append_assoc]

/-- No class mirrors itself. -/
theorem MirrorsPackageOf.ne {c d : ClassName} (h : c.MirrorsPackageOf d) : c ≠ d := by
  intro heq
  obtain rfl := heq
  obtain ⟨around, hne, -, hchain⟩ := h
  exact hne (List.self_eq_append_left.1 hchain)

/-- A class is given by the segments of its package and its chain. -/
theorem eq_of_packageSegments {c d : ClassName}
    (hpackage : packageSegments c.package = packageSegments d.package)
    (hchain : c.simpleNames = d.simpleNames) : c = d := by
  refine ext_iff_simpleNames.2 ⟨?_, hchain⟩
  rw [← intercalate_packageSegments c.package, hpackage, intercalate_packageSegments]

/-- Different classes have the same names only if one of them takes for packages what the other
one takes for classes. -/
theorem names_eq_iff {c d : ClassName} (hne : c ≠ d) :
    c.names = d.names ↔ c.MirrorsPackageOf d ∨ d.MirrorsPackageOf c := by
  constructor
  · intro h
    rcases List.append_eq_append_iff.1 h with
      ⟨around, hpackage, hchain⟩ | ⟨around, hpackage, hchain⟩
    · refine Or.inl ⟨around, ?_, hpackage, hchain⟩
      intro heq
      obtain rfl := heq
      exact hne (eq_of_packageSegments (by simpa using hpackage.symm) (by simpa using hchain))
    · refine Or.inr ⟨around, ?_, hpackage, hchain⟩
      intro heq
      obtain rfl := heq
      exact hne (eq_of_packageSegments (by simpa using hpackage) (by simpa using hchain.symm))
  · intro h
    rcases h with h | h
    · exact h.names_eq
    · exact h.names_eq.symm

/-- No name of a class that may be declared has a dot in it. -/
theorem Declarable.dot_not_mem_names {c : ClassName} (h : c.Declarable) {name : String}
    (hname : name ∈ c.names) : '.' ∉ name.toList :=
  not_mem_of_isIdentifier (h.isIdentifier_of_mem_names hname) (by decide +kernel)

end Java.ClassName

namespace NestingStyle

/-! ### Keys -/

/-- Keys with dots are the same for classes with the same dotted name. -/
theorem bindingKey_flattened_iff {c d : ClassName} (hc : c.Declarable) (hd : d.Declarable) :
    flattened.bindingKey c = flattened.bindingKey d ↔ c.names = d.names := by
  change c.canonicalName = d.canonicalName ↔ c.names = d.names
  rw [c.canonicalName_eq_join, d.canonicalName_eq_join]
  refine ⟨fun h => ?_, fun h => by rw [h]⟩
  have hne : ∀ e : ClassName, e.names ≠ [] := fun e => by
    simp [ClassName.names, ClassName.simpleNames]
  exact intercalate_inj rfl (fun name => hc.dot_not_mem_names) (hne c)
    (fun name => hd.dot_not_mem_names) (hne d) h

/-- A key with dollar signs is the canonical name of a class that has the flattened chain as its
simple name. -/
theorem bindingKey_reflection (c : ClassName) :
    reflection.bindingKey c =
      (ClassName.topLevelIn c.package (reflection.flatten c.simpleNames)).canonicalName := by
  simp [bindingKey, ClassName.canonicalName, ClassName.qualifiedWith, ClassName.topLevelIn,
    ClassName.simpleNames, flatten, keySeparator, nameSeparator]

/-- Keys with dollar signs are the same for classes with the same factory. -/
theorem bindingKey_reflection_iff {c d : ClassName} (hc : c.Declarable) (hd : d.Declarable) :
    reflection.bindingKey c = reflection.bindingKey d ↔
      reflection.factoryName c = reflection.factoryName d := by
  let flat : ClassName → ClassName := fun e =>
    .topLevelIn e.package (reflection.flatten e.simpleNames)
  have hdots : ∀ e : ClassName, e.Declarable → ∀ name ∈ (flat e).names, '.' ∉ name.toList := by
    intro e he name hname hdot
    rcases List.mem_append.1 hname with hname | hname
    · exact he.dot_not_mem_names (List.mem_append_left _ hname) hdot
    · obtain rfl := List.mem_singleton.1 hname
      have hpart := isIdentifierPart_of_spelled
        (reflection.spelled_flatten e.simpleNames_ne_nil he.names) hdot
      exact absurd hpart (by decide +kernel)
  have hne : ∀ e : ClassName, (flat e).names ≠ [] := fun e => by
    simp [ClassName.names, ClassName.simpleNames]
  have hflat : (flat c).canonicalName = (flat d).canonicalName ↔ flat c = flat d := by
    refine ⟨fun h => ?_, fun h => by rw [h]⟩
    rw [ClassName.canonicalName_eq_join, ClassName.canonicalName_eq_join] at h
    have hnames := intercalate_inj rfl (hdots c hc) (hne c) (hdots d hd) (hne d) h
    obtain ⟨hpackage, hchain⟩ := List.append_inj' hnames rfl
    exact ClassName.eq_of_packageSegments hpackage hchain
  rw [bindingKey_reflection, bindingKey_reflection, hflat]
  simp [flat, factoryName, ClassName.topLevelIn]

end NestingStyle

namespace Session

/-! ### Runs -/

/-- When the keys of two workers of a run coincide. -/
theorem bindingKey_eq_iff {options : Options} {marker : Option AnnotationUse} {rounds : List Round}
    (hrounds : ∀ r ∈ rounds, r.Described) {v w : Worker}
    (hv : v ∈ ((start options marker).after rounds).workers)
    (hw : w ∈ ((start options marker).after rounds).workers) (hne : v.owner ≠ w.owner) :
    options.nestingStyle.bindingKey v.owner = options.nestingStyle.bindingKey w.owner ↔
      options.nestingStyle = .flattened ∧
        (v.owner.MirrorsPackageOf w.owner ∨ w.owner.MirrorsPackageOf v.owner) := by
  have hvdeclared := declarable_of_mem_workers hrounds hv
  have hwdeclared := declarable_of_mem_workers hrounds hw
  have hfactories := factoryName_ne_of_owner_ne hv hw hne
  cases hstyle : options.nestingStyle with
  | flattened =>
    rw [NestingStyle.bindingKey_flattened_iff hvdeclared hwdeclared, ClassName.names_eq_iff hne]
    simp
  | reflection =>
    rw [NestingStyle.bindingKey_reflection_iff hvdeclared hwdeclared]
    rw [hstyle] at hfactories
    simp [hfactories]

/-- **When the keys of a binding module are distinct.**  Take a binding module that comes out of
some round.  Its keys are those of the workers accepted so far.  Two workers of different classes
have the same key exactly when names are flattened and the classes around one of them are named
like the end of the package of the other one.  So the keys are distinct exactly when names are
written as in binary names, or no two workers are related in this way. -/
theorem bindingKeys_nodup_iff (options : Options) (marker : Option AnnotationUse)
    (earlier : List Round) (r : Round) (hrounds : ∀ q ∈ earlier ++ [r], q.Described)
    (file : SourceFile)
    (hfile : file ∈ (((start options marker).after earlier).processRound r).2.files)
    (hmodule : file.isBindingModule = true) :
    let style := options.nestingStyle
    let workers := ((start options marker).after (earlier ++ [r])).workers
    let keys := file.bindings.map (·.1)
    keys.Perm (workers.map fun w => some (style.bindingKey w.owner)) ∧
    (∀ v ∈ workers, ∀ w ∈ workers, v.owner ≠ w.owner →
      (style.bindingKey v.owner = style.bindingKey w.owner ↔ style = .flattened ∧
        (v.owner.MirrorsPackageOf w.owner ∨ w.owner.MirrorsPackageOf v.owner))) ∧
    (keys.Nodup ↔ style = .reflection ∨
      ∀ v ∈ workers, ∀ w ∈ workers, ¬ v.owner.MirrorsPackageOf w.owner) := by
  intro style workers keys
  have hworkers : (((start options marker).after earlier).processRound r).1.workers = workers := by
    simp only [workers, after_append, after_cons, after_nil]
  have hstyle : ((start options marker).after earlier).style = style := by simp [style]
  have hkeys : keys.Perm (workers.map fun w => some (style.bindingKey w.owner)) := by
    have h := (bindings_of_isBindingModule hfile hmodule).map (·.1)
    rw [hworkers, hstyle] at h
    simpa [keys, Function.comp_def] using h
  have hiff : ∀ v ∈ workers, ∀ w ∈ workers, v.owner ≠ w.owner →
      (style.bindingKey v.owner = style.bindingKey w.owner ↔ style = .flattened ∧
        (v.owner.MirrorsPackageOf w.owner ∨ w.owner.MirrorsPackageOf v.owner)) :=
    fun v hv w hw hne => bindingKey_eq_iff hrounds hv hw hne
  refine ⟨hkeys, hiff, ?_⟩
  -- No class is accepted twice, so keys are distinct when different classes have different ones.
  have howners : (workers.map (·.owner)).Nodup := after_workers_nodup options marker _
  rw [hkeys.nodup_iff, List.nodup_map_iff_inj_on howners.of_map]
  constructor
  · intro hinj
    cases hs : style with
    | reflection => exact Or.inl rfl
    | flattened =>
      refine Or.inr fun v hv w hw hmirrors => hmirrors.ne ?_
      have hkey := (hiff v hv w hw hmirrors.ne).2 ⟨hs, Or.inl hmirrors⟩
      rw [hinj v hv w hw (congrArg some hkey)]
  · intro h v hv w hw hkey
    apply Classical.byContradiction
    intro hvw
    have hne : v.owner ≠ w.owner := fun heq => hvw (List.inj_on_of_nodup_map howners hv hw heq)
    obtain ⟨hs, hmirrors⟩ := (hiff v hv w hw hne).1 (Option.some.inj hkey)
    rcases h with h | h
    · simp [hs] at h
    · exact hmirrors.elim (h v hv w hw) (h w hw v hv)

/-- A worker that is nested in a class `a`, a worker in a package `a`, and a module in it. -/
def nestedAndPackaged : RoundDescription where
  classes := [
    { testWorker "" "a.java" with enclosing := [⟨"a", .pack⟩], name := "B", isStatic := true },
    { testWorker "a" "a/B.java" with name := "B" }]
  modules := [⟨"a", [], "AppModule", .pack, some ⟨["WorkerInject_AppModule"]⟩,
    ⟨"a/AppModule.java", 7, none⟩⟩]

/-- That round when it is checked. -/
def listedNestedAndPackaged : Round where
  classes := [
    { listedTestWorker "" "a.java" with
      name := ⟨"", "a", ["B"]⟩, enclosingVisibility := [.pack], isStatic := true },
    { listedTestWorker "a" "a/B.java" with name := .topLevelIn "a" "B" }]
  modules := [⟨.topLevelIn "a" "AppModule", .pack,
    some [.topLevelIn "" "WorkerInject_AppModule"], ⟨"a/AppModule.java", 7, none⟩⟩]

/-- The two workers once they are accepted. -/
def nestedAndPackagedWorkers : List Worker := [
  ⟨⟨"", "a", ["B"]⟩, testWorkerParameters, ⟨"a.java", 3, none⟩⟩,
  ⟨.topLevelIn "a" "B", testWorkerParameters, ⟨"a/B.java", 3, none⟩⟩]

/-- The binding module of the two workers. -/
def nestedAndPackagedFile : SourceFile :=
  BindingModule.source .flattened none nestedAndPackagedWorkers
    ⟨.topLevelIn "a" "AppModule", false, .topLevelIn "a" "WorkerInject_AppModule"⟩

/-- The classes and the module are described correctly. -/
theorem check_nestedAndPackaged : nestedAndPackaged.check = .ok listedNestedAndPackaged := by
  decide +kernel

/-- Both classes are accepted as workers, for their factories have different names. -/
theorem accepted_nestedAndPackaged :
    (start .default none).accepted listedNestedAndPackaged = nestedAndPackagedWorkers := by
  decide +kernel

theorem nestedAndPackagedFile_mem_files :
    nestedAndPackagedFile ∈
      (((start .default none).after []).processRound listedNestedAndPackaged).2.files := by
  have hemitted : (start .default none).emittedIn listedNestedAndPackaged =
      some ⟨.topLevelIn "a" "AppModule", false, .topLevelIn "a" "WorkerInject_AppModule"⟩ := by
    decide +kernel
  rw [after_nil, processRound_files, accepted_nestedAndPackaged, hemitted]
  exact List.mem_append_right _ (List.mem_singleton.2 rfl)

/-- The keys of workers that are related in this way are not distinct. -/
theorem keys_of_nestedAndPackaged :
    (∀ q ∈ [] ++ [listedNestedAndPackaged], q.Described) ∧
      nestedAndPackagedFile ∈
        (((start .default none).after []).processRound listedNestedAndPackaged).2.files ∧
      nestedAndPackagedFile.isBindingModule = true ∧
      ¬ (nestedAndPackagedFile.bindings.map (·.1)).Nodup := by
  have hdescribed : ∀ q ∈ [] ++ [listedNestedAndPackaged], q.Described := by
    intro q hq
    obtain rfl := List.mem_singleton.1 hq
    exact ⟨nestedAndPackaged, check_nestedAndPackaged⟩
  have hmodule : nestedAndPackagedFile.isBindingModule = true :=
    BindingModule.isBindingModule_source _ _ _ _
  have hworkers : ((start .default none).after [listedNestedAndPackaged]).workers =
      nestedAndPackagedWorkers := by
    rw [after_cons, after_nil, processRound_workers, accepted_nestedAndPackaged]
    rfl
  have h := (bindingKeys_nodup_iff .default none [] listedNestedAndPackaged hdescribed
    nestedAndPackagedFile nestedAndPackagedFile_mem_files hmodule).2.2
  rw [List.nil_append, hworkers] at h
  refine ⟨hdescribed, nestedAndPackagedFile_mem_files, hmodule, fun hnodup => ?_⟩
  rcases h.1 hnodup with hstyle | hfree
  · exact absurd hstyle (by decide)
  · exact hfree _ List.mem_cons_self _ (List.mem_cons_of_mem _ List.mem_cons_self)
      ⟨["a"], by simp, by decide +kernel, rfl⟩

/-- A run in which two workers are bound under the same key. -/
theorem nestedAndPackaged_keyed_alike :
    nestedAndPackaged.check = .ok listedNestedAndPackaged ∧
      nestedAndPackagedFile ∈
        (((start .default none).after []).processRound listedNestedAndPackaged).2.files ∧
      nestedAndPackagedFile.bindings =
        [(some "a.B", [.named (.topLevelIn "" "a_B_AssistedFactory")]),
          (some "a.B", [.named (.topLevelIn "a" "B_AssistedFactory")])] := by
  refine ⟨check_nestedAndPackaged, nestedAndPackagedFile_mem_files, ?_⟩
  have hkeyed : BindingModule.keyed .flattened nestedAndPackagedWorkers =
      nestedAndPackagedWorkers.map fun w => (w.owner.canonicalName, w) :=
    List.mergeSort_of_pairwise (by decide +kernel)
  rw [nestedAndPackagedFile, BindingModule.source, hkeyed]
  decide +kernel

end Session

end AssistedWorkers
