import AssistedWorkers.Proofs.Bindings
import AssistedWorkers.Proofs.OutputPaths
import AssistedWorkers.Proofs.Spelling

/-!
# How factories are written in a binding module

A binding module binds every worker by the text that its factory is written by.  Different
workers have different factories, and nearly always they are written differently.  They are not
when two factories have the same simple name, one worker is of the default package and the other
one of the package of the module: then the two bindings read the same.

* `exists_render_of_mem_workers` — the line that binds a worker;
* `written_eq_iff` — when two workers of a run are bound by the same text.
-/

namespace AssistedWorkers

open Java

/-- The string key and the written parameter types of each method of a file, constructors
apart. -/
def Java.SourceFile.writtenBindings (file : SourceFile) : List (Option String × List String) :=
  file.bindings.map fun p => (p.1, p.2.map (·.spell file.scope.nameOf))

namespace BindingModule

/-- Every worker that is to be bound has a method that binds it. -/
theorem exists_bindMethod_of_mem (style : NestingStyle) {keyed : List (String × Worker)}
    {key : String} {w : Worker} (h : (key, w) ∈ keyed) (taken : List String) :
    ∃ name, bindMethod style name key w ∈ bindMethods style taken keyed := by
  induction keyed generalizing taken with
  | nil => simp at h
  | cons p keyed ih =>
    obtain ⟨key', v⟩ := p
    rcases List.mem_cons.1 h with h | h
    · obtain ⟨rfl, rfl⟩ := Prod.mk.inj h
      exact ⟨_, List.mem_cons_self⟩
    · obtain ⟨name, hname⟩ := ih h (takeName taken (bindMethodName key')).2
      exact ⟨name, List.mem_cons_of_mem _ hname⟩

/-- Each worker has a bind method in the source of the module. -/
theorem exists_bindMethod_mem_source (style : NestingStyle) (marker : Option AnnotationUse)
    (m : BindingModule) {ws : List Worker} {w : Worker} (hw : w ∈ ws) :
    ∃ name, bindMethod style name (style.bindingKey w.owner) w ∈
      (m.source style marker ws).declaration.methods := by
  have hkeyed : (style.bindingKey w.owner, w) ∈ keyed style ws :=
    (keyed_perm style ws).mem_iff.2 (List.mem_map_of_mem hw)
  obtain ⟨name, hname⟩ := exists_bindMethod_of_mem style hkeyed []
  exact ⟨name, List.mem_cons_of_mem _ hname⟩

/-- The factories of the workers that are to be bound are referred to. -/
theorem factoryName_mem_references {style : NestingStyle} {marker : Option AnnotationUse}
    {ws : List Worker} {m : BindingModule} {w : Worker} (hw : w ∈ ws) :
    style.factoryName w.owner ∈ (m.source style marker ws).scope.references := by
  obtain ⟨name, hname⟩ := exists_bindMethod_mem_source style marker m hw
  have hmethod : style.factoryName w.owner ∈
      (bindMethod style name (style.bindingKey w.owner) w).classes := by
    simp [bindMethod, Method.classes, FormalParameter.classes, JavaType.classes]
  have hmethods := List.mem_flatMap.2 ⟨_, hname, hmethod⟩
  exact List.mem_append_right _ (List.mem_append_right _ (List.mem_append_right _ hmethods))

/-- The last two lines of a method that binds a factory, written in the given way, under a key:
the annotation with the key and the signature, both indented. -/
def bindingLines (nameOf : ClassName → String) (key name factory : String) : String :=
  "  " ++ ("@" ++ nameOf Framework.stringKey ++ "(" ++ StringLiteral.quote key ++ ")") ++ "\n" ++
    ("  " ++ "abstract " ++ (nameOf Framework.workFactory ++ " " ++ name) ++ "(" ++
      (factory ++ " " ++ "factory") ++ ")" ++ ";\n")

/-- What a method that binds a factory ends in. -/
theorem exists_spell_bindMethod (style : NestingStyle) (nameOf : ClassName → String)
    (className name key : String) (w : Worker) :
    ∃ front, (bindMethod style name key w).spell nameOf className =
      front ++ bindingLines nameOf key name (nameOf (style.factoryName w.owner)) := by
  have hspell : (bindMethod style name key w).spell nameOf className =
      String.join [
        "  " ++ ("@" ++ nameOf Framework.binds) ++ "\n",
        "  " ++ ("@" ++ nameOf Framework.intoMap) ++ "\n",
        "  " ++ ("@" ++ nameOf Framework.stringKey ++ "(" ++ StringLiteral.quote key ++ ")") ++
          "\n"] ++
      ("  " ++ "abstract " ++ (nameOf Framework.workFactory ++ " " ++ name) ++ "(" ++
        (nameOf (style.factoryName w.owner) ++ " " ++ "factory") ++ ")") ++ ";\n" := by
    rfl
  refine ⟨"  " ++ ("@" ++ nameOf Framework.binds) ++ "\n" ++
    ("  " ++ ("@" ++ nameOf Framework.intoMap) ++ "\n"), ?_⟩
  rw [hspell, bindingLines]
  simp only [String.join_cons, String.join_nil, String.append_assoc, String.append_empty]

/-- The lines that bind a worker are in the file. -/
theorem exists_render_of_mem_workers (style : NestingStyle) (marker : Option AnnotationUse)
    (m : BindingModule) {ws : List Worker} {w : Worker} (hw : w ∈ ws) :
    ∃ front name back, (m.source style marker ws).render = front ++
      bindingLines (m.source style marker ws).scope.nameOf (style.bindingKey w.owner) name
        ((m.source style marker ws).scope.nameOf (style.factoryName w.owner)) ++ back := by
  obtain ⟨name, hname⟩ := exists_bindMethod_mem_source style marker m hw
  obtain ⟨front, back, hrender⟩ := SourceFile.exists_render_of_mem hname
  obtain ⟨start, hspell⟩ := exists_spell_bindMethod style
    (m.source style marker ws).scope.nameOf (m.source style marker ws).declaration.name name
    (style.bindingKey w.owner) w
  refine ⟨front ++ start, name, back, ?_⟩
  simp only [hrender, hspell, String.append_assoc]

end BindingModule

namespace NestingStyle

/-- Two factories have the same simple name when the chains of their workers are flattened to the
same text. -/
theorem outermost_factoryName_eq_iff (style : NestingStyle) (c d : ClassName) :
    (style.factoryName c).outermost = (style.factoryName d).outermost ↔
      style.flatten c.simpleNames = style.flatten d.simpleNames :=
  String.append_left_inj _

end NestingStyle

namespace Session

/-- The factory of a worker is not the class of a binding module that is generated for it. -/
theorem factoryName_ne_of_emittedIn {options : Options} {marker : Option AnnotationUse}
    {earlier : List Round} {r : Round} {m : BindingModule}
    (hm : ((start options marker).after earlier).emittedIn r = some m) {w : Worker}
    (hw : w ∈ ((start options marker).after (earlier ++ [r])).workers) :
    options.nestingStyle.factoryName w.owner ≠ m.generatedName := by
  have hnodup := generatedNames_nodup options marker (earlier ++ [r])
  rw [after_append, after_cons, after_nil] at hnodup hw
  rw [generatedNames, processRound_generated, hm, List.map_append, List.map_append,
    List.nodup_append] at hnodup
  rw [processRound_workers] at hw
  refine hnodup.2.2 _ ?_ _ (by simp)
  rcases List.mem_append.1 hw with hw | hw
  · exact List.mem_append_left _ ((factoryNames_sublist options marker earlier).subset
      (List.mem_map.2 ⟨w, hw, rfl⟩))
  · apply List.mem_append_right
    simpa using ⟨w, hw, rfl⟩

/-- Workers of different classes have different factories. -/
theorem factoryName_ne_of_owner_ne {options : Options} {marker : Option AnnotationUse}
    {rounds : List Round} {v w : Worker}
    (hv : v ∈ ((start options marker).after rounds).workers)
    (hw : w ∈ ((start options marker).after rounds).workers) (hne : v.owner ≠ w.owner) :
    options.nestingStyle.factoryName v.owner ≠ options.nestingStyle.factoryName w.owner := by
  intro heq
  have hnodup := (factoryNames_sublist options marker rounds).nodup
    (generatedNames_nodup options marker rounds)
  have hsingle := filter_eq_singleton_of_nodup hnodup hw
  have hmem := hsingle ▸ List.mem_filter.2 ⟨hv, decide_eq_true heq⟩
  exact hne (congrArg Worker.owner (List.mem_singleton.1 hmem))

/-- **When two workers are bound by the same text.**  Take a binding module that comes out of
some round.  It binds each worker accepted so far under its key by the text that its factory is
written by, and the lines that do so are in the rendered file.  For workers of two classes the
texts are the same exactly when the chains of the classes are flattened to the same name, one
class is of the default package, and the other one is of the package of the module. -/
theorem written_eq_iff (options : Options) (marker : Option AnnotationUse) (earlier : List Round)
    (r : Round) (hrounds : ∀ q ∈ earlier ++ [r], q.Described) (file : SourceFile)
    (hfile : file ∈ (((start options marker).after earlier).processRound r).2.files)
    (hmodule : file.isBindingModule = true) :
    let style := options.nestingStyle
    let workers := ((start options marker).after (earlier ++ [r])).workers
    let written : Worker → String := fun w => file.scope.nameOf (style.factoryName w.owner)
    file.writtenBindings.Perm
      (workers.map fun w => (some (style.bindingKey w.owner), [written w])) ∧
    (∀ w ∈ workers, ∃ front name back, file.render = front ++
      BindingModule.bindingLines file.scope.nameOf (style.bindingKey w.owner) name (written w) ++
        back) ∧
    ∀ v ∈ workers, ∀ w ∈ workers, v.owner ≠ w.owner →
      (written v = written w ↔
        style.flatten v.owner.simpleNames = style.flatten w.owner.simpleNames ∧
          (v.owner.package = "" ∧ w.owner.package = file.package ∨
            w.owner.package = "" ∧ v.owner.package = file.package)) := by
  intro style workers written
  have hworkers : (((start options marker).after earlier).processRound r).1.workers = workers := by
    simp only [workers, after_append, after_cons, after_nil]
  have hstyle : ((start options marker).after earlier).style = style := by simp [style]
  obtain ⟨m, hm, hsource⟩ := exists_source_of_mem_processRound hfile hmodule
  obtain ⟨l, -, hl⟩ := exists_of_emittedIn_eq_some hm
  rw [hstyle, hworkers, after_marker, start_marker] at hsource
  refine ⟨?_, ?_, ?_⟩
  · have h := (BindingModule.bindings_source style marker workers m).map
      fun p => (p.1, p.2.map (·.spell file.scope.nameOf))
    rw [← hsource] at h
    simpa [SourceFile.writtenBindings, written, JavaType.spell, Function.comp_def] using h
  · intro w hw
    have h := BindingModule.exists_render_of_mem_workers style marker m hw
    rwa [← hsource] at h
  · intro v hv w hw hne
    have hdeclared : file.scope.declaredClass = m.generatedName := by
      rw [hsource]
      exact BindingModule.className_source hl style marker workers
    have hother : ∀ u ∈ workers, style.factoryName u.owner ≠ file.scope.declaredClass :=
      fun u hu => hdeclared ▸ factoryName_ne_of_emittedIn hm hu
    have hreferred : ∀ u ∈ workers, style.factoryName u.owner ∈ file.scope.references :=
      fun u hu => hsource ▸ BindingModule.factoryName_mem_references hu
    have hdeclarable : ∀ u ∈ workers, (style.factoryName u.owner).Declarable :=
      fun u hu => NestingStyle.declarable_factoryName _ (declarable_of_mem_workers hrounds hu)
    rw [← style.outermost_factoryName_eq_iff]
    exact NameScope.nameOf_eq_iff (hdeclarable v hv) rfl (hreferred v hv) (hother v hv)
      (hdeclarable w hw) rfl (hreferred w hw) (hother w hw) (factoryName_ne_of_owner_ne hv hw hne)

/-- The two workers of the same simple name, once they are accepted. -/
def namesakeWorkers : List Worker := [
  ⟨.topLevelIn "" "TestWorker", testWorkerParameters, ⟨"TestWorker.java", 3, none⟩⟩,
  ⟨.topLevelIn "test" "TestWorker", testWorkerParameters, ⟨"test/TestWorker.java", 3, none⟩⟩]

/-- The module in the package of one of them, once its binding module is generated. -/
def namesakesModule : BindingModule :=
  ⟨.topLevelIn "test" "AppModule", false, .topLevelIn "test" "WorkerInject_AppModule"⟩

/-- The binding module of two workers of the same simple name. -/
def namesakesFile : SourceFile :=
  namesakesModule.source .flattened none namesakeWorkers

/-- Both classes are accepted as workers, for their packages differ. -/
theorem accepted_listedNamesakes :
    (start .default none).accepted listedNamesakes = namesakeWorkers := by
  decide +kernel

/-- The file of the module comes out of the round. -/
theorem namesakesFile_mem_files :
    namesakesFile ∈ (((start .default none).after []).processRound listedNamesakes).2.files := by
  have hemitted : (start .default none).emittedIn listedNamesakes = some namesakesModule := by
    decide +kernel
  rw [after_nil, processRound_files, accepted_listedNamesakes, hemitted]
  exact List.mem_append_right _ (List.mem_singleton.2 rfl)

/-- Workers of the same simple name may be bound by the same text. -/
theorem written_eq_of_namesakes :
    (∀ q ∈ [] ++ [listedNamesakes], q.Described) ∧
      namesakesFile ∈ (((start .default none).after []).processRound listedNamesakes).2.files ∧
      namesakesFile.isBindingModule = true ∧
      namesakesFile.scope.nameOf (.topLevelIn "" "TestWorker_AssistedFactory") =
        namesakesFile.scope.nameOf (.topLevelIn "test" "TestWorker_AssistedFactory") := by
  have hmodule : namesakesFile.isBindingModule = true :=
    BindingModule.isBindingModule_source _ _ _ _
  have hworkers : ((start .default none).after [listedNamesakes]).workers = namesakeWorkers := by
    rw [after_cons, after_nil, processRound_workers, accepted_listedNamesakes]
    rfl
  have h := (written_eq_iff .default none [] listedNamesakes described_listedNamesakes
    namesakesFile namesakesFile_mem_files hmodule).2.2
  rw [List.nil_append, hworkers] at h
  refine ⟨described_listedNamesakes, namesakesFile_mem_files, hmodule, ?_⟩
  exact (h _ (List.mem_cons_self) _ (List.mem_cons_of_mem _ List.mem_cons_self) (by decide)).2
    ⟨rfl, Or.inl ⟨rfl, rfl⟩⟩

/-- A run in which two workers are bound by the same text. -/
theorem namesakes_bound_alike :
    namesakes.check = .ok listedNamesakes ∧
      namesakesFile ∈ (((start .default none).after []).processRound listedNamesakes).2.files ∧
      namesakesFile.writtenBindings =
        [(some "TestWorker", ["TestWorker_AssistedFactory"]),
          (some "test.TestWorker", ["TestWorker_AssistedFactory"])] := by
  refine ⟨check_namesakes, namesakesFile_mem_files, ?_⟩
  have hkeyed : BindingModule.keyed .flattened namesakeWorkers =
      namesakeWorkers.map fun w => (w.owner.canonicalName, w) :=
    List.mergeSort_of_pairwise (by decide +kernel)
  rw [namesakesFile, BindingModule.source, hkeyed]
  decide +kernel

end Session

end AssistedWorkers
