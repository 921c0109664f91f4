import AssistedWorkers.Proofs.Bindings
import AssistedWorkers.Proofs.Names

/-!
# Where generated files go

Every generated file declares a class of its own, and goes to a place of its own: the package of
the class is a chain of identifiers, each of which is a directory, and the class is an identifier
which names the file.  So no file leaves the source root, and none is written over another one.

* `relativePath_eq_intercalate` — the path of a file whose class may be declared;
* `exists_owner_of_mem_filesOf` — what a file was generated for;
* `declarable_of_mem_filesOf` — the classes that are generated may be declared;
* `outputs_apart_and_in_place` — the files of every run.
-/

namespace AssistedWorkers

open Java

namespace Java.SourceFile

/-! ### Paths -/

/-- A segment that goes one directory down: it is not empty and has no slash in it. -/
def IsStep (segment : String) : Prop :=
  segment ≠ "" ∧ '/' ∉ segment.toList

/-- An identifier is one step of a path. -/
theorem isStep_of_isIdentifier {name : String} (h : isIdentifier name = true) : IsStep name :=
  ⟨ne_empty_of_isIdentifier h, not_mem_of_isIdentifier h (by decide +kernel)⟩

/-- A path of steps does not end in a slash. -/
theorem exists_getLast?_intercalate {steps : List String} (hsteps : ∀ step ∈ steps, IsStep step)
    (hne : steps ≠ []) : ∃ c, c ≠ '/' ∧ ("/".intercalate steps).toList.getLast? = some c := by
  induction steps with
  | nil => exact absurd rfl hne
  | cons step rest ih =>
    by_cases hrest : rest = []
    · have hstep := hsteps step List.mem_cons_self
      have hstepne : step.toList ≠ [] := by simpa using hstep.1
      refine ⟨_, fun h => hstep.2 ?_, by
        rw [hrest, String.intercalate_singleton, List.getLast?_eq_some_getLast hstepne]⟩
      exact h ▸ List.getLast_mem hstepne
    · obtain ⟨c, hc, hlast⟩ := ih (fun s hs => hsteps s (List.mem_cons_of_mem _ hs)) hrest
      refine ⟨c, hc, ?_⟩
      rw [String.intercalate_cons_of_ne_nil hrest, String.toList_append, List.getLast?_append,
        hlast, Option.some_or]

/-- A path of steps goes on with a slash. -/
theorem descend_intercalate {steps : List String} (hsteps : ∀ step ∈ steps, IsStep step)
    {step : String} (hstep : IsStep step) :
    descend ("/".intercalate steps) step = "/".intercalate (steps ++ [step]) := by
  have hstart : step.toList.head? ≠ some '/' := fun h => hstep.2 (List.mem_of_head? h)
  by_cases hne : steps = []
  · simp [hne, descend]
  · obtain ⟨c, hc, hlast⟩ := exists_getLast?_intercalate hsteps hne
    have hempty : ("/".intercalate steps).isEmpty = false := by
      rw [← Bool.not_eq_true, String.isEmpty_iff]
      intro h
      simp [h] at hlast
    rw [descend, hempty, hlast, String.intercalate_append_of_ne_nil hne (by simp)]
    simp [hstart, hc]

/-- Going down one step after the other makes the path of all steps. -/
theorem foldl_descend {steps : List String} (hsteps : ∀ step ∈ steps, IsStep step) :
    steps.foldl descend "" = "/".intercalate steps := by
  have hall : ∀ front rest : List String, (∀ step ∈ front ++ rest, IsStep step) →
      rest.foldl descend ("/".intercalate front) = "/".intercalate (front ++ rest) := by
    intro front rest
    induction rest generalizing front with
    | nil => simp
    | cons step rest ih =>
      intro h
      have hfront : ∀ s ∈ front, IsStep s := fun s hs => h s (List.mem_append_left _ hs)
      rw [List.foldl_cons, descend_intercalate hfront (h step (by simp)), ih _ (by simpa using h)]
      simp
  simpa using hall [] steps hsteps

/-- The segments of the package and the name of the file are the steps to a file. -/
theorem isStep_of_mem_steps {file : SourceFile} (h : file.className.Declarable) :
    ∀ step ∈ segments file.package ++ [file.declaration.name ++ ".java"], IsStep step := by
  have hname : IsStep file.declaration.name :=
    isStep_of_isIdentifier (h.names _ List.mem_cons_self)
  intro step hstep
  rcases List.mem_append.1 hstep with hstep | hstep
  · exact isStep_of_isIdentifier (isIdentifier_of_mem_segments h.package hstep)
  · obtain rfl := List.mem_singleton.1 hstep
    refine ⟨by simp, fun hslash => ?_⟩
    rw [String.toList_append] at hslash
    rcases List.mem_append.1 hslash with hslash | hslash
    · exact hname.2 hslash
    · exact absurd hslash (by decide)

/-- The path of a file whose class may be declared. -/
theorem relativePath_eq_intercalate {file : SourceFile} (h : file.className.Declarable) :
    file.relativePath =
      "/".intercalate (segments file.package ++ [file.declaration.name ++ ".java"]) := by
  have hsteps : ∀ step ∈ segments file.package ++ [file.declaration.name ++ ".java"],
      IsStep step := isStep_of_mem_steps h
  rw [← foldl_descend hsteps, List.foldl_append]
  rfl

/-- Classes that may be declared go to different places. -/
theorem className_eq_of_relativePath_eq {file other : SourceFile}
    (h : file.className.Declarable) (h' : other.className.Declarable)
    (hpath : file.relativePath = other.relativePath) : file.className = other.className := by
  rw [relativePath_eq_intercalate h, relativePath_eq_intercalate h'] at hpath
  have hlists := intercalate_inj rfl (fun step hstep => (isStep_of_mem_steps h step hstep).2)
    (by simp) (fun step hstep => (isStep_of_mem_steps h' step hstep).2) (by simp) hpath
  obtain ⟨hpackages, hnames⟩ := List.append_inj' hlists rfl
  have hpackage : file.package = other.package := by
    have hback : ∀ f : SourceFile, f.className.Declarable →
        ".".intercalate (segments f.package) = f.package :=
      fun f hf => intercalate_segments hf.package
    rw [← hback file h, hpackages, hback other h']
  have hname : file.declaration.name = other.declaration.name := by
    simpa using hnames
  rw [className, className, hpackage, hname]

end Java.SourceFile

namespace Session

/-! ### Runs -/

/-- Every worker of a run has a name that a class of some round has. -/
theorem exists_of_mem_workers_after {s : Session} {rounds : List Round} {w : Worker}
    (h : w ∈ (s.after rounds).workers) :
    w ∈ s.workers ∨ ∃ r ∈ rounds, ∃ c ∈ r.classes, c.name = w.owner := by
  induction rounds generalizing s with
  | nil => exact Or.inl h
  | cons r rounds ih =>
    rcases ih h with h | ⟨q, hq, c, hc, hcw⟩
    · rw [processRound_workers] at h
      rcases List.mem_append.1 h with h | h
      · exact Or.inl h
      · obtain ⟨c, hc, hcw⟩ := (s.accepting_admitClasses r).owner_listed w h
        exact Or.inr ⟨r, List.mem_cons_self, c, (List.mem_filter.1 hc).1, hcw⟩
    · exact Or.inr ⟨q, List.mem_cons_of_mem _ hq, c, hc, hcw⟩

/-- A file of a run is the factory of a worker or the binding module of a module, and is
registered for it. -/
theorem exists_owner_of_mem_filesOf {s : Session} {rounds : List Round} {file : SourceFile}
    (h : file ∈ s.filesOf rounds) :
    (∃ w ∈ (s.after rounds).workers, file = w.factory s.style s.marker ∧
      (file.className, w.owner) ∈ (s.after rounds).generated) ∨
    ∃ m ws, (s.after rounds).emitted = some m ∧ file = m.source s.style s.marker ws ∧
      (file.className, m.owner) ∈ (s.after rounds).generated := by
  induction rounds generalizing s with
  | nil => simp at h
  | cons r rounds ih =>
    rw [filesOf_cons] at h
    rcases List.mem_append.1 h with h | h
    · -- A file of the first round keeps what it was generated for in later rounds.
      have hworkers := (s.processRound r).1.workers_prefix_after rounds
      have hgenerated := (s.processRound r).1.generated_prefix_after rounds
      rw [processRound_files] at h
      rw [processRound_workers] at hworkers
      rw [processRound_generated] at hgenerated
      rcases List.mem_append.1 h with h | h
      · obtain ⟨w, hw, rfl⟩ := List.mem_map.1 h
        refine Or.inl ⟨w, hworkers.subset (List.mem_append_right _ hw), rfl, hgenerated.subset ?_⟩
        exact List.mem_append_left _ (List.mem_append_right _ (List.mem_map.2 ⟨w, hw, rfl⟩))
      · obtain ⟨m, hm, rfl⟩ := List.mem_map.1 h
        have hm := Option.mem_toList.1 hm
        obtain ⟨l, -, hl⟩ := exists_of_emittedIn_eq_some hm
        have hemitted := (emitted_of_emittedIn_eq_some hm).2
        refine Or.inr ⟨m, _, emitted_after_of_eq_some hemitted rounds, rfl, hgenerated.subset ?_⟩
        rw [BindingModule.className_source hl]
        exact List.mem_append_right _ (List.mem_map.2 ⟨m, Option.mem_toList.2 hm, rfl⟩)
    · have := ih h
      rwa [processRound_style, processRound_marker] at this

/-- The workers of rounds that were read are classes that may be declared. -/
theorem declarable_of_mem_workers {options : Options} {marker : Option AnnotationUse}
    {rounds : List Round} (hrounds : ∀ r ∈ rounds, r.Described) {w : Worker}
    (h : w ∈ ((start options marker).after rounds).workers) : w.owner.Declarable := by
  rcases exists_of_mem_workers_after h with h | ⟨r, hr, c, hc, hcw⟩
  · simp at h
  · rw [← hcw]
    exact (Round.declarable_of_described (hrounds r hr)).1 c hc

/-- The classes that are generated in rounds that were read may be declared. -/
theorem declarable_of_mem_filesOf {options : Options} {marker : Option AnnotationUse}
    {rounds : List Round} (hrounds : ∀ r ∈ rounds, r.Described) {file : SourceFile}
    (h : file ∈ (start options marker).filesOf rounds) : file.className.Declarable := by
  rcases exists_owner_of_mem_filesOf h with ⟨w, hw, rfl, -⟩ | ⟨m, ws, hm, rfl, -⟩
  · rw [Worker.className_factory]
    exact NestingStyle.declarable_factoryName _ (declarable_of_mem_workers hrounds hw)
  · rcases exists_of_emitted_after hm with hm | ⟨r, hr, l, hl, hok⟩
    · simp at hm
    · rw [BindingModule.className_source hok, (ListedModule.owner_of_bindingModule_ok hok).2]
      exact NestingStyle.declarable_moduleName _
        ((Round.declarable_of_described (hrounds r hr)).2 l hl)

/-- **Outputs are apart and in place.**  The files of a run of rounds that were read have
different class names, canonical names and paths.  The registry holds the class of each of them,
in their order, and gives for each the worker or the module that it was generated for.  Each file
lies in the directories that its package names, all of them identifiers, and is named by its
class, which is an identifier. -/
theorem outputs_apart_and_in_place (options : Options) (marker : Option AnnotationUse)
    (rounds : List Round) (hrounds : ∀ r ∈ rounds, r.Described) :
    let files := (start options marker).filesOf rounds
    let last := (start options marker).after rounds
    (files.map (·.className)).Nodup ∧
    (files.map (·.className.canonicalName)).Nodup ∧
    (files.map (·.relativePath)).Nodup ∧
    last.generated.map (·.1) = files.map (·.className) ∧
    (∀ file ∈ files,
      (∃ w ∈ last.workers, file = w.factory options.nestingStyle marker ∧
        last.generated.lookup file.className = some w.owner) ∨
      ∃ m ws, last.emitted = some m ∧ file = m.source options.nestingStyle marker ws ∧
        last.generated.lookup file.className = some m.owner) ∧
    ∀ file ∈ files, ∃ directories : List String,
      (∀ directory ∈ directories, isIdentifier directory) ∧
      file.package = ".".intercalate directories ∧
      isIdentifier file.declaration.name ∧
      file.relativePath = "/".intercalate (directories ++ [file.declaration.name ++ ".java"]) := by
  intro files last
  have hnodup : (files.map (·.className)).Nodup := classNames_nodup options marker rounds
  have hdeclarable : ∀ file ∈ files, file.className.Declarable :=
    fun file hfile => declarable_of_mem_filesOf hrounds hfile
  have hnames : last.generatedNames = files.map (·.className) := by
    have h := (start options marker).generatedNames_after rounds
    rwa [start_generatedNames, List.nil_append] at h
  have hlookup : ∀ name owner, (name, owner) ∈ last.generated →
      last.generated.lookup name = some owner :=
    fun name owner => lookup_generated_of_mem (hnames ▸ hnodup)
  have hapart := List.pairwise_map.1 hnodup
  refine ⟨hnodup, ?_, ?_, hnames, ?_, ?_⟩
  · refine List.pairwise_map.2 (hapart.imp_of_mem fun hfile hother hne heq => hne ?_)
    exact ClassName.eq_of_canonicalName_eq (hdeclarable _ hfile) (hdeclarable _ hother) rfl rfl heq
  · refine List.pairwise_map.2 (hapart.imp_of_mem fun hfile hother hne heq => hne ?_)
    exact SourceFile.className_eq_of_relativePath_eq (hdeclarable _ hfile) (hdeclarable _ hother)
      heq
  · intro file hfile
    rcases exists_owner_of_mem_filesOf hfile with ⟨w, hw, heq, hmem⟩ | ⟨m, ws, hm, heq, hmem⟩
    · exact Or.inl ⟨w, hw, heq, hlookup _ _ hmem⟩
    · exact Or.inr ⟨m, ws, hm, heq, hlookup _ _ hmem⟩
  · intro file hfile
    have h := hdeclarable file hfile
    exact ⟨SourceFile.segments file.package,
      fun directory => SourceFile.isIdentifier_of_mem_segments h.package,
      (SourceFile.intercalate_segments h.package).symm, h.names _ List.mem_cons_self,
      SourceFile.relativePath_eq_intercalate h⟩

/-- The class `TestWorker` of `listedTestWorker` as it is described. -/
def testWorker (package file : String) : ClassDescription where
  package := package
  enclosing := []
  name := "TestWorker"
  visibility := .pack
  isStatic := false
  supertypes := ["androidx.work.ListenableWorker"]
  location := ⟨file, 3, none⟩
  constructors := [⟨.pack, true, none, [
    ⟨"context", "android.content.Context", true, none⟩,
    ⟨"workerParameters", "androidx.work.WorkerParameters", true, none⟩,
    ⟨"foo", "java.lang.String", false, none⟩]⟩]

/-- The round `listedNamesakes` as it is described. -/
def namesakes : RoundDescription where
  classes := [testWorker "" "TestWorker.java", testWorker "test" "test/TestWorker.java"]
  modules := [⟨"test", [], "AppModule", .pack, some ⟨["WorkerInject_AppModule"]⟩,
    ⟨"test/AppModule.java", 7, none⟩⟩]

/-- The classes and the module are described correctly. -/
theorem check_namesakes : namesakes.check = .ok listedNamesakes := by
  have hread : namesakes.check.toOption = some listedNamesakes := by decide +kernel
  cases hcheck : namesakes.check with
  | error fault => simp [hcheck, Except.toOption] at hread
  | ok r => exact congrArg _ (by simpa [hcheck, Except.toOption] using hread)

theorem described_listedNamesakes : ∀ r ∈ [listedNamesakes], r.Described := by
  intro r hr
  obtain rfl := List.mem_singleton.1 hr
  exact ⟨namesakes, check_namesakes⟩

/-- Workers of the same simple name have different places for their factories. -/
theorem outputs_of_namesakes :
    (∀ r ∈ [listedNamesakes], r.Described) ∧
      ((start .default none).filesOf [listedNamesakes]).map (·.relativePath) =
        ["TestWorker_AssistedFactory.java", "test/TestWorker_AssistedFactory.java",
          "test/WorkerInject_AppModule.java"] ∧
      (((start .default none).filesOf [listedNamesakes]).map (·.relativePath)).Nodup :=
  ⟨described_listedNamesakes, by decide +kernel,
    (outputs_apart_and_in_place .default none _ described_listedNamesakes).2.2.1⟩

end Session

end AssistedWorkers
