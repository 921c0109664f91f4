import AssistedWorkers.Proofs.Growth

/-!
# The registry of generated names

A session registers the name of every class that it generates, so that no class is generated
over another one.  The registered names are the names of the generated files, in the order in
which the files come out, and no name is registered twice.

* `generatedNames_after` — the registry lists the generated files;
* `classNames_nodup` — the files of a run declare different classes;
* `bindingModules_of_run` — at most one of them is a binding module, and which one it is.
-/

namespace AssistedWorkers

open Java

/-- Where no key is listed twice every entry is found. -/
theorem lookup_of_mem {α β : Type} [BEq α] [LawfulBEq α] {entries : List (α × β)}
    (h : (entries.map Prod.fst).Nodup) {key : α} {value : β} (hmem : (key, value) ∈ entries) :
    entries.lookup key = some value := by
  obtain ⟨front, back, hsplit⟩ := List.append_of_mem hmem
  refine List.lookup_eq_some_iff.2 ⟨front, back, hsplit, fun p hp => ?_⟩
  rw [hsplit, List.map_append, List.nodup_append] at h
  have hne := h.2.2 p.1 (List.mem_map_of_mem hp) key List.mem_cons_self
  simpa using hne.symm

/-- Whether a generated file holds a binding module.  Binding modules are abstract classes,
factories are not. -/
def Java.SourceFile.isBindingModule (file : SourceFile) : Bool :=
  file.declaration.modifiers.contains .abstract

/-- A factory is a final class, so it is not taken for a binding module. -/
theorem Worker.isBindingModule_factory (style : NestingStyle) (marker : Option AnnotationUse)
    (w : Worker) : (w.factory style marker).isBindingModule = false := rfl

/-- Factories are no binding modules. -/
theorem Worker.filter_isBindingModule_map_factory (style : NestingStyle)
    (marker : Option AnnotationUse) (ws : List Worker) :
    (ws.map (·.factory style marker)).filter (·.isBindingModule) = [] := by
  simp [Worker.isBindingModule_factory]

/-- A binding module is told by its file: it is an abstract class. -/
theorem BindingModule.isBindingModule_source (style : NestingStyle)
    (marker : Option AnnotationUse) (ws : List Worker) (m : BindingModule) :
    (m.source style marker ws).isBindingModule = true := by
  simp [SourceFile.isBindingModule, source]

/-- The file of a factory declares the class that its worker asks for. -/
@[simp] theorem Worker.className_factory (style : NestingStyle) (marker : Option AnnotationUse)
    (w : Worker) : (w.factory style marker).className = style.factoryName w.owner := rfl

/-- The file of a binding module declares the class that is registered for it. -/
theorem BindingModule.className_source {style : NestingStyle} {publicModule : Bool}
    {l : ListedModule} {m : BindingModule} (h : l.bindingModule style publicModule = .ok m)
    (style' : NestingStyle) (marker : Option AnnotationUse) (ws : List Worker) :
    (m.source style' marker ws).className = m.generatedName := by
  change ClassName.topLevelIn m.generatedName.package m.generatedName.simpleName = _
  rw [(ListedModule.owner_of_bindingModule_ok h).2]
  rfl

/-- In a list whose elements have different keys, an element can be told by its key. -/
theorem filter_eq_singleton_of_nodup {α β : Type} [DecidableEq β] {f : α → β} {l : List α} {a : α}
    (h : (l.map f).Nodup) (ha : a ∈ l) : l.filter (fun b => f b = f a) = [a] := by
  obtain ⟨front, back, rfl⟩ := List.append_of_mem ha
  simp only [List.map_append, List.map_cons, List.nodup_append, List.nodup_cons] at h
  have hfront : front.filter (fun b => f b = f a) = [] :=
    List.filter_eq_nil_iff.2 fun b hb => by
      simpa using h.2.2 _ (List.mem_map_of_mem hb) _ List.mem_cons_self
  have hback : back.filter (fun b => f b = f a) = [] :=
    List.filter_eq_nil_iff.2 fun b hb => by
      have hne : f b ≠ f a := fun heq => h.2.1.1 (List.mem_map.2 ⟨b, hb, heq⟩)
      simpa using hne
  simp [hfront, hback]

namespace Session

@[simp] theorem start_style (options : Options) (marker : Option AnnotationUse) :
    (start options marker).style = options.nestingStyle := rfl

@[simp] theorem start_marker (options : Options) (marker : Option AnnotationUse) :
    (start options marker).marker = marker := rfl

@[simp] theorem start_emitted (options : Options) (marker : Option AnnotationUse) :
    (start options marker).emitted = none := rfl

@[simp] theorem start_workers (options : Options) (marker : Option AnnotationUse) :
    (start options marker).workers = [] := rfl

@[simp] theorem start_generatedNames (options : Options) (marker : Option AnnotationUse) :
    (start options marker).generatedNames = [] := rfl

/-- No round changes the options. -/
@[simp] theorem after_options (s : Session) (rounds : List Round) :
    (s.after rounds).options = s.options :=
  after_induction (P := fun t => t.options = s.options) rfl fun _ _ _ h => by simp [h]

/-- No round changes the nesting style. -/
@[simp] theorem after_style (s : Session) (rounds : List Round) :
    (s.after rounds).style = s.style := by
  simp [style]

/-- No round changes the marker. -/
@[simp] theorem after_marker (s : Session) (rounds : List Round) :
    (s.after rounds).marker = s.marker :=
  after_induction (P := fun t => t.marker = s.marker) rfl fun _ _ _ h => by simp [h]

/-- The workers of a session stay, in their order. -/
theorem workers_prefix_after (s : Session) (rounds : List Round) :
    s.workers <+: (s.after rounds).workers :=
  after_induction (P := fun t => s.workers <+: t.workers) (List.prefix_refl _) fun r _ t h => by
    rw [processRound_workers]
    exact h.trans (List.prefix_append _ _)

/-- The entries of the registry stay, in their order. -/
theorem generated_prefix_after (s : Session) (rounds : List Round) :
    s.generated <+: (s.after rounds).generated :=
  after_induction (P := fun t => s.generated <+: t.generated) (List.prefix_refl _)
    fun r _ t h => by
      rw [processRound_generated, List.append_assoc]
      exact h.trans (List.prefix_append _ _)

/-- A binding module that was generated is kept. -/
theorem emitted_after_of_eq_some {s : Session} {m : BindingModule} (h : s.emitted = some m)
    (rounds : List Round) : (s.after rounds).emitted = some m :=
  after_induction (P := fun t => t.emitted = some m) h fun r _ t ht => by
    rw [processRound_emitted, ht, Option.some_or]

/-- A round that generates a binding module found a valid declaration of the module. -/
theorem exists_of_emittedIn_eq_some {s : Session} {r : Round} {m : BindingModule}
    (h : s.emittedIn r = some m) :
    ∃ l ∈ r.modules, l.bindingModule s.style s.options.publicModule = .ok m := by
  rw [emittedIn_eq_emission] at h
  obtain ⟨-, -, l, hl, hm⟩ := exists_of_emission_eq_some h
  have hstyle : (s.counted r).style = s.style ∧ (s.counted r).options = s.options := by
    rw [counted_eq]
    exact ⟨rfl, rfl⟩
  rw [hstyle.1, hstyle.2] at hm
  exact ⟨l, hl, hm⟩

/-- The binding module that is kept belongs to a valid declaration of some round. -/
theorem exists_of_emitted_after {s : Session} {rounds : List Round} {m : BindingModule}
    (h : (s.after rounds).emitted = some m) :
    s.emitted = some m ∨ ∃ r ∈ rounds, ∃ l ∈ r.modules,
      l.bindingModule s.style s.options.publicModule = .ok m := by
  induction rounds generalizing s with
  | nil => exact Or.inl h
  | cons r rounds ih =>
    rcases ih h with h | ⟨q, hq, l, hl, hm⟩
    · rw [processRound_emitted, Option.or_eq_some_iff] at h
      rcases h with h | ⟨-, h⟩
      · exact Or.inl h
      · exact Or.inr ⟨r, List.mem_cons_self, exists_of_emittedIn_eq_some h⟩
    · rw [processRound_style, processRound_options] at hm
      exact Or.inr ⟨q, List.mem_cons_of_mem _ hq, l, hl, hm⟩

/-- A round registers the classes that its files declare. -/
theorem processRound_generatedNames (s : Session) (r : Round) :
    (s.processRound r).1.generatedNames =
      s.generatedNames ++ (s.processRound r).2.files.map (·.className) := by
  rw [generatedNames, processRound_generated, processRound_files]
  cases h : s.emittedIn r with
  | none => simp [generatedNames, Function.comp_def]
  | some m =>
    obtain ⟨l, -, hm⟩ := exists_of_emittedIn_eq_some h
    simp [generatedNames, Function.comp_def, BindingModule.className_source hm]

/-- The registry lists the classes that the generated files declare. -/
theorem generatedNames_after (s : Session) (rounds : List Round) :
    (s.after rounds).generatedNames =
      s.generatedNames ++ (s.filesOf rounds).map (·.className) := by
  induction rounds generalizing s with
  | nil => simp
  | cons r rounds ih => simp [ih, processRound_generatedNames]

/-- No name is registered twice. -/
theorem generatedNames_nodup (options : Options) (marker : Option AnnotationUse)
    (rounds : List Round) : ((start options marker).after rounds).generatedNames.Nodup :=
  after_induction (P := fun t => t.generatedNames.Nodup) List.nodup_nil
    fun r _ _ h => processRound_generatedNames_nodup h r

/-- In a registry without repeated names every entry is found. -/
theorem lookup_generated_of_mem {s : Session} (h : s.generatedNames.Nodup)
    {name owner : ClassName} (hmem : (name, owner) ∈ s.generated) :
    s.generated.lookup name = some owner :=
  lookup_of_mem h hmem

/-- The files of a run declare different classes. -/
theorem classNames_nodup (options : Options) (marker : Option AnnotationUse)
    (rounds : List Round) : (((start options marker).filesOf rounds).map (·.className)).Nodup := by
  have h := generatedNames_nodup options marker rounds
  rwa [generatedNames_after, start_generatedNames, List.nil_append] at h

/-- The binding modules that come out of a run: none if there was one before, and else the one
that is kept, if any. -/
theorem bindingModules_of_run (s : Session) (rounds : List Round) :
    ∃ ws, (s.filesOf rounds).filter (·.isBindingModule) =
      if s.emitted.isSome then []
      else (s.after rounds).emitted.toList.map (·.source s.style s.marker ws) := by
  induction rounds generalizing s with
  | nil =>
    cases he : s.emitted <;> simp [he]
  | cons r rounds ih =>
    obtain ⟨ws, hws⟩ := ih (s.processRound r).1
    rw [filesOf_cons, List.filter_append, processRound_files, List.filter_append,
      Worker.filter_isBindingModule_map_factory, hws, after_cons, processRound_emitted]
    cases he : s.emitted with
    | some m => exact ⟨[], by simp [emittedIn, he]⟩
    | none =>
      cases hm : s.emittedIn r with
      | none => exact ⟨ws, by simp⟩
      | some m =>
        have hnext : (s.processRound r).1.emitted = some m := by
          rw [processRound_emitted, he, hm]
          rfl
        refine ⟨s.workers ++ s.accepted r, ?_⟩
        simp [emitted_after_of_eq_some hnext, BindingModule.isBindingModule_source]

/-- The binding module that comes out of a round is the one that the round generates, for the
workers accepted so far. -/
theorem exists_source_of_mem_processRound {s : Session} {r : Round} {file : SourceFile}
    (hfile : file ∈ (s.processRound r).2.files) (h : file.isBindingModule = true) :
    ∃ m, s.emittedIn r = some m ∧
      file = m.source s.style s.marker (s.processRound r).1.workers := by
  rw [processRound_files] at hfile
  rcases List.mem_append.1 hfile with hfile | hfile
  · obtain ⟨w, -, rfl⟩ := List.mem_map.1 hfile
    simp [Worker.isBindingModule_factory] at h
  · obtain ⟨m, hm, rfl⟩ := List.mem_map.1 hfile
    rw [processRound_workers]
    exact ⟨m, Option.mem_toList.1 hm, rfl⟩

/-- The only binding module among the files of a run that starts afresh is the one that is kept. -/
theorem exists_source_of_isBindingModule {options : Options} {marker : Option AnnotationUse}
    {rounds : List Round} {file : SourceFile}
    (hfile : file ∈ (start options marker).filesOf rounds) (h : file.isBindingModule = true) :
    ∃ m ws, ((start options marker).after rounds).emitted = some m ∧
      file = m.source options.nestingStyle marker ws := by
  obtain ⟨ws, hws⟩ := (start options marker).bindingModules_of_run rounds
  rw [start_emitted] at hws
  have hmem := List.mem_filter.2 ⟨hfile, h⟩
  rw [hws] at hmem
  cases hm : ((start options marker).after rounds).emitted with
  | none => simp [hm] at hmem
  | some m => exact ⟨m, ws, rfl, by simpa [hm] using hmem⟩

/-- A run keeps no binding module as long as there is none among its files. -/
theorem emitted_eq_none_iff {options : Options} {marker : Option AnnotationUse}
    {rounds : List Round} :
    ((start options marker).after rounds).emitted = none ↔
      ∀ file ∈ (start options marker).filesOf rounds, ¬ file.isBindingModule := by
  obtain ⟨ws, hws⟩ := (start options marker).bindingModules_of_run rounds
  rw [start_emitted] at hws
  have hfilter := List.filter_eq_nil_iff (l := (start options marker).filesOf rounds)
    (p := fun file => file.isBindingModule)
  rw [hws] at hfilter
  cases hm : ((start options marker).after rounds).emitted <;> simpa [hm] using hfilter

end Session

end AssistedWorkers
