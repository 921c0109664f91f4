import AssistedWorkers.Proofs.OutputPaths
import AssistedWorkers.Proofs.References

/-!
# Names in checked rounds

A checked round holds names of three kinds: those of the classes and modules that it declares,
those of parameters, and those of the classes that it refers to, wherever they stand.  The first
two kinds are checked to be identifiers.  References are read by the grammar of types instead,
which knows no reserved words: the names in them are spelled like identifiers, and this is all
that is known of them.

* `inCanonicalForm_of_mem_references` — what a round refers to was read as a type;
* `wellNamed_iff` — a checked round has identifiers everywhere exactly when no name that it
  refers to is a reserved word.
-/

namespace AssistedWorkers

open Java

/-! ### The names of a round -/

/-- The classes that a parameter refers to, at any depth of its type and in its qualifier. -/
def Parameter.references (p : Parameter) : List ClassName :=
  p.type.classes ++ p.qualifier.toList.map (·.type)

namespace Round

/-- The parameters of all marked constructors. -/
def parameters (r : Round) : List Parameter :=
  r.classes.flatMap fun c => c.constructors.flatMap (·.parameters)

/-- The classes and modules that are declared. -/
def declared (r : Round) : List ClassName :=
  r.classes.map (·.name) ++ r.modules.map (·.name)

/-- The classes that are referred to: supertypes, includes, and those of parameters. -/
def references (r : Round) : List ClassName :=
  r.classes.flatMap (·.supertypes) ++ r.modules.flatMap (·.includes.getD []) ++
    r.parameters.flatMap (·.references)

/-- A round in which every name is an identifier: of packages, classes and parameters. -/
structure WellNamed (r : Round) : Prop where
  classes : ∀ c ∈ r.declared ++ r.references, ∀ name ∈ c.names, isIdentifier name = true
  parameters : ∀ p ∈ r.parameters, isIdentifier p.name = true

end Round

/-! ### What checking says of them -/

/-- A name in a reference is an identifier unless it is a reserved word. -/
theorem Java.isIdentifier_iff_of_isTypeName {name : String} (h : isTypeName name = true) :
    isIdentifier name = true ↔ name ∉ reservedWords := by
  rw [isIdentifier, (isTypeName_iff_ascii.1 h).1]
  simp

/-- The classes that a checked parameter refers to are in canonical form. -/
theorem ParameterDescription.inCanonicalForm_of_check {owner : ClassName}
    {d : ParameterDescription} {p : Parameter} (h : d.check owner = .ok p) :
    ∀ c ∈ p.references, c.InCanonicalForm := by
  obtain ⟨-, htype, hqualifier, -⟩ := ParameterDescription.check_eq_ok_iff.1 h
  intro c hc
  rcases List.mem_append.1 hc with hc | hc
  · exact JavaType.inCanonicalForm_of_read htype c hc
  · obtain ⟨q, hq, rfl⟩ := List.mem_map.1 hc
    rw [Option.mem_toList.1 hq] at hqualifier
    generalize d.qualifier = described? at hqualifier
    cases hqualifier with
    | some hq => exact inCanonicalForm_of_readReference hq.1

namespace Round

variable {r : Round}

/-- Every parameter of a checked round was checked. -/
theorem exists_check_of_mem_parameters (h : r.Described) {p : Parameter}
    (hp : p ∈ r.parameters) :
    ∃ (owner : ClassName) (d : ParameterDescription), d.check owner = .ok p := by
  obtain ⟨d, hd⟩ := h
  obtain ⟨c, hc, hp⟩ := List.mem_flatMap.1 hp
  obtain ⟨k, hk, hp⟩ := List.mem_flatMap.1 hp
  obtain ⟨c', -, hc⟩ := exists_mem_left (RoundDescription.check_eq_ok_iff.1 hd).1 hc
  obtain ⟨-, -, hconstructors, -⟩ := ClassDescription.check_eq_ok_iff.1 hc
  obtain ⟨k', -, hk⟩ := exists_mem_left hconstructors hk
  obtain ⟨p', -, hp⟩ := exists_mem_left (ConstructorDescription.check_eq_ok_iff.1 hk).1 hp
  exact ⟨_, p', hp⟩

/-- What a checked round refers to is in canonical form: it was read as a type. -/
theorem inCanonicalForm_of_mem_references (h : r.Described) :
    ∀ c ∈ r.references, c.InCanonicalForm := by
  intro c hc
  have ⟨d, hd⟩ := h
  obtain ⟨hclasses, hmodules⟩ := RoundDescription.check_eq_ok_iff.1 hd
  rcases List.mem_append.1 hc with hc | hc
  · rcases List.mem_append.1 hc with hc | hc
    · obtain ⟨l, hl, hc⟩ := List.mem_flatMap.1 hc
      obtain ⟨l', -, hl⟩ := exists_mem_left hclasses hl
      obtain ⟨-, hsupertypes, -⟩ := ClassDescription.check_eq_ok_iff.1 hl
      obtain ⟨text, -, hread⟩ := exists_mem_left hsupertypes hc
      exact inCanonicalForm_of_readReference hread
    · obtain ⟨m, hm, hc⟩ := List.mem_flatMap.1 hc
      obtain ⟨m', -, hm⟩ := exists_mem_left hmodules hm
      obtain ⟨-, hincludes, -⟩ := ModuleDescription.check_eq_ok_iff.1 hm
      generalize m.includes = includes?, m'.daggerModule = described? at hc hincludes
      cases hincludes with
      | none => simp at hc
      | some hincludes =>
        obtain ⟨text, -, hread⟩ := exists_mem_left hincludes hc
        exact inCanonicalForm_of_readReference hread
  · obtain ⟨p, hp, hc⟩ := List.mem_flatMap.1 hc
    obtain ⟨owner, p', hp⟩ := exists_check_of_mem_parameters h hp
    exact ParameterDescription.inCanonicalForm_of_check hp c hc

/-- The names that a checked round declares are identifiers. -/
theorem isIdentifier_of_mem_declared (h : r.Described) :
    ∀ c ∈ r.declared, ∀ name ∈ c.names, isIdentifier name = true := by
  obtain ⟨hclasses, hmodules⟩ := Round.declarable_of_described h
  intro c hc name hname
  rcases List.mem_append.1 hc with hc | hc
  · obtain ⟨l, hl, rfl⟩ := List.mem_map.1 hc
    exact (hclasses l hl).isIdentifier_of_mem_names hname
  · obtain ⟨m, hm, rfl⟩ := List.mem_map.1 hc
    exact (hmodules m hm).isIdentifier_of_mem_names hname

/-- The parameters of a checked round have identifiers as names. -/
theorem isIdentifier_of_mem_parameters (h : r.Described) :
    ∀ p ∈ r.parameters, isIdentifier p.name = true := by
  intro p hp
  obtain ⟨owner, d, hd⟩ := exists_check_of_mem_parameters h hp
  obtain ⟨hname, -, -, hkept, -⟩ := ParameterDescription.check_eq_ok_iff.1 hd
  rw [hkept]
  exact hname

/-- **What is known of the names in a checked round.**  All names of declared classes and modules
and all names of parameters are identifiers.  A name of a class that is referred to, be it a
supertype, an include, a qualifier or a class at any depth of a parameter's type, is an identifier
exactly when it is no reserved word.  So every name in the round is an identifier exactly when no
name that it refers to is a reserved word. -/
theorem wellNamed_iff (r : Round) (h : r.Described) :
    (∀ c ∈ r.declared, ∀ name ∈ c.names, isIdentifier name = true) ∧
    (∀ p ∈ r.parameters, isIdentifier p.name = true) ∧
    (∀ c ∈ r.references, ∀ name ∈ c.names, (isIdentifier name = true ↔ name ∉ reservedWords)) ∧
    (r.WellNamed ↔ ∀ c ∈ r.references, ∀ name ∈ c.names, name ∉ reservedWords) := by
  have hdeclared := isIdentifier_of_mem_declared h
  have hparameters := isIdentifier_of_mem_parameters h
  have hreferences : ∀ c ∈ r.references, ∀ name ∈ c.names,
      (isIdentifier name = true ↔ name ∉ reservedWords) := fun c hc name hname =>
    isIdentifier_iff_of_isTypeName ((inCanonicalForm_of_mem_references h c hc).typeNames name hname)
  refine ⟨hdeclared, hparameters, hreferences, fun hr c hc name hname => ?_, fun hfree => ?_⟩
  · exact (hreferences c hc name hname).1 (hr.classes c (List.mem_append_right _ hc) name hname)
  · refine ⟨fun c hc name hname => ?_, hparameters⟩
    rcases List.mem_append.1 hc with hc | hc
    · exact hdeclared c hc name hname
    · exact (hreferences c hc name hname).2 (hfree c hc name hname)

/-- A round with a worker whose injected parameter has the given type. -/
def typedParameter (type : String) : RoundDescription where
  classes := [{ Session.testWorker "test" "test/TestWorker.java" with
    constructors := [⟨.pack, true, none, [⟨"foo", type, false, none⟩]⟩] }]
  modules := []

/-- That round when it is checked. -/
def listedParameter (type : JavaType) : Round where
  classes := [⟨.topLevelIn "test" "TestWorker", .pack, [], false, [Framework.listenableWorker],
    ⟨"test/TestWorker.java", 3, none⟩,
    [⟨.pack, ⟨"test/TestWorker.java", 3, none⟩, [⟨"foo", type, .injector, none⟩]⟩]⟩]
  modules := []

/-- A checked round in which every name is an identifier. -/
theorem wellNamed_of_string_parameter :
    (listedParameter (.named (.topLevelIn "java.lang" "String"))).Described ∧
      (listedParameter (.named (.topLevelIn "java.lang" "String"))).WellNamed := by
  have hdescribed : (listedParameter (.named (.topLevelIn "java.lang" "String"))).Described :=
    ⟨typedParameter "java.lang.String", by decide +kernel⟩
  refine ⟨hdescribed, (wellNamed_iff _ hdescribed).2.2.2.2 ?_⟩
  decide +kernel

/-- A checked round that refers to a class by a reserved word. -/
theorem reserved_parameter_type_accepted :
    (typedParameter "void").check = .ok (listedParameter (.named (.topLevelIn "" "void"))) ∧
      .topLevelIn "" "void" ∈ (listedParameter (.named (.topLevelIn "" "void"))).references ∧
      isIdentifier "void" = false ∧
      ¬ (listedParameter (.named (.topLevelIn "" "void"))).WellNamed := by
  have hmem : .topLevelIn "" "void" ∈
      (listedParameter (.named (.topLevelIn "" "void"))).references := by
    decide +kernel
  refine ⟨by decide +kernel, hmem, by decide +kernel, fun h => ?_⟩
  have hvoid := h.classes _ (List.mem_append_right _ hmem) "void" (by decide +kernel)
  exact absurd hvoid (by decide +kernel)

end Round

end AssistedWorkers
