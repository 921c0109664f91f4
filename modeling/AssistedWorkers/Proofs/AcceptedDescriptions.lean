import AssistedWorkers.Proofs.DescriptionFaults

/-!
# What becomes of a description

An accepted description becomes a round entry by entry.  The lists keep their lengths and their
order; a name is kept as it is, a text becomes the type or the class that it is read as, and a
constructor without a place of its own gets the place of its class.  Only marked constructors
leave something in the round, so the others may say anything.

* `RoundDescription.becomes_of_check` — what an accepted description becomes;
* `RoundDescription.check_marked` — unmarked constructors do not matter;
* `RoundDescription.first_fault_decides` — which descriptions are accepted, as what, and why the
  others are not.
-/

namespace AssistedWorkers

open Java

/-! ### Entries -/

/-- The text is read as a type of this class, whatever type arguments it has. -/
def RefersTo (text : String) (c : ClassName) : Prop :=
  ∃ t, JavaType.read text = .ok t ∧ t.rawClass? = some c

/-- What becomes of a parameter. -/
structure ParameterDescription.Becomes (d : ParameterDescription) (p : Parameter) : Prop where
  name : p.name = d.name
  type : JavaType.read d.type = .ok p.type
  supplier : p.supplier = if d.assisted then .caller else .injector
  qualifier : Option.Rel (fun q (q' : Qualifier) => RefersTo q.type q'.type ∧ q'.value = q.value)
    d.qualifier p.qualifier

/-- What becomes of a marked constructor in a class that is declared at `place`. -/
structure ConstructorDescription.Becomes (place : Location) (d : ConstructorDescription)
    (k : InjectConstructor) : Prop where
  visibility : k.visibility = d.visibility
  location : k.location = d.location.getD place
  parameters : List.Forall₂ ParameterDescription.Becomes d.parameters k.parameters

/-- What becomes of a class. -/
structure ClassDescription.Becomes (d : ClassDescription) (c : ListedClass) : Prop where
  name : c.name = d.describedName
  visibility : c.visibility = d.visibility
  enclosingVisibility : c.enclosingVisibility = d.enclosing.map (·.visibility)
  isStatic : c.isStatic = d.isStatic
  supertypes : List.Forall₂ RefersTo d.supertypes c.supertypes
  location : c.location = d.location
  constructors : List.Forall₂ (ConstructorDescription.Becomes d.location)
    (d.constructors.filter (·.workerInject)) c.constructors

/-- What becomes of a module. -/
structure ModuleDescription.Becomes (d : ModuleDescription) (m : ListedModule) : Prop where
  name : m.name = d.describedName
  visibility : m.visibility = d.visibility
  includes : Option.Rel (fun (a : DaggerModuleDescription) includes =>
    List.Forall₂ RefersTo a.includes includes) d.daggerModule m.includes
  location : m.location = d.location

/-- What becomes of a round. -/
structure RoundDescription.Becomes (d : RoundDescription) (r : Round) : Prop where
  classes : List.Forall₂ ClassDescription.Becomes d.classes r.classes
  modules : List.Forall₂ ModuleDescription.Becomes d.modules r.modules

private theorem option_rel_imp {α β : Type} {R S : α → β → Prop} (h : ∀ a b, R a b → S a b)
    {a? : Option α} {b? : Option β} (hrel : Option.Rel R a? b?) : Option.Rel S a? b? := by
  cases hrel with
  | none => exact .none
  | some hrel => exact .some (h _ _ hrel)

/-- An accepted parameter becomes what its entries say. -/
theorem ParameterDescription.becomes_of_check {owner : ClassName} {d : ParameterDescription}
    {p : Parameter} (h : d.check owner = .ok p) : d.Becomes p := by
  obtain ⟨-, htype, hqualifier, hname, hsupplier⟩ := check_eq_ok_iff.1 h
  exact ⟨hname, htype, hsupplier, option_rel_imp
    (fun _ _ h => ⟨readReference_eq_ok_iff.1 h.1, h.2⟩) hqualifier⟩

/-- An accepted constructor becomes what its entries say, parameter by parameter. -/
theorem ConstructorDescription.becomes_of_check {owner : ClassName} {place : Location}
    {d : ConstructorDescription} {k : InjectConstructor} (h : d.check owner place = .ok k) :
    d.Becomes place k := by
  obtain ⟨hparameters, hvisibility, hlocation⟩ := check_eq_ok_iff.1 h
  exact ⟨hvisibility, hlocation, hparameters.imp fun _ _ => ParameterDescription.becomes_of_check⟩

/-- An accepted class becomes what its entries say. -/
theorem ClassDescription.becomes_of_check {d : ClassDescription} {c : ListedClass}
    (h : d.check = .ok c) : d.Becomes c := by
  obtain ⟨hname, hsupertypes, hconstructors, hvisibility, henclosing, hstatic, hlocation⟩ :=
    check_eq_ok_iff.1 h
  exact {
    name := eq_describedName hname
    visibility := hvisibility
    enclosingVisibility := henclosing
    isStatic := hstatic
    supertypes := hsupertypes.imp fun _ _ => readReference_eq_ok_iff.1
    location := hlocation
    constructors := hconstructors.imp fun _ _ => ConstructorDescription.becomes_of_check }

/-- An accepted module becomes what its entries say. -/
theorem ModuleDescription.becomes_of_check {d : ModuleDescription} {m : ListedModule}
    (h : d.check = .ok m) : d.Becomes m := by
  obtain ⟨hname, hincludes, hvisibility, hlocation⟩ := check_eq_ok_iff.1 h
  exact ⟨eq_describedName hname, hvisibility, option_rel_imp
    (fun _ _ h => h.imp fun _ _ => readReference_eq_ok_iff.1) hincludes, hlocation⟩

namespace RoundDescription

/-- An accepted description becomes its round entry by entry. -/
theorem becomes_of_check {d : RoundDescription} {r : Round} (h : d.check = .ok r) :
    d.Becomes r := by
  obtain ⟨hclasses, hmodules⟩ := check_eq_ok_iff.1 h
  exact ⟨hclasses.imp fun _ _ => ClassDescription.becomes_of_check,
    hmodules.imp fun _ _ => ModuleDescription.becomes_of_check⟩

end RoundDescription

/-! ### Unmarked constructors -/

/-- The class without its unmarked constructors. -/
def ClassDescription.marked (c : ClassDescription) : ClassDescription :=
  { c with constructors := c.constructors.filter (·.workerInject) }

/-- Unmarked constructors are not looked at. -/
theorem ClassDescription.check_marked (c : ClassDescription) : c.marked.check = c.check := by
  simp only [check, marked, List.filter_filter, Bool.and_self]

namespace RoundDescription

/-- The round without unmarked constructors. -/
def marked (d : RoundDescription) : RoundDescription :=
  { d with classes := d.classes.map ClassDescription.marked }

/-- Unmarked constructors do not matter. -/
theorem check_marked (d : RoundDescription) : d.marked.check = d.check := by
  simp only [check, marked, List.mapM_map, Function.comp_def, ClassDescription.check_marked]

/-! ### Whole descriptions -/

/-- **The first fault decides.**  A description is accepted exactly when it is valid, and then it
becomes the round entry by entry.  Otherwise the fault that is reported is the first of all its
faults, in the order in which a description is gone through.  Two descriptions that differ in
unmarked constructors only fare alike. -/
theorem first_fault_decides (d : RoundDescription) :
    ((∃ r, d.check = .ok r) ↔ d.Valid) ∧
    (∀ r, d.check = .ok r → d.Becomes r) ∧
    (∀ fault, d.check = .error fault ↔ d.faults.head? = some fault) ∧
    ∀ d' : RoundDescription, d'.marked = d.marked → d'.check = d.check := by
  refine ⟨?accepted, fun r => becomes_of_check, d.endsAtFirst_check, fun d' hmarked => ?unmarked⟩
  case accepted => rw [d.endsAtFirst_check.exists_ok_iff, faults_eq_nil_iff]
  case unmarked => rw [← d'.check_marked, hmarked, d.check_marked]

/-- A nested class with a marked constructor and, before it, whatever others are given. -/
def withOthers (others : List ConstructorDescription) : RoundDescription where
  classes := [{
    package := "test"
    enclosing := [⟨"Outer", .pub⟩]
    name := "Worker"
    visibility := .pack
    isStatic := true
    supertypes := ["test.Base<java.lang.String>"]
    location := ⟨"test/Outer.java", 3, none⟩
    constructors := others ++
      [⟨.pub, true, none, [⟨"foo", "long[]", false, some ⟨"a.Named", none⟩⟩]⟩] }]
  modules := [⟨"", [], "AppModule", .pack, some ⟨["b.Other"]⟩, ⟨"AppModule.java", 7, none⟩⟩]

/-- The round that they all become. -/
def listedWithoutOthers : Round where
  classes := [⟨⟨"test", "Outer", ["Worker"]⟩, .pack, [.pub], true, [.topLevelIn "test" "Base"],
    ⟨"test/Outer.java", 3, none⟩, [⟨.pub, ⟨"test/Outer.java", 3, none⟩,
      [⟨"foo", .array (.primitive .long), .injector, some ⟨.topLevelIn "a" "Named", none⟩⟩]⟩]⟩]
  modules := [⟨.topLevelIn "" "AppModule", .pack, some [.topLevelIn "b" "Other"],
    ⟨"AppModule.java", 7, none⟩⟩]

/-- An unmarked constructor with a keyword as parameter name and no type. -/
def unreadableConstructor : ConstructorDescription :=
  ⟨.priv, false, none, [⟨"class", "?", false, none⟩]⟩

/-- An unmarked constructor that could not be read does not matter. -/
theorem unreadable_constructor_ignored :
    (withOthers [unreadableConstructor]).Valid ∧
      (withOthers [unreadableConstructor]).Becomes listedWithoutOthers ∧
      (withOthers []).check = (withOthers [unreadableConstructor]).check := by
  have hcheck : (withOthers [unreadableConstructor]).check = .ok listedWithoutOthers := by
    decide +kernel
  obtain ⟨haccepted, hbecomes, -, hunmarked⟩ :=
    first_fault_decides (withOthers [unreadableConstructor])
  exact ⟨haccepted.1 ⟨_, hcheck⟩, hbecomes _ hcheck, hunmarked _ rfl⟩

/-- When the same constructor is marked, its parameter has two faults, and the name decides. -/
example :
    (withOthers [{ unreadableConstructor with workerInject := true }]).check =
      .error (.invalid (.parameter "class" ⟨"test", "Outer", ["Worker"]⟩) .noIdentifier) ∧
    (withOthers [{ unreadableConstructor with workerInject := true }]).faults =
      [.invalid (.parameter "class" ⟨"test", "Outer", ["Worker"]⟩) .noIdentifier,
        .unreadableType (.parameter "class" ⟨"test", "Outer", ["Worker"]⟩) ⟨"?", 0⟩] := by
  decide +kernel

end RoundDescription

end AssistedWorkers
