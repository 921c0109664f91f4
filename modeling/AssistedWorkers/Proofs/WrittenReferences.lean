import AssistedWorkers.Proofs.NameResolution
import AssistedWorkers.Proofs.Wording

/-!
# References as they are written

The classes that a declaration refers to are collected by one traversal of it, and written by
another one.  Imports are chosen from what was collected, so a class that only one of the two
comes to would be imported for nothing, or written by a name that nothing explains.

They agree for every kind of source, constructor by constructor: types, annotations, expressions,
statements, parameters, fields, methods and declarations name the classes that are collected from
them, in this order.  There is one exception.  A constructor has no return type; if it is given one
all the same, the classes of this type are collected but not written.

* `JavaType.writes`, `AnnotationUse.writes`, `Expression.writes`, `Statement.writes`,
  `FormalParameter.writes`, `Field.writes` — the parts of a declaration;
* `Method.writes`, `ClassDeclaration.writes` — a declaration names what it refers to, less the
  return types of constructors;
* `SourceFile.references_are_written` — whole files.
-/

namespace AssistedWorkers.Java

/-! ### Types -/

namespace JavaType

mutual

/-- A type names its classes. -/
theorem writes : ∀ t : JavaType, Writes (fun nameOf => t.spell nameOf) t.classes
  | primitive p => by simpa only [spell, classes] using .words p.keyword
  | named c => by simpa only [spell, classes] using .name c
  | parameterized raw arguments => by
    have harguments := Writes.intercalate ", " (writesAll arguments)
    have hall := (((Writes.name raw).followedBy "<").append harguments).followedBy ">"
    simpa only [spell, classes, spellAll_eq_map, classesOfAll_eq_flatMap,
      List.singleton_append] using hall
  | array component => by
    simpa only [spell, classes] using (writes component).followedBy "[]"
  | unbounded => by simpa only [spell, classes] using .words "?"
  | upperBounded bound => by
    simpa only [spell, classes] using (writes bound).after "? extends "
  | lowerBounded bound => by
    simpa only [spell, classes] using (writes bound).after "? super "

/-- Every type of a list names its classes. -/
theorem writesAll : ∀ ts : List JavaType, ∀ t ∈ ts, Writes (fun nameOf => t.spell nameOf) t.classes
  | [] => List.forall_mem_nil _
  | t :: ts => List.forall_mem_cons.2 ⟨writes t, writesAll ts⟩

end

end JavaType

/-! ### Annotations -/

/-- Only a class literal writes a class. -/
theorem MemberValue.writes (value : MemberValue) :
    Writes (fun nameOf => value.spell nameOf) value.classes := by
  cases value with
  | text value => exact .words _
  | classLiteral c => exact (Writes.name c).followedBy ".class"
  | literal source => exact .words source

namespace AnnotationUse

open Writes

theorem writes_spellMember (member : String × MemberValue) :
    Writes (fun nameOf => spellMember nameOf member) member.2.classes :=
  member.2.writes.after (member.1 ++ " = ")

/-- An annotation names its type and the classes of its members, wherever these go. -/
theorem writes (layout : Layout) (a : AnnotationUse) :
    Writes (fun nameOf => a.spell nameOf layout) a.classes := by
  obtain ⟨type, members⟩ := a
  have hname : Writes (fun nameOf => "@" ++ nameOf type) [type] := (Writes.name type).after "@"
  unfold spell classes
  dsimp only
  split
  next hmembers => simpa only [List.flatMap_nil] using hname
  next value =>
    have hsole := ((hname.followedBy "(").append value.writes).followedBy ")"
    simpa only [List.flatMap_cons, List.flatMap_nil, List.append_nil,
      List.singleton_append] using hsole
  next =>
    cases layout with
    | inline =>
      have hlist := intercalate ", " fun member (_ : member ∈ members) =>
        writes_spellMember member
      exact ((hname.followedBy "(").append hlist).followedBy ")"
    | block indent =>
      have hlist := intercalate ",\n" fun member (_ : member ∈ members) =>
        (writes_spellMember member).after (indent ++ "    ")
      have hblock := ((hname.followedBy "(\n").append hlist).followedBy ("\n" ++ indent ++ ")")
      simpa [String.append_assoc, List.map_map, Function.comp_def] using hblock

end AnnotationUse

/-! ### Expressions and statements -/

namespace Expression

mutual

/-- An expression names its classes. -/
theorem writes : ∀ e : Expression, Writes (fun nameOf => e.spell nameOf) e.classes
  | name n => by simpa only [spell, classes] using .words n
  | ownField n => by simpa only [spell, classes] using .words ("this." ++ n)
  | call receiver method arguments => by
    have harguments := Writes.intercalate ", " (writesAll arguments)
    have hcalled := (((writes receiver).followedBy ".").followedBy method).followedBy "("
    simpa only [spell, classes, spellAll_eq_map, classesOfAll_eq_flatMap] using
      (hcalled.append harguments).followedBy ")"
  | staticCall owner method arguments => by
    have harguments := Writes.intercalate ", " (writesAll arguments)
    have hcalled := (((Writes.name owner).followedBy ".").followedBy method).followedBy "("
    simpa only [spell, classes, spellAll_eq_map, classesOfAll_eq_flatMap,
      List.singleton_append] using (hcalled.append harguments).followedBy ")"
  | create type arguments => by
    have harguments := Writes.intercalate ", " (writesAll arguments)
    have hcalled := ((Writes.name type).after "new ").followedBy "("
    simpa only [spell, classes, spellAll_eq_map, classesOfAll_eq_flatMap,
      List.singleton_append] using (hcalled.append harguments).followedBy ")"

/-- Every expression of a list names its classes. -/
theorem writesAll :
    ∀ es : List Expression, ∀ e ∈ es, Writes (fun nameOf => e.spell nameOf) e.classes
  | [] => List.forall_mem_nil _
  | e :: es => List.forall_mem_cons.2 ⟨writes e, writesAll es⟩

end

end Expression

/-- A statement writes what its expressions write. -/
theorem Statement.writes (s : Statement) : Writes (fun nameOf => s.spell nameOf) s.classes := by
  cases s with
  | assign target value =>
    exact ((target.writes.followedBy " = ").append value.writes).followedBy ";"
  | returning value => exact (value.writes.after "return ").followedBy ";"

/-! ### Declarations -/

/-- A parameter writes its annotations and then its type. -/
theorem FormalParameter.writes (p : FormalParameter) :
    Writes (fun nameOf => p.spell nameOf) p.classes := by
  have hannotations := Writes.join fun a (_ : a ∈ p.annotations) =>
    (a.writes .inline).followedBy " "
  exact ((hannotations.append p.type.writes).followedBy " ").followedBy p.name

/-- A field writes its type. -/
theorem Field.writes (f : Field) : Writes (fun nameOf => f.spell nameOf) f.type.classes :=
  (((f.type.writes.after ("  " ++ Modifier.spell f.modifiers)).followedBy " ").followedBy
    f.name).followedBy ";\n"

namespace Method

/-- The return type that a method is written with.  A constructor has none. -/
def writtenReturn (m : Method) : Option JavaType :=
  if m.isConstructor then none else m.returns

/-- The classes that a method names when it is written. -/
def written (m : Method) : List ClassName :=
  m.annotations.flatMap AnnotationUse.classes ++
    (m.writtenReturn.toList.flatMap JavaType.classes ++
      (m.parameters.flatMap FormalParameter.classes ++
        (m.body.getD []).flatMap Statement.classes))

/-- A method refers to all that it is written with. -/
theorem mem_classes_of_mem_written {m : Method} {c : ClassName} (h : c ∈ m.written) :
    c ∈ m.classes := by
  have hreturn : c ∈ m.writtenReturn.toList.flatMap JavaType.classes →
      c ∈ m.returns.toList.flatMap JavaType.classes := by
    unfold writtenReturn
    split
    · simp
    · exact id
  simp only [written, classes, List.mem_append] at h ⊢
  tauto

/-- A method other than a constructor with a return type is written with all that it refers to. -/
theorem written_eq_classes {m : Method} (h : m.isConstructor = true → m.returns = none) :
    m.written = m.classes := by
  have hreturn : m.writtenReturn = m.returns := by
    unfold writtenReturn
    split
    next hconstructor => exact (h hconstructor).symm
    next => rfl
  rw [written, classes, hreturn]

/-- The head of a constructor writes no class, that of a method the type it returns. -/
theorem writes_spellHead (className : String) (m : Method) :
    Writes (fun nameOf => m.spellHead nameOf className)
      (m.writtenReturn.toList.flatMap JavaType.classes) := by
  obtain ⟨name, annotations, modifiers, returns, parameters, statements⟩ := m
  cases name with
  | none => exact .words className
  | some name =>
    cases returns with
    | none => exact .words ("void " ++ name)
    | some type =>
      have hhead := (type.writes.followedBy " ").followedBy name
      simpa [spellHead, writtenReturn, isConstructor] using hhead

/-- A method names its annotations, its return type, its parameters and its body. -/
theorem writes (className : String) (m : Method) :
    Writes (fun nameOf => m.spell nameOf className) m.written := by
  have hannotations := Writes.join fun a (_ : a ∈ m.annotations) =>
    ((a.writes (.block "  ")).after "  ").followedBy "\n"
  have hparameters := Writes.intercalate ", " fun p (_ : p ∈ m.parameters) => p.writes
  have hhead := (m.writes_spellHead className).after ("  " ++ Modifier.spell m.modifiers)
  have hsignature := (((hhead.followedBy "(").append hparameters).followedBy ")")
  have hopening := hannotations.append hsignature
  cases hbody : m.body with
  | none =>
    have hall := hopening.followedBy ";\n"
    simpa only [spell, written, hbody, Option.getD_none, List.flatMap_nil, List.append_nil]
      using hall
  | some statements =>
    have hlines := Writes.join fun s (_ : s ∈ statements) =>
      (s.writes.after "    ").followedBy "\n"
    have hall := hopening.append ((hlines.after " \x7b\n").followedBy "  \x7d\n")
    simpa only [spell, written, hbody, Option.getD_some, List.append_assoc] using hall

end Method

namespace ClassDeclaration

/-- The classes that a declaration names when it is written. -/
def written (d : ClassDeclaration) : List ClassName :=
  d.annotations.flatMap AnnotationUse.classes ++
    (d.superinterfaces.flatMap JavaType.classes ++
      (d.fields.flatMap (·.type.classes) ++ d.methods.flatMap Method.written))

/-- A declaration refers to all that it is written with. -/
theorem mem_classes_of_mem_written {d : ClassDeclaration} {c : ClassName} (h : c ∈ d.written) :
    c ∈ d.classes := by
  have hmethods : c ∈ d.methods.flatMap Method.written → c ∈ d.methods.flatMap Method.classes := by
    intro h
    obtain ⟨m, hm, hc⟩ := List.mem_flatMap.1 h
    exact List.mem_flatMap.2 ⟨m, hm, Method.mem_classes_of_mem_written hc⟩
  simp only [written, classes, List.mem_append] at h ⊢
  tauto

/-- Without return types of constructors a declaration is written with all that it refers to. -/
theorem written_eq_classes {d : ClassDeclaration}
    (h : ∀ m ∈ d.methods, m.isConstructor = true → m.returns = none) : d.written = d.classes := by
  have hmethods : d.methods.flatMap Method.written = d.methods.flatMap Method.classes :=
    List.flatMap_congr fun m hm => Method.written_eq_classes (h m hm)
  rw [written, classes, hmethods]

/-- The methods are written one after the other. -/
theorem writes_spellMethods (d : ClassDeclaration) :
    Writes (fun nameOf => d.spellMethods nameOf) (d.methods.flatMap Method.written) := by
  unfold spellMethods
  cases d.methods with
  | nil => exact .words ""
  | cons first others =>
    have hfirst := (first.writes d.name).after (if d.fields.isEmpty then "" else "\n")
    have hothers := Writes.join fun m (_ : m ∈ others) => (m.writes d.name).after "\n"
    simpa [List.map_map, Function.comp_def] using hfirst.append hothers

/-- The interfaces are written in the order in which they are declared. -/
theorem writes_superinterfaces (d : ClassDeclaration) :
    Writes (fun nameOf => if d.superinterfaces.isEmpty then ""
        else " implements " ++ ", ".intercalate (d.superinterfaces.map (·.spell nameOf)))
      (d.superinterfaces.flatMap JavaType.classes) := by
  cases d.superinterfaces with
  | nil => exact .words ""
  | cons first others =>
    have hlist := Writes.intercalate ", " fun t (_ : t ∈ first :: others) => t.writes
    exact hlist.after " implements "

/-- A declaration names its annotations, its interfaces, its fields and its methods. -/
theorem writes (d : ClassDeclaration) : Writes (fun nameOf => d.spell nameOf) d.written := by
  have hannotations := Writes.join fun a (_ : a ∈ d.annotations) =>
    (a.writes (.block "")).followedBy "\n"
  have hhead := ((hannotations.followedBy (Modifier.spell d.modifiers)).followedBy
    "class ").followedBy d.name
  have hopened := (hhead.append d.writes_superinterfaces).followedBy " \x7b\n"
  have hfields := Writes.join fun f (_ : f ∈ d.fields) => f.writes
  have hall : Writes (fun nameOf => d.spell nameOf) _ :=
    ((hopened.append hfields).append d.writes_spellMethods).followedBy "\x7d\n"
  simpa only [written, List.append_assoc] using hall

end ClassDeclaration

/-! ### Files -/

namespace SourceFile

/-- A file writes what its declaration writes; the imports are words already. -/
theorem writes (imports : List String) (file : SourceFile) :
    Writes (fun nameOf => file.spell nameOf imports) file.declaration.written :=
  file.declaration.writes.after _

/-- An import is the outermost class of a reference that is written by its nesting chain. -/
theorem exists_reference_of_mem_imports {file : SourceFile} {name : String}
    (h : name ∈ file.imports) :
    ∃ c ∈ file.declaration.classes, c.topLevel.canonicalName = name ∧
      file.scope.nameOf c = ".".intercalate c.simpleNames := by
  obtain ⟨holder, hholder, -, -, rfl⟩ := NameScope.mem_imports_iff.1 h
  obtain ⟨-, hname, c, hc, rfl⟩ := NameScope.inner_of_holder? hholder
  exact ⟨c, hc, rfl, if_pos hholder⟩

/-- **References are collected as they are written.**  Functions that name all collected classes
alike write the same file.  If no constructor has a return type, the classes that the text of the
file names are exactly the collected ones, in this order and as often; so each import is the
outermost class of one that is written by its nesting chain. -/
theorem references_are_written (file : SourceFile) :
    (∀ imports nameOf nameOf', (∀ c ∈ file.declaration.classes, nameOf c = nameOf' c) →
      file.spell nameOf imports = file.spell nameOf' imports) ∧
    ((∀ m ∈ file.declaration.methods, m.isConstructor = true → m.returns = none) →
      (∀ imports classes, Writes (fun nameOf => file.spell nameOf imports) classes ↔
        classes = file.declaration.classes) ∧
      ∀ name ∈ file.imports, ∃ c ∈ file.declaration.classes, c.topLevel.canonicalName = name ∧
        file.scope.nameOf c = ".".intercalate c.simpleNames) := by
  refine ⟨fun imports nameOf nameOf' hagree => ?_, fun hreturns => ⟨fun imports classes => ?_,
    fun name => exists_reference_of_mem_imports⟩⟩
  · exact (file.writes imports).congr fun c hc =>
      hagree c (ClassDeclaration.mem_classes_of_mem_written hc)
  · have hwrites := file.writes imports
    rw [ClassDeclaration.written_eq_classes hreturns] at hwrites
    constructor
    · intro h
      exact h.unique hwrites
    · rintro rfl
      exact hwrites

/-- A file with references in every place that may have some. -/
def fileOfAllReferences : SourceFile where
  package := "test"
  declaration := {
    name := "Holder"
    annotations := [⟨.topLevelIn "dagger" "Module",
      [("includes", .classLiteral (.topLevelIn "test" "Other")), ("library", .literal "true")]⟩]
    modifiers := [.pub]
    superinterfaces := [.parameterized (.topLevelIn "java.util" "Map")
      [.upperBounded (.named ⟨"a", "Outer", ["Inner"]⟩), .lowerBounded (.primitive .int)]]
    fields := [⟨[.final], .array (.named (.topLevelIn "b" "Thing")), "things"⟩]
    methods := [
      ⟨none, [], [], none,
        [⟨[.withText (.topLevelIn "javax.inject" "Named") "x"], .named (.topLevelIn "c" "Thing"),
          "thing"⟩],
        [.assign (.ownField "thing") (.name "thing")]⟩,
      ⟨some "make", [.marker (.topLevelIn "java.lang" "Override")], [.pub],
        some (.named (.topLevelIn "test" "Holder")), [],
        [.returning (.create (.topLevelIn "test" "Holder")
          [.staticCall (.topLevelIn "dagger.internal" "DoubleCheck") "lazy"
            [.call (.name "thing") "get" []]])]⟩] }

/-- Its references as they are collected and written: annotations, interface, field, constructor,
method.  Names of other classes do not matter. -/
theorem all_references_are_written :
    (∀ m ∈ fileOfAllReferences.declaration.methods, m.isConstructor = true → m.returns = none) ∧
    Writes (fun nameOf => fileOfAllReferences.spell nameOf ["a.Outer"])
      [.topLevelIn "dagger" "Module", .topLevelIn "test" "Other", .topLevelIn "java.util" "Map",
        ⟨"a", "Outer", ["Inner"]⟩, .topLevelIn "b" "Thing", .topLevelIn "javax.inject" "Named",
        .topLevelIn "c" "Thing", .topLevelIn "java.lang" "Override", .topLevelIn "test" "Holder",
        .topLevelIn "test" "Holder", .topLevelIn "dagger.internal" "DoubleCheck"] ∧
    fileOfAllReferences.spell fileOfAllReferences.scope.nameOf ["a.Outer"] =
      fileOfAllReferences.spell (fun c =>
        if c ∈ fileOfAllReferences.declaration.classes then fileOfAllReferences.scope.nameOf c
        else "") ["a.Outer"] ∧
    ∀ name ∈ fileOfAllReferences.imports, ∃ c ∈ fileOfAllReferences.declaration.classes,
      c.topLevel.canonicalName = name ∧
        fileOfAllReferences.scope.nameOf c = ".".intercalate c.simpleNames := by
  have hreturns : ∀ m ∈ fileOfAllReferences.declaration.methods,
      m.isConstructor = true → m.returns = none := by
    decide +kernel
  obtain ⟨hagree, hwritten⟩ := references_are_written fileOfAllReferences
  refine ⟨hreturns, ?_, ?_, (hwritten hreturns).2⟩
  · exact ((hwritten hreturns).1 _ _).2 (by decide +kernel)
  · exact hagree _ _ _ fun c hc => (if_pos hc).symm

end SourceFile

end AssistedWorkers.Java
