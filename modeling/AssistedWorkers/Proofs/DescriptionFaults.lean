import AssistedWorkers.Proofs.Checking
import AssistedWorkers.Proofs.NameResolution

/-!
# What is wrong with a description

A description may have several faults.  `RoundDescription.faults` lists all of them, in the order
in which the description is gone through: classes before modules; of a class its package, the names
of the classes around it, its own name, its supertypes, and of each parameter of its marked
constructors the name, the type and the qualifier; of a module its names and its includes.
Checking ends at the first of them.

What a description is to be like is said without any order by `RoundDescription.Valid`.  Neither
looks at unmarked constructors.

* `EndsAtFirst.bind`, `EndsAtFirst.mapM` — checks one after the other end at the first fault of the
  first check that has any;
* `RoundDescription.endsAtFirst_check` — checking a description ends at its first fault;
* `RoundDescription.faults_eq_nil_iff` — valid descriptions are those without faults.
-/

namespace AssistedWorkers

open Java

/-! ### Checks that end at the first fault -/

section

variable {ε α β : Type}

/-- The check fails exactly when there are faults, and with the first of them. -/
def EndsAtFirst (check : Except ε α) (faults : List ε) : Prop :=
  ∀ fault, check = .error fault ↔ faults.head? = some fault

namespace EndsAtFirst

theorem ok (a : α) : EndsAtFirst (.ok a : Except ε α) [] := by
  simp [EndsAtFirst]

theorem error (fault : ε) (more : List ε) :
    EndsAtFirst (.error fault : Except ε α) (fault :: more) := by
  simp [EndsAtFirst]

/-- A check that succeeds had no faults to end at. -/
theorem exists_ok_iff {check : Except ε α} {faults : List ε} (h : EndsAtFirst check faults) :
    (∃ a, check = .ok a) ↔ faults = [] := by
  cases check with
  | ok a =>
    cases faults with
    | nil => simp
    | cons fault faults => simpa using (h fault).2 rfl
  | error fault =>
    have hfirst := (h fault).1 rfl
    cases faults with
    | nil => simp at hfirst
    | cons _ _ => simp

/-- The faults of a second check count only when the first check has none. -/
theorem bind {check : Except ε α} {next : α → Except ε β} {faults more : List ε}
    (h : EndsAtFirst check faults) (hnext : ∀ a, check = .ok a → EndsAtFirst (next a) more) :
    EndsAtFirst (check >>= next) (faults ++ more) := by
  cases check with
  | ok a =>
    rw [h.exists_ok_iff.1 ⟨a, rfl⟩]
    exact hnext a rfl
  | error fault =>
    have hfirst := (h fault).1 rfl
    intro other
    rw [List.head?_append, hfirst, Option.some_or]
    simp [Bind.bind, Except.bind]

/-- What a check gives does not matter for its faults. -/
theorem map {check : Except ε α} {faults : List ε} (h : EndsAtFirst check faults) (f : α → β) :
    EndsAtFirst (check >>= fun a => .ok (f a)) faults := by
  simpa using h.bind fun a _ => ok (f a)

/-- Checking a list ends at the first fault of its entries. -/
theorem mapM {check : α → Except ε β} {faultsOf : α → List ε}
    (h : ∀ a, EndsAtFirst (check a) (faultsOf a)) (as : List α) :
    EndsAtFirst (as.mapM check) (as.flatMap faultsOf) := by
  induction as with
  | nil => exact ok []
  | cons a as ih =>
    rw [List.mapM_cons, List.flatMap_cons]
    exact (h a).bind fun b _ => ih.map (b :: ·)

/-- Checking what may be absent ends at its first fault when it is there. -/
theorem option_mapM {check : α → Except ε β} {faultsOf : α → List ε}
    (h : ∀ a, EndsAtFirst (check a) (faultsOf a)) (a? : Option α) :
    EndsAtFirst (a?.mapM check) (a?.toList.flatMap faultsOf) := by
  cases a? with
  | none => exact ok none
  | some a =>
    have hsome : (some a).mapM check = check a >>= fun b => .ok (some b) := by
      rw [Option.mapM_some]
      cases check a <;> rfl
    rw [hsome]
    simpa using (h a).map some

end EndsAtFirst

end

/-! ### Declarations and references -/

/-- The class that a declaration names, whether its names may be used or not. -/
def describedName (package : String) (enclosing : List EnclosingDescription) (name : String) :
    ClassName :=
  match enclosing.map (·.name) with
  | [] => ⟨package, name, []⟩
  | outermost :: inner => ⟨package, outermost, inner ++ [name]⟩

/-- The names of a declaration may be used: its package is empty or made of identifiers with dots
between them, and the classes around it and the class itself have identifiers as names. -/
structure ValidNames (package : String) (enclosing : List EnclosingDescription) (name : String) :
    Prop where
  package : package = "" ∨ ∀ segment ∈ dotted package, isIdentifier segment = true
  enclosing : ∀ e ∈ enclosing, isIdentifier e.name = true
  name : isIdentifier name = true

/-- What is wrong with the names of a declaration: the package, then every name, outermost
first. -/
def nameFaults (package : String) (enclosing : List EnclosingDescription) (name : String) :
    List RoundFault :=
  (if isPackageName package then [] else [.invalid (.package package) .noPackageName]) ++
    ((enclosing.map (·.name) ++ [name]).filter (!isIdentifier ·)).map fun bad =>
      .invalid (.className bad) .noIdentifier

/-- A package is the unnamed one or a dotted sequence of identifiers. -/
theorem isPackageName_iff {package : String} : isPackageName package = true ↔
    package = "" ∨ ∀ segment ∈ dotted package, isIdentifier segment = true := by
  simp [isPackageName, dotted]

theorem nameFaults_eq_nil_iff {package : String} {enclosing : List EnclosingDescription}
    {name : String} :
    nameFaults package enclosing name = [] ↔ ValidNames package enclosing name := by
  have hnames : (∀ n ∈ enclosing.map (·.name) ++ [name], isIdentifier n = true) ↔
      (∀ e ∈ enclosing, isIdentifier e.name = true) ∧ isIdentifier name = true := by
    simp [or_imp, forall_and]
  have hpackage : (if isPackageName package then []
      else [RoundFault.invalid (.package package) .noPackageName]) = [] ↔
      isPackageName package = true := by
    split <;> simp_all
  rw [nameFaults, List.append_eq_nil_iff, hpackage, isPackageName_iff, List.map_eq_nil_iff,
    List.filter_eq_nil_iff]
  simp only [Bool.not_eq_true', Bool.not_eq_false, hnames]
  constructor
  · intro h
    exact ⟨h.1, h.2.1, h.2.2⟩
  · intro h
    exact ⟨h.package, h.enclosing, h.name⟩

/-- The names of a declaration are checked in order; then they name the class. -/
theorem endsAtFirst_declaredName (package : String) (enclosing : List EnclosingDescription)
    (name : String) :
    EndsAtFirst (declaredName package enclosing name) (nameFaults package enclosing name) := by
  unfold declaredName nameFaults
  by_cases hpackage : isPackageName package = true
  · simp only [hpackage, Bool.not_true, Bool.false_eq_true, if_false, if_true, List.nil_append]
    split
    next bad hbad =>
      intro fault
      rw [List.head?_map, List.head?_filter, hbad]
      simp
    next hnone =>
      rw [List.filter_eq_nil_iff.2 fun n hn => List.find?_eq_none.1 hnone n hn]
      split <;> exact .ok _
  · simp only [hpackage, Bool.not_false, if_true, Bool.false_eq_true, if_false, List.cons_append]
    exact .error _ _

/-- A declaration that is accepted names the class that it describes. -/
theorem eq_describedName {package : String} {enclosing : List EnclosingDescription}
    {name : String} {c : ClassName} (h : declaredName package enclosing name = .ok c) :
    c = describedName package enclosing name := by
  unfold declaredName at h
  split at h
  · simp at h
  · dsimp only at h
    split at h
    · simp at h
    · unfold describedName
      cases haround : enclosing.map (·.name) with
      | nil =>
        rw [haround] at h
        exact (Except.ok.inj h).symm
      | cons outermost inner =>
        rw [haround] at h
        exact (Except.ok.inj h).symm

/-- The text can be read as a type that is a class, with or without type arguments. -/
def IsReference (text : String) : Prop :=
  ∃ t, JavaType.read text = .ok t ∧
    ((∃ c, t = .named c) ∨ ∃ raw arguments, t = .parameterized raw arguments)

/-- What is wrong with a type. -/
def typeFaults (element : Element) (text : String) : List RoundFault :=
  match JavaType.read text with
  | .ok _ => []
  | .error fault => [.unreadableType element fault]

/-- What is wrong with a reference to a class: it is no type, or no class. -/
def referenceFaults (element : Element) (text : String) : List RoundFault :=
  match JavaType.read text with
  | .ok t => if t.rawClass?.isSome then [] else [.invalid element (.noClass text)]
  | .error fault => [.unreadableType element fault]

/-- A text has no fault as a type when it can be read. -/
theorem typeFaults_eq_nil_iff {element : Element} {text : String} :
    typeFaults element text = [] ↔ ∃ t, JavaType.read text = .ok t := by
  unfold typeFaults
  cases JavaType.read text <;> simp

/-- Only classes and their instances have a class that a reference may mean. -/
theorem isSome_rawClass?_iff {t : JavaType} : t.rawClass?.isSome = true ↔
    (∃ c, t = .named c) ∨ ∃ raw arguments, t = .parameterized raw arguments := by
  cases t <;> simp [JavaType.rawClass?]

/-- A text has no fault as a reference when it can be read as a class or an instance of one. -/
theorem referenceFaults_eq_nil_iff {element : Element} {text : String} :
    referenceFaults element text = [] ↔ IsReference text := by
  unfold referenceFaults IsReference
  cases JavaType.read text with
  | error fault => simp
  | ok t => simp [← isSome_rawClass?_iff, Option.isSome_iff_ne_none]

theorem endsAtFirst_readTypeIn (element : Element) (text : String) :
    EndsAtFirst (readTypeIn element text) (typeFaults element text) := by
  unfold readTypeIn typeFaults
  cases JavaType.read text with
  | ok t => exact .ok t
  | error fault => exact .error _ _

/-- A reference is read first and has its kind looked at then, so it has one fault at most. -/
theorem endsAtFirst_readReference (element : Element) (text : String) :
    EndsAtFirst (readReference element text) (referenceFaults element text) := by
  unfold readReference readTypeIn referenceFaults
  cases JavaType.read text with
  | error fault => exact .error _ _
  | ok t =>
    have hread : (Except.ok t : Except TypeFault JavaType).mapError (.unreadableType element) =
        (.ok t : Except RoundFault JavaType) := rfl
    simp only [hread, Bind.bind, Except.bind]
    cases t.rawClass? with
    | some c => exact .ok c
    | none => exact .error _ _

/-! ### Parameters -/

namespace ParameterDescription

/-- A parameter with an identifier as name, a type that can be read, and a class as qualifier if
there is one. -/
structure Valid (p : ParameterDescription) : Prop where
  name : isIdentifier p.name = true
  type : ∃ t, JavaType.read p.type = .ok t
  qualifier : ∀ q ∈ p.qualifier, IsReference q.type

/-- What is wrong with a parameter: its name, its type, its qualifier. -/
def faults (owner : ClassName) (p : ParameterDescription) : List RoundFault :=
  (if isIdentifier p.name then [] else [.invalid (.parameter p.name owner) .noIdentifier]) ++
    (typeFaults (.parameter p.name owner) p.type ++
      p.qualifier.toList.flatMap fun q => referenceFaults (.qualifier p.name owner) q.type)

theorem faults_eq_nil_iff {owner : ClassName} {p : ParameterDescription} :
    p.faults owner = [] ↔ p.Valid := by
  have hname : (if isIdentifier p.name then []
      else [RoundFault.invalid (.parameter p.name owner) .noIdentifier]) = [] ↔
      isIdentifier p.name = true := by
    split <;> simp_all
  rw [faults, List.append_eq_nil_iff, List.append_eq_nil_iff, hname, typeFaults_eq_nil_iff,
    List.flatMap_eq_nil_iff]
  simp only [referenceFaults_eq_nil_iff, Option.mem_toList]
  constructor
  · intro h
    exact ⟨h.1, h.2.1, h.2.2⟩
  · intro h
    exact ⟨h.name, h.type, h.qualifier⟩

/-- Name, type and qualifier of a parameter are checked in this order. -/
theorem endsAtFirst_check (owner : ClassName) (p : ParameterDescription) :
    EndsAtFirst (p.check owner) (p.faults owner) := by
  unfold check faults
  by_cases hname : isIdentifier p.name = true
  · simp only [hname, Bool.not_true, Bool.false_eq_true, if_false, if_true, List.nil_append]
    refine (endsAtFirst_readTypeIn _ _).bind fun type _ => ?_
    have hqualifier := EndsAtFirst.option_mapM
      (fun q : QualifierDescription => (endsAtFirst_readReference (.qualifier p.name owner)
        q.type).map fun type => (⟨type, q.value⟩ : Qualifier)) p.qualifier
    exact hqualifier.map fun qualifier =>
      (⟨p.name, type, if p.assisted then .caller else .injector, qualifier⟩ : Parameter)
  · simp only [hname, Bool.not_false, if_true, Bool.false_eq_true, if_false, List.cons_append]
    exact .error _ _

end ParameterDescription

/-! ### Classes, modules, rounds -/

/-- A constructor has the faults of its parameters. -/
theorem ConstructorDescription.endsAtFirst_check (owner : ClassName) (place : Location)
    (k : ConstructorDescription) :
    EndsAtFirst (k.check owner place) (k.parameters.flatMap (·.faults owner)) :=
  (EndsAtFirst.mapM (fun p => p.endsAtFirst_check owner) k.parameters).map fun parameters =>
    (⟨k.visibility, k.location.getD place, parameters⟩ : InjectConstructor)

namespace ClassDescription

/-- A class with valid names, references as supertypes, and valid parameters in its marked
constructors. -/
structure Valid (c : ClassDescription) : Prop where
  names : ValidNames c.package c.enclosing c.name
  supertypes : ∀ text ∈ c.supertypes, IsReference text
  parameters : ∀ k ∈ c.constructors, k.workerInject = true → ∀ p ∈ k.parameters, p.Valid

/-- The class that a description names. -/
def describedName (c : ClassDescription) : ClassName :=
  AssistedWorkers.describedName c.package c.enclosing c.name

/-- What is wrong with a class: its names, its supertypes, the parameters of its marked
constructors. -/
def faults (c : ClassDescription) : List RoundFault :=
  nameFaults c.package c.enclosing c.name ++
    (c.supertypes.flatMap (referenceFaults (.supertype c.describedName)) ++
      (c.constructors.filter (·.workerInject)).flatMap fun k =>
        k.parameters.flatMap (·.faults c.describedName))

/-- A class without faults is valid, whatever its unmarked constructors look like. -/
theorem faults_eq_nil_iff {c : ClassDescription} : c.faults = [] ↔ c.Valid := by
  simp only [faults, List.append_eq_nil_iff, List.flatMap_eq_nil_iff, nameFaults_eq_nil_iff,
    referenceFaults_eq_nil_iff, ParameterDescription.faults_eq_nil_iff, List.mem_filter]
  constructor
  · intro h
    exact ⟨h.1, h.2.1, fun k hk hmarked => h.2.2 k ⟨hk, hmarked⟩⟩
  · intro h
    exact ⟨h.names, h.supertypes, fun k hk => h.parameters k hk.1 hk.2⟩

/-- Names, supertypes and marked constructors of a class are checked in this order. -/
theorem endsAtFirst_check (c : ClassDescription) : EndsAtFirst c.check c.faults := by
  unfold check faults
  refine (endsAtFirst_declaredName _ _ _).bind fun name hname => ?_
  obtain rfl : name = c.describedName := eq_describedName hname
  refine (EndsAtFirst.mapM (endsAtFirst_readReference _) c.supertypes).bind fun supertypes _ => ?_
  have hconstructors := EndsAtFirst.mapM
    (fun k : ConstructorDescription => k.endsAtFirst_check c.describedName c.location)
    (c.constructors.filter (·.workerInject))
  exact hconstructors.map fun constructors =>
    (⟨c.describedName, c.visibility, c.enclosing.map (·.visibility), c.isStatic, supertypes,
      c.location, constructors⟩ : ListedClass)

end ClassDescription

namespace ModuleDescription

/-- A module with valid names and references as includes. -/
structure Valid (m : ModuleDescription) : Prop where
  names : ValidNames m.package m.enclosing m.name
  includes : ∀ d ∈ m.daggerModule, ∀ text ∈ d.includes, IsReference text

/-- The class that a description names. -/
def describedName (m : ModuleDescription) : ClassName :=
  AssistedWorkers.describedName m.package m.enclosing m.name

/-- What is wrong with a module: its names, its includes. -/
def faults (m : ModuleDescription) : List RoundFault :=
  nameFaults m.package m.enclosing m.name ++
    m.daggerModule.toList.flatMap fun d =>
      d.includes.flatMap (referenceFaults (.inclusion m.describedName))

theorem faults_eq_nil_iff {m : ModuleDescription} : m.faults = [] ↔ m.Valid := by
  simp only [faults, List.append_eq_nil_iff, List.flatMap_eq_nil_iff, nameFaults_eq_nil_iff,
    referenceFaults_eq_nil_iff, Option.mem_toList]
  constructor
  · intro h
    exact ⟨h.1, h.2⟩
  · intro h
    exact ⟨h.names, h.includes⟩

/-- A module is checked for its names and then for what it includes. -/
theorem endsAtFirst_check (m : ModuleDescription) : EndsAtFirst m.check m.faults := by
  unfold check faults
  refine (endsAtFirst_declaredName _ _ _).bind fun name hname => ?_
  obtain rfl : name = m.describedName := eq_describedName hname
  have hincludes := EndsAtFirst.option_mapM
    (fun d : DaggerModuleDescription =>
      EndsAtFirst.mapM (endsAtFirst_readReference (.inclusion m.describedName)) d.includes)
    m.daggerModule
  exact hincludes.map fun includes =>
    (⟨m.describedName, m.visibility, includes, m.location⟩ : ListedModule)

end ModuleDescription

namespace RoundDescription

/-- A round of valid classes and modules. -/
structure Valid (r : RoundDescription) : Prop where
  classes : ∀ c ∈ r.classes, c.Valid
  modules : ∀ m ∈ r.modules, m.Valid

/-- What is wrong with a round: its classes, then its modules. -/
def faults (r : RoundDescription) : List RoundFault :=
  r.classes.flatMap ClassDescription.faults ++ r.modules.flatMap ModuleDescription.faults

theorem faults_eq_nil_iff {r : RoundDescription} : r.faults = [] ↔ r.Valid := by
  simp only [faults, List.append_eq_nil_iff, List.flatMap_eq_nil_iff,
    ClassDescription.faults_eq_nil_iff, ModuleDescription.faults_eq_nil_iff]
  constructor
  · intro h
    exact ⟨h.1, h.2⟩
  · intro h
    exact ⟨h.classes, h.modules⟩

/-- Checking a description ends at its first fault. -/
theorem endsAtFirst_check (r : RoundDescription) : EndsAtFirst r.check r.faults := by
  unfold check faults
  refine (EndsAtFirst.mapM ClassDescription.endsAtFirst_check r.classes).bind fun classes _ => ?_
  exact (EndsAtFirst.mapM ModuleDescription.endsAtFirst_check r.modules).map fun modules =>
    (⟨classes, modules⟩ : Round)

end RoundDescription

end AssistedWorkers
