import AssistedWorkers.Proofs.Registry
import AssistedWorkers.Proofs.WorkerRules

/-!
# What factories pass on

The method `create` of a factory calls the constructor of the worker.  Names in its body stand for
its own parameters first and for the fields of the factory after that.  The names of a worker's
parameters are taken over to both, those that the caller supplies to the one, and all others to
the other.  So when no two parameters of the constructor have the same name, every name stands for
the right thing: what the rules say of the parameters that the caller supplies makes sure that
`create` has no other ones.

A provider of a type hands out instances of it, and may be made lazy.  That is all that has to be
known to type the arguments, and a value of a wrapper class is unboxed where its primitive type is
declared.

* `HasType.unique` — an expression has no two types;
* `ofType_cases` — what is asked of the injector, by the type of the parameter;
* `exists_hasType_argument` — an argument fits its parameter if the name stands for the right thing;
* `lookup_scope` — which it does in the body of `create`;
* `factory_calls_constructor` — the constructor gets an argument of its type for each parameter.
-/

namespace AssistedWorkers

open Java

/-! ### Types of expressions -/

namespace Java

mutual

/-- The names in an expression, from left to right as they are written. -/
def Expression.names : Expression → List String
  | .name n => [n]
  | .ownField _ => []
  | .call receiver _ arguments => receiver.names ++ Expression.namesOfAll arguments
  | .staticCall _ _ arguments => Expression.namesOfAll arguments
  | .create _ arguments => Expression.namesOfAll arguments

/-- The names in the expressions of a list. -/
def Expression.namesOfAll : List Expression → List String
  | [] => []
  | e :: es => e.names ++ Expression.namesOfAll es

end

/-- What the names in a method's body stand for, with their types: its parameters come first and
shadow the fields of the class. -/
def Method.scope (fields : List Field) (m : Method) : List (String × JavaType) :=
  m.parameters.map (fun a => (a.name, a.type)) ++ fields.map fun f => (f.name, f.type)

/-- The type `Provider<t>`. -/
def JavaType.providerOf (t : JavaType) : JavaType :=
  .parameterized (.topLevelIn "javax.inject" "Provider") [t]

/-- The type `Lazy<t>`. -/
def JavaType.lazyOf (t : JavaType) : JavaType :=
  .parameterized (.topLevelIn "dagger" "Lazy") [t]

/-- The type of an expression in which names have the types in `scope`. -/
inductive HasType (scope : List (String × JavaType)) : Expression → JavaType → Prop where
  | name {n : String} {t : JavaType} (h : scope.lookup n = some t) : HasType scope (.name n) t
  /-- A provider hands out an instance. -/
  | get {provider : Expression} {t : JavaType} (h : HasType scope provider t.providerOf) :
      HasType scope (.call provider "get" []) t
  /-- A provider is made lazy. -/
  | lazy {provider : Expression} {t : JavaType} (h : HasType scope provider t.providerOf) :
      HasType scope
        (.staticCall (.topLevelIn "dagger.internal" "DoubleCheck") "lazy" [provider]) t.lazyOf

/-- The classes of `java.lang`, by their simple names, whose values are unboxed where a primitive
type is declared. -/
inductive Primitive.Unboxes : String → Primitive → Prop where
  | boolean : Unboxes "Boolean" .boolean
  | byte : Unboxes "Byte" .byte
  | short : Unboxes "Short" .short
  | int : Unboxes "Integer" .int
  | long : Unboxes "Long" .long
  | char : Unboxes "Character" .char
  | float : Unboxes "Float" .float
  | double : Unboxes "Double" .double

/-- A value of the first type may be passed where the second one is declared. -/
inductive JavaType.PassesAs : JavaType → JavaType → Prop where
  | same (t : JavaType) : PassesAs t t
  | unboxed {wrapper : String} {p : Primitive} (h : Primitive.Unboxes wrapper p) :
      PassesAs (.named (.topLevelIn "java.lang" wrapper)) (.primitive p)

/-- **An expression has no two types.** -/
theorem HasType.unique {scope : List (String × JavaType)} {e : Expression} {t u : JavaType}
    (ht : HasType scope e t) (hu : HasType scope e u) : t = u := by
  induction ht generalizing u with
  | name h =>
    cases hu with
    | name h' => exact Option.some.inj (h.symm.trans h')
  | get _ ih =>
    cases hu with
    | get h' => simpa [JavaType.providerOf] using ih h'
  | lazy _ ih =>
    cases hu with
    | lazy h' => simpa [JavaType.providerOf, JavaType.lazyOf] using ih h'

theorem JavaType.soleArgumentOf?_eq_some_iff {raw : ClassName} {t u : JavaType} :
    t.soleArgumentOf? raw = some u ↔ t = .parameterized raw [u] := by
  unfold soleArgumentOf?
  split
  · split
    · simp_all
    · simp_all
  · simp_all

/-- The class that is asked for in place of a primitive type is unboxed to it. -/
theorem Primitive.exists_unboxes (p : Primitive) :
    ∃ wrapper, p.boxed = .topLevelIn "java.lang" wrapper ∧ Unboxes wrapper p := by
  cases p
  case boolean => exact ⟨_, rfl, .boolean⟩
  case byte => exact ⟨_, rfl, .byte⟩
  case short => exact ⟨_, rfl, .short⟩
  case int => exact ⟨_, rfl, .int⟩
  case long => exact ⟨_, rfl, .long⟩
  case char => exact ⟨_, rfl, .char⟩
  case float => exact ⟨_, rfl, .float⟩
  case double => exact ⟨_, rfl, .double⟩

/-- A boxed value may be passed where the type is declared. -/
theorem JavaType.passesAs_boxed (t : JavaType) : t.boxed.PassesAs t := by
  cases t with
  | primitive p =>
    obtain ⟨wrapper, hboxed, hunboxes⟩ := p.exists_unboxes
    rw [boxed, hboxed]
    exact .unboxed hunboxes
  | _ => exact .same _

end Java

/-- What is asked of the injector: a provider, a lazy value, or an instance of the boxed type. -/
theorem Request.ofType_cases (t : JavaType) :
    (∃ u, t = .parameterized Framework.provider [u] ∧ ofType t = (provider, u)) ∨
      (∃ u, t = .parameterized Framework.lazily [u] ∧ ofType t = (lazy, u)) ∨
      ofType t = (value, t.boxed) := by
  cases hprovider : t.soleArgumentOf? Framework.provider with
  | some u =>
    exact Or.inl ⟨u, JavaType.soleArgumentOf?_eq_some_iff.1 hprovider, by simp [ofType, hprovider]⟩
  | none =>
    cases hlazy : t.soleArgumentOf? Framework.lazily with
    | some u =>
      exact Or.inr (Or.inl ⟨u, JavaType.soleArgumentOf?_eq_some_iff.1 hlazy,
        by simp [ofType, hprovider, hlazy]⟩)
    | none => exact Or.inr (Or.inr (by simp [ofType, hprovider, hlazy]))

/-- The annotation for a qualifier has the type of the qualifier, and its text as the value. -/
theorem Qualifier.annotationUse_eq (q : Qualifier) :
    q.annotationUse = ⟨q.type, q.value.toList.map fun text => ("value", .text text)⟩ := by
  unfold annotationUse
  cases q.value <;> rfl

/-! ### Arguments -/

namespace Parameter

variable {p : Parameter}

/-- The argument for a parameter refers to nothing but what has the parameter's own name. -/
theorem names_argument (p : Parameter) : p.argument.names = [p.name] := by
  unfold argument
  split
  · rfl
  · cases (Request.ofType p.type).1 <;> rfl

/-- What stands for the name of a parameter: what the caller supplies, or its provider. -/
def scopeType (p : Parameter) : JavaType :=
  if p.isCallerSupplied then p.type else p.providerType

/-- The argument for a parameter may be passed where the parameter is declared. -/
theorem exists_hasType_argument {scope : List (String × JavaType)}
    (h : scope.lookup p.name = some p.scopeType) :
    ∃ t, HasType scope p.argument t ∧ t.PassesAs p.type := by
  by_cases hcaller : p.isCallerSupplied = true
  · rw [scopeType, if_pos hcaller] at h
    rw [argument, if_pos hcaller]
    exact ⟨p.type, .name h, .same _⟩
  · rw [scopeType, if_neg hcaller, providerType] at h
    rw [argument, if_neg hcaller]
    rcases Request.ofType_cases p.type with ⟨u, htype, hrequest⟩ | ⟨u, htype, hrequest⟩ | hrequest
    · rw [hrequest] at h ⊢
      rw [htype]
      exact ⟨_, .name h, .same _⟩
    · rw [hrequest] at h ⊢
      rw [htype]
      exact ⟨_, .lazy (.name h), .same _⟩
    · rw [hrequest] at h ⊢
      exact ⟨_, .get (.name h), p.type.passesAs_boxed⟩

end Parameter

namespace Worker

/-- The names in the body of `create` stand for the parameters of the worker. -/
theorem scope_createMethod (w : Worker) :
    w.createMethod.scope (w.injectorSupplied.map Parameter.providerField) =
      (callerParameters ++ w.injectorSupplied).map fun p => (p.name, p.scopeType) := by
  have hinjected : (w.injectorSupplied.map Parameter.providerField).map
      (fun f => (f.name, f.type)) = w.injectorSupplied.map fun p => (p.name, p.scopeType) := by
    rw [List.map_map]
    refine List.map_congr_left fun p hp => ?_
    have hinjector : ¬ p.isCallerSupplied = true := by
      simpa using (List.mem_filter.1 hp).2
    simp [Parameter.providerField, Parameter.scopeType, hinjector]
  rw [Method.scope, hinjected, List.map_append]
  rfl

section

variable {w : Worker}
  (hcallers : (w.parameters.filter Parameter.isCallerSupplied).Perm callerParameters)

include hcallers

/-- What a factory passes on and what the injector supplies are the parameters of the worker. -/
theorem perm_parameters : (callerParameters ++ w.injectorSupplied).Perm w.parameters :=
  (hcallers.symm.append_right _).trans (List.filter_append_perm _ _)

/-- **A name stands for its parameter**, if no other parameter has the same name. -/
theorem lookup_scope (hnames : (w.parameters.map (·.name)).Nodup) {p : Parameter}
    (hp : p ∈ w.parameters) :
    (w.createMethod.scope (w.injectorSupplied.map Parameter.providerField)).lookup p.name =
      some p.scopeType := by
  have hperm := perm_parameters hcallers
  rw [scope_createMethod]
  -- The names in scope are those of the worker's parameters in another order, so none is repeated
  -- and nothing is shadowed after all.
  apply lookup_of_mem
  · rw [List.map_map]
    exact (hperm.map (·.name)).nodup_iff.2 hnames
  · exact List.mem_map_of_mem (hperm.mem_iff.2 hp)

/-- **Each argument fits its parameter**: it has one type, and may be passed with it. -/
theorem arguments_fit (hnames : (w.parameters.map (·.name)).Nodup) :
    let scope := w.createMethod.scope (w.injectorSupplied.map Parameter.providerField)
    List.Forall₂
      (fun p (a : Expression) => a.names = [p.name] ∧
        ∃ t : JavaType, HasType scope a t ∧ t.PassesAs p.type ∧ ∀ u, HasType scope a u → u = t)
      w.parameters (w.parameters.map Parameter.argument) := by
  intro scope
  refine List.forall₂_map_right_iff.2 (List.forall₂_same.2 fun p hp => ⟨p.names_argument, ?_⟩)
  obtain ⟨t, ht, hpasses⟩ :=
    Parameter.exists_hasType_argument (lookup_scope hcallers hnames hp)
  exact ⟨t, ht, hpasses, fun u hu => hu.unique ht⟩

end

/-- A class that creates objects of the class `owner` by calling its constructor.  What the
constructor is called with comes from the parameters of the method `create` and from providers. -/
structure CallsConstructor (owner : ClassName) (parameters : List Parameter)
    (declaration : ClassDeclaration) (constructor create : Method)
    (arguments : List Expression) : Prop where
  methods : declaration.methods = [constructor, create]
  /-- There is a provider for each parameter that the injector supplies, and no other field. -/
  fields : List.Forall₂
    (fun p (f : Field) => f.name = p.name ∧ ∃ t : JavaType, f.type = t.providerOf)
    (parameters.filter (·.supplier = .injector)) declaration.fields
  constructor_name : constructor.name = none
  takes : constructor.parameters.map (fun a => (a.name, a.type)) =
    declaration.fields.map fun f => (f.name, f.type)
  /-- A constructor parameter has its qualifier as its only annotation, with the text of the
  qualifier as the member `value` if there is one. -/
  qualified : constructor.parameters.map (·.annotations) =
    (parameters.filter (·.supplier = .injector)).map fun p => p.qualifier.toList.map fun q =>
      ⟨q.type, q.value.toList.map fun text => ("value", .text text)⟩
  stores : constructor.body =
    some (declaration.fields.map fun f => .assign (.ownField f.name) (.name f.name))
  create_name : create.name = some "create"
  passes : create.parameters.map (fun a => (a.name, a.type)) =
    [("context", .named (.topLevelIn "android.content" "Context")),
      ("workerParameters", .named (.topLevelIn "androidx.work" "WorkerParameters"))]
  returns : create.body = some [.returning (.create owner arguments)]
  /-- There is an argument for each parameter.  It refers to the parameter's own name and nothing
  else, and its type is such that it may be passed. -/
  fits : List.Forall₂
    (fun p (a : Expression) => a.names = [p.name] ∧
      ∃ t : JavaType, HasType (create.scope declaration.fields) a t ∧ t.PassesAs p.type ∧
        ∀ u, HasType (create.scope declaration.fields) a u → u = t)
    parameters arguments

/-- **A factory calls the constructor of its worker with the right arguments.**  Take any worker
that was accepted from a round that was read and no two of whose constructor parameters have the
same name, generated in any style and with any marker.  Its factory has one provider field, one
constructor parameter with the qualifier and one assignment for each parameter that the injector
supplies, in the order of their declaration.  Its method `create` returns a new object of the
class, made with one argument for each parameter of the class's only marked constructor.  With
the parameters of `create` shadowing the fields, each argument refers to the name of its own
parameter only, and has the type of that parameter or, if that is primitive, of its wrapper. -/
theorem factory_calls_constructor (r : Round) (hr : r.Described) (c : ListedClass)
    (hc : c ∈ r.classes) (known : Hierarchy) (w : Worker) (hw : c.worker? known = some w)
    (hnames : (w.parameters.map (·.name)).Nodup) (style : NestingStyle)
    (marker : Option AnnotationUse) :
    ∃ (k : InjectConstructor) (constructor create : Method) (arguments : List Expression),
      c.constructors = [k] ∧ w.parameters = k.parameters ∧
      CallsConstructor c.name k.parameters (w.factory style marker).declaration constructor create
        arguments := by
  have hdisplayable := ListedClass.displayable_of_described hr hc
  obtain ⟨k, hk, rfl⟩ := (ListedClass.worker?_eq_some_iff hdisplayable).1 hw
  let w : Worker := ⟨c.name, k.parameters, c.location⟩
  have hsupplied : k.parameters.filter (·.supplier = .injector) = w.injectorSupplied :=
    List.filter_congr fun p _ => by
      cases hp : p.supplier <;> simp [Parameter.isCallerSupplied, hp]
  refine ⟨k, w.factoryConstructor, w.createMethod, k.parameters.map Parameter.argument, hk.sole,
    rfl, ?_⟩
  exact {
    methods := rfl
    fields := by
      rw [hsupplied]
      exact List.forall₂_map_right_iff.2 (List.forall₂_same.2 fun p _ => ⟨rfl, _, rfl⟩)
    constructor_name := rfl
    takes := by
      simp only [factory, factoryConstructor, List.map_map]
      rfl
    qualified := by
      rw [hsupplied, factoryConstructor, List.map_map]
      exact List.map_congr_left fun p _ => List.map_congr_left fun q _ => q.annotationUse_eq
    stores := by
      rw [Method.body_of_concrete (by simp [factoryConstructor]), factory, List.map_map]
      rfl
    create_name := rfl
    passes := rfl
    returns := Method.body_of_concrete (by simp [createMethod])
    fits := arguments_fit (w := w) hk.callers hnames }

/-- The parameters of a constructor that needs all kinds of arguments, as they are described. -/
def wiredDescriptions : List ParameterDescription := [
  ⟨"workerParameters", "androidx.work.WorkerParameters", true, none⟩,
  ⟨"count", "int", false, none⟩,
  ⟨"names", "javax.inject.Provider<java.lang.String>", false,
    some ⟨"javax.inject.Named", some "names"⟩⟩,
  ⟨"context", "android.content.Context", true, none⟩,
  ⟨"cache", "dagger.Lazy<java.util.List<java.lang.Long>>", false, none⟩]

/-- Those parameters when they are checked. -/
def wiredParameters : List Parameter := [
  ⟨"workerParameters", .named Framework.workerParameters, .caller, none⟩,
  ⟨"count", .primitive .int, .injector, none⟩,
  ⟨"names", .parameterized Framework.provider [.named (.topLevelIn "java.lang" "String")],
    .injector, some ⟨.topLevelIn "javax.inject" "Named", some "names"⟩⟩,
  ⟨"context", .named Framework.context, .caller, none⟩,
  ⟨"cache", .parameterized Framework.lazily [.parameterized (.topLevelIn "java.util" "List")
    [.named (.topLevelIn "java.lang" "Long")]], .injector, none⟩]

/-- A worker with these parameters. -/
def listedWired : ListedClass :=
  { Session.listedTestWorker "test" "test/TestWorker.java" with
    constructors := [⟨.pack, ⟨"test/TestWorker.java", 3, none⟩, wiredParameters⟩] }

/-- The worker that this class is. -/
def wired : Worker :=
  ⟨.topLevelIn "test" "TestWorker", wiredParameters, ⟨"test/TestWorker.java", 3, none⟩⟩

/-- What the constructor of that worker is called with. -/
def wiredArguments : List Expression := [
  .name "workerParameters",
  .call (.name "count") "get" [],
  .name "names",
  .name "context",
  .staticCall Framework.doubleCheck "lazy" [.name "cache"]]

/-- Parameters of all kinds, in any order, are passed what they need. -/
theorem wired_calls_constructor :
    let known := Hierarchy.initial.record listedWired.name listedWired.supertypes
    (⟨[listedWired], []⟩ : Round).Described ∧ listedWired ∈ [listedWired] ∧
    listedWired.worker? known = some wired ∧ (wired.parameters.map (·.name)).Nodup ∧
    ∃ constructor create : Method, CallsConstructor listedWired.name wiredParameters
      (wired.factory .flattened none).declaration constructor create wiredArguments := by
  intro known
  have hdescribed : (⟨[listedWired], []⟩ : Round).Described :=
    ⟨⟨[{ Session.testWorker "test" "test/TestWorker.java" with
      constructors := [⟨.pack, true, none, wiredDescriptions⟩] }], []⟩, by decide +kernel⟩
  have hmem : listedWired ∈ (⟨[listedWired], []⟩ : Round).classes := List.mem_cons_self
  have hworker : listedWired.worker? known = some wired := by decide +kernel
  have hnames : (wired.parameters.map (·.name)).Nodup := by decide
  obtain ⟨k, constructor, create, arguments, -, hk, hcalls⟩ := factory_calls_constructor _
    hdescribed listedWired hmem known wired hworker hnames .flattened none
  have hmethods : create = wired.createMethod := by
    have h := hcalls.methods
    simp only [factory, List.cons.injEq] at h
    exact h.2.1.symm
  have harguments : arguments = wiredArguments := by
    have h := hcalls.returns
    rw [hmethods] at h
    have hbody : wired.createMethod.body =
        some [.returning (.create listedWired.name wiredArguments)] := rfl
    rw [hbody] at h
    simpa using h.symm
  rw [← hk, harguments] at hcalls
  exact ⟨hdescribed, hmem, hworker, hnames, constructor, create, hcalls⟩

end Worker

end AssistedWorkers
