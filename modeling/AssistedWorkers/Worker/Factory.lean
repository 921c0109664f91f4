import AssistedWorkers.Java.SourceFile
import AssistedWorkers.Worker

/-!
# Factories

The factory of a worker is a class with one provider for each parameter that the injector
supplies.  Its constructor takes the providers, and its method `create` takes what the caller
supplies and calls the worker's constructor.

What is asked of the injector depends on the type of the parameter: a provider is passed on as
it is, a lazy value is made from a provider of its type argument, and for any other type the
provider is asked for an instance when the worker is created.
-/

namespace AssistedWorkers

open Java

/-- How an argument is made from a provider. -/
inductive Request where
  /-- The provider is asked for an instance. -/
  | value
  /-- The provider itself is the argument. -/
  | provider
  /-- The provider is made lazy. -/
  | lazy
deriving DecidableEq, Repr

namespace Request

/-- The request for a parameter of a type, with the type to be provided. -/
def ofType (t : JavaType) : Request × JavaType :=
  match t.soleArgumentOf? Framework.provider, t.soleArgumentOf? Framework.lazily with
  | some provided, _ => (provider, provided)
  | none, some provided => (lazy, provided)
  | none, none => (value, t.boxed)

/-- The argument that is made from the provider in a field. -/
def argument (request : Request) (field : String) : Expression :=
  match request with
  | value => .call (.name field) "get" []
  | provider => .name field
  | lazy => .staticCall Framework.doubleCheck "lazy" [.name field]

end Request

namespace Parameter

/-- The type of the provider for a parameter. -/
def providerType (p : Parameter) : JavaType :=
  .parameterized Framework.provider [(Request.ofType p.type).2]

/-- The field that holds the provider for a parameter. -/
def providerField (p : Parameter) : Field :=
  ⟨[.priv, .final], p.providerType, p.name⟩

/-- The constructor parameter that takes the provider, with the qualifier of the parameter. -/
def providerParameter (p : Parameter) : FormalParameter :=
  ⟨p.qualifier.toList.map Qualifier.annotationUse, p.providerType, p.name⟩

/-- The statement that stores the provider. -/
def storeProvider (p : Parameter) : Statement :=
  .assign (.ownField p.name) (.name p.name)

/-- The argument for a parameter in the call of the worker's constructor. -/
def argument (p : Parameter) : Expression :=
  if p.isCallerSupplied then .name p.name else (Request.ofType p.type).1.argument p.name

end Parameter

namespace Worker

/-- The constructor of a worker's factory. -/
def factoryConstructor (w : Worker) : Method where
  name := none
  annotations := [.marker Framework.inject]
  modifiers := [.pub]
  returns := none
  parameters := w.injectorSupplied.map Parameter.providerParameter
  statements := w.injectorSupplied.map Parameter.storeProvider

/-- The method of a worker's factory that creates the worker. -/
def createMethod (w : Worker) : Method where
  name := some "create"
  annotations := [.marker Framework.overrideMarker]
  modifiers := [.pub]
  returns := some (.named Framework.listenableWorker)
  parameters := callerParameters.map fun p => ⟨[], p.type, p.name⟩
  statements := [.returning (.create w.owner (w.parameters.map Parameter.argument))]

/-- The factory of a worker. -/
def factory (style : NestingStyle) (marker : Option AnnotationUse) (w : Worker) : SourceFile where
  package := (style.factoryName w.owner).package
  declaration := {
    name := (style.factoryName w.owner).simpleName
    annotations := marker.toList
    modifiers := [.pub, .final]
    superinterfaces := [.named Framework.workFactory]
    fields := w.injectorSupplied.map Parameter.providerField
    methods := [w.factoryConstructor, w.createMethod] }

end Worker

end AssistedWorkers
