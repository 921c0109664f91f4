import AssistedWorkers.Description
import AssistedWorkers.Java.AnnotationUse
import AssistedWorkers.Java.Type

/-!
# Rounds

What a host found in one round, with every name checked and every type read: classes with their
marked constructors, and modules.  Constructors without the mark leave no trace here.
-/

namespace AssistedWorkers

open Java

/-- Who supplies the argument for a constructor parameter. -/
inductive Supplier where
  /-- The caller of the factory. -/
  | caller
  /-- The injector, through a provider. -/
  | injector
deriving DecidableEq, Repr

/-- A qualifier annotation. -/
structure Qualifier where
  type : ClassName
  value : Option String
deriving DecidableEq, Repr

/-- A parameter of a marked constructor. -/
structure Parameter where
  name : String
  type : JavaType
  supplier : Supplier
  qualifier : Option Qualifier
deriving DecidableEq, Repr

/-- A marked constructor. -/
structure InjectConstructor where
  visibility : Visibility
  location : Location
  parameters : List Parameter
deriving DecidableEq, Repr

/-- A class of a round with its marked constructors. -/
structure ListedClass where
  name : ClassName
  visibility : Visibility
  /-- The visibilities of the classes around the class, outermost first. -/
  enclosingVisibility : List Visibility
  isStatic : Bool
  supertypes : List ClassName
  location : Location
  constructors : List InjectConstructor
deriving DecidableEq, Repr

/-- A module of a round. -/
structure ListedModule where
  name : ClassName
  visibility : Visibility
  /-- What its Dagger annotation includes; nothing without such an annotation. -/
  includes : Option (List ClassName)
  location : Location
deriving DecidableEq, Repr

/-- The checked contents of a round. -/
structure Round where
  classes : List ListedClass
  modules : List ListedModule
deriving DecidableEq, Repr

namespace Qualifier

/-- The qualifier as a message shows it. -/
def display (q : Qualifier) : String :=
  match q.value with
  | none => "@" ++ q.type.canonicalName
  | some value => "@" ++ q.type.canonicalName ++ "(\"" ++ value ++ "\")"

/-- The qualifier as an annotation of a generated parameter. -/
def annotationUse (q : Qualifier) : AnnotationUse :=
  match q.value with
  | none => .marker q.type
  | some value => .withText q.type value

end Qualifier

namespace Parameter

/-- Whether the caller of the factory supplies the argument. -/
def isCallerSupplied (p : Parameter) : Bool :=
  p.supplier == .caller

/-- The parameter as a message shows it: qualifier, fully qualified type and name. -/
def key (p : Parameter) : String :=
  let declared := p.type.display ++ " " ++ p.name
  match p.qualifier with
  | none => declared
  | some q => q.display ++ " " ++ declared

end Parameter

namespace ListedClass

/-- Whether the class has a marked constructor. -/
def isInjected (c : ListedClass) : Bool :=
  !c.constructors.isEmpty

end ListedClass

end AssistedWorkers
