import AssistedWorkers.Java.Identifier
import AssistedWorkers.Java.TypeReader
import AssistedWorkers.Round

/-!
# Checking descriptions

A description becomes a round when every name in it is a Java identifier and every type can be
read.  The first element that fails decides: classes come before modules, and within each the
package, the names, and then what they refer to, in the order in which it is described.
-/

namespace AssistedWorkers

open Java Json

/-- The part of a description that a fault is about. -/
inductive Element where
  | package (text : String)
  | className (text : String)
  | supertype (owner : ClassName)
  | parameter (name : String) (owner : ClassName)
  | qualifier (parameter : String) (owner : ClassName)
  | inclusion (module : ClassName)
deriving DecidableEq, Repr

/-- What is wrong with an element. -/
inductive Reason where
  | noPackageName
  | noIdentifier
  /-- The text is a type, but no class. -/
  | noClass (text : String)
deriving DecidableEq, Repr

/-- Why a description is no round. -/
inductive RoundFault where
  | invalid (element : Element) (reason : Reason)
  | unreadableType (element : Element) (fault : TypeFault)
deriving DecidableEq, Repr

namespace Element

/-- The words for an element. -/
def describe : Element → String
  | package text => "package `" ++ text ++ "`"
  | className text => "class name `" ++ text ++ "`"
  | supertype owner => "supertype of class " ++ owner.canonicalName
  | parameter name owner => "parameter `" ++ name ++ "` of " ++ owner.canonicalName
  | qualifier name owner => "qualifier of parameter `" ++ name ++ "` of " ++ owner.canonicalName
  | inclusion module => "include of module " ++ module.canonicalName

end Element

namespace Reason

/-- The words for what is wrong. -/
def describe : Reason → String
  | noPackageName => "not a valid package name"
  | noIdentifier => "not a Java identifier"
  | noClass text => "`" ++ text ++ "` is not a class"

end Reason

namespace RoundFault

/-- The message for a fault. -/
def message : RoundFault → String
  | invalid element reason => "invalid " ++ element.describe ++ ": " ++ reason.describe
  | unreadableType element _ => "invalid type in " ++ element.describe

end RoundFault

/-- Whether a text is empty or identifiers with dots between them. -/
def isPackageName (text : String) : Bool :=
  text.isEmpty || ((text.toList.splitOn '.').map String.ofList).all isIdentifier

/-- The class that a declaration names, if all its names may be used. -/
def declaredName (package : String) (enclosing : List EnclosingDescription) (name : String) :
    Except RoundFault ClassName :=
  if !isPackageName package then .error (.invalid (.package package) .noPackageName)
  else
    let around := enclosing.map (·.name)
    match (around ++ [name]).find? (!isIdentifier ·) with
    | some bad => .error (.invalid (.className bad) .noIdentifier)
    | none =>
      match around with
      | [] => .ok ⟨package, name, []⟩
      | outermost :: inner => .ok ⟨package, outermost, inner ++ [name]⟩

/-- The type that a text describes. -/
def readTypeIn (element : Element) (text : String) : Except RoundFault JavaType :=
  (JavaType.read text).mapError (.unreadableType element)

/-- The class that a text refers to, whatever type arguments it is given. -/
def readReference (element : Element) (text : String) : Except RoundFault ClassName := do
  let type ← readTypeIn element text
  match type.rawClass? with
  | some c => .ok c
  | none => .error (.invalid element (.noClass text))

namespace ParameterDescription

/-- The parameter of a constructor of `owner`. -/
def check (owner : ClassName) (p : ParameterDescription) : Except RoundFault Parameter := do
  if !isIdentifier p.name then .error (.invalid (.parameter p.name owner) .noIdentifier)
  let type ← readTypeIn (.parameter p.name owner) p.type
  let qualifier ← p.qualifier.mapM fun q => do
    let type ← readReference (.qualifier p.name owner) q.type
    return (⟨type, q.value⟩ : Qualifier)
  return ⟨p.name, type, if p.assisted then .caller else .injector, qualifier⟩

end ParameterDescription

namespace ConstructorDescription

/-- The marked constructor of `owner`, which is declared at `place`. -/
def check (owner : ClassName) (place : Location) (c : ConstructorDescription) :
    Except RoundFault InjectConstructor := do
  let parameters ← c.parameters.mapM (·.check owner)
  return ⟨c.visibility, c.location.getD place, parameters⟩

end ConstructorDescription

namespace ClassDescription

/-- The class with its marked constructors. -/
def check (c : ClassDescription) : Except RoundFault ListedClass := do
  let name ← declaredName c.package c.enclosing c.name
  let supertypes ← c.supertypes.mapM (readReference (.supertype name))
  let constructors ← (c.constructors.filter (·.workerInject)).mapM (·.check name c.location)
  return ⟨name, c.visibility, c.enclosing.map (·.visibility), c.isStatic, supertypes, c.location,
    constructors⟩

end ClassDescription

namespace ModuleDescription

/-- The module. -/
def check (m : ModuleDescription) : Except RoundFault ListedModule := do
  let name ← declaredName m.package m.enclosing m.name
  let includes ← m.daggerModule.mapM fun d => d.includes.mapM (readReference (.inclusion name))
  return ⟨name, m.visibility, includes, m.location⟩

end ModuleDescription

namespace RoundDescription

/-- The round, unless some element of the description is at fault. -/
def check (r : RoundDescription) : Except RoundFault Round := do
  let classes ← r.classes.mapM ClassDescription.check
  let modules ← r.modules.mapM ModuleDescription.check
  return ⟨classes, modules⟩

end RoundDescription

end AssistedWorkers
