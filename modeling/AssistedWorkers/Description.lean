import AssistedWorkers.Location

/-!
# Descriptions of rounds

What a host found in one round, as it describes it: classes with their supertypes and
constructors, and modules with their includes.  Names and types are still plain texts here.

Each kind of description is a JSON record.  Most fields may be absent; a declaration always has
its name and its place.
-/

namespace AssistedWorkers

open Json

/-- Who may use a declaration. -/
inductive Visibility where
  | pub
  | prot
  | pack
  | priv
deriving DecidableEq, Repr

namespace Visibility

/-- Every visibility. -/
def all : List Visibility :=
  [pub, prot, pack, priv]

/-- The name of a visibility. -/
def name : Visibility → String
  | pub => "public"
  | prot => "protected"
  | pack => "package"
  | priv => "private"

/-- Visibilities as JSON. -/
def codec : Codec Visibility :=
  choiceCodec all name

end Visibility

/-- A class around a nested class. -/
structure EnclosingDescription where
  name : String
  visibility : Visibility
deriving DecidableEq, Repr

/-- A qualifier annotation on a parameter. -/
structure QualifierDescription where
  type : String
  value : Option String
deriving DecidableEq, Repr

/-- A constructor parameter. -/
structure ParameterDescription where
  name : String
  type : String
  /-- Whether the parameter is marked as supplied by the caller of the factory. -/
  assisted : Bool
  qualifier : Option QualifierDescription
deriving DecidableEq, Repr

/-- A constructor. -/
structure ConstructorDescription where
  visibility : Visibility
  /-- Whether the constructor is marked for injection. -/
  workerInject : Bool
  /-- The place of the class counts when there is none. -/
  location : Option Location
  parameters : List ParameterDescription
deriving DecidableEq, Repr

/-- A class. -/
structure ClassDescription where
  package : String
  /-- The classes around the class, outermost first. -/
  enclosing : List EnclosingDescription
  name : String
  visibility : Visibility
  isStatic : Bool
  supertypes : List String
  location : Location
  constructors : List ConstructorDescription
deriving DecidableEq, Repr

/-- The annotation that makes a class a Dagger module. -/
structure DaggerModuleDescription where
  includes : List String
deriving DecidableEq, Repr

/-- A module. -/
structure ModuleDescription where
  package : String
  /-- The classes around the module, outermost first. -/
  enclosing : List EnclosingDescription
  name : String
  visibility : Visibility
  daggerModule : Option DaggerModuleDescription
  location : Location
deriving DecidableEq, Repr

/-- All that was found in a round. -/
structure RoundDescription where
  classes : List ClassDescription
  modules : List ModuleDescription
deriving DecidableEq, Repr

namespace EnclosingDescription

/-- The fields of an enclosing class. -/
def fields : Fields [String, Visibility] :=
  (.required "name" textCodec, .defaulted "visibility" Visibility.codec .pack, ())

/-- Enclosing classes as JSON. -/
def codec : Codec EnclosingDescription :=
  recordCodec "EnclosingDescriptor" fields
    (fun (name, visibility, ()) => ⟨name, visibility⟩)
    (fun e => (e.name, e.visibility, ()))

end EnclosingDescription

namespace QualifierDescription

/-- The fields of a qualifier. -/
def fields : Fields [String, Option String] :=
  (.required "type" textCodec, .defaulted "value" (optionCodec textCodec) none, ())

/-- Qualifiers as JSON. -/
def codec : Codec QualifierDescription :=
  recordCodec "QualifierDescriptor" fields
    (fun (type, value, ()) => ⟨type, value⟩)
    (fun q => (q.type, q.value, ()))

end QualifierDescription

namespace ParameterDescription

/-- The fields of a parameter. -/
def fields : Fields [String, String, Bool, Option QualifierDescription] :=
  (.required "name" textCodec, .required "type" textCodec,
    .defaulted "assisted" booleanCodec false,
    .defaulted "qualifier" (optionCodec QualifierDescription.codec) none, ())

/-- Parameters as JSON. -/
def codec : Codec ParameterDescription :=
  recordCodec "ParameterDescriptor" fields
    (fun (name, type, assisted, qualifier, ()) => ⟨name, type, assisted, qualifier⟩)
    (fun p => (p.name, p.type, p.assisted, p.qualifier, ()))

end ParameterDescription

namespace ConstructorDescription

/-- The fields of a constructor. -/
def fields : Fields [Visibility, Bool, Option Location, List ParameterDescription] :=
  (.defaulted "visibility" Visibility.codec .pack,
    .defaulted "worker_inject" booleanCodec false,
    .defaulted "location" (optionCodec Location.codec) none,
    .defaulted "parameters" (listCodec ParameterDescription.codec) [], ())

/-- Constructors as JSON. -/
def codec : Codec ConstructorDescription :=
  recordCodec "ConstructorDescriptor" fields
    (fun (visibility, workerInject, location, parameters, ()) =>
      ⟨visibility, workerInject, location, parameters⟩)
    (fun c => (c.visibility, c.workerInject, c.location, c.parameters, ()))

end ConstructorDescription

namespace ClassDescription

/-- The fields of a class. -/
def fields : Fields [String, List EnclosingDescription, String, Visibility, Bool, List String,
    Location, List ConstructorDescription] :=
  (.defaulted "package" textCodec "",
    .defaulted "enclosing" (listCodec EnclosingDescription.codec) [],
    .required "name" textCodec,
    .defaulted "visibility" Visibility.codec .pack,
    .defaulted "static" booleanCodec false,
    .defaulted "supertypes" (listCodec textCodec) [],
    .required "location" Location.codec,
    .defaulted "constructors" (listCodec ConstructorDescription.codec) [], ())

/-- Classes as JSON. -/
def codec : Codec ClassDescription :=
  recordCodec "ClassDescriptor" fields
    (fun (package, enclosing, name, visibility, isStatic, supertypes, location, constructors, ()) =>
      ⟨package, enclosing, name, visibility, isStatic, supertypes, location, constructors⟩)
    (fun c => (c.package, c.enclosing, c.name, c.visibility, c.isStatic, c.supertypes, c.location,
      c.constructors, ()))

end ClassDescription

namespace DaggerModuleDescription

/-- The fields of a Dagger module annotation. -/
def fields : Fields [List String] :=
  (.defaulted "includes" (listCodec textCodec) [], ())

/-- Dagger module annotations as JSON. -/
def codec : Codec DaggerModuleDescription :=
  recordCodec "DaggerModuleDescriptor" fields
    (fun (includes, ()) => ⟨includes⟩)
    (fun m => (m.includes, ()))

end DaggerModuleDescription

namespace ModuleDescription

/-- The fields of a module. -/
def fields : Fields [String, List EnclosingDescription, String, Visibility,
    Option DaggerModuleDescription, Location] :=
  (.defaulted "package" textCodec "",
    .defaulted "enclosing" (listCodec EnclosingDescription.codec) [],
    .required "name" textCodec,
    .defaulted "visibility" Visibility.codec .pack,
    .defaulted "dagger_module" (optionCodec DaggerModuleDescription.codec) none,
    .required "location" Location.codec, ())

/-- Modules as JSON. -/
def codec : Codec ModuleDescription :=
  recordCodec "ModuleDescriptor" fields
    (fun (package, enclosing, name, visibility, daggerModule, location, ()) =>
      ⟨package, enclosing, name, visibility, daggerModule, location⟩)
    (fun m => (m.package, m.enclosing, m.name, m.visibility, m.daggerModule, m.location, ()))

end ModuleDescription

namespace RoundDescription

/-- The fields of a round. -/
def fields : Fields [List ClassDescription, List ModuleDescription] :=
  (.defaulted "classes" (listCodec ClassDescription.codec) [],
    .defaulted "modules" (listCodec ModuleDescription.codec) [], ())

/-- Rounds as JSON. -/
def codec : Codec RoundDescription :=
  recordCodec "RoundDescriptor" fields
    (fun (classes, modules, ()) => ⟨classes, modules⟩)
    (fun r => (r.classes, r.modules, ()))

end RoundDescription

end AssistedWorkers
