import AssistedWorkers.Framework
import AssistedWorkers.Java.Identifier

/-!
# Generated names

The names of the generated classes, and the keys and method names of their bindings, come from
the class they are generated for.  A nesting chain becomes part of one simple name; the nesting
style says which separator joins its names there and in keys.
-/

namespace AssistedWorkers

open Java

/-- How the nesting chain of a class is written in a generated name. -/
inductive NestingStyle where
  /-- With underscores in names and dots in keys. -/
  | flattened
  /-- With dollar signs in both, as in binary names. -/
  | reflection
deriving DecidableEq, Repr

namespace NestingStyle

/-- What joins the names of a chain in the simple name of a generated class. -/
def nameSeparator : NestingStyle → String
  | flattened => "_"
  | reflection => "$"

/-- What joins the names of a chain in a binding key. -/
def keySeparator : NestingStyle → String
  | flattened => "."
  | reflection => "$"

/-- A nesting chain as one simple name. -/
def flatten (style : NestingStyle) (names : List String) : String :=
  style.nameSeparator.intercalate names

/-- The factory generated for a worker: a class of the worker's package. -/
def factoryName (style : NestingStyle) (worker : ClassName) : ClassName :=
  .topLevelIn worker.package (style.flatten worker.simpleNames ++ Framework.factoryNameEnd)

/-- The binding module generated for a module: a class of the module's package, named after the
module itself, with the classes around it in front. -/
def moduleName (style : NestingStyle) (module : ClassName) : ClassName :=
  let around := style.flatten module.enclosingNames
  let start := if around.isEmpty then around else around ++ style.nameSeparator
  .topLevelIn module.package (start ++ Framework.moduleNameStart ++ module.simpleName)

/-- The key that a worker's factory is bound under. -/
def bindingKey (style : NestingStyle) (worker : ClassName) : String :=
  worker.qualifiedWith style.keySeparator

end NestingStyle

/-- The name of the method that binds a key, before it is made unique: every character that no
identifier may hold becomes an underscore. -/
def bindMethodName (key : String) : String :=
  Framework.bindMethodNameStart ++
    String.ofList (key.toList.map fun c => if isIdentifierPart c then c else '_')

end AssistedWorkers
