/-!
# Class names

A reference to a Java class keeps its package apart from its nesting chain, so that both the
canonical name (`test.Outer.Inner`) and the binary name (`test.Outer$Inner`) can be written from
it.  The chain is never empty: a class has an outermost name, and below it the names of the
classes it is nested in, down to itself.

* `compare_eq_iff` — two class names compare equal only if they are the same;
* `simpleNames_topLevel`, `simpleNames_nested` — how the operations act on the chain.
-/

namespace AssistedWorkers.Java

/-- A possibly nested class: its package, empty for the default package, the name of the
outermost class, and the names of the classes inside it, ending with the class itself. -/
structure ClassName where
  package : String
  outermost : String
  inner : List String
deriving DecidableEq, Repr

namespace ClassName

/-- A class that is not nested in another one. -/
def topLevelIn (package name : String) : ClassName :=
  ⟨package, name, []⟩

/-- A class from its nesting chain, outermost class first.  An empty chain names no class. -/
def ofChain? (package : String) : List String → Option ClassName
  | [] => none
  | outermost :: inner => some ⟨package, outermost, inner⟩

/-- The nesting chain, outermost class first. -/
def simpleNames (c : ClassName) : List String :=
  c.outermost :: c.inner

/-- The innermost name of the chain. -/
def simpleName (c : ClassName) : String :=
  c.inner.getLast?.getD c.outermost

/-- Whether the class is declared inside another class. -/
def isNested (c : ClassName) : Bool :=
  !c.inner.isEmpty

/-- The outermost class of the chain. -/
def topLevel (c : ClassName) : ClassName :=
  { c with inner := [] }

/-- The class this one is nested in, if any. -/
def enclosing? (c : ClassName) : Option ClassName :=
  if c.isNested then some { c with inner := c.inner.dropLast } else none

/-- The names of the classes around this one, outermost first. -/
def enclosingNames (c : ClassName) : List String :=
  c.simpleNames.dropLast

/-- A class declared directly inside this one. -/
def nested (c : ClassName) (name : String) : ClassName :=
  { c with inner := c.inner ++ [name] }

/-- A class declared in the same place as this one. -/
def peer (c : ClassName) (name : String) : ClassName :=
  if c.isNested then { c with inner := c.inner.dropLast ++ [name] }
  else { c with outermost := name }

/-- The package followed by a dot, or nothing for the default package, and then the nesting
chain joined with `separator`. -/
def qualifiedWith (c : ClassName) (separator : String) : String :=
  let chain := separator.intercalate c.simpleNames
  if c.package.isEmpty then chain else c.package ++ "." ++ chain

/-- The name as written in source. -/
def canonicalName (c : ClassName) : String :=
  c.qualifiedWith "."

/-- The binary name, which joins nested classes with a dollar sign. -/
def reflectionName (c : ClassName) : String :=
  c.qualifiedWith "$"

/-- Class names are ordered by package, then by nesting chain. -/
instance : Ord ClassName where
  compare c d := (compare c.package d.package).then (compare c.simpleNames d.simpleNames)

/-- Classes are compared by package first and by chain second. -/
theorem compare_def (c d : ClassName) :
    compare c d = (compare c.package d.package).then (compare c.simpleNames d.simpleNames) :=
  rfl

@[simp] theorem simpleNames_topLevel (c : ClassName) : c.topLevel.simpleNames = [c.outermost] :=
  rfl

@[simp] theorem simpleNames_nested (c : ClassName) (name : String) :
    (c.nested name).simpleNames = c.simpleNames ++ [name] :=
  rfl

@[simp] theorem ofChain?_simpleNames (c : ClassName) :
    ofChain? c.package c.simpleNames = some c :=
  rfl

/-- No chain is empty. -/
theorem simpleNames_ne_nil (c : ClassName) : c.simpleNames ≠ [] := by
  simp [simpleNames]

/-- Package and chain determine the class. -/
theorem ext_iff_simpleNames {c d : ClassName} :
    c = d ↔ c.package = d.package ∧ c.simpleNames = d.simpleNames := by
  cases c; cases d; simp [simpleNames]

/-- Only equal class names compare equal. -/
theorem compare_eq_iff {c d : ClassName} : compare c d = .eq ↔ c = d := by
  rw [compare_def, Ordering.then_eq_eq, ext_iff_simpleNames]
  simp

end ClassName

end AssistedWorkers.Java
