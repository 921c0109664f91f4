import AssistedWorkers.BindingModule
import AssistedWorkers.Java.SourceFile
import AssistedWorkers.Worker

/-!
# The source of binding modules

A binding module has one abstract method for each worker of the run.  The method binds the
worker's factory under the worker's key.  Methods are in the order of their keys, and are named
after them; keys that would give the same name get numbered ones.

* `freshName_of_not_mem` — a free name is not changed.
-/

namespace AssistedWorkers

open Java

/-- A name followed by a number. -/
def numbered (name : String) (n : Nat) : String :=
  name ++ "_" ++ toString n

/-- The name itself if it is not taken, and the first free one of `name_2`, `name_3`, … if it is.
More numbers than taken names need not be tried. -/
def freshName (taken : List String) (name : String) : String :=
  if taken.contains name then
    ((List.range (taken.length + 1)).findSome? fun n =>
      let candidate := numbered name (n + 2)
      if taken.contains candidate then none else some candidate).getD name
  else name

/-- Takes a fresh name for `name`: the name, and the taken names with it. -/
def takeName (taken : List String) (name : String) : String × List String :=
  let fresh := freshName taken name
  (fresh, fresh :: taken)

theorem freshName_of_not_mem {taken : List String} {name : String} (h : name ∉ taken) :
    freshName taken name = name := by
  simp [freshName, h]

namespace BindingModule

/-- The workers with their keys, in the order of the keys. -/
def keyed (style : NestingStyle) (workers : List Worker) : List (String × Worker) :=
  (workers.map fun w => (style.bindingKey w.owner, w)).mergeSort fun a b => decide (a.1 ≤ b.1)

/-- Sorting keeps the workers and pairs each with its own key. -/
theorem keyed_perm (style : NestingStyle) (workers : List Worker) :
    (keyed style workers).Perm (workers.map fun w => (style.bindingKey w.owner, w)) :=
  List.mergeSort_perm _ _

/-- The method that binds the factory of a worker under a key. -/
def bindMethod (style : NestingStyle) (name key : String) (w : Worker) : Method where
  name := some name
  annotations := [.marker Framework.binds, .marker Framework.intoMap,
    .withText Framework.stringKey key]
  modifiers := [.abstract]
  returns := some (.named Framework.workFactory)
  parameters := [⟨[], .named (style.factoryName w.owner), "factory"⟩]
  statements := []

/-- The methods that bind the workers, none of them with a name that is taken. -/
def bindMethods (style : NestingStyle) :
    (taken : List String) → List (String × Worker) → List Method
  | _, [] => []
  | taken, (key, w) :: others =>
    let (name, taken) := takeName taken (bindMethodName key)
    bindMethod style name key w :: bindMethods style taken others

/-- The constructor that keeps a binding module from being created. -/
def hiddenConstructor : Method where
  name := none
  annotations := []
  modifiers := [.priv]
  returns := none
  parameters := []
  statements := []

/-- The binding module for the workers of a run. -/
def source (style : NestingStyle) (marker : Option AnnotationUse) (workers : List Worker)
    (m : BindingModule) : SourceFile where
  package := m.generatedName.package
  declaration := {
    name := m.generatedName.simpleName
    annotations := .marker Framework.daggerModule :: marker.toList
    modifiers := .abstract :: if m.isPublic then [.pub] else []
    superinterfaces := []
    fields := []
    methods := hiddenConstructor :: bindMethods style [] (keyed style workers) }

end BindingModule

end AssistedWorkers
