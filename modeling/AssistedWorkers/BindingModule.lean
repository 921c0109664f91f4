import AssistedWorkers.Naming
import AssistedWorkers.Report
import AssistedWorkers.Round

/-!
# Binding modules

A run has one module, and its binding module is generated once.  A module has to be a Dagger
module that includes the binding module to be generated for it, and no other module may be
listed in the run, in whatever round.

The census keeps the modules of a run at the place where each was first listed.  As soon as
there are two, each of them is reported, once.
-/

namespace AssistedWorkers

open Java

/-- A module with the binding module to be generated for it. -/
structure BindingModule where
  owner : ClassName
  isPublic : Bool
  generatedName : ClassName
deriving DecidableEq, Repr

namespace BindingModule

/-- Whether an included class is the generated one.  That class is not there yet when the module
is compiled, so its simple name is enough. -/
def isNamedBy (included generated : ClassName) : Bool :=
  included == generated ||
    (included.package.isEmpty && !included.isNested &&
      included.simpleName == generated.simpleName)

end BindingModule

namespace ListedModule

/-- The binding module to be generated for a module, or what is wrong with the module. -/
def bindingModule (style : NestingStyle) (publicModule : Bool) (m : ListedModule) :
    Except Finding BindingModule :=
  let generated := style.moduleName m.name
  match m.includes with
  | none => .error .noDaggerModule
  | some includes =>
    if includes.any (BindingModule.isNamedBy · generated) then
      .ok ⟨m.name, publicModule || m.visibility == .pub, generated⟩
    else .error (.notIncluded generated.simpleName)

end ListedModule

/-- The modules of a run with their first places, and those of them that were reported. -/
structure ModuleCensus where
  seen : List (ClassName × Location)
  reported : List ClassName
deriving DecidableEq, Repr

namespace ModuleCensus

/-- The census before any module is listed. -/
def empty : ModuleCensus :=
  ⟨[], []⟩

/-- Counts a module unless it was listed before. -/
def count (census : ModuleCensus) (m : ListedModule) : ModuleCensus :=
  if census.seen.any (·.1 == m.name) then census
  else { census with seen := census.seen ++ [(m.name, m.location)] }

/-- The modules that are not alone and were not reported yet. -/
def unreported (census : ModuleCensus) : List (ClassName × Location) :=
  if census.seen.length < 2 then []
  else census.seen.filter fun (name, _) => !census.reported.contains name

/-- Counts the modules of a round and reports those that are not alone. -/
def record (census : ModuleCensus) (modules : List ListedModule) : ModuleCensus × List Report :=
  let counted := modules.foldl count census
  let found := counted.unreported
  ({ counted with reported := counted.reported ++ found.map (·.1) },
    found.map fun (_, location) => ⟨.severalModules, location⟩)

/-- Whether exactly one module was listed. -/
def isSole (census : ModuleCensus) : Bool :=
  census.seen.length == 1

end ModuleCensus

end AssistedWorkers
