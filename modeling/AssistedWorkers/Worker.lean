import AssistedWorkers.Hierarchy
import AssistedWorkers.Naming
import AssistedWorkers.Report
import AssistedWorkers.Round

/-!
# Workers

A class with a marked constructor is a worker when it breaks none of the rules.  Every rule is
checked and every violation reported, in a fixed order: the rules about the class and its
constructors first, then for each constructor the rules about its parameters.

* `worker?_eq_none_iff` — what keeps a class from being a worker.
-/

namespace AssistedWorkers

open Java

/-- A class that a factory is generated for, with the parameters of its constructor. -/
structure Worker where
  owner : ClassName
  parameters : List Parameter
  location : Location
deriving DecidableEq, Repr

namespace Worker

/-- The parameters that a factory passes on from its caller, in the order in which it gets them. -/
def callerParameters : List Parameter := [
  ⟨"context", .named Framework.context, .caller, none⟩,
  ⟨"workerParameters", .named Framework.workerParameters, .caller, none⟩]

/-- The parameters that come from the injector, in the order in which they are declared. -/
def injectorSupplied (w : Worker) : List Parameter :=
  w.parameters.filter (!·.isCallerSupplied)

end Worker

namespace InjectConstructor

/-- The keys of the parameters that the caller supplies. -/
def callerKeys (k : InjectConstructor) : List String :=
  (k.parameters.filter Parameter.isCallerSupplied).map Parameter.key

/-- Whether the caller supplies just what a factory passes on, in either order. -/
def suitsCaller (k : InjectConstructor) : Bool :=
  let expected := Worker.callerParameters.map Parameter.key
  k.callerKeys.length == expected.length && expected.all (k.callerKeys.contains ·)

/-- The reports about the parameters of a constructor. -/
def parameterReports (k : InjectConstructor) : List Report :=
  (if k.suitsCaller then []
    else [⟨.wrongCallerParameters k.callerKeys (Worker.callerParameters.map Parameter.key),
      k.location⟩]) ++
  (if k.parameters.all Parameter.isCallerSupplied then [⟨.nothingInjected, k.location⟩] else [])

end InjectConstructor

namespace ListedClass

/-- A report at the place of the class, if a rule is broken. -/
def reportIf (c : ListedClass) (broken : Bool) (finding : Finding) : List Report :=
  if broken then [⟨finding, c.location⟩] else []

/-- The reports about a class, given the hierarchy of the run. -/
def reports (h : Hierarchy) (c : ListedClass) : List Report :=
  c.reportIf (decide (c.constructors.length > 1)) .severalConstructors ++
    (c.constructors.filter (·.visibility == .priv)).map
      (fun k => ⟨.privateConstructor, k.location⟩) ++
    c.reportIf (c.visibility == .priv || c.enclosingVisibility.contains .priv) .privateType ++
    c.reportIf (c.name.isNested && !c.isStatic) .notStatic ++
    c.reportIf (!h.isSubtype c.name Framework.listenableWorker) .notAWorker ++
    c.constructors.flatMap InjectConstructor.parameterReports

/-- The worker that a class is, unless a rule is broken. -/
def worker? (h : Hierarchy) (c : ListedClass) : Option Worker :=
  if (c.reports h).any Report.isError then none
  else c.constructors.head?.map fun k => ⟨c.name, k.parameters, c.location⟩

/-- A class is no worker when an error is reported about it or nothing in it is marked. -/
theorem worker?_eq_none_iff {h : Hierarchy} {c : ListedClass} :
    c.worker? h = none ↔ (∃ r ∈ c.reports h, r.isError = true) ∨ c.constructors = [] := by
  unfold worker?
  split
  · simp_all
  · cases hk : c.constructors <;> simp_all

end ListedClass

end AssistedWorkers
