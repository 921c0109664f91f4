import AssistedWorkers.Framework
import AssistedWorkers.Location

/-!
# Reports

What is wrong with the classes and modules of a round.  A finding is the cause of a report; it
determines how severe the report is and what it says.  A report is a finding at a place, and a
diagnostic is what the host gets to see of it.
-/

namespace AssistedWorkers

open Java

/-- Whether a diagnostic makes the run fail. -/
inductive Severity where
  | error
  | warning
deriving DecidableEq, Repr

namespace Severity

/-- The word for a severity. -/
def display : Severity → String
  | error => "error"
  | warning => "warning"

/-- The place of a severity in their order. -/
def rank : Severity → Nat
  | error => 0
  | warning => 1

instance : Ord Severity where
  compare s t := compare s.rank t.rank

end Severity

/-- What a host sees of a report. -/
structure Diagnostic where
  severity : Severity
  message : String
  location : Location
deriving DecidableEq, Repr

namespace Diagnostic

/-- Whether the diagnostic makes the run fail. -/
def isError (d : Diagnostic) : Bool :=
  d.severity == .error

/-- The diagnostic as one text. -/
def display (d : Diagnostic) : String :=
  d.location.display ++ ": " ++ d.severity.display ++ ": " ++ d.message

end Diagnostic

/-- What may be found about a class or a module. -/
inductive Finding where
  /-- A class has more than one marked constructor. -/
  | severalConstructors
  | privateConstructor
  /-- The class or a class around it is private. -/
  | privateType
  /-- A nested class is not static. -/
  | notStatic
  | notAWorker
  /-- The caller supplies other parameters than a factory passes; their keys. -/
  | wrongCallerParameters (found expected : List String)
  /-- The caller supplies every parameter. -/
  | nothingInjected
  | noDaggerModule
  /-- The module does not include the binding module of the given simple name. -/
  | notIncluded (simpleName : String)
  /-- More than one module was listed in the run. -/
  | severalModules
  /-- The name of a generated class belongs to another class already. -/
  | nameTaken (name owner existing : ClassName)
  /-- A worker was listed after the binding module had been generated. -/
  | notBound (worker module : ClassName)
deriving DecidableEq, Repr

namespace Finding

/-- How severe a finding is. -/
def severity : Finding → Severity
  | nothingInjected => .warning
  | notBound _ _ => .warning
  | _ => .error

/-- The message for a finding. -/
def message : Finding → String
  | severalConstructors =>
    "Multiple @" ++ Framework.simpleNameOf Framework.workerInject ++
      "-annotated constructors found."
  | privateConstructor =>
    "@" ++ Framework.simpleNameOf Framework.workerInject ++ " constructor must not be private."
  | privateType =>
    "@" ++ Framework.simpleNameOf Framework.workerInject ++ "-using types must not be private"
  | notStatic =>
    "Nested @" ++ Framework.simpleNameOf Framework.workerInject ++ "-using types must be static"
  | notAWorker =>
    "@" ++ Framework.simpleNameOf Framework.workerInject ++ "-using types must be subtypes of " ++
      Framework.listenableWorker.canonicalName
  | wrongCallerParameters found expected =>
    "Worker injection requires Context and WorkerParameters @" ++
      Framework.simpleNameOf Framework.assisted ++ " parameters.\n    Found:\n      [" ++
      ", ".intercalate found ++ "]\n    Expected:\n      [" ++ ", ".intercalate expected ++ "]"
  | nothingInjected =>
    "Worker injection requires at least one non-@" ++
      Framework.simpleNameOf Framework.assisted ++ " parameter."
  | noDaggerModule =>
    "@" ++ Framework.simpleNameOf Framework.workerModule ++
      " must also be annotated as a Dagger @Module"
  | notIncluded simpleName =>
    "@" ++ Framework.simpleNameOf Framework.workerModule ++ "'s @Module must include " ++
      simpleName
  | severalModules =>
    "Multiple @" ++ Framework.simpleNameOf Framework.workerModule ++ "-annotated modules found."
  | nameTaken name owner existing =>
    "Generated type " ++ name.canonicalName ++ " for " ++ owner.canonicalName ++
      " collides with the one generated for " ++ existing.canonicalName
  | notBound worker module =>
    worker.canonicalName ++ " is not bound in " ++ module.canonicalName ++
      ", which was generated in an earlier round"

end Finding

/-- A finding at a place. -/
structure Report where
  finding : Finding
  location : Location
deriving DecidableEq, Repr

namespace Report

/-- What the host sees of the report. -/
def diagnostic (r : Report) : Diagnostic :=
  ⟨r.finding.severity, r.finding.message, r.location⟩

/-- Whether the report makes the run fail. -/
def isError (r : Report) : Bool :=
  r.finding.severity == .error

theorem isError_diagnostic (r : Report) : r.diagnostic.isError = r.isError :=
  rfl

end Report

end AssistedWorkers
