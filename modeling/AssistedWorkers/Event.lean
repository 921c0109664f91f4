import AssistedWorkers.Report

/-!
# Events

What a run logs: rounds, accepted workers, generated classes, and the diagnostics that a host has
logged.  An event has a name, a level and fields with texts as values.
-/

namespace AssistedWorkers

open Java

/-- The level of an event. -/
inductive Level where
  | debug
  | info
  | warn
  | error
deriving DecidableEq, Repr

namespace Level

/-- The word for a level. -/
def display : Level → String
  | debug => "DEBUG"
  | info => "INFO"
  | warn => "WARN"
  | error => "ERROR"

end Level

/-- Something that is logged. -/
inductive Event where
  /-- A round starts, with so many classes and modules. -/
  | round (number classes modules : Nat)
  /-- A worker was accepted, with so many parameters. -/
  | worker (owner : ClassName) (parameters : Nat)
  | factory (name owner : ClassName)
  /-- A binding module was generated, with so many bindings. -/
  | module (name owner : ClassName) (bindings : Nat)
  | diagnostic (d : Diagnostic)
deriving DecidableEq, Repr

namespace Event

/-- The name of an event. -/
def name : Event → String
  | round .. => "work_inject.round"
  | worker .. => "work_inject.target"
  | factory .. => "work_inject.factory"
  | module .. => "work_inject.module"
  | diagnostic _ => "work_inject.diagnostic"

/-- The level of an event. -/
def level : Event → Level
  | round .. => .debug
  | worker .. => .debug
  | factory .. => .info
  | module .. => .info
  | diagnostic d =>
    match d.severity with
    | .error => .error
    | .warning => .warn

/-- The fields of an event, in the order in which they are logged. -/
def fields : Event → List (String × String)
  | round number classes modules =>
    [("round", toString number), ("classes", toString classes), ("modules", toString modules)]
  | worker owner parameters =>
    [("owner", owner.canonicalName), ("parameters", toString parameters)]
  | factory name owner => [("factory", name.canonicalName), ("owner", owner.canonicalName)]
  | module name owner bindings =>
    [("module", name.canonicalName), ("owner", owner.canonicalName),
      ("bindings", toString bindings)]
  | diagnostic d => [("location", d.location.display), ("message", d.message)]

end Event

end AssistedWorkers
