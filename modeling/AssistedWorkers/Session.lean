import AssistedWorkers.BindingModule.Source
import AssistedWorkers.Event
import AssistedWorkers.Options
import AssistedWorkers.RoundReader
import AssistedWorkers.Worker.Factory

/-!
# Sessions

A session takes the rounds of a run one after the other.  In each round it first learns the
supertypes of all listed classes.  Then it goes through the injected classes, generating the
factory of each new worker, and at last through the modules, generating the binding module as
soon as there is a valid one and no other.

A step of a session, be it over one class, one module or a whole round, gives the next state and
what came out of it.  Outcomes of steps that follow each other are joined end to end.

* `foldSteps_append` — going through two lists in turn is going through them joined;
* `processRounds_append` — a run may be cut between any two rounds.
-/

namespace AssistedWorkers

open Java

/-- Totals over the rounds of a run. -/
structure Summary where
  rounds : Nat
  workers : Nat
  modules : Nat
  files : Nat
  errors : Nat
  warnings : Nat
deriving DecidableEq, Repr

namespace Summary

/-- The totals before the first round. -/
def zero : Summary :=
  ⟨0, 0, 0, 0, 0, 0⟩

/-- Whether the run has not failed. -/
def isSuccess (s : Summary) : Bool :=
  s.errors == 0

end Summary

/-- What comes out of a step: generated files, reports and logged events. -/
structure Outcome where
  files : List SourceFile
  reports : List Report
  events : List Event
deriving Repr

namespace Outcome

/-- Nothing came out. -/
def empty : Outcome :=
  ⟨[], [], []⟩

/-- One outcome after another one. -/
def append (a b : Outcome) : Outcome :=
  ⟨a.files ++ b.files, a.reports ++ b.reports, a.events ++ b.events⟩

instance : Append Outcome := ⟨append⟩

theorem append_def (a b : Outcome) :
    a ++ b = ⟨a.files ++ b.files, a.reports ++ b.reports, a.events ++ b.events⟩ :=
  rfl

theorem append_assoc (a b c : Outcome) : a ++ b ++ c = a ++ (b ++ c) := by
  simp [append_def]

theorem empty_append (a : Outcome) : empty ++ a = a := rfl

theorem append_empty (a : Outcome) : a ++ empty = a := by
  simp [append_def, empty]

/-- Whether an error was reported. -/
def hasErrors (o : Outcome) : Bool :=
  o.reports.any Report.isError

/-- The generated file that declares a class, by its canonical name. -/
def file? (o : Outcome) (canonicalName : String) : Option SourceFile :=
  o.files.find? (·.className.canonicalName == canonicalName)

/-- The events of a host that has all diagnostics logged. -/
def diagnosticEvents (o : Outcome) : List Event :=
  o.reports.map fun r => .diagnostic r.diagnostic

end Outcome

/-- The state of a run. -/
structure Session where
  options : Options
  /-- The marker of generated classes, if one is asked for. -/
  marker : Option AnnotationUse
  hierarchy : Hierarchy
  /-- The workers so far, in the order in which they were accepted. -/
  workers : List Worker
  /-- The names of the generated classes, each with the class it was generated for. -/
  generated : List (ClassName × ClassName)
  census : ModuleCensus
  /-- The module whose binding module was generated. -/
  emitted : Option BindingModule
  summary : Summary
deriving Repr

/-- What becomes of a name that a class is to be generated under. -/
inductive Claim where
  /-- The name is free. -/
  | granted
  /-- The name belongs to the same owner already, so there is nothing to generate. -/
  | repeated
  /-- The name belongs to another owner. -/
  | taken (existing : ClassName)
deriving DecidableEq, Repr

/-- Goes through a list step by step and joins the outcomes. -/
def foldSteps {α : Type} (step : Session → α → Session × Outcome) :
    Session → List α → Session × Outcome
  | s, [] => (s, .empty)
  | s, a :: as =>
    let next := step s a
    let last := foldSteps step next.1 as
    (last.1, next.2 ++ last.2)

/-- Going through two lists in turn is going through them joined. -/
theorem foldSteps_append {α : Type} (step : Session → α → Session × Outcome) (s : Session)
    (as bs : List α) :
    foldSteps step s (as ++ bs) =
      ((foldSteps step (foldSteps step s as).1 bs).1,
        (foldSteps step s as).2 ++ (foldSteps step (foldSteps step s as).1 bs).2) := by
  induction as generalizing s with
  | nil => simp [foldSteps, Outcome.empty_append]
  | cons a as ih => simp [foldSteps, ih, Outcome.append_assoc]

namespace Session

/-- A run with the given options and marker, before its first round. -/
def start (options : Options) (marker : Option AnnotationUse) : Session :=
  ⟨options, marker, .initial, [], [], .empty, none, .zero⟩

/-- A run with the given options, unless they ask for a marker that is no class. -/
def new (options : Options) : Except OptionsFault Session :=
  options.marker.map (start options)

/-- A run with the options that hold when nothing is said. -/
def default : Session :=
  start .default none

/-- Forgets all rounds but keeps the options. -/
def reset (s : Session) : Session :=
  start s.options s.marker

/-- How the nesting of classes is written in generated names. -/
def style (s : Session) : NestingStyle :=
  s.options.nestingStyle

/-- What becomes of a name that is claimed for an owner. -/
def claim (s : Session) (name owner : ClassName) : Claim :=
  match s.generated.lookup name with
  | none => .granted
  | some existing => if existing = owner then .repeated else .taken existing

/-- The report that a name is taken. -/
def takenReport (name owner existing : ClassName) (location : Location) : Report :=
  ⟨.nameTaken name owner existing, location⟩

/-- Learns the supertypes of a class. -/
def learn (s : Session) (c : ListedClass) : Session :=
  { s with hierarchy := s.hierarchy.record c.name c.supertypes }

/-- The report that a worker came too late for the binding module. -/
def lateReports (s : Session) (w : Worker) : List Report :=
  match s.emitted with
  | none => []
  | some m => [⟨.notBound w.owner m.generatedName, w.location⟩]

/-- Generates the factory of a worker unless its name is claimed already. -/
def admitWorker (s : Session) (w : Worker) : Session × Outcome :=
  let name := s.style.factoryName w.owner
  let accepted := Event.worker w.owner w.parameters.length
  match s.claim name w.owner with
  | .repeated => (s, ⟨[], [], [accepted]⟩)
  | .taken existing => (s, ⟨[], [takenReport name w.owner existing w.location], [accepted]⟩)
  | .granted =>
    ({ s with generated := s.generated ++ [(name, w.owner)], workers := s.workers ++ [w] },
      ⟨[w.factory s.style s.marker], s.lateReports w, [accepted, .factory name w.owner]⟩)

/-- Goes over an injected class: reports what is wrong with it, or admits it as a worker. -/
def admitClass (s : Session) (c : ListedClass) : Session × Outcome :=
  let checked : Outcome := ⟨[], c.reports s.hierarchy, []⟩
  match c.worker? s.hierarchy with
  | none => (s, checked)
  | some w => ((s.admitWorker w).1, checked ++ (s.admitWorker w).2)

/-- Generates the binding module of a module unless there is one already, the module is not
alone, or its name is claimed. -/
def emitModule (s : Session) (m : BindingModule) (location : Location) : Session × Outcome :=
  if !s.census.isSole || s.emitted.isSome then (s, .empty)
  else
    match s.claim m.generatedName m.owner with
    | .repeated => (s, .empty)
    | .taken existing => (s, ⟨[], [takenReport m.generatedName m.owner existing location], []⟩)
    | .granted =>
      ({ s with generated := s.generated ++ [(m.generatedName, m.owner)], emitted := some m },
        ⟨[m.source s.style s.marker s.workers], [],
          [.module m.generatedName m.owner s.workers.length]⟩)

/-- Goes over a module: reports what is wrong with it, or generates its binding module. -/
def admitModule (s : Session) (m : ListedModule) : Session × Outcome :=
  match m.bindingModule s.style s.options.publicModule with
  | .error finding => (s, ⟨[], [⟨finding, m.location⟩], []⟩)
  | .ok b => s.emitModule b m.location

/-- Counts the modules of a round. -/
def countModules (s : Session) (modules : List ListedModule) : Session × Outcome :=
  let (census, reports) := s.census.record modules
  ({ s with census }, ⟨[], reports, []⟩)

/-- Goes over the declarations of a round, without the totals. -/
def admitRound (s : Session) (r : Round) : Session × Outcome :=
  let learned := r.classes.foldl learn s
  let (admitted, classes) := foldSteps admitClass learned (r.classes.filter (·.isInjected))
  let (counted, counts) := admitted.countModules r.modules
  let (last, modules) := foldSteps admitModule counted r.modules
  (last, classes ++ counts ++ modules)

/-- The totals after a round. -/
def totals (s : Session) (o : Outcome) : Summary where
  rounds := s.summary.rounds
  workers := s.workers.length
  modules := s.census.seen.length
  files := s.summary.files + o.files.length
  errors := s.summary.errors + o.reports.countP Report.isError
  warnings := s.summary.warnings + o.reports.countP (!·.isError)

/-- Takes a round. -/
def processRound (s : Session) (r : Round) : Session × Outcome :=
  let begun := { s with summary.rounds := s.summary.rounds + 1 }
  let started : Outcome :=
    ⟨[], [], [.round begun.summary.rounds r.classes.length r.modules.length]⟩
  let (last, outcome) := begun.admitRound r
  ({ last with summary := last.totals outcome }, started ++ outcome)

/-- Takes rounds one after the other, with the outcome of each. -/
def processRounds : Session → List Round → Session × List Outcome
  | s, [] => (s, [])
  | s, r :: rs =>
    let next := s.processRound r
    let last := next.1.processRounds rs
    (last.1, next.2 :: last.2)

/-- A run that goes on takes its later rounds from where the earlier ones left it. -/
theorem processRounds_append (s : Session) (rs ts : List Round) :
    s.processRounds (rs ++ ts) =
      (((s.processRounds rs).1.processRounds ts).1,
        (s.processRounds rs).2 ++ ((s.processRounds rs).1.processRounds ts).2) := by
  induction rs generalizing s with
  | nil => simp [processRounds]
  | cons r rs ih => simp [processRounds, ih]

end Session

/-- Why a text is not taken as a round. -/
inductive InputFault where
  | unreadable (fault : Json.Fault)
  | invalid (fault : RoundFault)
deriving DecidableEq, Repr

/-- The message for a text that is not taken as a round. -/
def InputFault.message : InputFault → String
  | unreadable fault => "malformed round description: " ++ fault.message
  | invalid fault => fault.message

namespace Round

/-- Reads the round that a JSON text describes. -/
def read (text : String) : Except InputFault Round :=
  match RoundDescription.codec.decode text with
  | .error fault => .error (.unreadable fault)
  | .ok description => description.check.mapError .invalid

end Round

namespace Session

/-- Takes the round that a JSON text describes.  A text that describes none changes nothing. -/
def processText (s : Session) (text : String) : Except InputFault (Session × Outcome) :=
  (Round.read text).map s.processRound

end Session

end AssistedWorkers
