import AssistedWorkers.Proofs.Growth
import Mathlib.Data.List.Infix

/-!
# What a host reads

A host is not told what was found.  It gets a severity, a text and a place, and tells one report
from another by what the text says.  Two kinds of reports can be told in this way from all others,
whatever names and types the others quote: the warning that a worker is not bound, which is the
only warning with these words in it, and the error that there are several modules, which is the
only error with this text.

* `Report.saysNotBound_diagnostic`, `Report.saysSeveralModules_diagnostic` — the two kinds are
  recognised by their texts;
* `Report.diagnostic_notBound`, `Report.diagnostic_severalModules` — severity and text of each;
* `filter_saysNotBound`, `filter_saysSeveralModules` — what a host reads of either kind.
-/

namespace AssistedWorkers

open Java

namespace Diagnostic

/-- The warning that a worker is not bound in the binding module of an earlier round. -/
def notBound (worker module : ClassName) (location : Location) : Diagnostic where
  severity := .warning
  message := worker.canonicalName ++ " is not bound in " ++ module.canonicalName ++
    ", which was generated in an earlier round"
  location := location

/-- The error that the module declared at a place is not alone. -/
def severalModules (location : Location) : Diagnostic where
  severity := .error
  message := "Multiple @WorkerModule-annotated modules found."
  location := location

/-- Whether a host reads that something is not bound: a warning with these words in it. -/
def saysNotBound (d : Diagnostic) : Bool :=
  d.severity = .warning ∧ " is not bound in ".toList <:+: d.message.toList

/-- Whether a host reads that there are several modules: an error with this text. -/
def saysSeveralModules (d : Diagnostic) : Bool :=
  d.severity = .error ∧ d.message = "Multiple @WorkerModule-annotated modules found."

end Diagnostic

/-! ### Texts -/

/-- What a text starts with is what its first part starts with. -/
theorem head?_toList_append {first : String} {c : Char} (h : first.toList.head? = some c)
    (rest : String) : (first ++ rest).toList.head? = some c := by
  rw [String.toList_append, List.head?_append, h, Option.some_or]

namespace Finding

/-- The text for several modules, put together from the name of the annotation. -/
theorem message_severalModules :
    severalModules.message = "Multiple @WorkerModule-annotated modules found." := by
  decide +kernel

/-- Every other error has another text.  Those that quote names start with another letter. -/
theorem eq_severalModules_of_message {f : Finding} (hseverity : f.severity = .error)
    (h : f.message = "Multiple @WorkerModule-annotated modules found.") :
    f = .severalModules := by
  have hfirst : f.message.toList.head? = some 'M' := by
    rw [h]
    decide +kernel
  cases f with
  | severalModules => rfl
  | wrongCallerParameters found expected =>
    have hother : (wrongCallerParameters found expected).message.toList.head? = some 'W' := by
      iterate 6 apply head?_toList_append
      decide +kernel
    simp [hother] at hfirst
  | notIncluded simpleName =>
    have hother : (notIncluded simpleName).message.toList.head? = some '@' := by
      iterate 3 apply head?_toList_append
      decide +kernel
    simp [hother] at hfirst
  | nameTaken name owner existing =>
    have hother : (nameTaken name owner existing).message.toList.head? = some 'G' := by
      iterate 5 apply head?_toList_append
      decide +kernel
    simp [hother] at hfirst
  | nothingInjected => exact absurd hseverity (by decide)
  | notBound worker module => exact absurd hseverity (by simp [severity])
  | severalConstructors | privateConstructor | privateType | notStatic | notAWorker
  | noDaggerModule => exact absurd h (by decide +kernel)

/-- The only other warning does not say that something is not bound. -/
theorem not_bound_infix_iff {f : Finding} (hseverity : f.severity = .warning) :
    " is not bound in ".toList <:+: f.message.toList ↔
      ∃ worker module, f = .notBound worker module := by
  cases f with
  | nothingInjected =>
    have hother : ¬ " is not bound in ".toList <:+: nothingInjected.message.toList := by
      decide +kernel
    exact iff_of_false hother (by simp)
  | notBound worker module =>
    have htext : (notBound worker module).message.toList =
        worker.canonicalName.toList ++ " is not bound in ".toList ++
          (module.canonicalName.toList ++ ", which was generated in an earlier round".toList) := by
      change (worker.canonicalName ++ " is not bound in " ++ module.canonicalName ++
        ", which was generated in an earlier round").toList = _
      rw [String.toList_append, String.toList_append, String.toList_append,
        List.append_assoc (_ ++ _)]
    rw [htext]
    exact iff_of_true (List.infix_append _ _ _) ⟨worker, module, rfl⟩
  | _ => simp [severity] at hseverity

end Finding

namespace Report

/-- What a host reads of a worker that came too late. -/
theorem diagnostic_notBound (worker module : ClassName) (location : Location) :
    (⟨.notBound worker module, location⟩ : Report).diagnostic =
      .notBound worker module location :=
  rfl

/-- What a host reads of a module that is not alone. -/
theorem diagnostic_severalModules (location : Location) :
    (⟨.severalModules, location⟩ : Report).diagnostic = .severalModules location := by
  rw [diagnostic, Finding.message_severalModules]
  rfl

/-- The warnings that say that something is not bound are those about late workers. -/
theorem saysNotBound_diagnostic (r : Report) : r.diagnostic.saysNotBound = r.isNotBound := by
  rw [Bool.eq_iff_iff, Diagnostic.saysNotBound, decide_eq_true_iff]
  constructor
  · rintro ⟨hseverity, htext⟩
    obtain ⟨worker, module, hfinding⟩ := (Finding.not_bound_infix_iff hseverity).1 htext
    rw [isNotBound, hfinding]
  · intro h
    obtain ⟨worker, module, hfinding⟩ : ∃ worker module, r.finding = .notBound worker module := by
      unfold isNotBound at h
      split at h
      · exact ⟨_, _, ‹_›⟩
      · simp at h
    have hseverity : r.finding.severity = .warning := by rw [hfinding]; rfl
    exact ⟨hseverity, (Finding.not_bound_infix_iff hseverity).2 ⟨worker, module, hfinding⟩⟩

/-- The errors with the text for several modules are those about modules that are not alone. -/
theorem saysSeveralModules_diagnostic (r : Report) :
    r.diagnostic.saysSeveralModules = r.isSeveralModules := by
  rw [Bool.eq_iff_iff, Diagnostic.saysSeveralModules, decide_eq_true_iff, isSeveralModules,
    beq_iff_eq]
  constructor
  · rintro ⟨hseverity, htext⟩
    exact Finding.eq_severalModules_of_message hseverity htext
  · intro h
    rw [diagnostic, h]
    exact ⟨rfl, Finding.message_severalModules⟩

end Report

/-! ### Diagnostics of rounds and runs -/

/-- What a host reads of an outcome. -/
def Outcome.diagnostics (o : Outcome) : List Diagnostic :=
  o.reports.map Report.diagnostic

/-- What a host reads of some rounds, in the order in which it comes out. -/
def Session.diagnosticsOf (s : Session) (rounds : List Round) : List Diagnostic :=
  (s.processRounds rounds).2.flatMap Outcome.diagnostics

/-- A host reads of a run what was reported in it. -/
theorem Session.diagnosticsOf_eq (s : Session) (rounds : List Round) :
    s.diagnosticsOf rounds = (s.reportsOf rounds).map Report.diagnostic := by
  rw [diagnosticsOf, reportsOf, List.map_flatMap]
  rfl

/-- To pick diagnostics by what a host reads is to pick the reports that they were made from. -/
theorem filter_map_diagnostic {p : Diagnostic → Bool} {q : Report → Bool}
    (h : ∀ r : Report, p r.diagnostic = q r) (reports : List Report) :
    (reports.map Report.diagnostic).filter p = (reports.filter q).map Report.diagnostic := by
  rw [List.filter_map]
  exact congrArg _ (List.filter_congr fun r _ => h r)

/-- What a host reads of late workers is what was reported of them. -/
theorem filter_saysNotBound (reports : List Report) :
    (reports.map Report.diagnostic).filter (·.saysNotBound) =
      (reports.filter (·.isNotBound)).map Report.diagnostic :=
  filter_map_diagnostic Report.saysNotBound_diagnostic reports

/-- What a host reads of several modules is what was reported of them. -/
theorem filter_saysSeveralModules (reports : List Report) :
    (reports.map Report.diagnostic).filter (·.saysSeveralModules) =
      (reports.filter (·.isSeveralModules)).map Report.diagnostic :=
  filter_map_diagnostic Report.saysSeveralModules_diagnostic reports

end AssistedWorkers
