import AssistedWorkers.Framework

/-!
# The type hierarchy

The supertypes that all classes of a run were seen with, whatever round they were listed in, and
the supertypes of the framework's own workers.  A class is a subtype of another one when it
reaches it along these.

* `mem_record` — what recording a class adds.
-/

namespace AssistedWorkers

open Java

/-- The known pairs of a class and one of its direct supertypes, each once. -/
structure Hierarchy where
  edges : List (ClassName × ClassName)
deriving DecidableEq, Repr

namespace Hierarchy

/-- What is known before any class is listed. -/
def initial : Hierarchy :=
  ⟨Framework.frameworkWorkers.map fun worker => (worker, Framework.listenableWorker)⟩

/-- Adds a pair unless it is known. -/
def add (h : Hierarchy) (edge : ClassName × ClassName) : Hierarchy :=
  if edge ∈ h.edges then h else ⟨h.edges ++ [edge]⟩

/-- Adds the direct supertypes of a class. -/
def record (h : Hierarchy) (c : ClassName) (supertypes : List ClassName) : Hierarchy :=
  supertypes.foldl (fun h supertype => h.add (c, supertype)) h

/-- The known direct supertypes of a class. -/
def supertypesOf (h : Hierarchy) (c : ClassName) : List ClassName :=
  (h.edges.filter (·.1 == c)).map (·.2)

/-- Whether one of the `pending` classes reaches `goal`, in at most `bound` steps of a search that
goes on from no class twice. -/
def search (h : Hierarchy) (goal : ClassName) :
    (bound : Nat) → (pending visited : List ClassName) → Bool
  | 0, _, _ => false
  | _ + 1, [], _ => false
  | bound + 1, c :: pending, visited =>
    if c = goal then true
    else if c ∈ visited then h.search goal bound pending visited
    else h.search goal bound (h.supertypesOf c ++ pending) (c :: visited)

/-- Whether a class is `base` or reaches it along known supertypes.  Every pair is followed at
most once, so the number of pairs bounds the search. -/
def isSubtype (h : Hierarchy) (c base : ClassName) : Bool :=
  h.search base (h.edges.length + 2) [c] []

theorem mem_add {h : Hierarchy} {edge edge' : ClassName × ClassName} :
    edge' ∈ (h.add edge).edges ↔ edge' ∈ h.edges ∨ edge' = edge := by
  unfold add
  split
  · constructor
    · exact Or.inl
    · rintro (h | rfl) <;> assumption
  · simp

/-- Recording a class adds its supertypes and nothing else. -/
theorem mem_record {h : Hierarchy} {c : ClassName} {supertypes : List ClassName}
    {edge : ClassName × ClassName} :
    edge ∈ (h.record c supertypes).edges ↔
      edge ∈ h.edges ∨ edge.1 = c ∧ edge.2 ∈ supertypes := by
  unfold record
  induction supertypes generalizing h with
  | nil => simp
  | cons s ss ih =>
    rw [List.foldl_cons, ih, mem_add, or_assoc]
    obtain ⟨d, t⟩ := edge
    simp only [Prod.mk.injEq, List.mem_cons]
    grind

end Hierarchy

end AssistedWorkers
