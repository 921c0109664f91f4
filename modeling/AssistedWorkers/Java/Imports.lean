import AssistedWorkers.Java.ClassName

/-!
# Imports

How the classes of a file are named in it.  Every reference goes through the outermost class of
its nesting chain.  Among the outermost classes that share a simple name at most one may be
written by that name, its *holder*: the declared class if it has the name, or else the class of
the file's own package, or else the first of the others.  All other classes are written fully
qualified.  A holder is imported unless it is visible anyway: the classes of the same package,
of `java.lang` and of the default package are not imported.

* `mem_candidates` — the candidates for a simple name are the outermost referenced classes with it;
* `holder?_mem` — the holder of a simple name is one of its candidates.
-/

namespace AssistedWorkers.Java

/-- The classes a file refers to and the class it declares. -/
structure NameScope where
  package : String
  declared : String
  references : List ClassName
deriving Repr

/-- The first of two class names in their order; the left one if they are the same. -/
def ClassName.earlier (c d : ClassName) : ClassName :=
  if (compare d c).isLT then d else c

namespace NameScope

/-- The class that the file declares. -/
def declaredClass (scope : NameScope) : ClassName :=
  .topLevelIn scope.package scope.declared

/-- The outermost referenced classes that have a simple name. -/
def candidates (scope : NameScope) (simpleName : String) : List ClassName :=
  (scope.references.map ClassName.topLevel).filter (·.outermost == simpleName)

/-- The class that may be written by a simple name, if any. -/
def holder? (scope : NameScope) (simpleName : String) : Option ClassName :=
  if simpleName = scope.declared then
    (scope.candidates simpleName).find? (· == scope.declaredClass)
  else
    match (scope.candidates simpleName).find? (·.package == scope.package) with
    | some own => some own
    | none =>
      match scope.candidates simpleName with
      | [] => none
      | first :: others => some (others.foldl ClassName.earlier first)

/-- Whether a class has to be imported to be written by its simple name. -/
def needsImport (scope : NameScope) (c : ClassName) : Bool :=
  c.package != scope.package && c.package != "java.lang" && !c.package.isEmpty

/-- The classes that are imported, as often as they are referred to.  The declared class shadows
every import of its name. -/
def imported (scope : NameScope) : List ClassName :=
  (scope.references.filterMap fun c =>
      if c.outermost = scope.declared then none else scope.holder? c.outermost).filter
    scope.needsImport

/-- The canonical names of the imported classes, each once and in order. -/
def imports (scope : NameScope) : List String :=
  (scope.imported.map ClassName.canonicalName).eraseDups.mergeSort (fun s t => decide (s ≤ t))

/-- How a class is written in the file. -/
def nameOf (scope : NameScope) (c : ClassName) : String :=
  if scope.holder? c.outermost = some c.topLevel then ".".intercalate c.simpleNames
  else c.canonicalName

theorem mem_candidates {scope : NameScope} {simpleName : String} {c : ClassName} :
    c ∈ scope.candidates simpleName ↔
      (∃ d ∈ scope.references, d.topLevel = c) ∧ c.outermost = simpleName := by
  simp [candidates]

private theorem foldl_earlier_mem (c : ClassName) (cs : List ClassName) :
    cs.foldl ClassName.earlier c ∈ c :: cs := by
  induction cs generalizing c with
  | nil => simp
  | cons d cs ih =>
    have earlier_mem : c.earlier d = c ∨ c.earlier d = d := by
      unfold ClassName.earlier
      split <;> simp
    have h := ih (c.earlier d)
    rw [List.foldl_cons]
    rcases earlier_mem with he | he <;> rw [he] at h ⊢ <;>
      rcases List.mem_cons.1 h with h | h <;> simp [h]

/-- The holder of a simple name is one of the candidates for it. -/
theorem holder?_mem {scope : NameScope} {simpleName : String} {c : ClassName}
    (h : scope.holder? simpleName = some c) : c ∈ scope.candidates simpleName := by
  unfold holder? at h
  split at h
  · exact List.mem_of_find?_eq_some h
  · split at h
    next own hown => exact Option.some.inj h ▸ List.mem_of_find?_eq_some hown
    next =>
      split at h
      next => simp at h
      next first others heq =>
        rw [heq]
        exact Option.some.inj h ▸ foldl_earlier_mem first others

end NameScope

end AssistedWorkers.Java
