import AssistedWorkers.Proofs.CanonicalForm
import AssistedWorkers.Proofs.Spelling
import Mathlib.Data.List.Nodup

/-!
# How written names are resolved

A compiler resolves a name in a source file by its first segment.  The class that the file
declares comes first, then the imports, then the classes of the file's own package and those of
`java.lang`; what follows are nested classes.  A first segment that is none of these starts a
package, and then the name is canonical.

A file names its classes by rules of its own: one class holds each simple name, and the others
are qualified.  The two agree as long as no package starts with a segment that is a simple name
in the file, and classes of the default package are referred to in that package only.

* `mem_imports_iff` — the imports are the holders that have to be imported;
* `outermostNamed?_of_holder?` — a holder is found by its simple name;
* `outermostNamed?_of_package` — a qualified name is taken for canonical;
* `written_names_resolve` — every class that is referred to is found by the name that is written
  for it, and no import stands in the way of another one or of the file's own class.
-/

namespace AssistedWorkers.Java

/-! ### Dotted names -/

/-- What stands between the dots of a name. -/
def dotted (name : String) : List String :=
  (name.toList.splitOn '.').map String.ofList

/-- The simple name that a dotted name ends in. -/
def lastSegment (name : String) : String :=
  (dotted name).getLastD ""

/-- What stands before the last dot of a name; nothing if there is no dot. -/
def qualifierOf (name : String) : String :=
  ".".intercalate (dotted name).dropLast

/-- Two dotted names with a dot between them have the segments of both. -/
theorem dotted_append_dot (front back : String) :
    dotted (front ++ "." ++ back) = dotted front ++ dotted back := by
  rw [dotted, String.toList_append, String.toList_append, List.append_assoc]
  exact (congrArg _ (List.splitOn_append_cons_self ..)).trans List.map_append

/-- Names without dots are found again in their join. -/
theorem dotted_intercalate {names : List String} (hne : names ≠ [])
    (h : ∀ name ∈ names, '.' ∉ name.toList) : dotted (".".intercalate names) = names := by
  have hsplit : (".".toList.intercalate (names.map String.toList)).splitOn '.' =
      names.map String.toList := by
    refine List.splitOn_intercalate '.' (fun text htext => ?_) (by simpa using hne)
    obtain ⟨name, hname, rfl⟩ := List.mem_map.1 htext
    exact h name hname
  rw [dotted, String.toList_intercalate, hsplit, List.map_map]
  simp [Function.comp_def]

namespace ClassName

/-- The segments of a canonical name are the names of the class. -/
theorem dotted_canonicalName {c : ClassName} (h : ∀ name ∈ c.simpleNames, '.' ∉ name.toList) :
    dotted c.canonicalName = c.names := by
  rw [canonicalName, qualifiedWith, names, packageSegments]
  by_cases hpackage : c.package = ""
  · simp [hpackage, dotted_intercalate c.simpleNames_ne_nil h]
  · rw [if_neg (by simpa using hpackage), if_neg hpackage, dotted_append_dot,
      dotted_intercalate c.simpleNames_ne_nil h]
    rfl

section

variable {c : ClassName} (hinner : c.inner = []) (hdot : '.' ∉ c.outermost.toList)
include hinner hdot

/-- The last segment of the full name is the simple name. -/
theorem lastSegment_canonicalName : lastSegment c.canonicalName = c.outermost := by
  have h : ∀ name ∈ c.simpleNames, '.' ∉ name.toList := by simpa [simpleNames, hinner] using hdot
  rw [lastSegment, dotted_canonicalName h, names, simpleNames, hinner]
  simp

/-- The segments before the last one are the package. -/
theorem qualifierOf_canonicalName : qualifierOf c.canonicalName = c.package := by
  have h : ∀ name ∈ c.simpleNames, '.' ∉ name.toList := by simpa [simpleNames, hinner] using hdot
  rw [qualifierOf, dotted_canonicalName h, names, simpleNames, hinner, List.dropLast_concat,
    intercalate_packageSegments]

end

/-- The canonical name of a nested class continues that of its outermost class. -/
theorem canonicalName_eq_topLevel (c : ClassName) :
    c.canonicalName = ".".intercalate (c.topLevel.canonicalName :: c.inner) := by
  have htop : ".".intercalate c.topLevel.simpleNames = c.outermost := by simp
  rw [canonicalName, canonicalName, qualifiedWith, qualifiedWith, htop]
  change (if c.package.isEmpty then _ else _) =
    ".".intercalate ((if c.package.isEmpty then c.outermost else _) :: c.inner)
  split
  · rfl
  · exact String.intercalate_cons_append.symm

end ClassName

namespace NameScope

/-! ### The rules of a compiler -/

/-- The class that is not nested and has a given name in a package, if the file refers to it or
into it. -/
def referenced? (scope : NameScope) (package name : String) : Option ClassName :=
  if scope.references.any (·.topLevel = .topLevelIn package name) then
    some (.topLevelIn package name)
  else none

/-- The canonical name of the class that the first segment of a written name stands for, if it is
a class and not the start of a package. -/
def outermostNamed? (scope : NameScope) (name : String) : Option String :=
  if name = scope.declared then some scope.declaredClass.canonicalName
  else
    (scope.imports.find? (lastSegment · = name)).or
      (((scope.referenced? scope.package name).or
        (scope.referenced? "java.lang" name)).map ClassName.canonicalName)

/-- The canonical name of the class that a written name denotes in a file. -/
def denoted (scope : NameScope) (written : String) : String :=
  match dotted written with
  | [] => written
  | first :: inner =>
    match scope.outermostNamed? first with
    | some outermost => ".".intercalate (outermost :: inner)
    | none => written

/-- What is asked of the references of a file: their simple names have no dots, classes of the
default package are referred to in that package only, and no package starts with the name of the
declared class or of a class that is referred to. -/
structure Resolvable (scope : NameScope) : Prop where
  names : ∀ c ∈ scope.references, ∀ name ∈ c.simpleNames, '.' ∉ name.toList
  placed : ∀ c ∈ scope.references, c.package ≠ "" ∨ c.package = scope.package
  unobscured : ∀ c ∈ scope.references, ∀ segment ∈ (packageSegments c.package).head?,
    segment ≠ scope.declared ∧ ∀ d ∈ scope.references, segment ≠ d.outermost

/-! ### Imports -/

/-- Classes of the own package, of `java.lang` and of the default package are not imported. -/
theorem needsImport_iff {scope : NameScope} {c : ClassName} :
    scope.needsImport c = true ↔
      c.package ≠ scope.package ∧ c.package ≠ "java.lang" ∧ c.package ≠ "" := by
  simp [needsImport, and_assoc]

/-- The holder of a simple name has that name, and is the outermost class of a reference. -/
theorem inner_of_holder? {scope : NameScope} {name : String} {c : ClassName}
    (h : scope.holder? name = some c) :
    c.inner = [] ∧ c.outermost = name ∧ ∃ d ∈ scope.references, d.topLevel = c := by
  obtain ⟨⟨d, hd, rfl⟩, hname⟩ := mem_candidates.1 (holder?_mem h)
  exact ⟨rfl, hname, d, hd, rfl⟩

/-- The imports are the holders of simple names that have to be imported. -/
theorem mem_imports_iff {scope : NameScope} {name : String} :
    name ∈ scope.imports ↔ ∃ c, scope.holder? c.outermost = some c ∧
      c.outermost ≠ scope.declared ∧ scope.needsImport c = true ∧ c.canonicalName = name := by
  rw [imports, List.mem_mergeSort, List.mem_eraseDups, List.mem_map]
  simp only [imported, List.mem_filter, List.mem_filterMap]
  constructor
  · rintro ⟨c, ⟨⟨d, -, hd⟩, hneeds⟩, rfl⟩
    split at hd
    · simp at hd
    · rename_i hfree
      obtain ⟨-, hname, -⟩ := inner_of_holder? hd
      exact ⟨c, by rwa [hname], by rwa [hname], hneeds, rfl⟩
  · rintro ⟨c, hholder, hfree, hneeds, rfl⟩
    obtain ⟨-, -, d, hd, hdc⟩ := inner_of_holder? hholder
    have hname : d.outermost = c.outermost := by rw [← hdc]; rfl
    exact ⟨c, ⟨⟨d, hd, by rw [hname, if_neg hfree, hholder]⟩, hneeds⟩, rfl⟩

theorem nodup_eraseDups {α : Type} [BEq α] [LawfulBEq α] : ∀ as : List α, as.eraseDups.Nodup
  | [] => List.nodup_nil
  | a :: as => by
    rw [List.eraseDups_cons, List.nodup_cons]
    exact ⟨by simp [List.mem_eraseDups], nodup_eraseDups _⟩
termination_by as => as.length
decreasing_by exact Nat.lt_succ_of_le (List.length_filter_le _ _)

/-- No class is imported twice. -/
theorem imports_nodup (scope : NameScope) : scope.imports.Nodup :=
  (List.mergeSort_perm _ _).nodup_iff.2 (nodup_eraseDups _)

namespace Resolvable

variable {scope : NameScope} (h : scope.Resolvable)
include h

theorem dot_not_mem {c : ClassName} (hc : c ∈ scope.references) : '.' ∉ c.outermost.toList :=
  h.names c hc _ List.mem_cons_self

/-- An import ends in the simple name of the class that is imported. -/
theorem lastSegment_of_holder? {c : ClassName} (hc : scope.holder? c.outermost = some c) :
    lastSegment c.canonicalName = c.outermost ∧ qualifierOf c.canonicalName = c.package := by
  obtain ⟨hinner, -, d, hd, rfl⟩ := inner_of_holder? hc
  have hdot : '.' ∉ d.topLevel.outermost.toList := h.dot_not_mem (c := d) hd
  exact ⟨ClassName.lastSegment_canonicalName hinner hdot,
    ClassName.qualifierOf_canonicalName hinner hdot⟩

/-- The import that ends in a simple name is that of the holder of the name. -/
theorem holder?_of_mem_imports {name : String} (hname : name ∈ scope.imports) :
    ∃ c, scope.holder? (lastSegment name) = some c ∧ scope.needsImport c = true ∧
      c.canonicalName = name := by
  obtain ⟨c, hholder, -, hneeds, rfl⟩ := mem_imports_iff.1 hname
  exact ⟨c, by rw [(h.lastSegment_of_holder? hholder).1, hholder], hneeds, rfl⟩

/-- No two imports end in the same simple name. -/
theorem lastSegments_nodup : (scope.imports.map lastSegment).Nodup := by
  refine List.Nodup.map_on (fun name hname other hother heq => ?_) scope.imports_nodup
  obtain ⟨c, hc, -, rfl⟩ := h.holder?_of_mem_imports hname
  obtain ⟨d, hd, -, rfl⟩ := h.holder?_of_mem_imports hother
  rw [heq, hd] at hc
  rw [Option.some.inj hc]

/-- An import ends in another name than that of the declared class, and leads to a package that
has to be imported from. -/
theorem of_mem_imports {name : String} (hname : name ∈ scope.imports) :
    lastSegment name ≠ scope.declared ∧ qualifierOf name ≠ scope.package ∧
      qualifierOf name ≠ "java.lang" ∧ qualifierOf name ≠ "" := by
  obtain ⟨c, hholder, hfree, hneeds, rfl⟩ := mem_imports_iff.1 hname
  obtain ⟨hlast, hqualifier⟩ := h.lastSegment_of_holder? hholder
  rw [hlast, hqualifier]
  exact ⟨hfree, needsImport_iff.1 hneeds⟩

/-! ### Finding classes by their names -/

omit h in
/-- A class that is referred to is found by package and simple name. -/
theorem referenced?_of_mem {c : ClassName} (hc : c ∈ scope.references) :
    scope.referenced? c.package c.outermost = some c.topLevel := by
  have hany : scope.references.any
      (·.topLevel = .topLevelIn c.package c.outermost) = true :=
    List.any_eq_true.2 ⟨c, hc, decide_eq_true rfl⟩
  rw [referenced?, if_pos hany]
  rfl

omit h in
/-- When a class of another package holds a name, no class of the file's own package has it. -/
theorem referenced?_eq_none {c : ClassName}
    (hholder : scope.holder? c.outermost = some c.topLevel) (hfree : c.outermost ≠ scope.declared)
    (hpackage : c.package ≠ scope.package) :
    scope.referenced? scope.package c.outermost = none := by
  rw [referenced?, if_neg]
  intro hany
  obtain ⟨d, hd, heq⟩ := List.any_eq_true.1 hany
  obtain ⟨hown, hname, -⟩ := ClassName.mk.inj (of_decide_eq_true heq)
  have hother := holder?_of_own hd hown (hname ▸ hfree)
  rw [hname, hholder] at hother
  exact hpackage ((congrArg ClassName.package (Option.some.inj hother)).trans hown)

/-- A holder is found by its simple name. -/
theorem outermostNamed?_of_holder? {c : ClassName} (hc : c ∈ scope.references)
    (hholder : scope.holder? c.outermost = some c.topLevel) :
    scope.outermostNamed? c.outermost = some c.topLevel.canonicalName := by
  by_cases hfree : c.outermost = scope.declared
  · have hdeclared : c.topLevel = scope.declaredClass := by
      rw [holder?, if_pos hfree] at hholder
      simpa using List.find?_some hholder
    rw [outermostNamed?, if_pos hfree, hdeclared]
  have himport : ∀ name ∈ scope.imports, lastSegment name = c.outermost →
      scope.needsImport c.topLevel = true ∧ name = c.topLevel.canonicalName := by
    intro name hname hlast
    obtain ⟨d, hd, hneeds, rfl⟩ := h.holder?_of_mem_imports hname
    rw [hlast, hholder] at hd
    obtain rfl := Option.some.inj hd
    exact ⟨hneeds, rfl⟩
  by_cases hneeds : scope.needsImport c.topLevel = true
  · have hmem : c.topLevel.canonicalName ∈ scope.imports :=
      mem_imports_iff.2 ⟨c.topLevel, hholder, hfree, hneeds, rfl⟩
    have hlast := (h.lastSegment_of_holder? (c := c.topLevel) hholder).1
    obtain ⟨found, hfound⟩ : ∃ found, scope.imports.find? (lastSegment · = c.outermost) =
        some found :=
      Option.isSome_iff_exists.1 (List.find?_isSome.2 ⟨_, hmem, decide_eq_true hlast⟩)
    have heq := (himport found (List.mem_of_find?_eq_some hfound)
      (of_decide_eq_true (List.find?_some hfound :))).2
    rw [outermostNamed?, if_neg hfree, hfound, heq]
    rfl
  · have hnone : scope.imports.find? (lastSegment · = c.outermost) = none :=
      List.find?_eq_none.2 fun name hname hlast =>
        hneeds (himport name hname (of_decide_eq_true hlast)).1
    -- What needs no import is in the file's own package or in `java.lang`.
    have hplaced : c.package = scope.package ∨ c.package = "java.lang" := by
      have hdefault : c.package = "" → c.package = scope.package :=
        fun hempty => (h.placed c hc).resolve_left (not_not_intro hempty)
      have hvisible : ¬ (c.package ≠ scope.package ∧ c.package ≠ "java.lang" ∧ c.package ≠ "") :=
        fun hforeign => hneeds (needsImport_iff.2 hforeign)
      grind
    rw [outermostNamed?, if_neg hfree, hnone, Option.none_or]
    by_cases hown : c.package = scope.package
    · rw [← hown, referenced?_of_mem hc]
      rfl
    · have hlang := hplaced.resolve_left hown
      rw [referenced?_eq_none hholder hfree hown, ← hlang, referenced?_of_mem hc]
      rfl

/-- A first segment of a package is not taken for a class. -/
theorem outermostNamed?_of_package {c : ClassName} (hc : c ∈ scope.references)
    {segment : String} (hsegment : segment ∈ (packageSegments c.package).head?) :
    scope.outermostNamed? segment = none := by
  obtain ⟨hfree, hother⟩ := h.unobscured c hc segment hsegment
  have himports : scope.imports.find? (lastSegment · = segment) = none := by
    refine List.find?_eq_none.2 fun name hname => ?_
    obtain ⟨d, hholder, -⟩ := h.holder?_of_mem_imports hname
    obtain ⟨-, hlast, e, he, hed⟩ := inner_of_holder? hholder
    rw [decide_eq_true_eq, ← hlast, ← hed]
    exact (hother e he).symm
  have hreferenced : ∀ package, scope.referenced? package segment = none := by
    intro package
    rw [referenced?, if_neg]
    rw [List.any_eq_true]
    rintro ⟨d, hd, heq⟩
    have hname : d.outermost = segment := congrArg ClassName.outermost (of_decide_eq_true heq)
    exact hother d hd hname.symm
  rw [outermostNamed?, if_neg hfree, himports, hreferenced, hreferenced]
  rfl

omit h in
/-- A class that does not hold its name is not of the file's own package. -/
theorem package_ne_of_holder?_ne {c : ClassName} (hc : c ∈ scope.references)
    (hholder : scope.holder? c.outermost ≠ some c.topLevel) : c.package ≠ scope.package := by
  intro hown
  by_cases hfree : c.outermost = scope.declared
  · have htop : c.topLevel = scope.declaredClass := by
      rw [ClassName.topLevel, hown, hfree]
      rfl
    have hmem : scope.declaredClass ∈ scope.candidates c.outermost :=
      mem_candidates.2 ⟨⟨c, hc, htop⟩, hfree.symm⟩
    obtain ⟨found, hfound⟩ : ∃ found,
        (scope.candidates c.outermost).find? (· == scope.declaredClass) = some found :=
      Option.isSome_iff_exists.1 (List.find?_isSome.2 ⟨_, hmem, beq_self_eq_true _⟩)
    have heq : found = scope.declaredClass := by simpa using List.find?_some hfound
    rw [holder?, if_pos hfree, hfound, heq, htop] at hholder
    exact hholder rfl
  · exact hholder (holder?_of_own hc hown hfree)

/-- Every class that is referred to is found by the name that is written for it. -/
theorem denoted_nameOf {c : ClassName} (hc : c ∈ scope.references) :
    scope.denoted (scope.nameOf c) = c.canonicalName := by
  by_cases hholder : scope.holder? c.outermost = some c.topLevel
  · have hwritten : dotted (scope.nameOf c) = c.outermost :: c.inner := by
      rw [nameOf, if_pos hholder]
      exact dotted_intercalate c.simpleNames_ne_nil (h.names c hc)
    rw [denoted, hwritten, ClassName.canonicalName_eq_topLevel]
    simp only [h.outermostNamed?_of_holder? hc hholder]
  · have hpackage : c.package ≠ "" := by
      intro hempty
      have hown := (h.placed c hc).resolve_left (not_not_intro hempty)
      exact package_ne_of_holder?_ne hc hholder hown
    obtain ⟨first, others, hsegments⟩ := List.exists_cons_of_ne_nil
      (l := packageSegments c.package) (by simp [packageSegments, hpackage])
    have hwritten : dotted (scope.nameOf c) = first :: (others ++ c.simpleNames) := by
      rw [nameOf, if_neg hholder, ClassName.dotted_canonicalName (h.names c hc), ClassName.names,
        hsegments]
      rfl
    have hfirst : first ∈ (packageSegments c.package).head? := by simp [hsegments]
    have hnone := h.outermostNamed?_of_package hc hfirst
    rw [denoted, hwritten]
    simp only [hnone]
    rw [nameOf, if_neg hholder]

end Resolvable

end NameScope

/-- **Written names resolve.**  Take any file whose references are resolvable.  Each class that it
refers to is found by the name that is written for it.  No two imports end in the same simple
name, none ends in the name of the declared class, and none leads to the file's own package, to
`java.lang` or to the default package. -/
theorem SourceFile.written_names_resolve (file : SourceFile) (h : file.scope.Resolvable) :
    (∀ c ∈ file.declaration.classes,
      file.scope.denoted (file.scope.nameOf c) = c.canonicalName) ∧
    (file.imports.map lastSegment).Nodup ∧
    ∀ name ∈ file.imports, lastSegment name ≠ file.declaration.name ∧
      qualifierOf name ≠ file.package ∧ qualifierOf name ≠ "java.lang" ∧ qualifierOf name ≠ "" :=
  ⟨fun _ => h.denoted_nameOf, h.lastSegments_nodup, fun _ => h.of_mem_imports⟩

/-- A file in which simple names clash: two packages have a `Thing`, the declared class and the
file's own package shadow classes elsewhere, and one class is nested. -/
def clashingFile : SourceFile where
  package := "test"
  declaration := {
    name := "Holder"
    annotations := []
    modifiers := []
    superinterfaces := [
      .named (.topLevelIn "b" "Thing"), .named (.topLevelIn "a" "Thing"),
      .named (.topLevelIn "c" "Holder"), .named ⟨"test", "Holder", ["Inner"]⟩,
      .named (.topLevelIn "java.lang" "Override"), .named (.topLevelIn "test" "Override"),
      .parameterized ⟨"java.util", "Map", ["Entry"]⟩ [.named (.topLevelIn "java.lang" "String")]]
    fields := []
    methods := [] }

/-- The names of the clashing classes resolve. -/
theorem clashing_names_resolve :
    clashingFile.scope.Resolvable ∧ ∀ c ∈ clashingFile.declaration.classes,
      clashingFile.scope.denoted (clashingFile.scope.nameOf c) = c.canonicalName := by
  have h : clashingFile.scope.Resolvable :=
    ⟨by decide +kernel, by decide +kernel, by decide +kernel⟩
  exact ⟨h, (SourceFile.written_names_resolve clashingFile h).1⟩

/-- How the clashing classes are written. -/
example : clashingFile.declaration.classes.map clashingFile.scope.nameOf =
    ["b.Thing", "Thing", "c.Holder", "Holder.Inner", "java.lang.Override", "Override",
      "Map.Entry", "String"] := by
  decide +kernel

end AssistedWorkers.Java
