import AssistedWorkers.Java.SourceFile
import AssistedWorkers.Proofs.Names

/-!
# How classes are written in a file

The holder of a simple name is written by it, all other classes by their canonical names.  This
tells any two classes apart, with one exception: the canonical name of a class in the default
package is its simple name, so such a class is written like the holder of that name.

* `package_of_holder?` — a holder that shares its name with a class of the default package;
* `nameOf_eq_iff` — when two classes that are not nested are written alike;
* `exists_render_of_mem` — every method is written in the file as it is spelled.
-/

namespace AssistedWorkers.Java

/-! ### Holders -/

namespace ClassName

/-- A class that is not nested is its own outermost class. -/
theorem topLevel_eq_self {c : ClassName} (h : c.inner = []) : c.topLevel = c := by
  rw [topLevel, ← h]

/-- The empty text comes before every other one. -/
theorem compare_empty {text : String} (h : text ≠ "") : compare "" text = .lt := by
  change compareOfLessAndEq "" text = .lt
  rw [compareOfLessAndEq_eq_lt, String.lt_iff]
  have hne : text.toList ≠ [] := by simpa using h
  obtain ⟨c, rest, hc⟩ := List.exists_cons_of_ne_nil hne
  rw [hc]
  exact List.nil_lt_cons c rest

/-- Classes of the default package come before all others. -/
theorem package_earlier {c d : ClassName} (h : c.package = "" ∨ d.package = "") :
    (c.earlier d).package = "" := by
  by_cases hc : c.package = ""
  · by_cases hd : d.package = ""
    · unfold earlier
      split <;> assumption
    · have hswap : compare d.package "" = (compare "" d.package).swap := Std.OrientedCmp.eq_swap
      have hgt : compare d c = .gt := by
        rw [compare_def, hc, hswap, compare_empty hd]
        rfl
      rw [earlier, hgt]
      exact hc
  · have hd := h.resolve_left hc
    have hlt : compare d c = .lt := by
      rw [compare_def, hd, compare_empty hc]
      rfl
    rw [earlier, hlt]
    exact hd

/-- Of classes with one simple name the one in the default package comes first, if there is one. -/
theorem package_foldl_earlier {c : ClassName} {cs : List ClassName}
    (h : ∃ d ∈ c :: cs, d.package = "") : (cs.foldl ClassName.earlier c).package = "" := by
  induction cs generalizing c with
  | nil => simpa using h
  | cons d cs ih =>
    rw [List.foldl_cons]
    apply ih
    obtain ⟨e, he, hempty⟩ := h
    rcases List.mem_cons.1 he with rfl | he
    · exact ⟨_, List.mem_cons_self, package_earlier (Or.inl hempty)⟩
    · rcases List.mem_cons.1 he with rfl | he
      · exact ⟨_, List.mem_cons_self, package_earlier (Or.inr hempty)⟩
      · exact ⟨e, List.mem_cons_of_mem _ he, hempty⟩

end ClassName

namespace NameScope

/-- When a class of the default package is referred to, its simple name is held by that class or
by one of the file's own package. -/
theorem package_of_holder? {scope : NameScope} {name : String} {c : ClassName}
    (h : scope.holder? name = some c)
    (hdefault : ∃ d ∈ scope.candidates name, d.package = "") :
    c.package = "" ∨ c.package = scope.package := by
  unfold holder? at h
  split at h
  · have hc := List.find?_some h
    obtain rfl : c = scope.declaredClass := by simpa using hc
    exact Or.inr rfl
  · split at h
    · rename_i own hown
      obtain rfl := Option.some.inj h
      exact Or.inr (by simpa using List.find?_some hown)
    · obtain ⟨d, hd, hempty⟩ := hdefault
      split at h
      · simp_all
      · rename_i first others hcandidates
        obtain rfl := Option.some.inj h
        exact Or.inl (ClassName.package_foldl_earlier ⟨d, hcandidates ▸ hd, hempty⟩)

/-- The outermost class of a reference into the file's own package holds its name, unless the
file declares a class of that name. -/
theorem holder?_of_own {scope : NameScope} {c : ClassName} (hc : c ∈ scope.references)
    (hpackage : c.package = scope.package) (hdeclared : c.outermost ≠ scope.declared) :
    scope.holder? c.outermost = some c.topLevel := by
  have hmem : c.topLevel ∈ scope.candidates c.outermost :=
    mem_candidates.2 ⟨⟨c, hc, rfl⟩, rfl⟩
  rw [holder?, if_neg hdeclared]
  cases hfind : (scope.candidates c.outermost).find? (·.package == scope.package) with
  | none =>
    have := List.find?_eq_none.1 hfind _ hmem
    simp [ClassName.topLevel, hpackage] at this
  | some own =>
    obtain ⟨⟨d, -, hd⟩, hname⟩ := mem_candidates.1 (List.mem_of_find?_eq_some hfind)
    have hown : own.package = scope.package := by simpa using List.find?_some hfind
    have heq : own = c.topLevel := by
      rw [ClassName.ext_iff_simpleNames, ClassName.simpleNames_topLevel, ClassName.simpleNames,
        hname, hown, ← hd]
      exact ⟨hpackage.symm, rfl⟩
    rw [heq]

/-! ### Classes that are written alike -/

/-- The class that holds a simple name is written by it. -/
theorem nameOf_of_holder? {scope : NameScope} {c : ClassName} (hinner : c.inner = [])
    (h : scope.holder? c.outermost = some c) : scope.nameOf c = c.outermost := by
  rw [nameOf, ClassName.topLevel_eq_self hinner, if_pos h, ClassName.simpleNames, hinner]
  exact String.intercalate_singleton

theorem nameOf_of_holder?_ne {scope : NameScope} {c : ClassName} (hinner : c.inner = [])
    (h : scope.holder? c.outermost ≠ some c) : scope.nameOf c = c.canonicalName := by
  rw [nameOf, ClassName.topLevel_eq_self hinner, if_neg h]

/-- In the default package the full name of a class is its simple name. -/
theorem canonicalName_of_default {c : ClassName} (hinner : c.inner = []) (h : c.package = "") :
    c.canonicalName = c.outermost := by
  simp [ClassName.canonicalName, ClassName.qualifiedWith, ClassName.simpleNames, hinner, h]

/-- A class of the default package is always written by its simple name. -/
theorem nameOf_of_default {scope : NameScope} {c : ClassName} (hinner : c.inner = [])
    (h : c.package = "") : scope.nameOf c = c.outermost := by
  by_cases hholder : scope.holder? c.outermost = some c
  · exact nameOf_of_holder? hinner hholder
  · rw [nameOf_of_holder?_ne hinner hholder, canonicalName_of_default hinner h]

/-- A class that is not of the default package has a dot in its canonical name. -/
theorem dot_mem_canonicalName {c : ClassName} (h : c.package ≠ "") :
    '.' ∈ c.canonicalName.toList := by
  have hempty : c.package.isEmpty = false := by simpa using h
  simp [ClassName.canonicalName, ClassName.qualifiedWith, hempty, String.toList_append]

/-- A class that holds its name is written like another one only if that one is of the default
package, and the holder of the file's own. -/
theorem package_of_nameOf_eq {scope : NameScope} {c d : ClassName} (hc : c.Declarable)
    (hd : d ∈ scope.references) (hcinner : c.inner = []) (hdinner : d.inner = []) (hne : c ≠ d)
    (hholder : scope.holder? c.outermost = some c) (hother : scope.holder? d.outermost ≠ some d)
    (h : scope.nameOf c = scope.nameOf d) :
    c.outermost = d.outermost ∧ d.package = "" ∧ c.package = scope.package := by
  rw [nameOf_of_holder? hcinner hholder, nameOf_of_holder?_ne hdinner hother] at h
  have hdefault : d.package = "" := by
    apply Classical.byContradiction
    intro hpackage
    have hdot : '.' ∉ c.outermost.toList :=
      not_mem_of_isIdentifier (hc.names _ List.mem_cons_self) (by decide +kernel)
    exact hdot (h ▸ dot_mem_canonicalName hpackage)
  have hname : c.outermost = d.outermost := by
    rw [h, canonicalName_of_default hdinner hdefault]
  have hcandidate : d ∈ scope.candidates c.outermost :=
    mem_candidates.2 ⟨⟨d, hd, ClassName.topLevel_eq_self hdinner⟩, hname.symm⟩
  refine ⟨hname, hdefault, (package_of_holder? hholder ⟨d, hcandidate, hdefault⟩).resolve_left ?_⟩
  intro hempty
  apply hne
  rw [ClassName.ext_iff_simpleNames, ClassName.simpleNames, ClassName.simpleNames, hcinner,
    hdinner, hname, hempty, hdefault]
  exact ⟨rfl, rfl⟩

/-- A class of the default package is written like a class of the file's own package with the
same simple name. -/
theorem nameOf_eq_of_default {scope : NameScope} {c d : ClassName} (hd : d ∈ scope.references)
    (hcinner : c.inner = []) (hdinner : d.inner = []) (hdeclared : d ≠ scope.declaredClass)
    (hname : c.outermost = d.outermost) (hdefault : c.package = "")
    (hown : d.package = scope.package) : scope.nameOf c = scope.nameOf d := by
  have hfree : d.outermost ≠ scope.declared := by
    intro h
    apply hdeclared
    rw [ClassName.ext_iff_simpleNames, ClassName.simpleNames, hdinner, hown, h]
    exact ⟨rfl, rfl⟩
  have hholder := holder?_of_own hd hown hfree
  rw [ClassName.topLevel_eq_self hdinner] at hholder
  rw [nameOf_of_default hcinner hdefault, nameOf_of_holder? hdinner hholder, hname]

/-- **Two classes are written alike** exactly when they have the same simple name, one of them is
of the default package, and the other one is of the file's own package.  Neither class may be
nested or be the one that the file declares. -/
theorem nameOf_eq_iff {scope : NameScope} {c d : ClassName}
    (hc : c.Declarable) (hcinner : c.inner = []) (hcmem : c ∈ scope.references)
    (hcdeclared : c ≠ scope.declaredClass)
    (hd : d.Declarable) (hdinner : d.inner = []) (hdmem : d ∈ scope.references)
    (hddeclared : d ≠ scope.declaredClass) (hne : c ≠ d) :
    scope.nameOf c = scope.nameOf d ↔ c.outermost = d.outermost ∧
      (c.package = "" ∧ d.package = scope.package ∨
        d.package = "" ∧ c.package = scope.package) := by
  constructor
  · intro h
    by_cases hcholder : scope.holder? c.outermost = some c
    · by_cases hdholder : scope.holder? d.outermost = some d
      · rw [nameOf_of_holder? hcinner hcholder, nameOf_of_holder? hdinner hdholder] at h
        rw [h, hdholder] at hcholder
        exact absurd (Option.some.inj hcholder).symm hne
      · obtain ⟨hname, hdefault, hown⟩ :=
          package_of_nameOf_eq hc hdmem hcinner hdinner hne hcholder hdholder h
        exact ⟨hname, Or.inr ⟨hdefault, hown⟩⟩
    · by_cases hdholder : scope.holder? d.outermost = some d
      · obtain ⟨hname, hdefault, hown⟩ :=
          package_of_nameOf_eq hd hcmem hdinner hcinner hne.symm hdholder hcholder h.symm
        exact ⟨hname.symm, Or.inl ⟨hdefault, hown⟩⟩
      · rw [nameOf_of_holder?_ne hcinner hcholder, nameOf_of_holder?_ne hdinner hdholder] at h
        exact absurd (ClassName.eq_of_canonicalName_eq hc hd hcinner hdinner h) hne
  · rintro ⟨hname, ⟨hdefault, hown⟩ | ⟨hdefault, hown⟩⟩
    · exact nameOf_eq_of_default hdmem hcinner hdinner hddeclared hname hdefault hown
    · exact (nameOf_eq_of_default hcmem hdinner hcinner hcdeclared hname.symm hdefault hown).symm

end NameScope

/-! ### Methods in a file -/

/-- A text that is joined with others stands in the joined text. -/
theorem exists_join_of_mem {texts : List String} {text : String} (h : text ∈ texts) :
    ∃ front back, String.join texts = front ++ text ++ back := by
  obtain ⟨before, after, rfl⟩ := List.append_of_mem h
  exact ⟨String.join before, String.join after, by simp [String.append_assoc]⟩

/-- Every method of a class stands among its methods as it is spelled. -/
theorem ClassDeclaration.exists_spellMethods_of_mem (nameOf : ClassName → String)
    {d : ClassDeclaration} {m : Method} (h : m ∈ d.methods) :
    ∃ front back, d.spellMethods nameOf = front ++ m.spell nameOf d.name ++ back := by
  unfold spellMethods
  cases hmethods : d.methods with
  | nil => simp [hmethods] at h
  | cons first others =>
    rw [hmethods] at h
    rcases List.mem_cons.1 h with rfl | h
    · exact ⟨_, _, rfl⟩
    · obtain ⟨front, back, hjoin⟩ := exists_join_of_mem
        (List.mem_map_of_mem (f := ("\n" ++ ·))
          (List.mem_map_of_mem (f := fun m : Method => m.spell nameOf d.name) h))
      refine ⟨(if d.fields.isEmpty then "" else "\n") ++ first.spell nameOf d.name ++
        (front ++ "\n"), back, ?_⟩
      simp only [List.map_cons, hjoin, String.append_assoc]

/-- Every method of a file is written in it as it is spelled with the names of the file. -/
theorem SourceFile.exists_render_of_mem {file : SourceFile} {m : Method}
    (h : m ∈ file.declaration.methods) :
    ∃ front back, file.render =
      front ++ m.spell file.scope.nameOf file.declaration.name ++ back := by
  obtain ⟨front, back, hmethods⟩ :=
    ClassDeclaration.exists_spellMethods_of_mem file.scope.nameOf h
  obtain ⟨opening, closing, hdeclaration⟩ : ∃ opening closing,
      file.declaration.spell file.scope.nameOf =
        opening ++ file.declaration.spellMethods file.scope.nameOf ++ closing := ⟨_, _, rfl⟩
  obtain ⟨head, hfile⟩ : ∃ head, file.render =
      head ++ file.declaration.spell file.scope.nameOf := ⟨_, rfl⟩
  refine ⟨head ++ opening ++ front, back ++ closing, ?_⟩
  rw [hfile, hdeclaration, hmethods]
  simp only [String.append_assoc]

end AssistedWorkers.Java
