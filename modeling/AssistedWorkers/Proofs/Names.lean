import AssistedWorkers.Proofs.Growth

/-!
# Names that may be declared

The names of listed classes and modules are checked when a round is read, the names of generated
classes are made from them and never looked at again.  They need not be: joining identifiers
with a separator, and putting the fixed parts in front or behind, gives an identifier that is
too long for a reserved word.

* `declarable_of_described` — what a round that was read lists may be declared;
* `declarable_factoryName`, `declarable_moduleName` — then so may what is generated for it;
* `intercalate_segments` — a package name is the join of its segments;
* `eq_of_canonicalName_eq` — a canonical name belongs to one class that is not nested.
-/

namespace AssistedWorkers

open Java

namespace Java

/-! ### Identifiers -/

/-- All characters of an identifier may stand inside one. -/
theorem isIdentifierPart_of_spelled {cs : List Char} (h : isSpelledLikeIdentifier cs = true)
    {c : Char} (hc : c ∈ cs) : isIdentifierPart c = true := by
  cases cs with
  | nil => simp at hc
  | cons d rest =>
    obtain ⟨hd, hrest⟩ := Bool.and_eq_true_iff.1 h
    rcases List.mem_cons.1 hc with rfl | hc
    · exact isIdentifierPart_of_start hd
    · exact List.all_eq_true.1 hrest c hc

/-- What is spelled like an identifier may be continued. -/
theorem isSpelledLikeIdentifier_append {cs ds : List Char}
    (hcs : isSpelledLikeIdentifier cs = true) (hds : ∀ d ∈ ds, isIdentifierPart d = true) :
    isSpelledLikeIdentifier (cs ++ ds) = true := by
  cases cs with
  | nil => simp [isSpelledLikeIdentifier] at hcs
  | cons c rest =>
    obtain ⟨hc, hrest⟩ := Bool.and_eq_true_iff.1 hcs
    refine Bool.and_eq_true_iff.2 ⟨hc, List.all_eq_true.2 fun d hd => ?_⟩
    rcases List.mem_append.1 hd with hd | hd
    · exact List.all_eq_true.1 hrest d hd
    · exact hds d hd

/-- Joining what is spelled like identifiers gives something that is spelled like one. -/
theorem isSpelledLikeIdentifier_intercalate {sep : List Char} {names : List (List Char)}
    (hsep : ∀ c ∈ sep, isIdentifierPart c = true) (hne : names ≠ [])
    (h : ∀ cs ∈ names, isSpelledLikeIdentifier cs = true) :
    isSpelledLikeIdentifier (sep.intercalate names) = true := by
  induction names with
  | nil => exact absurd rfl hne
  | cons cs names ih =>
    have hcs := h cs List.mem_cons_self
    cases names with
    | nil => simpa using hcs
    | cons ds names =>
      have hrest := ih (by simp) fun es hes => h es (List.mem_cons_of_mem _ hes)
      rw [List.intercalate_cons_cons, List.append_assoc]
      refine isSpelledLikeIdentifier_append hcs fun c hc => ?_
      rcases List.mem_append.1 hc with hc | hc
      · exact hsep c hc
      · exact isIdentifierPart_of_spelled hrest hc

/-- No reserved word is longer than `synchronized`. -/
theorem length_le_of_mem_reservedWords {word : String} (h : word ∈ reservedWords) :
    word.length ≤ 12 := by
  revert word
  decide

/-- A long text is an identifier if it is spelled like one. -/
theorem isIdentifier_of_spelled {text : String} (h : isSpelledLikeIdentifier text.toList = true)
    (hlength : 12 < text.length) : isIdentifier text = true := by
  have hfree : text ∉ reservedWords := fun hmem => by
    have := length_le_of_mem_reservedWords hmem
    omega
  rw [isIdentifier, h, Bool.true_and]
  simpa using hfree

theorem spelled_of_isIdentifier {text : String} (h : isIdentifier text = true) :
    isSpelledLikeIdentifier text.toList = true :=
  (Bool.and_eq_true_iff.1 h).1

theorem ne_empty_of_isIdentifier {text : String} (h : isIdentifier text = true) : text ≠ "" := by
  rintro rfl
  exact absurd h (by decide)

/-- No identifier holds a character that may not stand inside one, such as a dot. -/
theorem not_mem_of_isIdentifier {text : String} (h : isIdentifier text = true) {c : Char}
    (hc : isIdentifierPart c = false) : c ∉ text.toList := fun hmem => by
  rw [isIdentifierPart_of_spelled (spelled_of_isIdentifier h) hmem] at hc
  exact absurd hc (by decide)

/-! ### Packages and classes -/

namespace SourceFile

/-- A package name that is not empty has its parts between dots as segments. -/
theorem segments_of_isPackageName {package : String} (h : isPackageName package = true)
    (hne : package ≠ "") :
    segments package = (package.toList.splitOn '.').map String.ofList ∧
      ∀ segment ∈ segments package, isIdentifier segment = true := by
  have hempty : package.isEmpty = false := by simpa using hne
  rw [isPackageName, hempty, Bool.false_or, List.all_eq_true] at h
  have hall : segments package = (package.toList.splitOn '.').map String.ofList :=
    List.filter_eq_self.2 fun segment hsegment => by
      simpa using ne_empty_of_isIdentifier (h segment hsegment)
  rw [hall]
  exact ⟨rfl, h⟩

/-- The segments of a package name are identifiers. -/
theorem isIdentifier_of_mem_segments {package : String} (h : isPackageName package = true)
    {segment : String} (hsegment : segment ∈ segments package) : isIdentifier segment = true := by
  by_cases hne : package = ""
  · subst hne
    simp [segments] at hsegment
  · exact (segments_of_isPackageName h hne).2 segment hsegment

/-- A package name is the join of its segments. -/
theorem intercalate_segments {package : String} (h : isPackageName package = true) :
    ".".intercalate (segments package) = package := by
  by_cases hne : package = ""
  · subst hne
    simp [segments]
  · have hlists : (((package.toList.splitOn '.').map String.ofList).map String.toList) =
        package.toList.splitOn '.' := by
      simp [Function.comp_def]
    rw [← String.toList_inj, String.toList_intercalate, (segments_of_isPackageName h hne).1, hlists]
    exact List.intercalate_splitOn '.'

end SourceFile

/-- A class whose package and whose names may be declared. -/
structure ClassName.Declarable (c : ClassName) : Prop where
  package : isPackageName c.package = true
  names : ∀ name ∈ c.simpleNames, isIdentifier name = true

/-- Texts without the separator can be told from their join. -/
theorem intercalate_inj {sep : String} {c : Char} (hsep : sep.toList = [c])
    {names others : List String} (hnames : ∀ name ∈ names, c ∉ name.toList) (hne : names ≠ [])
    (hothers : ∀ name ∈ others, c ∉ name.toList) (hne' : others ≠ [])
    (h : sep.intercalate names = sep.intercalate others) : names = others := by
  have hsplit : ∀ texts : List String, (∀ text ∈ texts, c ∉ text.toList) → texts ≠ [] →
      (sep.intercalate texts).toList.splitOn c = texts.map String.toList := by
    intro texts htexts hnil
    rw [String.toList_intercalate, hsep]
    refine List.splitOn_intercalate c (fun cs hcs => ?_) (by simpa using hnil)
    obtain ⟨text, htext, rfl⟩ := List.mem_map.1 hcs
    exact htexts text htext
  have hlists : names.map String.toList = others.map String.toList := by
    rw [← hsplit names hnames hne, ← hsplit others hothers hne', h]
  have hback : ∀ texts : List String, (texts.map String.toList).map String.ofList = texts := by
    intro texts
    simp [Function.comp_def]
  rw [← hback names, hlists, hback]

namespace ClassName

/-- The own name of a class is one of the names in its chain. -/
theorem simpleName_mem_simpleNames (c : ClassName) : c.simpleName ∈ c.simpleNames := by
  rw [simpleName, simpleNames]
  cases h : c.inner.getLast? with
  | none => exact List.mem_cons_self
  | some name => exact List.mem_cons_of_mem _ (List.mem_of_getLast? h)

/-- The canonical name of a class that may be declared joins the segments of its package and the
names of its chain. -/
theorem canonicalName_eq_intercalate {c : ClassName} (h : isPackageName c.package = true) :
    c.canonicalName = ".".intercalate (SourceFile.segments c.package ++ c.simpleNames) := by
  rw [canonicalName, qualifiedWith]
  by_cases hne : c.package = ""
  · simp [hne, SourceFile.segments]
  · have hempty : c.package.isEmpty = false := by simpa using hne
    have hsegments : SourceFile.segments c.package ≠ [] := by
      rw [(SourceFile.segments_of_isPackageName h hne).1]
      simp
    rw [String.intercalate_append_of_ne_nil hsegments c.simpleNames_ne_nil,
      SourceFile.intercalate_segments h]
    simp [hempty]

/-- Classes that are not nested and may be declared have different canonical names. -/
theorem eq_of_canonicalName_eq {c d : ClassName} (hc : c.Declarable) (hd : d.Declarable)
    (hcinner : c.inner = []) (hdinner : d.inner = []) (h : c.canonicalName = d.canonicalName) :
    c = d := by
  have hdots : ∀ e : ClassName, e.Declarable →
      ∀ name ∈ SourceFile.segments e.package ++ e.simpleNames, '.' ∉ name.toList := by
    intro e he name hname
    apply not_mem_of_isIdentifier _ (by decide +kernel)
    rcases List.mem_append.1 hname with hname | hname
    · exact SourceFile.isIdentifier_of_mem_segments he.package hname
    · exact he.names name hname
  rw [canonicalName_eq_intercalate hc.package, canonicalName_eq_intercalate hd.package] at h
  have hlists := intercalate_inj rfl (hdots c hc) (by simp [simpleNames]) (hdots d hd)
    (by simp [simpleNames]) h
  obtain ⟨hpackages, hchains⟩ := List.append_inj' hlists (by simp [simpleNames, hcinner, hdinner])
  refine ext_iff_simpleNames.2 ⟨?_, hchains⟩
  rw [← SourceFile.intercalate_segments hc.package, hpackages,
    SourceFile.intercalate_segments hd.package]

end ClassName

end Java

/-! ### What a round lists -/

/-- A check in two steps succeeds when both do. -/
theorem exists_of_bind_eq_ok {ε α β : Type} {x : Except ε α} {f : α → Except ε β} {b : β}
    (h : x >>= f = .ok b) : ∃ a, x = .ok a ∧ f a = .ok b := by
  cases x with
  | error e => simp [bind, Except.bind] at h
  | ok a => exact ⟨a, rfl, h⟩

/-- What comes out of checking a list comes from one of its elements. -/
theorem exists_of_mem_of_mapM_eq_ok {ε α β : Type} {f : α → Except ε β} {as : List α} {bs : List β}
    (h : as.mapM f = .ok bs) {b : β} (hb : b ∈ bs) : ∃ a ∈ as, f a = .ok b := by
  induction as generalizing bs with
  | nil =>
    rw [List.mapM_nil] at h
    obtain rfl := Except.ok.inj h
    simp at hb
  | cons a as ih =>
    rw [List.mapM_cons] at h
    obtain ⟨c, hc, h⟩ := exists_of_bind_eq_ok h
    obtain ⟨cs, hcs, h⟩ := exists_of_bind_eq_ok h
    obtain rfl := Except.ok.inj h
    rcases List.mem_cons.1 hb with rfl | hb
    · exact ⟨a, List.mem_cons_self, hc⟩
    · obtain ⟨a', ha', hok⟩ := ih hcs hb
      exact ⟨a', List.mem_cons_of_mem _ ha', hok⟩

/-- The name of a declaration that is accepted may be declared. -/
theorem declarable_of_declaredName {package : String} {enclosing : List EnclosingDescription}
    {name : String} {c : ClassName} (h : declaredName package enclosing name = .ok c) :
    c.Declarable := by
  unfold declaredName at h
  split at h
  · simp at h
  · rename_i hpackage
    dsimp only at h
    split at h
    · simp at h
    · rename_i hnames
      have hall : ∀ n ∈ enclosing.map (·.name) ++ [name], isIdentifier n = true := by
        intro n hn
        simpa using List.find?_eq_none.1 hnames n hn
      split at h
      · rename_i haround
        obtain rfl := Except.ok.inj h
        rw [haround] at hall
        exact ⟨by simpa using hpackage, hall⟩
      · rename_i outermost inner haround
        obtain rfl := Except.ok.inj h
        rw [haround] at hall
        exact ⟨by simpa using hpackage, hall⟩

/-- A round that some description was read as. -/
def Round.Described (r : Round) : Prop :=
  ∃ d : RoundDescription, d.check = .ok r

/-- A class that is accepted may be declared. -/
theorem ClassDescription.declarable_of_check {d : ClassDescription} {c : ListedClass}
    (h : d.check = .ok c) : c.name.Declarable := by
  obtain ⟨name, hname, h⟩ := exists_of_bind_eq_ok h
  obtain ⟨supertypes, -, h⟩ := exists_of_bind_eq_ok h
  obtain ⟨constructors, -, h⟩ := exists_of_bind_eq_ok h
  obtain rfl := Except.ok.inj h
  exact declarable_of_declaredName hname

/-- A module that is accepted may be declared. -/
theorem ModuleDescription.declarable_of_check {d : ModuleDescription} {l : ListedModule}
    (h : d.check = .ok l) : l.name.Declarable := by
  obtain ⟨name, hname, h⟩ := exists_of_bind_eq_ok h
  obtain ⟨includes, -, h⟩ := exists_of_bind_eq_ok h
  obtain rfl := Except.ok.inj h
  exact declarable_of_declaredName hname

/-- What a round that was read lists may be declared. -/
theorem Round.declarable_of_described {r : Round} (h : r.Described) :
    (∀ c ∈ r.classes, c.name.Declarable) ∧ ∀ l ∈ r.modules, l.name.Declarable := by
  obtain ⟨d, h⟩ := h
  obtain ⟨classes, hclasses, h⟩ := exists_of_bind_eq_ok h
  obtain ⟨modules, hmodules, h⟩ := exists_of_bind_eq_ok h
  obtain rfl := Except.ok.inj h
  constructor
  · intro c hc
    obtain ⟨a, -, ha⟩ := exists_of_mem_of_mapM_eq_ok hclasses hc
    exact ClassDescription.declarable_of_check ha
  · intro l hl
    obtain ⟨a, -, ha⟩ := exists_of_mem_of_mapM_eq_ok hmodules hl
    exact ModuleDescription.declarable_of_check ha

/-! ### What is generated -/

namespace NestingStyle

/-- Flattened names are joined by characters that may stand inside an identifier. -/
theorem isIdentifierPart_nameSeparator {style : NestingStyle} {c : Char}
    (h : c ∈ style.nameSeparator.toList) : isIdentifierPart c = true := by
  cases style <;> (obtain rfl := List.mem_singleton.1 h; decide +kernel)

/-- A nesting chain of identifiers is spelled like an identifier when it is flattened. -/
theorem spelled_flatten (style : NestingStyle) {names : List String} (hne : names ≠ [])
    (h : ∀ name ∈ names, isIdentifier name = true) :
    isSpelledLikeIdentifier (style.flatten names).toList = true := by
  rw [flatten, String.toList_intercalate]
  refine isSpelledLikeIdentifier_intercalate (fun c => isIdentifierPart_nameSeparator)
    (by simpa using hne) fun cs hcs => ?_
  obtain ⟨name, hname, rfl⟩ := List.mem_map.1 hcs
  exact spelled_of_isIdentifier (h name hname)

/-- The factory of a class that may be declared may be declared. -/
theorem declarable_factoryName (style : NestingStyle) {c : ClassName} (h : c.Declarable) :
    (style.factoryName c).Declarable := by
  have hspelled := style.spelled_flatten c.simpleNames_ne_nil h.names
  have hend : Framework.factoryNameEnd.toList.all isIdentifierPart = true := by decide +kernel
  have hname :
      isIdentifier (style.flatten c.simpleNames ++ Framework.factoryNameEnd) = true := by
    apply isIdentifier_of_spelled
    · rw [String.toList_append]
      exact isSpelledLikeIdentifier_append hspelled (List.all_eq_true.1 hend)
    · have hlength : Framework.factoryNameEnd.length = 16 := by decide
      rw [String.length_append, hlength]
      omega
  exact ⟨h.package, fun name hmem => List.mem_singleton.1 hmem ▸ hname⟩

/-- The binding module of a class that may be declared may be declared. -/
theorem declarable_moduleName (style : NestingStyle) {c : ClassName} (h : c.Declarable) :
    (style.moduleName c).Declarable := by
  have hsimple := spelled_of_isIdentifier (h.names _ c.simpleName_mem_simpleNames)
  have hown : isSpelledLikeIdentifier
      (Framework.moduleNameStart ++ c.simpleName).toList = true := by
    rw [String.toList_append]
    exact isSpelledLikeIdentifier_append (by decide +kernel) fun d =>
      isIdentifierPart_of_spelled hsimple
  have hlength : ∀ start : String,
      12 < (start ++ Framework.moduleNameStart ++ c.simpleName).length := by
    intro start
    have hstart : Framework.moduleNameStart.length = 13 := by decide
    rw [String.length_append, String.length_append, hstart]
    omega
  have hname : isIdentifier (style.moduleName c).outermost = true := by
    apply isIdentifier_of_spelled _ (hlength _)
    -- Either the module is the outermost class, or the classes around it come first.
    by_cases haround : (style.flatten c.enclosingNames).isEmpty
    · rw [String.isEmpty_iff] at haround
      simpa [moduleName, ClassName.topLevelIn, haround] using hown
    · have hne : c.enclosingNames ≠ [] := fun hnil => by simp [hnil, flatten] at haround
      have hspelled := style.spelled_flatten hne fun name hname =>
        h.names name (List.dropLast_subset _ hname)
      rw [Bool.not_eq_true] at haround
      simp only [haround, Bool.false_eq_true, if_false, String.append_assoc]
      rw [String.toList_append]
      refine isSpelledLikeIdentifier_append hspelled fun d hd => ?_
      rw [String.toList_append] at hd
      rcases List.mem_append.1 hd with hd | hd
      · exact isIdentifierPart_nameSeparator hd
      · exact isIdentifierPart_of_spelled hown hd
  exact ⟨h.package, fun name hmem => List.mem_singleton.1 hmem ▸ hname⟩

end NestingStyle

end AssistedWorkers
