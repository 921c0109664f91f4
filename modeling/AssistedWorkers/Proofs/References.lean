import AssistedWorkers.Proofs.CanonicalForm
import AssistedWorkers.Proofs.Checking

/-!
# References to declared classes

A declaration gives the package of a class apart from its names, so any class can be declared
whose names are identifiers.  A reference only has the dotted name of the class.  What tells the
package from the names in it is how the segments begin: packages are written with lower-case
letters and classes with capitals, and the package ends where the first capital is.  A declaration
need not keep to this, and then its full name is read as that of another class.

* `isTypeName_iff_ascii` — the names in references are the ASCII ones among those that are spelled
  like identifiers;
* `readReference_canonicalName_iff` — a declared class is found by its name when it is in
  canonical form;
* `names_refer_back` — which declared classes with ASCII names, and which binding modules generated
  for them, are found by their full names.
-/

namespace AssistedWorkers

open Java

namespace Java

open AssistedWorkers.Text

/-! ### ASCII names -/

/-- Whether all characters of a text are ASCII characters. -/
def isAscii (text : String) : Bool :=
  text.toList.all (·.toNat < 128)

theorem isAscii_iff {text : String} : isAscii text = true ↔ ∀ c ∈ text.toList, c.toNat < 128 := by
  simp [isAscii]

@[simp] theorem isAscii_append (a b : String) : isAscii (a ++ b) = (isAscii a && isAscii b) := by
  simp [isAscii]

/-- A join is ASCII when all parts are. -/
theorem isAscii_intercalate {sep : String} (hsep : isAscii sep = true) {texts : List String} :
    isAscii (sep.intercalate texts) = true ↔ ∀ text ∈ texts, isAscii text = true := by
  induction texts with
  | nil => simp [isAscii]
  | cons text texts ih =>
    by_cases hne : texts = []
    · simp [hne]
    · rw [String.intercalate_cons_of_ne_nil hne, isAscii_append, isAscii_append, hsep,
        Bool.and_true, Bool.and_eq_true, ih, List.forall_mem_cons]

/-- Of a table in increasing order only the ranges at its start hold ASCII characters. -/
theorem covers_take_of_ascii {table : List CodeRange} {count : Nat}
    (h : ∀ range ∈ table.drop count, 128 ≤ range.first) {c : Char} (hc : c.toNat < 128) :
    CodeRange.covers table c = CodeRange.covers (table.take count) c := by
  have hdrop : CodeRange.covers (table.drop count) c = false := by
    rw [Bool.eq_false_iff]
    intro hcovers
    obtain ⟨range, hrange, hfirst, -⟩ := CodeRange.covers_iff.1 hcovers
    have := h range hrange
    omega
  have happend : CodeRange.covers table c =
      (CodeRange.covers (table.take count) c || CodeRange.covers (table.drop count) c) := by
    rw [CodeRange.covers, CodeRange.covers, CodeRange.covers, ← List.any_append,
      List.take_append_drop]
  rw [happend, hdrop, Bool.or_false]

/-- Among ASCII characters identifiers and names in references are made of the same ones. -/
theorem isIdentifierPart_of_ascii {c : Char} (h : c.toNat < 128) :
    isIdentifierStart c = isNameStart c ∧ isIdentifierPart c = isNamePart c := by
  have halphabetic : isAlphabetic c = CodeRange.covers (alphabeticRanges.take 2) c :=
    covers_take_of_ascii (by decide +kernel) h
  have hnumeric : isNumeric c = CodeRange.covers (numericRanges.take 1) c :=
    covers_take_of_ascii (by decide +kernel) h
  have hall : ∀ n < 128,
      (CodeRange.covers (alphabeticRanges.take 2) (Char.ofNat n) || Char.ofNat n == '_' ||
        Char.ofNat n == '$') = isNameStart (Char.ofNat n) ∧
      (isNameStart (Char.ofNat n) || CodeRange.covers (numericRanges.take 1) (Char.ofNat n)) =
        isNamePart (Char.ofNat n) := by
    decide +kernel
  obtain ⟨hstart, hpart⟩ := hall c.toNat h
  rw [Char.ofNat_toNat, ← halphabetic] at hstart
  rw [Char.ofNat_toNat, ← hnumeric, ← hstart] at hpart
  exact ⟨hstart, hpart⟩

/-- A name in a reference is spelled like an identifier and is ASCII. -/
theorem isTypeName_iff_ascii {name : String} :
    isTypeName name = true ↔ isSpelledLikeIdentifier name.toList = true ∧ isAscii name = true := by
  rw [TypeGrammar.isTypeName_iff, isAscii_iff]
  constructor
  · intro h
    obtain ⟨c, rest, hname, hc, hrest⟩ := h
    have hascii : ∀ d ∈ name.toList, isNamePart d = true ∧ d.toNat < 128 := by
      intro d hd
      have hpart : isNamePart d = true := by
        rw [hname] at hd
        rcases List.mem_cons.1 hd with rfl | hd
        · exact TypeGrammar.isNamePart_of_isNameStart hc
        · exact hrest d hd
      have := (TypeGrammar.toNat_of_isNamePart hpart).2
      exact ⟨hpart, by omega⟩
    refine ⟨?_, fun d hd => (hascii d hd).2⟩
    rw [hname] at hascii ⊢
    have hstart := (isIdentifierPart_of_ascii (hascii c List.mem_cons_self).2).1
    refine Bool.and_eq_true_iff.2 ⟨hstart ▸ hc, List.all_eq_true.2 fun d hd => ?_⟩
    have hd := hascii d (List.mem_cons_of_mem _ hd)
    exact (isIdentifierPart_of_ascii hd.2).2 ▸ hd.1
  · intro h
    obtain ⟨hspelled, hascii⟩ := h
    cases hname : name.toList with
    | nil => simp [hname, isSpelledLikeIdentifier] at hspelled
    | cons c rest =>
      rw [hname] at hspelled hascii
      obtain ⟨hc, hrest⟩ := Bool.and_eq_true_iff.1 hspelled
      have hstart := (isIdentifierPart_of_ascii (hascii c List.mem_cons_self)).1
      refine ⟨c, rest, rfl, hstart ▸ hc, fun d hd => ?_⟩
      have hpart := (isIdentifierPart_of_ascii (hascii d (List.mem_cons_of_mem _ hd))).2
      exact hpart ▸ List.all_eq_true.1 hrest d hd

/-- An identifier may stand in a reference when it is ASCII. -/
theorem isTypeName_iff_of_isIdentifier {name : String} (h : isIdentifier name = true) :
    isTypeName name = true ↔ isAscii name = true := by
  rw [isTypeName_iff_ascii, spelled_of_isIdentifier h]
  simp

theorem not_isIdentifier_keyword (p : Primitive) : isIdentifier p.keyword = false := by
  cases p <;> decide +kernel

namespace ClassName

/-! ### Classes that references find -/

/-- All names of a class, the segments of its package included, are ASCII. -/
def IsAsciiNamed (c : ClassName) : Prop :=
  ∀ name ∈ c.names, isAscii name = true

/-- No segment of the package starts with a capital, so none is taken for a class. -/
def HasPlainPackage (c : ClassName) : Prop :=
  ∀ segment ∈ packageSegments c.package, startsWithCapital segment = false

/-- A class in a plain package that is not taken for a class of a longer package: it is not nested,
or the outermost class around it starts with a capital. -/
structure Referable (c : ClassName) : Prop where
  package : c.HasPlainPackage
  chain : c.inner = [] ∨ startsWithCapital c.outermost = true

/-- Whether a name starts with a lower-case letter. -/
def startsWithLowerCase (name : String) : Bool :=
  name.toList.head?.any Char.isLower

/-- A class that is taken for another one: a segment of its package starts like a class, or the
outermost class around it starts like a package. -/
def Misleading (c : ClassName) : Prop :=
  (∃ segment ∈ packageSegments c.package, startsWithCapital segment = true) ∨
    c.inner ≠ [] ∧ startsWithLowerCase c.outermost = true

/-- No name starts with a lower-case letter and with a capital. -/
theorem startsWithCapital_of_startsWithLowerCase {name : String}
    (h : startsWithLowerCase name = true) : startsWithCapital name = false := by
  unfold startsWithLowerCase at h
  unfold startsWithCapital
  cases hname : name.toList with
  | nil => rfl
  | cons c rest =>
    have hlower : c.isLower = true := by simpa [hname] using h
    have hfirst : 97 ≤ c.toNat := of_decide_eq_true (Bool.and_eq_true_iff.1 hlower).1
    -- The codes of the capitals all come before those of the lower-case letters.
    refine Bool.eq_false_iff.2 fun hcapital => ?_
    have hlast : c.toNat ≤ 90 := And.right (of_decide_eq_true hcapital)
    omega

/-- A class that is taken for another one is not referable: the two are told apart by the first
letters of the package and of the outermost class. -/
theorem Misleading.not_referable {c : ClassName} (h : c.Misleading) : ¬ c.Referable := by
  rintro ⟨hpackage, hchain⟩
  rcases h with ⟨segment, hsegment, hcapital⟩ | ⟨hnested, hlower⟩
  · exact absurd (hpackage segment hsegment) (by simp [hcapital])
  · rw [startsWithCapital_of_startsWithLowerCase hlower] at hchain
    exact hchain.elim hnested Bool.false_ne_true

/-- Classes that may be declared are in canonical form when references find them. -/
theorem Declarable.inCanonicalForm_iff {c : ClassName} (h : c.Declarable) :
    c.InCanonicalForm ↔ c.IsAsciiNamed ∧ c.Referable := by
  have hnames : (∀ name ∈ c.names, isTypeName name = true) ↔ c.IsAsciiNamed :=
    forall₂_congr fun name hname =>
      isTypeName_iff_of_isIdentifier (h.isIdentifier_of_mem_names hname)
  constructor
  · exact fun hc => ⟨hnames.1 hc.typeNames, hc.package, hc.chain⟩
  · exact fun hc => ⟨hnames.2 hc.1, hc.2.package, hc.2.chain⟩

/-- The names of a chain are those around the class and its own. -/
theorem enclosingNames_append (c : ClassName) :
    c.enclosingNames ++ [c.simpleName] = c.simpleNames := by
  rw [enclosingNames, simpleName, simpleNames]
  cases h : c.inner.getLast? with
  | none =>
    rw [List.getLast?_eq_none_iff] at h
    simp [h]
  | some last =>
    obtain ⟨front, hfront⟩ := List.getLast?_eq_some_iff.1 h
    simp [hfront, List.dropLast_cons_of_ne_nil]

end ClassName

end Java

/-! ### Reading references -/

/-- What a reference is read as is in canonical form. -/
theorem inCanonicalForm_of_readReference {element : Element} {text : String} {c : ClassName}
    (h : readReference element text = .ok c) : c.InCanonicalForm := by
  obtain ⟨t, ht, hraw⟩ := readReference_eq_ok_iff.1 h
  exact JavaType.inCanonicalForm_of_read ht c (JavaType.mem_classes_of_rawClass? hraw)

/-- A class that may be declared is found by its canonical name when that is its canonical
form. -/
theorem readReference_canonicalName_iff {c : ClassName} (h : c.Declarable) (element : Element) :
    readReference element c.canonicalName = .ok c ↔ c.IsAsciiNamed ∧ c.Referable := by
  rw [← h.inCanonicalForm_iff]
  refine ⟨inCanonicalForm_of_readReference, fun hc => ?_⟩
  refine readReference_eq_ok_iff.2 ⟨.named c, JavaType.read_canonicalName hc fun p hp => ?_, rfl⟩
  have hidentifier : isIdentifier p.keyword = true := h.isIdentifier_of_mem_names (by simp [hp])
  rw [not_isIdentifier_keyword] at hidentifier
  exact Bool.false_ne_true hidentifier

namespace NestingStyle

/-- The names of a binding module are made from those of its class by adding ASCII ones. -/
theorem isAsciiNamed_moduleName_iff (style : NestingStyle) (c : ClassName) :
    (style.moduleName c).IsAsciiNamed ↔ c.IsAsciiNamed := by
  have hname : isAscii (style.moduleName c).outermost = true ↔
      ∀ name ∈ c.simpleNames, isAscii name = true := by
    have hsep : isAscii style.nameSeparator = true := by cases style <;> decide
    have hstart : isAscii Framework.moduleNameStart = true := by decide
    have hnothing : isAscii "" = true := by decide
    have hflat : isAscii (style.flatten c.enclosingNames) = true ↔
        ∀ name ∈ c.enclosingNames, isAscii name = true := isAscii_intercalate hsep
    have hparts : isAscii (style.moduleName c).outermost =
        (isAscii (style.flatten c.enclosingNames) && isAscii c.simpleName) := by
      unfold moduleName ClassName.topLevelIn
      by_cases hempty : style.flatten c.enclosingNames = ""
      · simp [hempty, hstart, hnothing]
      · simp [hempty, hstart, hsep]
    rw [hparts, Bool.and_eq_true, hflat, ← c.enclosingNames_append]
    simp [or_imp, forall_and]
  have hmodule : (style.moduleName c).names =
      packageSegments c.package ++ [(style.moduleName c).outermost] := rfl
  rw [ClassName.IsAsciiNamed, ClassName.IsAsciiNamed, hmodule, ClassName.names,
    List.forall_mem_append, List.forall_mem_append, ← hname]
  simp

/-- A binding module is in the package of its class, and a chain that is flattened is not nested
any more. -/
theorem referable_moduleName_iff (style : NestingStyle) (c : ClassName) :
    (style.moduleName c).Referable ↔ c.HasPlainPackage :=
  ⟨fun h => h.package, fun h => ⟨h, Or.inl rfl⟩⟩

end NestingStyle

/-! ### Declared classes -/

/-- A class that lists a referable class by its full name has it among its supertypes, and every
session that takes a round with it learns that. -/
theorem ClassDescription.learns_referable {c : ClassName} (hc : c.Declarable)
    (hascii : c.IsAsciiNamed) (href : c.Referable) {d : ClassDescription} {l : ListedClass}
    (hd : d.check = .ok l) (hlisted : c.canonicalName ∈ d.supertypes) :
    c ∈ l.supertypes ∧ ∀ (s : Session) (r : Round), l ∈ r.classes →
      (l.name, c) ∈ (s.processRound r).1.hierarchy.edges := by
  obtain ⟨-, hsupertypes, -⟩ := ClassDescription.check_eq_ok_iff.1 hd
  obtain ⟨e, he, hread⟩ := exists_mem_right hsupertypes hlisted
  rw [(readReference_canonicalName_iff hc _).2 ⟨hascii, href⟩] at hread
  obtain rfl := Except.ok.inj hread
  exact ⟨he, fun s r hl => Session.mem_processRound_hierarchy.2 (Or.inr ⟨l, hl, rfl, he⟩)⟩

/-- A module in a plain package that includes its binding module by its full name is accepted. -/
theorem ModuleDescription.includes_referable {d : ModuleDescription} {m : ListedModule}
    (hd : d.check = .ok m) (hascii : m.name.IsAsciiNamed) (hplain : m.name.HasPlainPackage)
    (style : NestingStyle) {a : DaggerModuleDescription} (ha : d.daggerModule = some a)
    (hincluded : (style.moduleName m.name).canonicalName ∈ a.includes) (publicModule : Bool) :
    ∃ b, m.bindingModule style publicModule = .ok b := by
  obtain ⟨hname, hincludes, -⟩ := ModuleDescription.check_eq_ok_iff.1 hd
  have hmodule := style.declarable_moduleName (declarable_of_declaredName hname)
  rw [ha] at hincludes
  generalize hcs : m.includes = includes? at hincludes
  cases hincludes with
  | some hincludes =>
    rename_i includes
    obtain ⟨e, he, hread⟩ := exists_mem_right hincludes hincluded
    rw [(readReference_canonicalName_iff hmodule _).2
      ⟨(style.isAsciiNamed_moduleName_iff _).2 hascii,
        (style.referable_moduleName_iff _).2 hplain⟩] at hread
    obtain rfl := Except.ok.inj hread
    have hany : includes.any (BindingModule.isNamedBy · (style.moduleName m.name)) = true :=
      List.any_eq_true.2 ⟨_, he, by simp [BindingModule.isNamedBy]⟩
    exact ⟨_, by simp [ListedModule.bindingModule, hcs, hany]; rfl⟩

/-- **Which declared classes are found by their full names.**  Take a declared class all of whose
names are ASCII.  A reference by its canonical name is read as the class if no segment of the
package starts with a capital and the class is not nested or its outermost class starts with a
capital.  It is not if a segment of the package does start with a capital, or the class is nested
in one that starts with a lower-case letter.  For the binding module generated for a class in place
of the class itself, only the package matters.  So a class that lists such a class among its
supertypes has it as a supertype, and a module that includes its own binding module in this way is
accepted. -/
theorem names_refer_back {package name : String} {enclosing : List EnclosingDescription}
    {c : ClassName} (h : declaredName package enclosing name = .ok c) (hascii : c.IsAsciiNamed)
    (style : NestingStyle) (element : Element) :
    (c.Referable → readReference element c.canonicalName = .ok c) ∧
    (c.Misleading → readReference element c.canonicalName ≠ .ok c) ∧
    (readReference element (style.moduleName c).canonicalName = .ok (style.moduleName c) ↔
      c.HasPlainPackage) ∧
    (c.Referable → ∀ d l, ClassDescription.check d = .ok l → c.canonicalName ∈ d.supertypes →
      c ∈ l.supertypes ∧ ∀ (s : Session) (r : Round), l ∈ r.classes →
        (l.name, c) ∈ (s.processRound r).1.hierarchy.edges) ∧
    (c.HasPlainPackage → ∀ d m, ModuleDescription.check d = .ok m → m.name = c →
      ∀ a, d.daggerModule = some a → (style.moduleName c).canonicalName ∈ a.includes →
        ∀ publicModule, ∃ b, m.bindingModule style publicModule = .ok b) := by
  have hc := declarable_of_declaredName h
  refine ⟨fun href => (readReference_canonicalName_iff hc element).2 ⟨hascii, href⟩,
    fun hmisleading hread => ?_, ?_, ?_, ?_⟩
  · exact hmisleading.not_referable ((readReference_canonicalName_iff hc element).1 hread).2
  · rw [readReference_canonicalName_iff (style.declarable_moduleName hc) element,
      style.isAsciiNamed_moduleName_iff, style.referable_moduleName_iff]
    exact and_iff_right hascii
  · exact fun href d l hd hlisted => ClassDescription.learns_referable hc hascii href hd hlisted
  · intro hplain d m hd hm a ha hincluded publicModule
    subst hm
    exact ModuleDescription.includes_referable hd hascii hplain style ha hincluded publicModule

/-- A class that lists a nested class by its full name. -/
def listsInner : ClassDescription where
  package := "test"
  enclosing := []
  name := "Foo"
  visibility := .pack
  isStatic := false
  supertypes := ["test.Outer.Inner"]
  location := ⟨"test/Foo.java", 3, none⟩
  constructors := []

/-- A nested module that includes its binding module by its full name. -/
def includesOwn : ModuleDescription where
  package := "test"
  enclosing := [⟨"Outer", .pack⟩]
  name := "Inner"
  visibility := .pack
  daggerModule := some ⟨["test.Outer_WorkerInject_Inner"]⟩
  location := ⟨"test/Outer.java", 7, none⟩

/-- A nested class, and the binding module for it as a module, are found by their full names. -/
theorem nested_class_refers_back :
    let inner : ClassName := ⟨"test", "Outer", ["Inner"]⟩
    let generated := NestingStyle.flattened.moduleName inner
    let lists : ListedClass := ⟨⟨"test", "Foo", []⟩, .pack, [], false, [inner],
      ⟨"test/Foo.java", 3, none⟩, []⟩
    let includes : ListedModule := ⟨inner, .pack, some [generated], ⟨"test/Outer.java", 7, none⟩⟩
    declaredName "test" [⟨"Outer", .pack⟩] "Inner" = .ok inner ∧ inner.IsAsciiNamed ∧
      readReference (.supertype lists.name) inner.canonicalName = .ok inner ∧
      readReference (.supertype lists.name) generated.canonicalName = .ok generated ∧
      listsInner.check = .ok lists ∧ inner ∈ lists.supertypes ∧
      includesOwn.check = .ok includes ∧
      ∃ b, includes.bindingModule .flattened false = .ok b := by
  intro inner generated lists includes
  have hdeclared : declaredName "test" [⟨"Outer", .pack⟩] "Inner" = .ok inner := by
    decide +kernel
  have hascii : inner.IsAsciiNamed := by
    have hnames : inner.names = ["test", "Outer", "Inner"] := by decide +kernel
    rw [ClassName.IsAsciiNamed, hnames]
    decide
  have hplain : inner.HasPlainPackage := by
    rw [ClassName.HasPlainPackage]
    decide +kernel
  have href : inner.Referable := ⟨hplain, Or.inr (by decide)⟩
  have hlists : listsInner.check = .ok lists := by decide +kernel
  have hincludes : includesOwn.check = .ok includes := by decide +kernel
  obtain ⟨hclass, -, hmodule, hlearns, haccepts⟩ :=
    names_refer_back hdeclared hascii .flattened (.supertype lists.name)
  have hlisted : inner.canonicalName ∈ listsInner.supertypes := by decide +kernel
  have hincluded : generated.canonicalName ∈ ["test.Outer_WorkerInject_Inner"] := by
    decide +kernel
  exact ⟨hdeclared, hascii, hclass href, hmodule.2 hplain, hlists,
    (hlearns href _ _ hlists hlisted).1, hincludes,
    haccepts hplain _ _ hincludes rfl _ rfl hincluded false⟩

/-- Not every class that may be declared is found by its full name.  A capital in the package
makes it another class, and so does an outermost class with a lower-case letter.  A binding module
is missed in the first of these ways. -/
theorem declared_names_misread :
    let base : ClassName := ⟨"com.Example", "Base", []⟩
    let inner : ClassName := ⟨"test", "outer", ["Inner"]⟩
    let appModule : ClassName := ⟨"com.Example", "AppModule", []⟩
    let generated := NestingStyle.flattened.moduleName appModule
    (declaredName "com.Example" [] "Base" = .ok base ∧
      readReference (.supertype base) base.canonicalName = .ok ⟨"com", "Example", ["Base"]⟩) ∧
    (declaredName "test" [⟨"outer", .pack⟩] "Inner" = .ok inner ∧
      readReference (.supertype base) inner.canonicalName = .ok ⟨"test.outer", "Inner", []⟩) ∧
    declaredName "com.Example" [] "AppModule" = .ok appModule ∧
      readReference (.inclusion appModule) generated.canonicalName =
        .ok ⟨"com", "Example", ["WorkerInject_AppModule"]⟩ := by
  decide +kernel

end AssistedWorkers
