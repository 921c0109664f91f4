import AssistedWorkers.Proofs.Names
import AssistedWorkers.Proofs.TypeGrammar

/-!
# Canonical form

A class is written as the segments of its package and the names of its chain, with dots between
all of them.  Where the package ends is not written: whoever reads the name takes the first
segment that starts with a capital for the outermost class, and the last segment when there is
no capital.  The classes for which this is right are in canonical form, and no others come out
of reading a type.

* `ofSegments_eq` — where a dotted name is cut;
* `names_ofSegments`, `inCanonicalForm_ofSegments` — reading keeps all names, in canonical form;
* `ofSegments_of_inCanonicalForm` — a class in canonical form is the one that its names are read
  as;
* `wellFormed_of_read`, `inCanonicalForm_of_read` — in a type that is read every class is in
  canonical form, however deep it stands;
* `read_canonicalName` — a class in canonical form is read from its canonical name.
-/

namespace AssistedWorkers.Java

open AssistedWorkers.Text

/-! ### Names of a class -/

/-- What stands between the dots of a package; nothing for the default package. -/
def packageSegments (package : String) : List String :=
  if package = "" then [] else (package.toList.splitOn '.').map String.ofList

/-- A package is the join of its segments. -/
theorem intercalate_packageSegments (package : String) :
    ".".intercalate (packageSegments package) = package := by
  unfold packageSegments
  split
  · simp [*]
  · rw [← String.toList_inj, String.toList_intercalate, List.map_map]
    simp [Function.comp_def]

/-- Segments that are not empty and have no dots are found again in their join. -/
theorem packageSegments_intercalate {segments : List String}
    (h : ∀ segment ∈ segments, segment ≠ "" ∧ '.' ∉ segment.toList) :
    packageSegments (".".intercalate segments) = segments := by
  cases segments with
  | nil => simp [packageSegments]
  | cons first others =>
    have hfirst : first.toList ≠ [] := by simpa using (h first List.mem_cons_self).1
    have hne : ".".intercalate (first :: others) ≠ "" := by
      rw [← String.toList_inj.ne, String.toList_intercalate]
      cases others with
      | nil => simpa using hfirst
      | cons second others => simp [List.intercalate_cons_cons, hfirst]
    rw [packageSegments, if_neg hne, String.toList_intercalate]
    have hsplit : (".".toList.intercalate ((first :: others).map String.toList)).splitOn '.' =
        (first :: others).map String.toList := by
      refine List.splitOn_intercalate '.' (fun text htext => ?_) (by simp)
      obtain ⟨segment, hsegment, rfl⟩ := List.mem_map.1 htext
      exact (h segment hsegment).2
    rw [hsplit, List.map_map]
    simp [Function.comp_def]

/-- For a package that may be declared no segment is empty. -/
theorem packageSegments_eq_segments {package : String} (h : isPackageName package = true) :
    packageSegments package = SourceFile.segments package := by
  by_cases hne : package = ""
  · simp [packageSegments, SourceFile.segments, hne]
  · rw [packageSegments, if_neg hne, (SourceFile.segments_of_isPackageName h hne).1]

namespace ClassName

/-- The names that a class is written with: the segments of its package, and then its chain. -/
def names (c : ClassName) : List String :=
  packageSegments c.package ++ c.simpleNames

/-- The canonical name joins all names. -/
theorem canonicalName_eq_join (c : ClassName) : c.canonicalName = ".".intercalate c.names := by
  rw [canonicalName, qualifiedWith, names]
  by_cases hne : c.package = ""
  · simp [hne, packageSegments]
  · have hsegments : packageSegments c.package ≠ [] := by
      simp [packageSegments, hne]
    rw [String.intercalate_append_of_ne_nil hsegments c.simpleNames_ne_nil,
      intercalate_packageSegments]
    simp [hne]

/-- The names of a class that may be declared are identifiers. -/
theorem Declarable.isIdentifier_of_mem_names {c : ClassName} (h : c.Declarable) {name : String}
    (hname : name ∈ c.names) : isIdentifier name = true := by
  rw [ClassName.names, packageSegments_eq_segments h.package] at hname
  rcases List.mem_append.1 hname with hname | hname
  · exact SourceFile.isIdentifier_of_mem_segments h.package hname
  · exact h.names name hname

end ClassName

/-! ### Cutting a dotted name -/

/-- The cut between package and chain is found where it was made. -/
theorem packageLength_append {package inner : List String} {outermost : String}
    (hpackage : ∀ segment ∈ package, startsWithCapital segment = false)
    (hchain : inner = [] ∨ startsWithCapital outermost = true) :
    packageLength (package ++ outermost :: inner) = package.length := by
  have hnone : package.findIdx? startsWithCapital = none :=
    List.findIdx?_eq_none_iff.2 hpackage
  rw [packageLength, List.findIdx?_append, hnone, Option.none_or, List.findIdx?_cons]
  by_cases hcapital : startsWithCapital outermost = true
  · simp [hcapital]
  · obtain rfl := hchain.resolve_right hcapital
    simp [hcapital]

/-- A dotted name is cut before the first capital, or else before the last segment. -/
theorem exists_cut {segments : List String} (hne : segments ≠ []) :
    ∃ package outermost inner, segments = package ++ outermost :: inner ∧
      (∀ segment ∈ package, startsWithCapital segment = false) ∧
      (inner = [] ∨ startsWithCapital outermost = true) := by
  induction segments with
  | nil => exact absurd rfl hne
  | cons first others ih =>
    by_cases hcapital : startsWithCapital first = true
    · exact ⟨[], first, others, rfl, by simp, Or.inr hcapital⟩
    · by_cases hothers : others = []
      · exact ⟨[], first, others, rfl, by simp, Or.inl hothers⟩
      · obtain ⟨package, outermost, inner, rfl, hpackage, hchain⟩ := ih hothers
        refine ⟨first :: package, outermost, inner, rfl, ?_, hchain⟩
        intro segment hsegment
        rcases List.mem_cons.1 hsegment with rfl | hsegment
        · simpa using hcapital
        · exact hpackage segment hsegment

namespace ClassName

/-- Segments are put together to the class that they were taken from. -/
theorem ofSegments_eq {first outermost : String} {others package inner : List String}
    (h : first :: others = package ++ outermost :: inner)
    (hpackage : ∀ segment ∈ package, startsWithCapital segment = false)
    (hchain : inner = [] ∨ startsWithCapital outermost = true) :
    ofSegments first others = ⟨".".intercalate package, outermost, inner⟩ := by
  rw [ofSegments, h, packageLength_append hpackage hchain]
  simp

/-- A class whose dotted name is cut where its package ends. -/
structure InCanonicalForm (c : ClassName) : Prop where
  typeNames : ∀ name ∈ c.names, isTypeName name = true
  package : ∀ segment ∈ packageSegments c.package, startsWithCapital segment = false
  chain : c.inner = [] ∨ startsWithCapital c.outermost = true

end ClassName

/-- All characters of a name may stand inside a name. -/
theorem isNamePart_of_mem_typeName {name : String} (h : isTypeName name = true) {c : Char}
    (hc : c ∈ name.toList) : isNamePart c = true := by
  obtain ⟨d, rest, hname, hd, hrest⟩ := TypeGrammar.isTypeName_iff.1 h
  rw [hname] at hc
  rcases List.mem_cons.1 hc with rfl | hc
  · exact TypeGrammar.isNamePart_of_isNameStart hd
  · exact hrest c hc

/-- A name is a segment: it is not empty and has no dot in it. -/
theorem segment_of_isTypeName {name : String} (h : isTypeName name = true) :
    name ≠ "" ∧ '.' ∉ name.toList := by
  constructor
  · intro heq
    obtain rfl := heq
    exact absurd h (by decide)
  · intro hdot
    exact absurd (isNamePart_of_mem_typeName h hdot) (by decide)

namespace ClassName

section

variable {first : String} {others : List String}
  (h : ∀ name ∈ first :: others, isTypeName name = true)
include h

/-- Reading a dotted name keeps its names. -/
theorem names_ofSegments : (ofSegments first others).names = first :: others := by
  obtain ⟨package, outermost, inner, hcut, hpackage, hchain⟩ :=
    exists_cut (List.cons_ne_nil first others)
  rw [hcut] at h
  rw [ofSegments_eq hcut hpackage hchain, hcut, names, packageSegments_intercalate]
  · rfl
  · exact fun segment hsegment => segment_of_isTypeName (h _ (List.mem_append_left _ hsegment))

/-- What a dotted name is read as is in canonical form. -/
theorem inCanonicalForm_ofSegments : (ofSegments first others).InCanonicalForm := by
  refine ⟨fun name hname => h name (names_ofSegments h ▸ hname), ?_, ?_⟩
  all_goals
    obtain ⟨package, outermost, inner, hcut, hpackage, hchain⟩ :=
      exists_cut (List.cons_ne_nil first others)
    rw [hcut] at h
    rw [ofSegments_eq hcut hpackage hchain]
  · rw [packageSegments_intercalate fun segment hsegment =>
      segment_of_isTypeName (h _ (List.mem_append_left _ hsegment))]
    exact hpackage
  · exact hchain

end

/-- **Canonical form**: a class is what its names are read as. -/
theorem ofSegments_of_inCanonicalForm {c : ClassName} (h : c.InCanonicalForm) {first : String}
    {others : List String} (hnames : c.names = first :: others) : ofSegments first others = c := by
  rw [ofSegments_eq hnames.symm h.package h.chain, intercalate_packageSegments]

end ClassName

/-! ### Types that are read -/

namespace JavaType

mutual

/-- A type that its text can be read as. -/
inductive WellFormed : JavaType → Prop where
  | primitive (p : Primitive) : WellFormed (.primitive p)
  | named {c : ClassName} (hc : c.InCanonicalForm)
      (hkeyword : ∀ p : Primitive, c.names ≠ [p.keyword]) : WellFormed (.named c)
  | parameterized {raw : ClassName} {arguments : List JavaType} (hraw : raw.InCanonicalForm)
      (hne : arguments ≠ []) (harguments : ∀ t ∈ arguments, WellFormedArgument t) :
      WellFormed (.parameterized raw arguments)
  | array {component : JavaType} (h : WellFormed component) : WellFormed (.array component)

/-- A type that its text can be read as inside type arguments, where wildcards may stand. -/
inductive WellFormedArgument : JavaType → Prop where
  | unbounded : WellFormedArgument .unbounded
  | upperBounded {bound : JavaType} (h : WellFormed bound) :
      WellFormedArgument (.upperBounded bound)
  | lowerBounded {bound : JavaType} (h : WellFormed bound) :
      WellFormedArgument (.lowerBounded bound)
  | type {t : JavaType} (h : WellFormed t) : WellFormedArgument t

end

/-- Arrays of any number of dimensions are well-formed over a well-formed type. -/
theorem WellFormed.arrayOf {component : JavaType} (h : WellFormed component)
    (dimensions : List Unit) : WellFormed (arrayOf component dimensions) := by
  unfold JavaType.arrayOf
  induction dimensions generalizing component with
  | nil => exact h
  | cons _ _ ih => exact ih h.array

/-- A primitive type is found by its keyword only. -/
theorem keyword_of_ofKeyword? {text : String} {p : Primitive}
    (h : Primitive.ofKeyword? text = some p) : p.keyword = text := by
  simpa using List.find?_some h

/-- A dotted name is read as a well-formed type. -/
theorem wellFormed_ofSegments_none {first : String} {others : List String}
    (h : ∀ name ∈ first :: others, isTypeName name = true) :
    WellFormed (ofSegments first others none) := by
  have hnamed (hkeyword : others = [] → Primitive.ofKeyword? first = none) :
      WellFormed (.named (.ofSegments first others)) := by
    refine .named (ClassName.inCanonicalForm_ofSegments h) fun p hp => ?_
    rw [ClassName.names_ofSegments h] at hp
    obtain ⟨rfl, rfl⟩ := List.cons.inj hp
    exact absurd (hkeyword rfl) (by simp [Primitive.ofKeyword?_keyword])
  cases others with
  | cons second others => exact hnamed (by simp)
  | nil =>
    cases hp : Primitive.ofKeyword? first with
    | none => simpa [ofSegments, hp] using hnamed fun _ => hp
    | some p => simpa [ofSegments, hp] using WellFormed.primitive p

end JavaType

namespace TypeGrammar

open JavaType

/-- The segments of a dotted name are names. -/
theorem isTypeName_of_separated {text : List Char} {names : List String}
    (h : Separated (Padded ['.']) DerivesName text names) :
    ∀ name ∈ names, isTypeName name = true := by
  induction h with
  | one h => simpa using h.1
  | more hfront _ _ ih => simpa using ⟨hfront.1, ih⟩

mutual

/-- What has a derivation is well-formed. -/
theorem wellFormed_of_derivesType {text : List Char} {t : JavaType} :
    DerivesType text t → WellFormed t
  | .plain hnames _ => (wellFormed_ofSegments_none (isTypeName_of_separated hnames)).arrayOf _
  | .applied hnames harguments _ => by
    have h := wellFormed_of_derivesArguments harguments
    have hraw := ClassName.inCanonicalForm_ofSegments (isTypeName_of_separated hnames)
    exact (WellFormed.parameterized hraw h.1 h.2).arrayOf _

/-- What is read between angle brackets is a list of well-formed arguments with at least one. -/
theorem wellFormed_of_derivesArguments {text : List Char} {ts : List JavaType} :
    DerivesArguments text ts → ts ≠ [] ∧ ∀ t ∈ ts, WellFormedArgument t
  | .mk _ hbody _ => wellFormed_of_separated hbody

theorem wellFormed_of_separated {text : List Char} {ts : List JavaType} :
    Separated (Padded [',']) DerivesArgument text ts → ts ≠ [] ∧ ∀ t ∈ ts, WellFormedArgument t
  | .one h => by simpa using wellFormed_of_derivesArgument h
  | .more h _ hback => by
    simpa using ⟨wellFormed_of_derivesArgument h, (wellFormed_of_separated hback).2⟩

/-- What is read as an argument is well-formed, the bound of a wildcard included. -/
theorem wellFormed_of_derivesArgument {text : List Char} {t : JavaType} :
    DerivesArgument text t → WellFormedArgument t
  | .unbounded _ => .unbounded
  | .upperBounded _ _ h => .upperBounded (wellFormed_of_derivesType h)
  | .lowerBounded _ _ h => .lowerBounded (wellFormed_of_derivesType h)
  | .type h => .type (wellFormed_of_derivesType h)

end

/-- The canonical name of a class has the names of the class between its dots. -/
theorem separated_canonicalName {c : ClassName} (h : c.InCanonicalForm) :
    Separated (Padded ['.']) DerivesName c.canonicalName.toList c.names := by
  have hne : c.names ≠ [] := by simp [ClassName.names, ClassName.simpleNames]
  have hdot : Padded ['.'] ".".toList := padded_self _
  have hname : ∀ name ∈ c.names, DerivesName (id name).toList name :=
    fun name hname => ⟨h.typeNames name hname, padded_self _⟩
  have hnames := separated_intercalate hdot hne hname
  rwa [List.map_id, ← ClassName.canonicalName_eq_join] at hnames

/-- The canonical name of a class derives the class, unless it is the keyword of a primitive
type. -/
theorem derivesType_canonicalName {c : ClassName} (h : c.InCanonicalForm)
    (hkeyword : ∀ p : Primitive, c.names ≠ [p.keyword]) :
    DerivesType c.canonicalName.toList (.named c) := by
  obtain ⟨first, others, hnames⟩ := List.exists_cons_of_ne_nil (l := c.names)
    (by simp [ClassName.names, ClassName.simpleNames])
  have htype : ofSegments first others none = .named c := by
    rw [← ClassName.ofSegments_of_inCanonicalForm h hnames]
    cases others with
    | cons second others => rfl
    | nil =>
      cases hp : Primitive.ofKeyword? first with
      | none => simp [ofSegments, hp]
      | some p => exact absurd (keyword_of_ofKeyword? hp ▸ hnames) (hkeyword p)
  have hderives := DerivesType.plain (hnames ▸ separated_canonicalName h) .nil
  rw [List.append_nil, htype] at hderives
  exact hderives

end TypeGrammar

namespace JavaType

mutual

/-- All classes in a well-formed type are in canonical form. -/
theorem inCanonicalForm_of_wellFormed {t : JavaType} :
    WellFormed t → ∀ c ∈ t.classes, c.InCanonicalForm
  | .primitive p => by simp [classes]
  | .named hc _ => by simpa [classes] using hc
  | .parameterized hraw _ harguments => by
    intro c hc
    rw [classes, classesOfAll_eq_flatMap] at hc
    rcases List.mem_cons.1 hc with rfl | hc
    · exact hraw
    · obtain ⟨t, ht, hc⟩ := List.mem_flatMap.1 hc
      exact inCanonicalForm_of_wellFormedArgument (harguments t ht) c hc
  | .array h => by
    rw [classes]
    exact inCanonicalForm_of_wellFormed h

theorem inCanonicalForm_of_wellFormedArgument {t : JavaType} :
    WellFormedArgument t → ∀ c ∈ t.classes, c.InCanonicalForm
  | .unbounded => by simp [classes]
  | .upperBounded h => by
    rw [classes]
    exact inCanonicalForm_of_wellFormed h
  | .lowerBounded h => by
    rw [classes]
    exact inCanonicalForm_of_wellFormed h
  | .type h => inCanonicalForm_of_wellFormed h

end

/-- A type that is read is well-formed. -/
theorem wellFormed_of_read {text : String} {t : JavaType} (h : read text = .ok t) :
    WellFormed t := by
  obtain ⟨-, body, -, -, hbody, -⟩ := TypeGrammar.read_eq_ok_iff.1 h
  exact TypeGrammar.wellFormed_of_derivesType hbody

/-- Every class in a type that is read is in canonical form. -/
theorem inCanonicalForm_of_read {text : String} {t : JavaType} (h : read text = .ok t) :
    ∀ c ∈ t.classes, c.InCanonicalForm :=
  inCanonicalForm_of_wellFormed (wellFormed_of_read h)

/-- A class in canonical form is read from its canonical name, unless that is the keyword of a
primitive type. -/
theorem read_canonicalName {c : ClassName} (h : c.InCanonicalForm)
    (hkeyword : ∀ p : Primitive, c.names ≠ [p.keyword]) :
    read c.canonicalName = .ok (.named c) :=
  TypeGrammar.read_eq_ok_iff.2 (TypeGrammar.derivesType_canonicalName h hkeyword).derives

/-- The class of a reference is one of the classes in the type that it was read as. -/
theorem mem_classes_of_rawClass? {t : JavaType} {c : ClassName} (h : t.rawClass? = some c) :
    c ∈ t.classes := by
  cases t <;> simp [rawClass?] at h <;> simp [classes, h]

end JavaType

end AssistedWorkers.Java
