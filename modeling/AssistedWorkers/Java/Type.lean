import AssistedWorkers.Java.ClassName

/-!
# Java types

The types that may stand in a declaration: primitives, classes, classes applied to type
arguments, arrays, and the three wildcards, which make sense as type arguments only.

A type is written with the help of a function that names classes, so the same rule writes it
fully qualified and with imported names.

* `spellAll_eq_map`, `classesOfAll_eq_flatMap` — what the two functions on argument lists do;
* `compare_eq_iff` — two types compare equal only if they are the same;
* `spell_congr` — the written type depends on the names of its own classes only.
-/

namespace AssistedWorkers.Java

/-- The primitive types, in the order in which they are sorted. -/
inductive Primitive where
  | boolean
  | byte
  | short
  | int
  | long
  | char
  | float
  | double
deriving DecidableEq, Repr

namespace Primitive

/-- Every primitive type, in order. -/
def all : List Primitive :=
  [boolean, byte, short, int, long, char, float, double]

/-- The keyword that stands for the type. -/
def keyword : Primitive → String
  | boolean => "boolean"
  | byte => "byte"
  | short => "short"
  | int => "int"
  | long => "long"
  | char => "char"
  | float => "float"
  | double => "double"

/-- The primitive type that a keyword stands for. -/
def ofKeyword? (keyword : String) : Option Primitive :=
  all.find? (·.keyword == keyword)

/-- The class that wraps a value of the type. -/
def boxed : Primitive → ClassName
  | boolean => .topLevelIn "java.lang" "Boolean"
  | byte => .topLevelIn "java.lang" "Byte"
  | short => .topLevelIn "java.lang" "Short"
  | int => .topLevelIn "java.lang" "Integer"
  | long => .topLevelIn "java.lang" "Long"
  | char => .topLevelIn "java.lang" "Character"
  | float => .topLevelIn "java.lang" "Float"
  | double => .topLevelIn "java.lang" "Double"

/-- The place of the type in the order. -/
def rank (p : Primitive) : Nat :=
  all.idxOf p

instance : Ord Primitive where
  compare p q := compare p.rank q.rank

/-- Each primitive type is found by its keyword. -/
theorem ofKeyword?_keyword (p : Primitive) : ofKeyword? p.keyword = some p := by
  cases p <;> decide

/-- No two primitive types have the same place in their order. -/
theorem rank_injective {p q : Primitive} (h : p.rank = q.rank) : p = q := by
  revert h; cases p <;> cases q <;> decide

end Primitive

/-- A Java type. -/
inductive JavaType where
  /-- A primitive type such as `long`. -/
  | primitive (p : Primitive)
  /-- A class without type arguments. -/
  | named (c : ClassName)
  /-- A generic class with its type arguments in order. -/
  | parameterized (raw : ClassName) (arguments : List JavaType)
  /-- An array of the component type. -/
  | array (component : JavaType)
  /-- The wildcard without a bound. -/
  | unbounded
  /-- The wildcard for the type and its subtypes. -/
  | upperBounded (bound : JavaType)
  /-- The wildcard for the type and its supertypes. -/
  | lowerBounded (bound : JavaType)
deriving Repr

namespace JavaType

/-- A primitive type becomes its wrapper class; another type stays. -/
def boxed : JavaType → JavaType
  | primitive p => named p.boxed
  | other => other

/-- Whether the type is primitive. -/
def isPrimitive : JavaType → Bool
  | primitive _ => true
  | _ => false

/-- The class of a type that is a class, with or without arguments. -/
def rawClass? : JavaType → Option ClassName
  | named c => some c
  | parameterized raw _ => some raw
  | _ => none

/-- The type argument of `raw` applied to exactly one type. -/
def soleArgumentOf? (raw : ClassName) : JavaType → Option JavaType
  | parameterized actual [argument] => if actual = raw then some argument else none
  | _ => none

mutual

/-- The type as it is written, with every class named by `nameOf`. -/
def spell (nameOf : ClassName → String) : JavaType → String
  | primitive p => p.keyword
  | named c => nameOf c
  | parameterized raw arguments =>
    nameOf raw ++ "<" ++ ", ".intercalate (spellAll nameOf arguments) ++ ">"
  | array component => spell nameOf component ++ "[]"
  | unbounded => "?"
  | upperBounded bound => "? extends " ++ spell nameOf bound
  | lowerBounded bound => "? super " ++ spell nameOf bound

/-- The types of a list as they are written, in order. -/
def spellAll (nameOf : ClassName → String) : List JavaType → List String
  | [] => []
  | t :: ts => spell nameOf t :: spellAll nameOf ts

end

/-- The type with every class fully qualified. -/
def display (t : JavaType) : String :=
  t.spell ClassName.canonicalName

mutual

/-- The classes a type refers to, from left to right as they are written. -/
def classes : JavaType → List ClassName
  | primitive _ => []
  | named c => [c]
  | parameterized raw arguments => raw :: classesOfAll arguments
  | array component => classes component
  | unbounded => []
  | upperBounded bound => classes bound
  | lowerBounded bound => classes bound

/-- The classes the types of a list refer to. -/
def classesOfAll : List JavaType → List ClassName
  | [] => []
  | t :: ts => classes t ++ classesOfAll ts

end

/-- The place of a type's form in the order of types. -/
def form : JavaType → Nat
  | primitive _ => 0
  | named _ => 1
  | parameterized _ _ => 2
  | array _ => 3
  | unbounded => 4
  | upperBounded _ => 5
  | lowerBounded _ => 6

mutual

/-- Types are ordered by their form first and by their parts, from left to right, after that. -/
def compareTypes : JavaType → JavaType → Ordering
  | primitive p, primitive q => compare p q
  | named c, named d => compare c d
  | parameterized raw ts, parameterized raw' us => (compare raw raw').then (compareLists ts us)
  | array t, array u => compareTypes t u
  | unbounded, unbounded => .eq
  | upperBounded t, upperBounded u => compareTypes t u
  | lowerBounded t, lowerBounded u => compareTypes t u
  | t, u => compare t.form u.form

/-- Lists of types are ordered by the first types that differ; a list comes before a longer one
that starts with it. -/
def compareLists : List JavaType → List JavaType → Ordering
  | [], [] => .eq
  | [], _ :: _ => .lt
  | _ :: _, [] => .gt
  | t :: ts, u :: us => (compareTypes t u).then (compareLists ts us)

end

instance : Ord JavaType where
  compare := compareTypes

@[simp] theorem spellAll_eq_map (nameOf : ClassName → String) (ts : List JavaType) :
    spellAll nameOf ts = ts.map (spell nameOf) := by
  induction ts with
  | nil => simp [spellAll]
  | cons t ts ih => simp [spellAll, ih]

@[simp] theorem classesOfAll_eq_flatMap (ts : List JavaType) :
    classesOfAll ts = ts.flatMap classes := by
  induction ts with
  | nil => simp [classesOfAll]
  | cons t ts ih => simp [classesOfAll, ih]

mutual

/-- A type compares equal to itself. -/
theorem compareTypes_self : ∀ t : JavaType, compareTypes t t = .eq
  | primitive p => by
    rw [compareTypes]
    exact Nat.compare_eq_eq.2 rfl
  | named c => by simp [compareTypes, ClassName.compare_eq_iff]
  | parameterized raw ts => by
    simp [compareTypes, ClassName.compare_eq_iff, compareLists_self ts]
  | array t => by simp [compareTypes, compareTypes_self t]
  | unbounded => by simp [compareTypes]
  | upperBounded t => by simp [compareTypes, compareTypes_self t]
  | lowerBounded t => by simp [compareTypes, compareTypes_self t]

/-- A list of types compares equal to itself. -/
theorem compareLists_self : ∀ ts : List JavaType, compareLists ts ts = .eq
  | [] => by simp [compareLists]
  | t :: ts => by
    simp [compareLists, compareTypes_self t, compareLists_self ts]

end

mutual

/-- Types that compare equal are equal. -/
theorem eq_of_compareTypes : ∀ (t u : JavaType), compareTypes t u = .eq → t = u
  | primitive p, u, h => by
    cases u with
    | primitive q =>
      rw [compareTypes] at h
      exact congrArg _ (Primitive.rank_injective (Nat.compare_eq_eq.1 h))
    | _ => simp [compareTypes, form] at h
  | named c, u, h => by
    cases u with
    | named d => exact congrArg _ (ClassName.compare_eq_iff.1 (by rwa [compareTypes] at h))
    | _ => simp [compareTypes, form] at h
  | parameterized raw ts, u, h => by
    cases u with
    | parameterized raw' us =>
      rw [compareTypes, Ordering.then_eq_eq, ClassName.compare_eq_iff] at h
      rw [h.1, eq_of_compareLists ts us h.2]
    | _ => simp [compareTypes, form] at h
  | array t, u, h => by
    cases u with
    | array u => exact congrArg _ (eq_of_compareTypes t u (by rwa [compareTypes] at h))
    | _ => simp [compareTypes, form] at h
  | unbounded, u, h => by
    cases u with
    | unbounded => rfl
    | _ => simp [compareTypes, form] at h
  | upperBounded t, u, h => by
    cases u with
    | upperBounded u => exact congrArg _ (eq_of_compareTypes t u (by rwa [compareTypes] at h))
    | _ => simp [compareTypes, form] at h
  | lowerBounded t, u, h => by
    cases u with
    | lowerBounded u => exact congrArg _ (eq_of_compareTypes t u (by rwa [compareTypes] at h))
    | _ => simp [compareTypes, form] at h

/-- Lists of types that compare equal are equal. -/
theorem eq_of_compareLists : ∀ (ts us : List JavaType), compareLists ts us = .eq → ts = us
  | [], [], _ => rfl
  | [], _ :: _, h | _ :: _, [], h => by simp [compareLists] at h
  | t :: ts, u :: us, h => by
    rw [compareLists, Ordering.then_eq_eq] at h
    rw [eq_of_compareTypes t u h.1, eq_of_compareLists ts us h.2]

end

/-- Only equal types compare equal. -/
theorem compare_eq_iff {t u : JavaType} : compareTypes t u = .eq ↔ t = u :=
  ⟨eq_of_compareTypes t u, fun h => h ▸ compareTypes_self t⟩

instance : DecidableEq JavaType := fun t u =>
  decidable_of_iff (compareTypes t u = .eq) compare_eq_iff

mutual

/-- The written type depends on the names of its own classes only. -/
theorem spell_congr {nameOf nameOf' : ClassName → String} :
    ∀ t : JavaType, (∀ c ∈ t.classes, nameOf c = nameOf' c) → t.spell nameOf = t.spell nameOf'
  | primitive _, _ => by simp [spell]
  | named c, h => by simpa [spell, classes] using h
  | parameterized raw ts, h => by
    rw [classes] at h
    rw [spell, spell, h raw (List.mem_cons_self ..),
      spellAll_congr ts fun c hc => h c (List.mem_cons_of_mem _ hc)]
  | array t, h => by
    rw [classes] at h
    rw [spell, spell, spell_congr t h]
  | unbounded, _ => by simp [spell]
  | upperBounded t, h => by
    rw [classes] at h
    rw [spell, spell, spell_congr t h]
  | lowerBounded t, h => by
    rw [classes] at h
    rw [spell, spell, spell_congr t h]

/-- The written types of a list depend on the names of their own classes only. -/
theorem spellAll_congr {nameOf nameOf' : ClassName → String} :
    ∀ ts : List JavaType, (∀ c ∈ classesOfAll ts, nameOf c = nameOf' c) →
      spellAll nameOf ts = spellAll nameOf' ts
  | [], _ => by simp [spellAll]
  | t :: ts, h => by
    rw [classesOfAll] at h
    rw [spellAll, spellAll, spell_congr t fun c hc => h c (List.mem_append_left _ hc),
      spellAll_congr ts fun c hc => h c (List.mem_append_right _ hc)]

end

end JavaType

end AssistedWorkers.Java
