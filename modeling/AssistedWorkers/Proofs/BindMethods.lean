import AssistedWorkers.Proofs.FreshNames
import AssistedWorkers.Proofs.KeyOrder
import AssistedWorkers.Proofs.Names
import Mathlib.Data.List.Forall2
import Mathlib.Data.List.Nodup

/-!
# The methods of a binding module

A binding module consists of a constructor that nobody may call and of one abstract method for
each worker that it is generated for.  Nothing is asked of the workers: their classes may have
names of any characters, they may have the same key, and keys that differ may become the same
name when characters are replaced.  A method whose name is taken gets a number, and a name with a
number may in turn be the name that a later key becomes.  What keeps names apart is only that
each of them is chosen against all earlier ones, and that a fresh name is free.

* `isIdentifier_of_isBindName` — every name of a method is an identifier;
* `binds_bindMethods`, `names_bindMethods` — the methods of a list of workers with their keys;
* `source_binds_each_in_key_order` — the members of a binding module.
-/

namespace AssistedWorkers

open Java

/-! ### Names of methods -/

/-- A text that starts like the name of a binding method and goes on with what may stand inside an
identifier. -/
def IsBindName (name : String) : Prop :=
  ∃ rest, name.toList = Framework.bindMethodNameStart.toList ++ rest ∧
    ∀ c ∈ rest, isIdentifierPart c = true

/-- No reserved word starts like the name of a binding method. -/
theorem isIdentifier_of_isBindName {name : String} (h : IsBindName name) :
    isIdentifier name = true := by
  obtain ⟨rest, hname, hrest⟩ := h
  have hspelled : isSpelledLikeIdentifier name.toList = true := by
    rw [hname]
    exact isSpelledLikeIdentifier_append (by decide +kernel) hrest
  have hwords : ∀ word ∈ reservedWords,
      ¬ Framework.bindMethodNameStart.toList <+: word.toList := by
    decide
  have hfree : name ∉ reservedWords := fun hmem =>
    hwords name hmem (hname ▸ List.prefix_append _ rest)
  rw [isIdentifier, hspelled, Bool.true_and]
  simpa using hfree

/-- Whatever characters a key has, they are replaced where no identifier may hold them. -/
theorem isBindName_bindMethodName (key : String) : IsBindName (bindMethodName key) := by
  refine ⟨key.toList.map fun c => if isIdentifierPart c then c else '_', ?_, fun c hc => ?_⟩
  · rw [bindMethodName, String.toList_append, String.toList_ofList]
  · obtain ⟨d, -, rfl⟩ := List.mem_map.1 hc
    split
    · assumption
    · decide +kernel

/-- A number at its end keeps a name that of a bind method. -/
theorem IsBindName.numbered {name : String} (h : IsBindName name) (n : Nat) :
    IsBindName (numbered name n) := by
  obtain ⟨rest, hname, hrest⟩ := h
  refine ⟨rest ++ '_' :: Nat.toDigits 10 n, ?_, fun c hc => ?_⟩
  · have hnumber : (toString n).toList = Nat.toDigits 10 n := by simp
    rw [AssistedWorkers.numbered, String.toList_append, String.toList_append, hname, hnumber,
      List.append_assoc, List.append_assoc]
    rfl
  · rcases List.mem_append.1 hc with hc | hc
    · exact hrest c hc
    · rcases List.mem_cons.1 hc with rfl | hc
      · decide +kernel
      · have hdigit : c.isDigit = true := Nat.isDigit_of_mem_toDigits (by decide) (by decide) hc
        rw [isIdentifierPart, Text.isNumeric_of_isDigit hdigit, Bool.or_true]

/-- The names stay names of binding methods when they are made fresh. -/
theorem IsBindName.freshName {name : String} (h : IsBindName name) (taken : List String) :
    IsBindName (freshName taken name) := by
  rcases (freshName_cases taken name).2 with hsame | ⟨n, hnumbered⟩
  · rwa [hsame]
  · rw [hnumbered]
    exact h.numbered n

namespace BindingModule

/-! ### Methods -/

/-- An abstract method without a body that binds a worker.  Its one annotation `@StringKey` has the
key of the worker as its value and no other member, and its one parameter has the factory of the
worker as its type. -/
structure Binds (style : NestingStyle) (m : Method) (w : Worker) : Prop where
  not_constructor : m.isConstructor = false
  modifiers_eq : m.modifiers = [.abstract]
  body_eq : m.body = none
  key_eq : m.annotations.filter (·.type = .topLevelIn "dagger.multibindings" "StringKey") =
    [⟨.topLevelIn "dagger.multibindings" "StringKey",
      [("value", .text (style.bindingKey w.owner))]⟩]
  parameters_eq : m.parameters.map (·.type) = [.named (style.factoryName w.owner)]

theorem binds_bindMethod (style : NestingStyle) (name : String) (w : Worker) :
    Binds style (bindMethod style name (style.bindingKey w.owner) w) w where
  not_constructor := rfl
  modifiers_eq := rfl
  body_eq := Method.body_of_abstract List.mem_cons_self
  key_eq := by
    have hbinds : Framework.binds ≠ .topLevelIn "dagger.multibindings" "StringKey" := by decide
    have hintoMap : Framework.intoMap ≠ .topLevelIn "dagger.multibindings" "StringKey" := by decide
    have hkey : Framework.stringKey = .topLevelIn "dagger.multibindings" "StringKey" := rfl
    simp [bindMethod, AnnotationUse.marker, AnnotationUse.withText, hbinds, hintoMap, hkey]
  parameters_eq := rfl

/-- There is one method for each worker, in the order in which they are given. -/
theorem binds_bindMethods {style : NestingStyle} (taken : List String)
    {keyed : List (String × Worker)} (h : ∀ p ∈ keyed, p.1 = style.bindingKey p.2.owner) :
    List.Forall₂ (Binds style) (bindMethods style taken keyed) (keyed.map (·.2)) := by
  induction keyed generalizing taken with
  | nil => exact .nil
  | cons p keyed ih =>
    obtain ⟨key, w⟩ := p
    obtain rfl : key = style.bindingKey w.owner := h _ List.mem_cons_self
    exact .cons (binds_bindMethod style _ w) (ih _ fun q hq => h q (List.mem_cons_of_mem _ hq))

/-- The methods have different names, none of which was taken before. -/
theorem names_bindMethods (style : NestingStyle) (taken : List String)
    (keyed : List (String × Worker)) :
    ∃ names : List String, (bindMethods style taken keyed).map (·.name) = names.map some ∧
      names.Nodup ∧ ∀ name ∈ names, name ∉ taken ∧ IsBindName name := by
  induction keyed generalizing taken with
  | nil => exact ⟨[], rfl, List.nodup_nil, by simp⟩
  | cons p keyed ih =>
    obtain ⟨key, w⟩ := p
    let fresh := freshName taken (bindMethodName key)
    obtain ⟨names, hnames, hnodup, hfree⟩ := ih (fresh :: taken)
    refine ⟨fresh :: names, ?_, List.nodup_cons.2 ⟨fun hmem => ?_, hnodup⟩, fun name hname => ?_⟩
    · rw [bindMethods, List.map_cons, List.map_cons]
      exact congrArg _ hnames
    · exact (hfree fresh hmem).1 List.mem_cons_self
    · rcases List.mem_cons.1 hname with rfl | hname
      · exact ⟨(freshName_cases taken _).1, (isBindName_bindMethodName key).freshName taken⟩
      · exact ⟨fun hmem => (hfree name hname).1 (List.mem_cons_of_mem _ hmem),
          (hfree name hname).2⟩

/-- Two workers with one key, and a third one whose key ends like a numbered name. -/
example : (bindMethods .flattened [] (["A", "A", "A_2"].map fun name =>
      (name, ⟨⟨"", name, []⟩, [], ⟨"A.java", 1, none⟩⟩))).map (·.name) =
    [some "bind_A", some "bind_A_2", some "bind_A_2_2"] := by
  decide +kernel

/-- The workers in the order of their keys. -/
def sorted (style : NestingStyle) (workers : List Worker) : List Worker :=
  (keyed style workers).map (·.2)

/-- Sorting neither drops nor repeats a worker. -/
theorem sorted_perm (style : NestingStyle) (workers : List Worker) :
    (sorted style workers).Perm workers := by
  have h := (keyed_perm style workers).map Prod.snd
  simpa [sorted, Function.comp_def] using h

/-- Every worker is paired with its own key. -/
theorem key_of_mem_keyed {style : NestingStyle} {workers : List Worker} {p : String × Worker}
    (h : p ∈ keyed style workers) : p.1 = style.bindingKey p.2.owner := by
  obtain ⟨w, -, rfl⟩ := List.mem_map.1 ((keyed_perm style workers).mem_iff.1 h)
  rfl

theorem sorted_pairwise (style : NestingStyle) (workers : List Worker) :
    (sorted style workers).Pairwise fun v w =>
      style.bindingKey v.owner ≤ style.bindingKey w.owner := by
  rw [sorted, List.pairwise_map]
  refine (pairwise_key_mergeSort _).imp_of_mem fun hp hq hle => ?_
  rwa [key_of_mem_keyed hp, key_of_mem_keyed hq] at hle

/-- **The members of a binding module.**  For every module, style and marker and all workers, with
whatever names and keys, the class that is generated has a private constructor first.  After it
comes one abstract method without a body for each worker, in the order of the workers' keys by
code points, with the key of the worker as its string key and the factory of the worker as the
type of its only parameter.  The names of the methods are distinct identifiers. -/
theorem source_binds_each_in_key_order (style : NestingStyle) (marker : Option AnnotationUse)
    (workers : List Worker) (m : BindingModule) :
    ∃ (constructor : Method) (methods : List Method) (inOrder : List Worker),
      (m.source style marker workers).declaration.methods = constructor :: methods ∧
      constructor.isConstructor = true ∧ constructor.modifiers = [.priv] ∧
      constructor.body = some [] ∧ constructor.parameters = [] ∧
      inOrder.Perm workers ∧
      inOrder.Pairwise (fun v w => style.bindingKey v.owner ≤ style.bindingKey w.owner) ∧
      List.Forall₂ (Binds style) methods inOrder ∧
      (methods.map (·.name)).Nodup ∧
      ∀ method ∈ methods, ∃ name, method.name = some name ∧ isIdentifier name = true := by
  obtain ⟨names, hnames, hnodup, hbind⟩ := names_bindMethods style [] (keyed style workers)
  refine ⟨hiddenConstructor, bindMethods style [] (keyed style workers), sorted style workers,
    rfl, rfl, rfl, rfl, rfl, sorted_perm style workers, sorted_pairwise style workers,
    binds_bindMethods [] fun p => key_of_mem_keyed, ?distinct, fun method hmethod => ?identifier⟩
  case distinct =>
    rw [hnames]
    exact hnodup.map fun _ _ => Option.some.inj
  case identifier =>
    have hmem : method.name ∈ names.map some := hnames ▸ List.mem_map_of_mem hmethod
    obtain ⟨name, hname, heq⟩ := List.mem_map.1 hmem
    exact ⟨name, heq.symm, isIdentifier_of_isBindName (hbind name hname).2⟩

end BindingModule

end AssistedWorkers
