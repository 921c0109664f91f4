import AssistedWorkers.Java.ClassName

/-!
# Texts that name classes

Source is written with the help of a function that names classes.  What is written then is a text
that depends on this function, and `Writes` says which classes it names, and in which order: the
text can be taken apart into fixed words and names of classes, the same pieces for all functions.

The pieces are not part of the text, so there might be several ways to take it apart.  They all
name the same classes in the same order, because a function may give any names: the place where the
first name starts is the first place that a change of all names can change, and what starts there
shows whose name it is.

* `Writes.append`, `Writes.join`, `Writes.intercalate` — what a composed text names;
* `Writes.congr` — functions that agree on the named classes write the same text;
* `Writes.unique` — the named classes are determined by the text.
-/

namespace AssistedWorkers.Java

/-- A piece of a text: fixed words, or the name of a class. -/
inductive Piece where
  | words (text : String)
  | name (c : ClassName)

namespace Piece

/-- The piece as it is written. -/
def write (nameOf : ClassName → String) : Piece → String
  | words text => text
  | name c => nameOf c

/-- The class that the piece names. -/
def named? : Piece → Option ClassName
  | words _ => none
  | name c => some c

end Piece

/-- The text, which depends on how classes are named, is made of fixed words and of the names of
these classes in this order. -/
def Writes (text : (ClassName → String) → String) (classes : List ClassName) : Prop :=
  ∃ pieces : List Piece,
    (∀ nameOf, text nameOf = String.join (pieces.map (Piece.write nameOf))) ∧
      pieces.filterMap Piece.named? = classes

namespace Writes

variable {text text' : (ClassName → String) → String} {classes classes' : List ClassName}

/-! ### Composed texts -/

/-- Fixed words name no class. -/
theorem words (words : String) : Writes (fun _ => words) [] :=
  ⟨[.words words], fun _ => by simp [Piece.write], rfl⟩

/-- The name of a class names the class. -/
theorem name (c : ClassName) : Writes (fun nameOf => nameOf c) [c] :=
  ⟨[.name c], fun _ => by simp [Piece.write], rfl⟩

theorem append (h : Writes text classes) (h' : Writes text' classes') :
    Writes (fun nameOf => text nameOf ++ text' nameOf) (classes ++ classes') := by
  obtain ⟨pieces, hpieces, rfl⟩ := h
  obtain ⟨pieces', hpieces', rfl⟩ := h'
  refine ⟨pieces ++ pieces', fun nameOf => ?_, List.filterMap_append⟩
  simp only [hpieces, hpieces', List.map_append, String.join_append]

/-- Fixed words behind a text. -/
theorem followedBy (h : Writes text classes) (words : String) :
    Writes (fun nameOf => text nameOf ++ words) classes := by
  simpa using h.append (.words words)

/-- Fixed words in front of a text. -/
theorem after (words : String) (h : Writes text classes) :
    Writes (fun nameOf => words ++ text nameOf) classes :=
  (Writes.words words).append h

section

variable {α : Type} {write : α → (ClassName → String) → String} {classesOf : α → List ClassName}

/-- Texts one after the other. -/
theorem join {as : List α} (h : ∀ a ∈ as, Writes (write a) (classesOf a)) :
    Writes (fun nameOf => String.join (as.map (write · nameOf))) (as.flatMap classesOf) := by
  induction as with
  | nil => exact .words ""
  | cons a as ih =>
    have hothers := ih fun b hb => h b (List.mem_cons_of_mem _ hb)
    simpa [String.join_cons] using (h a List.mem_cons_self).append hothers

/-- Texts with a separator between two of them. -/
theorem intercalate (separator : String) {as : List α}
    (h : ∀ a ∈ as, Writes (write a) (classesOf a)) :
    Writes (fun nameOf => separator.intercalate (as.map (write · nameOf)))
      (as.flatMap classesOf) := by
  induction as with
  | nil => exact .words ""
  | cons a as ih =>
    have hfirst := h a List.mem_cons_self
    cases as with
    | nil => simpa using hfirst
    | cons b as =>
      have hothers := ih fun c hc => h c (List.mem_cons_of_mem _ hc)
      have hall := (hfirst.followedBy separator).append hothers
      simpa only [List.map_cons, List.flatMap_cons,
        String.intercalate_cons_of_ne_nil (List.cons_ne_nil _ _)] using hall

end

/-! ### What determines what -/

/-- The text depends on the names of the classes that it names only. -/
theorem congr (h : Writes text classes) {nameOf nameOf' : ClassName → String}
    (hagree : ∀ c ∈ classes, nameOf c = nameOf' c) : text nameOf = text nameOf' := by
  obtain ⟨pieces, hpieces, rfl⟩ := h
  rw [hpieces, hpieces]
  congr 1
  refine List.map_congr_left fun piece hpiece => ?_
  cases piece with
  | words text => rfl
  | name c => exact hagree c (List.mem_filterMap.2 ⟨_, hpiece, rfl⟩)

/-- A text that names a class starts with fixed words and the name of the first one. -/
private theorem exists_first {c : ClassName} (h : Writes text (c :: classes)) :
    ∃ front rest, Writes rest classes ∧
      ∀ nameOf, text nameOf = front ++ nameOf c ++ rest nameOf := by
  obtain ⟨pieces, hpieces, hnamed⟩ := h
  induction pieces generalizing text with
  | nil => simp at hnamed
  | cons piece pieces ih =>
    cases piece with
    | words words =>
      obtain ⟨front, rest, hrest, htext⟩ := ih (fun nameOf => rfl) hnamed
      refine ⟨words ++ front, rest, hrest, fun nameOf => ?_⟩
      rw [hpieces, List.map_cons, String.join_cons, htext]
      simp [Piece.write, String.append_assoc]
    | name d =>
      obtain ⟨rfl, hclasses⟩ := List.cons.inj hnamed
      refine ⟨"", _, ⟨pieces, fun _ => rfl, hclasses⟩, fun nameOf => ?_⟩
      rw [hpieces, List.map_cons, String.join_cons]
      simp [Piece.write]

/-- What stands at the place of a name that has one letter. -/
private theorem getElem?_name (front back : String) (letter : Char) :
    (front ++ String.singleton letter ++ back).toList[front.toList.length]? = some letter := by
  simp

/-- Before its first name a text has no fewer fixed words than any fixed words it starts with. -/
private theorem length_le_of_first {c : ClassName} {front front' : String}
    {rest rest' : (ClassName → String) → String}
    (h : ∀ nameOf, front ++ nameOf c ++ rest nameOf = front' ++ rest' nameOf) :
    front'.toList.length ≤ front.toList.length := by
  rcases Nat.lt_or_ge front.toList.length front'.toList.length with hless | hle
  · -- The letter where the name starts is one of the fixed words, so it is any letter.
    have hfixed : ∀ letter : Char, some letter = front'.toList[front.toList.length]? := by
      intro letter
      have hplace := getElem?_name front (rest fun _ => String.singleton letter) letter
      rw [h fun _ => String.singleton letter, String.toList_append,
        List.getElem?_append_left hless] at hplace
      exact hplace.symm
    exact absurd ((hfixed 'a').trans (hfixed 'b').symm) (by decide)
  · exact hle

/-- A text without names does not name a class. -/
private theorem not_cons_of_nil {c : ClassName} (h : Writes text []) :
    ¬ Writes text (c :: classes) := by
  intro hnames
  obtain ⟨front, rest, -, hfirst⟩ := exists_first hnames
  have hwords : ∀ nameOf, front ++ nameOf c ++ rest nameOf = text (fun _ => "a") ++ "" := by
    intro nameOf
    rw [← hfirst, String.append_empty]
    exact h.congr (by simp)
  have hlength := length_le_of_first hwords
  have hletter : "a".toList.length = 1 := by decide
  rw [hfirst, String.toList_append, String.toList_append, List.length_append,
    List.length_append] at hlength
  omega

/-- Two texts that name a class each and are the same for all names name the same class first, and
are the same after it. -/
private theorem first_unique {c c' : ClassName} {front front' : String}
    {rest rest' : (ClassName → String) → String}
    (h : ∀ nameOf, front ++ nameOf c ++ rest nameOf = front' ++ nameOf c' ++ rest' nameOf) :
    c = c' ∧ rest = rest' := by
  have hle := length_le_of_first fun nameOf => (h nameOf).trans (String.append_assoc ..)
  have hge := length_le_of_first fun nameOf => (h nameOf).symm.trans (String.append_assoc ..)
  obtain rfl : front = front' := by
    have hchars := congrArg String.toList (h fun _ => "")
    simp only [String.toList_append, List.append_assoc] at hchars
    exact String.toList_inj.1 (List.append_inj hchars (Nat.le_antisymm hge hle)).1
  have hnames : ∀ nameOf, nameOf c ++ rest nameOf = nameOf c' ++ rest' nameOf := by
    intro nameOf
    have hwhole := h nameOf
    rwa [String.append_assoc, String.append_assoc, String.append_right_inj] at hwhole
  obtain rfl : c = c' := by
    by_cases hsame : c = c'
    · exact hsame
    · have hletters := congrArg (·.toList.head?) (hnames fun d => if d = c then "a" else "b")
      simp [Ne.symm hsame] at hletters
  exact ⟨rfl, funext fun nameOf => (String.append_right_inj _).1 (hnames nameOf)⟩

/-- **The named classes are determined by the text.** -/
theorem unique (h : Writes text classes) (h' : Writes text classes') : classes = classes' := by
  induction classes generalizing text classes' with
  | nil =>
    cases classes' with
    | nil => rfl
    | cons c' classes' => exact absurd h' (not_cons_of_nil h)
  | cons c classes ih =>
    cases classes' with
    | nil => exact absurd h (not_cons_of_nil h')
    | cons c' classes' =>
      obtain ⟨front, rest, hrest, htext⟩ := exists_first h
      obtain ⟨front', rest', hrest', htext'⟩ := exists_first h'
      obtain ⟨rfl, rfl⟩ := first_unique fun nameOf => (htext nameOf).symm.trans (htext' nameOf)
      rw [ih hrest hrest']

end Writes

end AssistedWorkers.Java
