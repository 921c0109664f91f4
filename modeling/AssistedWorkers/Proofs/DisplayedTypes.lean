import AssistedWorkers.Proofs.CanonicalForm

/-!
# Displayed types

A type is displayed with every class fully qualified.  Such a text says neither where the package
of a class ends nor whether a word is a class or a primitive type, and not every type can be
written as one: wildcards stand in type arguments only, and there is no empty list of these.  So
a displayed type is read as what it displays exactly if it is well-formed, and reading gives no
other types.

* `derivesType_display` — the text of a well-formed type derives the type;
* `read_display_iff` — the types that are read from their own text;
* `reads_back_exactly_the_wellFormed` — that, and that nothing else is ever read.
-/

namespace AssistedWorkers.Java

open AssistedWorkers.Text

namespace TypeGrammar

open JavaType

/-- The keyword of a primitive type is spelled like a name. -/
theorem isTypeName_keyword (p : Primitive) : isTypeName p.keyword = true := by
  cases p <;> decide

/-- A pair of square brackets behind a type makes the type of its arrays. -/
theorem DerivesType.array {text : List Char} {t : JavaType} (h : DerivesType text t) :
    DerivesType (text ++ "[]".toList) (.array t) := by
  have hpair : DerivesBrackets "[]".toList () :=
    ⟨['['], [']'], padded_self _, padded_self _, rfl⟩
  have harray : ∀ (component : JavaType) (dimensions : List Unit),
      arrayOf component (dimensions ++ [()]) = .array (arrayOf component dimensions) := by
    intro component dimensions
    simp [arrayOf]
  cases h with
  | plain hnames hbrackets =>
    rw [List.append_assoc, ← harray]
    exact .plain hnames (hbrackets.snoc hpair)
  | applied hnames harguments hbrackets =>
    rw [List.append_assoc, ← harray]
    exact .applied hnames harguments (hbrackets.snoc hpair)

theorem isBlanks_space : IsBlanks [' '] := by
  rw [IsBlanks, List.forall_mem_singleton]
  decide

mutual

/-- **The text of a well-formed type derives the type.** -/
theorem derivesType_display {t : JavaType} : WellFormed t → DerivesType t.display.toList t
  | .primitive p => by
    have hkeyword : ofSegments p.keyword [] none = .primitive p := by
      simp [ofSegments, Primitive.ofKeyword?_keyword]
    have hname : Separated (Padded ['.']) DerivesName p.keyword.toList [p.keyword] :=
      .one ⟨isTypeName_keyword p, padded_self _⟩
    have hderives := DerivesType.plain hname .nil
    rw [List.append_nil, hkeyword] at hderives
    rw [display, spell]
    exact hderives
  | .named hc hkeyword => by
    rw [display, spell]
    exact derivesType_canonicalName hc hkeyword
  | @WellFormed.parameterized raw arguments hraw hne harguments => by
    obtain ⟨first, others, hnames⟩ := List.exists_cons_of_ne_nil (l := raw.names)
      (by simp [ClassName.names, ClassName.simpleNames])
    have hbody : Separated (Padded [',']) DerivesArgument
        (", ".intercalate (arguments.map display)).toList arguments :=
      separated_intercalate ⟨[], [' '], isBlanks_nil, isBlanks_space, rfl⟩ hne
        fun t ht => derivesArgument_display (harguments t ht)
    have hderives := DerivesType.applied (hnames ▸ separated_canonicalName hraw)
      (.mk (padded_self "<".toList) hbody (padded_self ">".toList)) .nil
    have htype : ofSegments first others (some arguments) = .parameterized raw arguments := by
      rw [ofSegments, ClassName.ofSegments_of_inCanonicalForm hraw hnames]
    have htext : (parameterized raw arguments).display =
        raw.canonicalName ++ ("<" ++ ", ".intercalate (arguments.map display) ++ ">") := by
      rw [display, spell, spellAll_eq_map, String.append_assoc, String.append_assoc,
        String.append_assoc]
      rfl
    rw [List.append_nil, htype] at hderives
    rw [htext, String.toList_append, String.toList_append, String.toList_append]
    exact hderives
  | .array h => by
    rw [display, spell, String.toList_append]
    exact (derivesType_display h).array

/-- The text of a well-formed type argument derives the argument. -/
theorem derivesArgument_display {t : JavaType} :
    WellFormedArgument t → DerivesArgument t.display.toList t
  | .unbounded => by
    rw [display, spell]
    exact .unbounded (padded_self ['?'])
  | .upperBounded h => by
    have hword : Padded "extends".toList " extends ".toList :=
      ⟨[' '], [' '], isBlanks_space, isBlanks_space, rfl⟩
    rw [display, spell, String.toList_append]
    exact .upperBounded (padded_self ['?']) hword (derivesType_display h)
  | .lowerBounded h => by
    have hword : Padded "super".toList " super ".toList :=
      ⟨[' '], [' '], isBlanks_space, isBlanks_space, rfl⟩
    rw [display, spell, String.toList_append]
    exact .lowerBounded (padded_self ['?']) hword (derivesType_display h)
  | .type h => .type (derivesType_display h)

end

end TypeGrammar

namespace JavaType

/-- A type is read from its own text exactly if it is well-formed. -/
theorem read_display_iff {t : JavaType} : read t.display = .ok t ↔ WellFormed t :=
  ⟨wellFormed_of_read,
    fun h => TypeGrammar.read_eq_ok_iff.2 (TypeGrammar.derivesType_display h).derives⟩

/-- Whether a type is well-formed is found out by reading its text. -/
instance (t : JavaType) : Decidable (WellFormed t) :=
  decidable_of_iff _ read_display_iff

/-- **Displaying and reading are inverse exactly on the well-formed types**: these are the types
that are read from their own text, and no text is read as another type. -/
theorem reads_back_exactly_the_wellFormed :
    (∀ t : JavaType, read t.display = .ok t ↔ WellFormed t) ∧
      ∀ (text : String) (t : JavaType), read text = .ok t → WellFormed t :=
  ⟨fun _ => read_display_iff, fun _ _ => wellFormed_of_read⟩

/-- A package that starts with a capital, and a nested class below a class that does not. -/
example : ¬ WellFormed (.named (.mk "Test" "Outer" [])) ∧
    ¬ WellFormed (.parameterized (.mk "test" "outer" ["Inner"]) [.unbounded]) := by
  decide +kernel

/-- Keywords are classes when they have arguments or a package, and blanks are not displayed. -/
theorem reads_back_keyword_classes :
    read " int < int . long [ ] , ? superlong > [ ] " = .ok (.array (.parameterized
        (.topLevelIn "" "int") [.array (.named (.topLevelIn "int" "long")),
          .lowerBounded (.primitive .long)])) ∧
      WellFormed (.array (.parameterized
        (.topLevelIn "" "int") [.array (.named (.topLevelIn "int" "long")),
          .lowerBounded (.primitive .long)])) := by
  have hread : read " int < int . long [ ] , ? superlong > [ ] " = .ok (.array (.parameterized
      (.topLevelIn "" "int") [.array (.named (.topLevelIn "int" "long")),
        .lowerBounded (.primitive .long)])) := by
    decide +kernel
  exact ⟨hread, reads_back_exactly_the_wellFormed.2 _ _ hread⟩

end JavaType

end AssistedWorkers.Java
