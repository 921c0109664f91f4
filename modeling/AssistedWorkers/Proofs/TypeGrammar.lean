import AssistedWorkers.Java.TypeReader
import AssistedWorkers.Proofs.Scanning

/-!
# The grammar of type expressions

Which texts are type expressions, and which type each of them stands for, is said here by a plain
context-free grammar, without any order among alternatives and without any rule for how far a
repetition goes:

    start    := blanks Type blanks
    Type     := name ("." name)* Arguments? ("[" "]")*
    Arguments := "<" Argument ("," Argument)* ">"
    Argument := "?" ("extends" Type | "super" Type | nothing) | Type

Every token may have blanks around it, and a word needs none after it.

The reader makes choices that the grammar does not make: it tries alternatives in order, repeats
as often as it can, and takes the longest name.  None of them loses a derivation, because in each
place the next character that is not blank decides what can follow: after a name that is one of
`.`, `<`, `[`, `,`, `>` or the end, never a part of a name.

* `onlyTakes_scannerWithin` — what is read has a derivation;
* `readsBelow_scannerWithin` — what has a derivation is read, whatever comes after it;
* `reads_exactly_the_grammar` — the two together: no derivation is lost or changed, and no text
  has two types.
-/

namespace AssistedWorkers.Java

open AssistedWorkers.Text

/-- Whether a text is a name as it may stand in a type expression. -/
def isTypeName (text : String) : Bool :=
  match text.toList with
  | [] => false
  | c :: rest => isNameStart c && rest.all isNamePart

namespace TypeGrammar

open JavaType (arrayOf)

/-- A name with blanks around it. -/
def DerivesName (text : List Char) (name : String) : Prop :=
  isTypeName name = true ∧ Padded name.toList text

/-- `"[" "]"` -/
def DerivesBrackets (text : List Char) (_ : Unit) : Prop :=
  ∃ opening closing, Padded ['['] opening ∧ Padded [']'] closing ∧ text = opening ++ closing

mutual

/-- `Type := name ("." name)* Arguments? ("[" "]")*` -/
inductive DerivesType : List Char → JavaType → Prop where
  | plain {names brackets : List Char} {first : String} {others : List String}
      {dimensions : List Unit}
      (hnames : Separated (Padded ['.']) DerivesName names (first :: others))
      (hbrackets : Repeated DerivesBrackets brackets dimensions) :
      DerivesType (names ++ brackets) (arrayOf (.ofSegments first others none) dimensions)
  | applied {names text brackets : List Char} {first : String} {others : List String}
      {arguments : List JavaType} {dimensions : List Unit}
      (hnames : Separated (Padded ['.']) DerivesName names (first :: others))
      (harguments : DerivesArguments text arguments)
      (hbrackets : Repeated DerivesBrackets brackets dimensions) :
      DerivesType (names ++ text ++ brackets)
        (arrayOf (.ofSegments first others (some arguments)) dimensions)

/-- `Arguments := "<" Argument ("," Argument)* ">"` -/
inductive DerivesArguments : List Char → List JavaType → Prop where
  | mk {opening body closing : List Char} {arguments : List JavaType}
      (hopening : Padded ['<'] opening)
      (hbody : Separated (Padded [',']) DerivesArgument body arguments)
      (hclosing : Padded ['>'] closing) :
      DerivesArguments (opening ++ body ++ closing) arguments

/-- `Argument := "?" ("extends" Type | "super" Type | nothing) | Type` -/
inductive DerivesArgument : List Char → JavaType → Prop where
  | unbounded {mark : List Char} (hmark : Padded ['?'] mark) :
      DerivesArgument mark .unbounded
  | upperBounded {mark word text : List Char} {bound : JavaType} (hmark : Padded ['?'] mark)
      (hword : Padded "extends".toList word) (hbound : DerivesType text bound) :
      DerivesArgument (mark ++ word ++ text) (.upperBounded bound)
  | lowerBounded {mark word text : List Char} {bound : JavaType} (hmark : Padded ['?'] mark)
      (hword : Padded "super".toList word) (hbound : DerivesType text bound) :
      DerivesArgument (mark ++ word ++ text) (.lowerBounded bound)
  | type {text : List Char} {t : JavaType} (h : DerivesType text t) : DerivesArgument text t

end

/-- `start := blanks Type blanks`: the text has a derivation that builds the type. -/
def Derives (text : String) (t : JavaType) : Prop :=
  ∃ before body after, IsBlanks before ∧ DerivesType body t ∧ IsBlanks after ∧
    text.toList = before ++ body ++ after

/-- A text needs no blanks around it. -/
theorem DerivesType.derives {text : String} {t : JavaType} (h : DerivesType text.toList t) :
    Derives text t :=
  ⟨[], text.toList, [], isBlanks_nil, h, isBlanks_nil, by simp⟩

/-! ### Names -/

/-- Characters of names are printable ASCII characters. -/
theorem toNat_of_isNamePart {c : Char} (h : isNamePart c = true) :
    36 ≤ c.toNat ∧ c.toNat ≤ 122 := by
  rcases Bool.or_eq_true_iff.1 h with h | h
  · rcases Bool.or_eq_true_iff.1 h with h | h
    · rcases Bool.or_eq_true_iff.1 h with h | h
      · rcases Bool.or_eq_true_iff.1 h with h | h
        · obtain ⟨low, high⟩ : 65 ≤ c.toNat ∧ c.toNat ≤ 90 := of_decide_eq_true h
          omega
        · obtain ⟨low, high⟩ : 97 ≤ c.toNat ∧ c.toNat ≤ 122 := by
            obtain ⟨low, high⟩ := Bool.and_eq_true_iff.1 h
            exact ⟨of_decide_eq_true low, of_decide_eq_true high⟩
          omega
      · obtain ⟨low, high⟩ : 48 ≤ c.toNat ∧ c.toNat ≤ 57 := by
          obtain ⟨low, high⟩ := Bool.and_eq_true_iff.1 h
          exact ⟨of_decide_eq_true low, of_decide_eq_true high⟩
        omega
    · obtain rfl : c = '_' := by simpa using h
      decide
  · obtain rfl : c = '$' := by simpa using h
    decide

/-- No character of a name is blank. -/
theorem not_isBlank_of_isNamePart {c : Char} (h : isNamePart c = true) : isBlank c = false := by
  obtain ⟨low, high⟩ := toNat_of_isNamePart h
  rw [Bool.eq_false_iff]
  intro hblank
  obtain ⟨range, hrange, hfirst, hlast⟩ := CodeRange.covers_iff.1 hblank
  simp only [blankRanges, List.mem_cons, List.not_mem_nil, or_false] at hrange
  rcases hrange with rfl | rfl | rfl | rfl | rfl | rfl | rfl | rfl | rfl | rfl <;>
    simp only at hfirst hlast <;> omega

/-- What a name starts with may stand inside it, too. -/
theorem isNamePart_of_isNameStart {c : Char} (h : isNameStart c = true) : isNamePart c = true := by
  rcases Bool.or_eq_true_iff.1 h with h | h
  · rcases Bool.or_eq_true_iff.1 h with h | h
    · have hletter : c.isAlphanum = true := Bool.or_eq_true_iff.2 (Or.inl h)
      simp [isNamePart, hletter]
    · simp [isNamePart, h]
  · simp [isNamePart, h]

/-- A name starts like a name and goes on like one. -/
theorem isTypeName_iff {text : String} :
    isTypeName text = true ↔ ∃ c rest, text.toList = c :: rest ∧ isNameStart c = true ∧
      ∀ d ∈ rest, isNamePart d = true := by
  unfold isTypeName
  cases h : text.toList with
  | nil => simp
  | cons c rest => simp

/-- What the scanner of names takes is a name. -/
theorem onlyTakes_nameScanner :
    Scanner.OnlyTakes nameScanner
      (fun text name => isTypeName name = true ∧ text = name.toList) := by
  intro text name rest hresult
  cases text with
  | nil => simp [nameScanner] at hresult
  | cons c text =>
    by_cases hc : isNameStart c = true
    · simp only [nameScanner, if_pos hc] at hresult
      obtain ⟨rfl, rfl⟩ := Prod.mk.inj (Option.some.inj hresult)
      refine ⟨c :: text.takeWhile isNamePart, ⟨?_, by simp⟩, ?_⟩
      · exact isTypeName_iff.2 ⟨c, text.takeWhile isNamePart, by simp, hc,
          fun d hd => List.mem_takeWhile_imp hd⟩
      · rw [List.cons_append, List.takeWhile_append_dropWhile]
    · simp [nameScanner, hc] at hresult

/-- The scanner takes a whole name when no part of a name comes after it. -/
theorem nameScanner_result {name : String} (hname : isTypeName name = true) {rest : List Char}
    (hrest : ∀ c tail, rest = c :: tail → isNamePart c = false) :
    (nameScanner (name.toList ++ rest)).result = some (name, rest) := by
  obtain ⟨c, text, htext, hc, hparts⟩ := isTypeName_iff.1 hname
  have htake : (text ++ rest).takeWhile isNamePart = text := by
    rw [List.takeWhile_append_of_pos hparts]
    cases rest with
    | nil => simp
    | cons d tail => simp [hrest d tail rfl]
  have hdrop : (text ++ rest).dropWhile isNamePart = rest := by
    rw [List.dropWhile_append_of_pos hparts]
    cases rest with
    | nil => rfl
    | cons d tail => simp [hrest d tail rfl]
  rw [htext, List.cons_append]
  unfold nameScanner
  simp only [hc, if_true, htake, hdrop, ← htext, String.ofList_toList]

/-- A name in the grammar starts, blanks apart, with a character that a name may start with. -/
theorem exists_start_of_derivesName {text : List Char} {name : String} (h : DerivesName text name)
    (rest : List Char) :
    ∃ c tail, skipBlanks (text ++ rest) = c :: tail ∧ isNameStart c = true := by
  obtain ⟨hname, hpadded⟩ := h
  obtain ⟨c, letters, hletters, hc, -⟩ := isTypeName_iff.1 hname
  rw [hletters] at hpadded
  obtain ⟨after, -, hskip⟩ := skipBlanks_padded hpadded
    (not_isBlank_of_isNamePart (isNamePart_of_isNameStart hc)) rest
  exact ⟨c, _, hskip, hc⟩

/-- A name is read when something comes next that is no part of a name. -/
theorem yields_nameScanner {text : List Char} {name : String} (h : DerivesName text name)
    {next rest : List Char} (hrest : Follows next rest)
    (hnext : ∀ c ∈ next, isNamePart c = false) :
    Scanner.Yields nameScanner (skipBlanks (text ++ rest)) name rest := by
  obtain ⟨hname, hpadded⟩ := h
  obtain ⟨c, letters, hletters, hc, -⟩ := isTypeName_iff.1 hname
  rw [hletters] at hpadded
  obtain ⟨after, hafter, hskip⟩ := skipBlanks_padded hpadded
    (not_isBlank_of_isNamePart (isNamePart_of_isNameStart hc)) rest
  have hend : ∀ d tail, after ++ rest = d :: tail → isNamePart d = false := by
    intro d tail heq
    rw [Bool.eq_false_iff]
    intro hpart
    have hd := not_isBlank_of_isNamePart hpart
    -- The character is not blank, so it is the one that comes next.
    have hmem : d ∈ next := by
      apply hrest d tail
      rw [← skipBlanks_append hafter rest, heq, skipBlanks_cons hd]
    rw [hnext d hmem] at hpart
    exact Bool.false_ne_true hpart
  rw [hskip, ← hletters]
  exact ⟨after ++ rest, nameScanner_result hname hend, skipBlanks_append hafter rest⟩

theorem consumes_nameScanner : Scanner.Consumes nameScanner :=
  onlyTakes_nameScanner.consumes fun text name h => by
    obtain ⟨c, rest, hname, -, -⟩ := isTypeName_iff.1 h.1
    rw [h.2, hname]
    exact List.cons_ne_nil c rest

/-! ### What is read has a derivation -/

/-- A dimension is an opening and a closing bracket. -/
theorem onlyTakes_dimensionScanner :
    Scanner.OnlyTakes JavaType.dimensionScanner DerivesBrackets := by
  refine ((Scanner.OnlyTakes.symbol '[').bind fun _ => Scanner.OnlyTakes.symbol ']').mono ?_
  intro text _ h
  obtain ⟨-, opening, closing, hopening, hclosing, rfl⟩ := h
  exact ⟨opening, closing, hopening, hclosing, rfl⟩

/-- An argument is a wildcard or a type, if what is read for a type is one. -/
theorem onlyTakes_argumentScanner {type : Scanner JavaType}
    (h : Scanner.OnlyTakes type DerivesType) :
    Scanner.OnlyTakes (JavaType.argumentScanner type) DerivesArgument := by
  refine Scanner.OnlyTakes.orElse ?_ (h.mono fun _ _ => .type)
  intro text t rest hresult
  obtain ⟨u, middle, hsymbol, hbound⟩ := Scanner.bind_result_eq_some_iff.1 hresult
  obtain ⟨mark, hmark, rfl⟩ := Scanner.OnlyTakes.symbol '?' _ _ _ hsymbol
  have hupper :=
    (Scanner.OnlyTakes.word "extends").bind fun _ => h.map (f := JavaType.upperBounded)
  have hlower :=
    (Scanner.OnlyTakes.word "super").bind fun _ => h.map (f := JavaType.lowerBounded)
  rw [Scanner.orElse_result, Option.or_eq_some_iff] at hbound
  rcases hbound with hbound | ⟨-, hbound⟩
  · obtain ⟨back, ⟨-, word, text, hword, ⟨bound, htype, rfl⟩, rfl⟩, rfl⟩ := hupper _ _ _ hbound
    exact ⟨mark ++ word ++ text, .upperBounded hmark hword htype, by simp⟩
  · rw [Scanner.orElse_result, Option.or_eq_some_iff] at hbound
    rcases hbound with hbound | ⟨-, hbound⟩
    · obtain ⟨back, ⟨-, word, text, hword, ⟨bound, htype, rfl⟩, rfl⟩, rfl⟩ := hlower _ _ _ hbound
      exact ⟨mark ++ word ++ text, .lowerBounded hmark hword htype, by simp⟩
    · obtain ⟨rfl, rfl⟩ := Prod.mk.inj (Option.some.inj hbound)
      exact ⟨mark, .unbounded hmark, rfl⟩

/-- Arguments are a separated list between angle brackets. -/
theorem onlyTakes_argumentsScanner {type : Scanner JavaType}
    (h : Scanner.OnlyTakes type DerivesType) :
    Scanner.OnlyTakes (JavaType.argumentsScanner type) DerivesArguments := by
  have hlist := (onlyTakes_argumentScanner h).separatedBy (Scanner.OnlyTakes.symbol ',')
  refine ((Scanner.OnlyTakes.symbol '<').bind fun _ => hlist.bind fun arguments =>
    (Scanner.OnlyTakes.symbol '>').bind fun _ => Scanner.OnlyTakes.pure arguments).mono ?_
  intro text arguments h
  obtain ⟨-, opening, -, hopening, ⟨arguments, body, -, hbody,
    ⟨-, closing, -, hclosing, ⟨rfl, rfl⟩, rfl⟩, rfl⟩, rfl⟩ := h
  simpa using DerivesArguments.mk hopening hbody hclosing

/-- If what is read inside type arguments has derivations, then so has the whole. -/
theorem onlyTakes_scannerOver {type : Scanner JavaType} (h : Scanner.OnlyTakes type DerivesType) :
    Scanner.OnlyTakes (JavaType.scannerOver type) DerivesType := by
  have hname : Scanner.OnlyTakes nameScanner DerivesName := onlyTakes_nameScanner.mono
    fun text name h => ⟨h.1, h.2 ▸ padded_self name.toList⟩
  have hnames := hname.separatedBy (Scanner.OnlyTakes.symbol '.')
  intro text t rest hresult
  obtain ⟨segments, _, hsegments, htail⟩ := Scanner.bind_result_eq_some_iff.1 hresult
  obtain ⟨arguments?, _, harguments, hend⟩ := Scanner.bind_result_eq_some_iff.1 htail
  obtain ⟨dimensions, _, hdimensions, hbuilt⟩ := Scanner.bind_result_eq_some_iff.1 hend
  clear hresult htail hend
  obtain ⟨names, hnames, rfl⟩ := hnames _ _ _ hsegments
  obtain ⟨written, hwritten, rfl⟩ := (onlyTakes_argumentsScanner h).optional _ _ _ harguments
  obtain ⟨brackets, hbrackets, rfl⟩ := onlyTakes_dimensionScanner.many _ _ _ hdimensions
  obtain ⟨-, -, first, others, -, -, rfl⟩ := hnames.exists_first
  obtain ⟨rfl, rfl⟩ := Prod.mk.inj (Option.some.inj hbuilt)
  cases arguments? with
  | none =>
    obtain rfl : written = [] := hwritten
    exact ⟨names ++ brackets, .plain hnames hbrackets, by simp⟩
  | some arguments =>
    exact ⟨names ++ written ++ brackets, .applied hnames hwritten hbrackets, by simp⟩

/-- **What is read has a derivation**, at every depth of nested arguments. -/
theorem onlyTakes_scannerWithin (depth : Nat) :
    Scanner.OnlyTakes (JavaType.scannerWithin depth) DerivesType := by
  induction depth with
  | zero =>
    intro text t rest hresult
    simp [JavaType.scannerWithin, Scanner.fail] at hresult
  | succ depth ih => exact onlyTakes_scannerOver ih

/-! ### What has a derivation is read -/

/-- A type starts, blanks apart, with a character that a name may start with. -/
theorem exists_start_of_derivesType {text : List Char} {t : JavaType} (h : DerivesType text t)
    (rest : List Char) :
    ∃ c tail, skipBlanks (text ++ rest) = c :: tail ∧ isNameStart c = true := by
  cases h with
  | plain hnames _ =>
    obtain ⟨front, back, name, -, hname, rfl, -⟩ := hnames.exists_first
    rw [List.append_assoc, List.append_assoc]
    exact exists_start_of_derivesName hname _
  | applied hnames _ _ =>
    obtain ⟨front, back, name, -, hname, rfl, -⟩ := hnames.exists_first
    simp only [List.append_assoc]
    exact exists_start_of_derivesName hname _

theorem ne_nil_of_derivesArgument {text : List Char} {t : JavaType} (h : DerivesArgument text t) :
    text ≠ [] := by
  have hpadded : ∀ {mark : List Char}, Padded ['?'] mark → mark ≠ [] := by
    intro mark h
    obtain ⟨before, after, -, -, rfl⟩ := h
    simp
  cases h with
  | unbounded hmark => exact hpadded hmark
  | upperBounded hmark _ _ => simp [hpadded hmark]
  | lowerBounded hmark _ _ => simp [hpadded hmark]
  | type h =>
    intro heq
    obtain rfl := heq
    obtain ⟨c, tail, hskip, -⟩ := exists_start_of_derivesType h []
    simp at hskip

/-- The scanner reads every type that is derived from fewer than `bound` characters, where it
stands at the end of a type argument or of the text. -/
def ReadsBelow (bound : Nat) (type : Scanner JavaType) : Prop :=
  ∀ text t, DerivesType text t → text.length < bound → ∀ rest, Follows [',', '>'] rest →
    Scanner.Yields type (skipBlanks (text ++ rest)) t rest

/-- A wildcard with a bound is read, if the bound is. -/
theorem yields_bound {type : Scanner JavaType} {bound : Nat} (h : ReadsBelow bound type)
    {w : String} {c : Char} {letters : List Char} (hw : w.toList = c :: letters)
    (hc : isBlank c = false) {word text : List Char} {t : JavaType} (hword : Padded w.toList word)
    (ht : DerivesType text t) (hlength : text.length < bound) (wrap : JavaType → JavaType)
    {rest : List Char} (hrest : Follows [',', '>'] rest) {here : List Char}
    (hhere : skipBlanks here = skipBlanks (word ++ (text ++ rest))) :
    Scanner.Yields (do Scanner.word w; wrap <$> type : Scanner JavaType) here (wrap t) rest := by
  rw [hw] at hword
  obtain ⟨after, hafter, hskip⟩ := skipBlanks_padded hword hc (text ++ rest)
  have hread : (Scanner.word w here).result = some ((), skipBlanks (text ++ rest)) := by
    rw [Scanner.word_result_eq_some_iff]
    exact ⟨after ++ (text ++ rest), by rw [hhere, hskip, hw], (skipBlanks_append hafter _).symm⟩
  exact Scanner.yields_bind hread (h text t ht hlength rest hrest).map

/-- An argument is read, if the types inside it are. -/
theorem yields_argumentScanner {type : Scanner JavaType} {bound : Nat} (h : ReadsBelow bound type)
    {text : List Char} {t : JavaType} (ht : DerivesArgument text t) (hlength : text.length < bound)
    {rest : List Char} (hrest : Follows [',', '>'] rest) :
    Scanner.Yields (JavaType.argumentScanner type) (skipBlanks (text ++ rest)) t rest := by
  have hquestion : isBlank '?' = false := by decide
  cases ht with
  | unbounded hmark =>
    have hread := Scanner.symbol_result_of_padded hquestion hmark
      (skipBlanks_skipBlanks (text ++ rest))
    have hhere : Follows [',', '>'] (skipBlanks rest) :=
      follows_of_skipBlanks_eq hrest (skipBlanks_skipBlanks rest)
    -- No letter comes next, so neither word is found and the wildcard ends here.
    have hextends := Scanner.word_result_of_follows (w := "extends") rfl hhere (by decide)
    have hsuper := Scanner.word_result_of_follows (w := "super") rfl hhere (by decide)
    refine Scanner.Yields.orElse (Scanner.yields_bind hread ?_)
    refine Scanner.Yields.orElse_of_none ?_ (Scanner.bind_result_of_none hextends _)
    refine Scanner.Yields.orElse_of_none ?_ (Scanner.bind_result_of_none hsuper _)
    exact Scanner.yields_pure _ (skipBlanks_skipBlanks rest)
  | @upperBounded mark word body t hmark hword hbound =>
    simp only [List.length_append] at hlength
    have hread : (Scanner.symbol '?' (skipBlanks (mark ++ word ++ body ++ rest))).result =
        some ((), skipBlanks (word ++ (body ++ rest))) :=
      Scanner.symbol_result_of_padded hquestion hmark (by simp)
    refine Scanner.Yields.orElse (Scanner.yields_bind hread (Scanner.Yields.orElse ?_))
    exact yields_bound h rfl (by decide) hword hbound (by omega) .upperBounded hrest (by simp)
  | @lowerBounded mark word body t hmark hword hbound =>
    simp only [List.length_append] at hlength
    have hread : (Scanner.symbol '?' (skipBlanks (mark ++ word ++ body ++ rest))).result =
        some ((), skipBlanks (word ++ (body ++ rest))) :=
      Scanner.symbol_result_of_padded hquestion hmark (by simp)
    have hhere : Follows ['s'] (skipBlanks (word ++ (body ++ rest))) :=
      follows_of_skipBlanks_eq
        (follows_padded hword (by decide) List.mem_cons_self (body ++ rest))
        (skipBlanks_skipBlanks _)
    have hextends := Scanner.word_result_of_follows (w := "extends") rfl hhere (by decide)
    refine Scanner.Yields.orElse (Scanner.yields_bind hread ?_)
    refine Scanner.Yields.orElse_of_none ?_ (Scanner.bind_result_of_none hextends _)
    refine Scanner.Yields.orElse ?_
    exact yields_bound h rfl (by decide) hword hbound (by omega) .lowerBounded hrest (by simp)
  | type ht =>
    -- No type starts with a question mark, so the scan of a wildcard fails at once.
    obtain ⟨c, tail, hskip, hc⟩ := exists_start_of_derivesType ht rest
    have hne : c ≠ '?' := by
      intro heq
      obtain rfl := heq
      exact absurd hc (by decide)
    have hhere : Follows [c] (skipBlanks (text ++ rest)) := by
      intro d tail' hd
      rw [skipBlanks_skipBlanks, hskip] at hd
      exact List.mem_singleton.2 (List.cons.inj hd).1.symm
    have hquestion := Scanner.symbol_result_of_follows hhere (by simpa using hne.symm)
    exact (h text t ht hlength rest hrest).orElse_of_none (Scanner.bind_result_of_none hquestion _)

/-- All dimensions are taken when no bracket comes after them. -/
theorem yields_dimensions {brackets : List Char} {dimensions : List Unit}
    (h : Repeated DerivesBrackets brackets dimensions) {rest : List Char}
    (hrest : Follows [',', '>'] rest) (text : List Char)
    (htext : skipBlanks text = skipBlanks (brackets ++ rest)) :
    Scanner.Yields (Scanner.many JavaType.dimensionScanner) text dimensions rest := by
  refine Scanner.yields_many ['['] ?_ ?_ ?_ ?_ h hrest text htext
  · exact onlyTakes_dimensionScanner.consumes fun text _ hbrackets => by
      obtain ⟨opening, closing, ⟨before, after, -, -, rfl⟩, -, rfl⟩ := hbrackets
      simp
  · intro front _ h rest
    obtain ⟨opening, closing, hopening, -, rfl⟩ := h
    rw [List.append_assoc]
    exact follows_padded hopening (by decide) List.mem_cons_self _
  · intro front _ rest h _ text htext
    obtain ⟨opening, closing, hopening, hclosing, rfl⟩ := h
    rw [List.append_assoc] at htext
    have hopened := Scanner.symbol_result_of_padded (by decide) hopening htext
    have hclosed := Scanner.symbol_result_of_padded (by decide) hclosing
      (skipBlanks_skipBlanks (closing ++ rest))
    exact Scanner.yields_bind hopened ⟨skipBlanks rest, hclosed, skipBlanks_skipBlanks rest⟩
  · intro text hend
    exact Scanner.bind_result_of_none (Scanner.symbol_result_of_follows hend (by decide)) _

/-- Type arguments are read, if the types inside them are. -/
theorem yields_argumentsScanner {type : Scanner JavaType} {bound : Nat}
    (honly : Scanner.OnlyTakes type DerivesType) (h : ReadsBelow bound type) {text : List Char}
    {arguments : List JavaType} (ht : DerivesArguments text arguments)
    (hlength : text.length ≤ bound) {rest here : List Char}
    (hhere : skipBlanks here = skipBlanks (text ++ rest)) :
    Scanner.Yields (JavaType.argumentsScanner type) here arguments rest := by
  obtain ⟨hopening, hbody, hclosing⟩ := ht
  rename_i opening body closing
  have hshort : body.length < bound := by
    obtain ⟨before, after, -, -, rfl⟩ := hopening
    simp only [List.length_append, List.length_cons, List.length_nil] at hlength
    omega
  have hopened : (Scanner.symbol '<' here).result =
      some ((), skipBlanks (body ++ (closing ++ rest))) :=
    Scanner.symbol_result_of_padded (by decide) hopening (by simpa using hhere)
  have hconsumes : Scanner.Consumes (JavaType.argumentScanner type) :=
    (onlyTakes_argumentScanner honly).consumes fun _ _ => ne_nil_of_derivesArgument
  have hlist : Scanner.Yields
      (Scanner.separatedBy (JavaType.argumentScanner type) (Scanner.symbol ','))
      (skipBlanks (body ++ (closing ++ rest))) arguments (closing ++ rest) := by
    refine Scanner.yields_separatedBy ['>'] (by decide) (by decide) hconsumes ?_
      hbody.with_length (follows_padded hclosing (by decide) List.mem_cons_self rest)
    intro front a rest' hitem hfollows
    obtain ⟨ha, hfront⟩ := hitem
    exact yields_argumentScanner h ha (by omega) hfollows
  refine Scanner.yields_bind hopened (hlist.bind fun middle hmiddle => ?_)
  have hclosed := Scanner.symbol_result_of_padded (by decide) hclosing hmiddle
  exact Scanner.yields_bind hclosed (Scanner.yields_pure _ (skipBlanks_skipBlanks rest))

/-- If the types inside type arguments are read, then so is a whole type. -/
theorem readsBelow_scannerOver {type : Scanner JavaType} {bound : Nat}
    (honly : Scanner.OnlyTakes type DerivesType) (h : ReadsBelow bound type) :
    ReadsBelow (bound + 1) (JavaType.scannerOver type) := by
  have hnames : ∀ {names : List Char} {segments : List String},
      Separated (Padded ['.']) DerivesName names segments → ∀ {rest : List Char},
      Follows ['<', '[', ',', '>'] rest →
      Scanner.Yields (Scanner.separatedBy nameScanner (Scanner.symbol '.'))
        (skipBlanks (names ++ rest)) segments rest := by
    intro names segments hnames rest hrest
    refine Scanner.yields_separatedBy _ (by decide) (by decide) consumes_nameScanner ?_ hnames hrest
    intro front name rest' hname hfollows
    have hends : ['.', '<', '[', ',', '>'].all (!isNamePart ·) = true := by decide
    exact yields_nameScanner hname hfollows fun c hc => by
      simpa using List.all_eq_true.1 hends c hc
  intro text t ht hlength rest hrest
  -- What comes next decides whether there are arguments, and where the brackets end.
  have hbracketed : ∀ {brackets : List Char} {dimensions : List Unit},
      Repeated DerivesBrackets brackets dimensions →
      Follows ['[', ',', '>'] (brackets ++ rest) := by
    intro brackets dimensions hbrackets
    cases hbrackets with
    | nil => exact hrest.mono (by simp)
    | cons hfirst _ =>
      obtain ⟨opening, closing, hopening, -, rfl⟩ := hfirst
      simp only [List.append_assoc]
      exact follows_padded hopening (by decide) (by decide) _
  cases ht with
  | @plain names brackets first others dimensions hdotted hbrackets =>
    rw [List.append_assoc]
    have hafter := hbracketed hbrackets
    refine (hnames hdotted (hafter.mono (by simp))).bind fun middle hmiddle => ?_
    have hopening : (Scanner.symbol '<' middle).result = none :=
      Scanner.symbol_result_of_follows (follows_of_skipBlanks_eq hafter hmiddle) (by decide)
    have hnone : Scanner.Yields (Scanner.optional (JavaType.argumentsScanner type)) middle none
        (brackets ++ rest) :=
      (Scanner.yields_pure none hmiddle).orElse_of_none
        (Scanner.bind_result_of_none (Scanner.bind_result_of_none hopening _) _)
    refine hnone.bind fun middle' hmiddle' => ?_
    refine (yields_dimensions hbrackets hrest middle' hmiddle').bind fun last hlast => ?_
    exact Scanner.yields_pure _ hlast
  | @applied names written brackets first others arguments dimensions hdotted harguments
      hbrackets =>
    rw [List.append_assoc, List.append_assoc]
    simp only [List.length_append] at hlength
    have hopening : Follows ['<', '[', ',', '>'] (written ++ (brackets ++ rest)) := by
      obtain ⟨hopening, -, -⟩ := harguments
      simp only [List.append_assoc]
      exact follows_padded hopening (by decide) (by decide) _
    refine (hnames hdotted hopening).bind fun middle hmiddle => ?_
    have hsome : Scanner.Yields (Scanner.optional (JavaType.argumentsScanner type)) middle
        (some arguments) (brackets ++ rest) :=
      ((yields_argumentsScanner honly h harguments (by omega) hmiddle).bind fun _ hlast =>
        Scanner.yields_pure (some arguments) hlast).orElse
    refine hsome.bind fun middle' hmiddle' => ?_
    refine (yields_dimensions hbrackets hrest middle' hmiddle').bind fun last hlast => ?_
    exact Scanner.yields_pure _ hlast

/-- **What has a derivation is read**, whatever comes after it.  Each level of arguments has
brackets of its own, so a bound on the length is one on the depth. -/
theorem readsBelow_scannerWithin (depth : Nat) :
    ReadsBelow depth (JavaType.scannerWithin depth) := by
  induction depth with
  | zero => exact fun text t _ hlength => absurd hlength (Nat.not_lt_zero _)
  | succ depth ih => exact readsBelow_scannerOver (onlyTakes_scannerWithin depth) ih

/-! ### Whole texts -/

/-- Only blanks may stand at the end. -/
theorem endOfText_result_eq_some_iff {text rest : List Char} {u : Unit} :
    (Scanner.endOfText text).result = some (u, rest) ↔ skipBlanks text = [] ∧ rest = [] := by
  unfold Scanner.endOfText
  cases skipBlanks text with
  | nil => simp [eq_comm]
  | cons c tail => simp

/-- A type is read when the scanner of texts succeeds. -/
theorem read_eq_ok_iff_result {text : String} {t : JavaType} :
    JavaType.read text = .ok t ↔
      ∃ rest, (JavaType.textScanner text.toList).result = some (t, rest) := by
  unfold JavaType.read
  dsimp only
  cases hresult : (JavaType.textScanner text.toList).result with
  | none => simp
  | some found => exact ⟨fun h => ⟨found.2, by rw [← Except.ok.inj h]⟩,
      fun ⟨_, h⟩ => by rw [Option.some.inj h]⟩

/-- A text is a type between blanks; types in it are nested less deep than it is long. -/
theorem textScanner_result_eq_some_iff {text rest : List Char} {t : JavaType} :
    (JavaType.textScanner text).result = some (t, rest) ↔ rest = [] ∧
      ∃ last, (JavaType.scannerWithin (text.length + 1) (skipBlanks text)).result =
        some (t, last) ∧ skipBlanks last = [] := by
  unfold JavaType.textScanner
  constructor
  · intro h
    obtain ⟨t', last, htype, h⟩ := Scanner.bind_result_eq_some_iff.1 h
    obtain ⟨u, last', hend, h⟩ := Scanner.bind_result_eq_some_iff.1 h
    obtain ⟨rfl, rfl⟩ := Prod.mk.inj (Option.some.inj h)
    obtain ⟨hlast, rfl⟩ := endOfText_result_eq_some_iff.1 hend
    exact ⟨rfl, last, htype, hlast⟩
  · intro h
    obtain ⟨rfl, last, htype, hlast⟩ := h
    exact Scanner.bind_result_eq_some_iff.2 ⟨t, last, htype, Scanner.bind_result_eq_some_iff.2
      ⟨(), [], endOfText_result_eq_some_iff.2 ⟨hlast, rfl⟩, rfl⟩⟩

/-- A text is read as the types that it has derivations for. -/
theorem read_eq_ok_iff {text : String} {t : JavaType} :
    JavaType.read text = .ok t ↔ Derives text t := by
  rw [read_eq_ok_iff_result]
  constructor
  · intro h
    obtain ⟨rest, h⟩ := h
    obtain ⟨-, last, htype, hlast⟩ := textScanner_result_eq_some_iff.1 h
    obtain ⟨body, hbody, hskip⟩ := onlyTakes_scannerWithin _ _ _ _ htype
    obtain ⟨before, hbefore, htext⟩ := exists_blanks text.toList
    obtain ⟨after, hafter, hrest⟩ := exists_blanks last
    rw [hlast, List.append_nil] at hrest
    exact ⟨before, body, after, hbefore, hbody, hafter, by
      rw [htext, hskip, hrest, List.append_assoc]⟩
  · intro h
    obtain ⟨before, body, after, hbefore, hbody, hafter, htext⟩ := h
    have hlength : body.length < text.toList.length + 1 := by
      rw [htext, List.length_append, List.length_append]
      omega
    have hend : skipBlanks after = [] := by
      simpa using skipBlanks_append hafter []
    have hfollows : Follows [',', '>'] after := by
      intro c tail hskip
      rw [hend] at hskip
      exact absurd hskip.symm (List.cons_ne_nil c tail)
    obtain ⟨last, hresult, hlast⟩ := readsBelow_scannerWithin _ body t hbody hlength after hfollows
    have hskip : skipBlanks text.toList = skipBlanks (body ++ after) := by
      rw [htext, List.append_assoc, skipBlanks_append hbefore]
    exact ⟨[], textScanner_result_eq_some_iff.2 ⟨rfl, last, by rw [hskip, hresult], by
      rw [hlast, hend]⟩⟩

/-- **Reading accepts exactly the grammar.**  A text is read as a type if and only if it has a
derivation that builds this type, so the order of alternatives and the greed of repetitions lose
and change nothing; and a text has derivations for one type at most. -/
theorem reads_exactly_the_grammar (text : String) :
    (∀ t, JavaType.read text = .ok t ↔ Derives text t) ∧
      ∀ t t', Derives text t → Derives text t' → t = t' := by
  refine ⟨fun t => read_eq_ok_iff, fun t t' h h' => ?_⟩
  have hread := read_eq_ok_iff.2 h
  rw [read_eq_ok_iff.2 h'] at hread
  exact (Except.ok.inj hread).symm

/-- A wildcard whose word runs into its bound, with blanks in odd places, has one type. -/
theorem reads_wildcard_without_blanks :
    Derives "A .b< ?extendsFoo[ ] , int>" (.parameterized (.mk "" "A" ["b"])
        [.upperBounded (.array (.named (.topLevelIn "" "Foo"))), .primitive .int]) ∧
      ∀ t, Derives "A .b< ?extendsFoo[ ] , int>" t →
        t = .parameterized (.mk "" "A" ["b"])
          [.upperBounded (.array (.named (.topLevelIn "" "Foo"))), .primitive .int] := by
  have hread : JavaType.read "A .b< ?extendsFoo[ ] , int>" = .ok (.parameterized (.mk "" "A" ["b"])
      [.upperBounded (.array (.named (.topLevelIn "" "Foo"))), .primitive .int]) := by
    decide +kernel
  have hderives := ((reads_exactly_the_grammar _).1 _).1 hread
  exact ⟨hderives, fun t ht => (reads_exactly_the_grammar _).2 t _ ht hderives⟩

end TypeGrammar

end AssistedWorkers.Java
