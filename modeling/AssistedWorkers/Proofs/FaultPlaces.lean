import AssistedWorkers.Proofs.FurthestPlace
import AssistedWorkers.Proofs.TypeGrammar

/-!
# Where a refused text stops being a type expression

The fault of a text that is no type expression carries the furthest place that any attempted
match came to.  In this grammar it is the first place where no type expression could go on.

* `explores_scannerWithin` — every partial match can be completed: a name, a word such as
  `extends` of which a part was read, an open bracket, a separator that waits for its item;
* `tracks_scannerWithin` — texts that share their characters up to the furthest place are read
  alike, however deep arguments may be nested on either side;
* `TypeFault.points_at_first_impossible` — so some type expression starts with the characters
  before the place, and none starts with these and the one at the place.
-/

namespace AssistedWorkers.Java

open AssistedWorkers.Text

namespace TypeGrammar

open Scanner (Explores OnlyTakes Tracks)
open JavaType (arrayOf)

/-! ### What was read can be completed -/

/-- There are type expressions. -/
theorem exists_derivesType : ∃ text t, DerivesType text t :=
  ⟨_, _, .plain (.one (a := "A") ⟨by decide, padded_self _⟩) .nil⟩

/-- A name that was begun is complete already, and where none was begun any name may stand. -/
theorem explores_nameScanner :
    Explores nameScanner (fun text name => isTypeName name = true ∧ text = name.toList) := by
  have hsome : isTypeName "A" = true := by decide
  intro text
  cases text with
  | nil => exact ⟨[], [], _, "A", rfl, rfl, hsome, rfl⟩
  | cons c text =>
    by_cases hc : isNameStart c = true
    · obtain ⟨front, ⟨hname, hfront⟩, htext⟩ := onlyTakes_nameScanner (c :: text)
        (String.ofList (c :: text.takeWhile isNamePart)) (text.dropWhile isNamePart)
        (by simp only [nameScanner, if_pos hc])
      refine ⟨front, text.dropWhile isNamePart, [], _, htext, ?_, hname, ?_⟩
      · simp only [nameScanner, if_pos hc]
      · rw [List.append_nil, hfront]
    · exact ⟨[], c :: text, _, "A", rfl, by simp [nameScanner, hc], hsome, rfl⟩

/-- A dimension that was opened can be closed. -/
theorem explores_dimensionScanner : Explores JavaType.dimensionScanner DerivesBrackets := by
  refine ((Explores.symbol '[').bind (OnlyTakes.symbol '[') fun _ => Explores.symbol ']').mono ?_
  intro text _ hjoined
  obtain ⟨-, opening, closing, hopening, hclosing, rfl⟩ := hjoined
  exact ⟨opening, closing, hopening, hclosing, rfl⟩

/-- The bound of a wildcard: a word and a type, which make an argument of a question mark in front
of them. -/
theorem explores_bound {type : Scanner JavaType} (h : Explores type DerivesType)
    (honly : OnlyTakes type DerivesType) (w : String) {wrap : JavaType → JavaType}
    (hwrap : ∀ {mark word text t}, Padded ['?'] mark → Padded w.toList word → DerivesType text t →
      DerivesArgument (mark ++ word ++ text) (wrap t)) :
    Explores (do Scanner.word w; wrap <$> type : Scanner JavaType)
      (fun text t => ∀ mark, Padded ['?'] mark → DerivesArgument (mark ++ text) t) := by
  refine ((Explores.word w).bind (OnlyTakes.word w) fun _ => h.map honly).mono ?_
  intro text t hjoined mark hmark
  obtain ⟨-, word, body, hword, ⟨bound, hbound, rfl⟩, rfl⟩ := hjoined
  rw [← List.append_assoc]
  exact hwrap hmark hword hbound

/-- An argument is completed as a wildcard or as a type, whichever was come to further. -/
theorem explores_argumentScanner {type : Scanner JavaType} (h : Explores type DerivesType)
    (honly : OnlyTakes type DerivesType) :
    Explores (JavaType.argumentScanner type) DerivesArgument := by
  refine Explores.orElse ?_ (h.mono fun _ _ => .type)
  have hunbounded : Explores (Scanner.pure JavaType.unbounded)
      (fun text t => ∀ mark, Padded ['?'] mark → DerivesArgument (mark ++ text) t) := by
    refine (Explores.pure JavaType.unbounded).mono ?_
    intro text t hempty mark hmark
    obtain ⟨rfl, rfl⟩ := hempty
    rw [List.append_nil]
    exact .unbounded hmark
  have hupper := explores_bound h honly "extends" DerivesArgument.upperBounded
  have hlower := explores_bound h honly "super" DerivesArgument.lowerBounded
  refine ((Explores.symbol '?').bind (OnlyTakes.symbol '?') fun _ =>
    hupper.orElse (hlower.orElse hunbounded)).mono ?_
  intro text t hjoined
  obtain ⟨-, mark, rest, hmark, hrest, rfl⟩ := hjoined
  exact hrest mark hmark

/-- Arguments that were opened are completed by an argument and the bracket that closes them. -/
theorem explores_argumentsScanner {type : Scanner JavaType} (h : Explores type DerivesType)
    (honly : OnlyTakes type DerivesType) :
    Explores (JavaType.argumentsScanner type) DerivesArguments := by
  have hargument := onlyTakes_argumentScanner honly
  have hlistOnly := hargument.separatedBy (OnlyTakes.symbol ',')
  have hlist := (explores_argumentScanner h honly).separatedBy hargument (Explores.symbol ',')
    (OnlyTakes.symbol ',')
  refine ((Explores.symbol '<').bind (OnlyTakes.symbol '<') fun _ =>
    hlist.bind hlistOnly fun {_ arguments} _ =>
      (Explores.symbol '>').bind (OnlyTakes.symbol '>') fun _ => .pure arguments).mono ?_
  intro text arguments hjoined
  obtain ⟨-, opening, -, hopening, ⟨arguments, body, -, hbody,
    ⟨-, closing, -, hclosing, ⟨rfl, rfl⟩, rfl⟩, rfl⟩, rfl⟩ := hjoined
  simpa using DerivesArguments.mk hopening hbody hclosing

/-- If every partial match of the types inside type arguments can be completed, then so can every
partial match of the whole. -/
theorem explores_scannerOver {type : Scanner JavaType} (h : Explores type DerivesType)
    (honly : OnlyTakes type DerivesType) :
    Explores (JavaType.scannerOver type) DerivesType := by
  have hname {text : List Char} {name : String}
      (h : isTypeName name = true ∧ text = name.toList) : DerivesName text name :=
    ⟨h.1, h.2 ▸ padded_self name.toList⟩
  have hnameOnly := onlyTakes_nameScanner.mono fun _ _ => hname
  have hnames := (explores_nameScanner.mono fun _ _ => hname).separatedBy hnameOnly
    (Explores.symbol '.') (OnlyTakes.symbol '.')
  have harguments := onlyTakes_argumentsScanner honly
  have hdimensions := explores_dimensionScanner.many onlyTakes_dimensionScanner
  -- A type is derived from its dotted name and the rest together, so the rest is explored for every
  -- dotted name with the segments that were read.
  refine (hnames.bind (hnameOnly.separatedBy (OnlyTakes.symbol '.'))
    (T := fun segments text t => ∀ names,
      Separated (Padded ['.']) DerivesName names segments → DerivesType (names ++ text) t)
    ?_).mono ?_
  · intro names segments hsegments
    obtain ⟨-, -, first, others, -, -, rfl⟩ := hsegments.exists_first
    refine (((explores_argumentsScanner h honly).optional harguments).bind harguments.optional
      fun {_ arguments?} _ => hdimensions.bind onlyTakes_dimensionScanner.many
        fun {_ dimensions} _ =>
          .pure (arrayOf (.ofSegments first others arguments?) dimensions)).mono ?_
    intro text t hjoined names hnames
    obtain ⟨arguments?, written, -, hwritten, ⟨dimensions, brackets, -, hbrackets,
      ⟨rfl, rfl⟩, rfl⟩, rfl⟩ := hjoined
    rw [List.append_nil]
    cases arguments? with
    | none =>
      obtain rfl : written = [] := hwritten
      exact .plain hnames hbrackets
    | some arguments =>
      rw [← List.append_assoc]
      exact .applied hnames hwritten hbrackets
  · intro text t hjoined
    obtain ⟨segments, names, rest, hnames, hrest, rfl⟩ := hjoined
    exact hrest names hnames

/-- **Every partial match can be completed**, at every depth of nested arguments. -/
theorem explores_scannerWithin (depth : Nat) :
    Explores (JavaType.scannerWithin depth) DerivesType := by
  induction depth with
  | zero =>
    obtain ⟨text, t, h⟩ := exists_derivesType
    exact Explores.of_left_eq (fun _ => rfl) h
  | succ depth ih => exact explores_scannerOver ih (onlyTakes_scannerWithin depth)

theorem onlyTakes_endOfText : OnlyTakes Scanner.endOfText (fun text _ => IsBlanks text) := by
  intro text u rest hresult
  obtain ⟨hskip, rfl⟩ := endOfText_result_eq_some_iff.1 hresult
  obtain ⟨blanks, hblanks, htext⟩ := exists_blanks text
  exact ⟨blanks, hblanks, by rw [htext, hskip]⟩

/-- What stands before the furthest place in a text is the start of a type expression. -/
theorem exists_completion (text : List Char) :
    ∃ seen unseen more t, text = seen ++ unseen ∧
      unseen.length = (JavaType.textScanner text).left ∧
      Derives (String.ofList (seen ++ more)) t := by
  obtain ⟨before, hbefore, htext⟩ := exists_blanks text
  obtain ⟨seen, unseen, more, t, hskip, hlength, t', body, after, htype, hafter, hseen⟩ :=
    (explores_scannerWithin (text.length + 1)).bind (onlyTakes_scannerWithin (text.length + 1))
      (fun {_ t} _ => Explores.endOfText.bind onlyTakes_endOfText fun _ => .pure t)
      (skipBlanks text)
  obtain ⟨-, blanks, empty, hblanks, ⟨rfl, rfl⟩, rfl⟩ := hafter
  refine ⟨before ++ seen, unseen, more, t, ?_, hlength, before, body, blanks, hbefore, htype,
    hblanks, ?_⟩
  · rw [List.append_assoc, ← hskip]
    exact htext
  · rw [String.toList_ofList, List.append_assoc, hseen, List.append_nil, List.append_assoc]

/-! ### The characters up to the furthest place decide -/

section

variable {t u : List Char} {n : Nat} {type type' : Scanner JavaType}

/-- A name ends at the same character in both texts, or in neither of them before they differ. -/
theorem tracks_nameScanner : Tracks t u n n nameScanner nameScanner := by
  intro text text' halike hleft
  obtain ⟨c, shared, hlength, rfl, rfl⟩ :=
    halike.exists_cons (hleft.trans_le (explores_nameScanner.left_le text))
  unfold nameScanner at hleft ⊢
  by_cases hc : isNameStart c = true
  · simp only [if_pos hc] at hleft ⊢
    have hrest : Scanner.Alike t u n (shared ++ t) (shared ++ u) :=
      Scanner.Alike.mono (.append shared) hlength.le
    exact .inr ⟨_, _, _, rfl, by rw [hrest.takeWhile_eq hleft], hrest.dropWhile isNamePart⟩
  · exact .inl ⟨by simp only [if_neg hc], by simp only [if_neg hc]⟩

theorem tracks_dimensionScanner :
    Tracks t u (n + 1) n JavaType.dimensionScanner JavaType.dimensionScanner :=
  (Tracks.symbol '[').bind fun _ => (Tracks.symbol ']').of_le (Nat.le_succ n)

/-- A wildcard is told from a type in the same way in both texts. -/
theorem tracks_argumentScanner (h : Tracks t u n n type type') :
    Tracks t u n n (JavaType.argumentScanner type) (JavaType.argumentScanner type') := by
  refine Tracks.orElse ?_ h
  refine ((Tracks.symbol '?').of_le (Nat.le_succ n)).bind fun _ => ?_
  refine Tracks.orElse ?_ (Tracks.orElse ?_ (.pure _))
  · exact (Tracks.word "extends").bind fun _ => h.map JavaType.upperBounded
  · exact (Tracks.word "super").bind fun _ => h.map JavaType.lowerBounded

/-- Type arguments take a bracket before they read a type. -/
theorem tracks_argumentsScanner (h : ∀ k ≤ n, Tracks t u k k type type') :
    Tracks t u (n + 1) n (JavaType.argumentsScanner type) (JavaType.argumentsScanner type') := by
  have hlist := Tracks.separatedBy (fun k hk => tracks_argumentScanner (h k hk)) ','
  have hclosing : Tracks t u n n (Scanner.symbol '>') (Scanner.symbol '>') :=
    (Tracks.symbol '>').of_le (Nat.le_succ n)
  exact (Tracks.symbol '<').bind fun _ => hlist.bind fun arguments =>
    hclosing.bind fun _ => .pure arguments

/-- One level of a type takes a name at least, so the types inside share less than it does. -/
theorem tracks_scannerOver (h : ∀ k ≤ n, Tracks t u k k type type') :
    Tracks t u (n + 1) (n + 1) (JavaType.scannerOver type) (JavaType.scannerOver type') := by
  have hnames := Tracks.separatedBy (t := t) (u := u) (n := n + 1)
    (fun _ _ => tracks_nameScanner) '.'
  have harguments := ((tracks_argumentsScanner h).mono (Nat.le_succ n)).optional
  have hdimensions := Tracks.many (t := t) (u := u) (n := n + 1)
    explores_dimensionScanner.left_le fun _ _ => tracks_dimensionScanner
  refine hnames.bind fun segments => harguments.bind fun _ => hdimensions.bind fun _ => ?_
  cases segments with
  | nil => exact .fail
  | cons first others => exact .pure _

/-- **Shared characters are read alike**, at all depths of nesting that are not less than their
number: each level of arguments takes a bracket of its own. -/
theorem tracks_scannerWithin {depth depth' : Nat} (hdepth : n ≤ depth) (hdepth' : n ≤ depth') :
    Tracks t u n n (JavaType.scannerWithin depth) (JavaType.scannerWithin depth') := by
  induction n using Nat.strong_induction_on generalizing depth depth' with
  | _ n ih =>
    cases n with
    | zero => exact .zero (explores_scannerWithin depth).left_le
    | succ n =>
      obtain ⟨d, rfl⟩ : ∃ d, depth = d + 1 := ⟨depth - 1, by omega⟩
      obtain ⟨d', rfl⟩ : ∃ d, depth' = d + 1 := ⟨depth' - 1, by omega⟩
      exact tracks_scannerOver fun k hk => ih k (by omega) (by omega) (by omega)

end

/-- A text that is refused before it comes to `t` is refused whatever stands in the place of
`t`. -/
theorem textScanner_result_of_shared {shared t : List Char}
    (h : (JavaType.textScanner (shared ++ t)).result = none)
    (hleft : t.length < (JavaType.textScanner (shared ++ t)).left) (u : List Char) :
    (JavaType.textScanner (shared ++ u)).result = none := by
  have htype : Tracks t u shared.length shared.length
      (JavaType.scannerWithin ((shared ++ t).length + 1))
      (JavaType.scannerWithin ((shared ++ u).length + 1)) :=
    tracks_scannerWithin (by simp; omega) (by simp; omega)
  have hwhole := htype.bind fun a => (Tracks.endOfText (m := shared.length)).bind fun _ => .pure a
  have hskip : Scanner.Alike t u shared.length (skipBlanks (shared ++ t))
      (skipBlanks (shared ++ u)) :=
    Scanner.Alike.dropWhile (.append shared) isBlank
  rcases hwhole _ _ hskip hleft with ⟨-, hfail⟩ | ⟨a, rest, -, hresult, -, -⟩
  · exact hfail
  · exact absurd (h.symm.trans hresult) (by simp)

end TypeGrammar

/-! ### The place of a fault -/

/-- Some type expression starts with the characters. -/
def StartsType (front : List Char) : Prop :=
  ∃ text t, JavaType.read text = .ok t ∧ front <+: text.toList

namespace TypeFault

open TypeGrammar

/-- A fault is at the furthest place that the reading came to. -/
theorem of_read {text : String} {fault : TypeFault} (h : JavaType.read text = .error fault) :
    (JavaType.textScanner text.toList).result = none ∧ fault.text = text ∧
      fault.position = text.toList.length - (JavaType.textScanner text.toList).left := by
  unfold JavaType.read at h
  dsimp only at h
  cases hresult : (JavaType.textScanner text.toList).result with
  | some found => simp [hresult] at h
  | none =>
    rw [hresult] at h
    obtain rfl := Except.error.inj h
    exact ⟨rfl, rfl, rfl⟩

/-- The characters before the place of a fault can be completed. -/
theorem startsType_before {text : String} {fault : TypeFault}
    (h : JavaType.read text = .error fault) :
    StartsType (text.toList.take fault.position) := by
  obtain ⟨-, -, hposition⟩ := of_read h
  obtain ⟨seen, unseen, more, t, htext, hlength, hderives⟩ := exists_completion text.toList
  have hseen : text.toList.take fault.position = seen := by
    rw [hposition, ← hlength, htext, List.length_append, Nat.add_sub_cancel, List.take_left]
  refine ⟨String.ofList (seen ++ more), t, read_eq_ok_iff.2 hderives, ?_⟩
  rw [hseen, String.toList_ofList]
  exact List.prefix_append seen more

/-- With the character at the place of a fault they cannot: a text that goes on otherwise would
have been refused at the same place. -/
theorem not_startsType_at {text : String} {fault : TypeFault}
    (h : JavaType.read text = .error fault) (hlt : fault.position < text.toList.length) :
    ¬ StartsType (text.toList.take (fault.position + 1)) := by
  obtain ⟨hnone, -, hposition⟩ := of_read h
  intro hstarts
  obtain ⟨other, t, hread, u, hother⟩ := hstarts
  have hsplit := List.take_append_drop (fault.position + 1) text.toList
  have hfail := textScanner_result_of_shared (by rw [hsplit]; exact hnone)
    (by rw [hsplit, List.length_drop]; omega) u
  obtain ⟨rest, hresult⟩ := read_eq_ok_iff_result.1 hread
  rw [← hother, hfail] at hresult
  exact absurd hresult (by simp)

/-- **A fault points at the first character that cannot be right.**  When a text is refused, some
type expression starts with the characters before the place of the fault, and none starts with
these characters and the one at the place.  So the end of the text is reported exactly when more
characters could make a type expression of it. -/
theorem points_at_first_impossible {text : String} {fault : TypeFault}
    (h : JavaType.read text = .error fault) :
    fault.text = text ∧ fault.position ≤ text.toList.length ∧
      StartsType (text.toList.take fault.position) ∧
      (fault.position < text.toList.length →
        ¬ StartsType (text.toList.take (fault.position + 1))) ∧
      (fault.found = none ↔ StartsType text.toList) := by
  obtain ⟨-, htext, hposition⟩ := of_read h
  have hplace : fault.position ≤ text.toList.length := hposition ▸ Nat.sub_le _ _
  refine ⟨htext, hplace, startsType_before h, not_startsType_at h, ?_⟩
  rw [found, htext, List.getElem?_eq_none_iff]
  constructor
  · intro hend
    have hbefore := startsType_before h
    rwa [List.take_of_length_le hend] at hbefore
  · intro hstarts
    obtain ⟨other, t, hread, hprefix⟩ := hstarts
    by_contra hlt
    exact not_startsType_at h (Nat.not_le.1 hlt)
      ⟨other, t, hread, (List.take_prefix _ _).trans hprefix⟩

/-- In `A<? e x>` the blank after the `e` is at fault, although a wildcard without bounds was read
before it: `A<? e` goes on to `A<? extends B>`. -/
theorem points_into_unfinished_word :
    JavaType.read "A<? e x>" = .error ⟨"A<? e x>", 5⟩ ∧ StartsType "A<? e".toList ∧
      ¬ StartsType "A<? e ".toList := by
  have hread : JavaType.read "A<? e x>" = .error ⟨"A<? e x>", 5⟩ := by decide +kernel
  obtain ⟨-, -, hbefore, hat, -⟩ := points_at_first_impossible hread
  exact ⟨hread, hbefore, hat (by decide)⟩

end TypeFault

end AssistedWorkers.Java
