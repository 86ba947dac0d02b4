import HeaderProbe.Proofs.Source.Attribute
import HeaderProbe.Proofs.Source.Lead
import HeaderProbe.Proofs.Source.PointerMember

namespace HeaderProbe

open Text

def lastWord (s : Text) : Text :=
  ((s.reverse.dropWhile fun c => !isWordChar c).takeWhile isWordChar).reverse

structure Specifiers (name s : Text) : Prop where
  begins : s.head?.any isWordChar = true
  plain : s.all (fun c => isWordChar c || isBlank c || c == '*') = true
  apart : s.getLast?.any isWordChar = false
  type : notTypes.contains (lastWord s) = false ∧ (lastWord s).head?.any isDigit = false
  unmentioned : Unmentioned name s

structure Prototype (name : Text) where
  specifiers : Text
  gap : Text
  parameters : Text
  trailer : Text
  declared : Specifiers name specifiers
  blank : AllBlank gap
  balanced : Balanced parameters
  attributes : Attributes trailer

def Prototype.tail {name : Text} (d : Prototype name) : Text :=
  d.gap ++ '(' :: (d.parameters ++ ')' :: (d.trailer ++ [';']))

def Prototype.text {name : Text} (d : Prototype name) : Text :=
  d.specifiers ++ (name ++ d.tail)

/-- What may precede a declaration that begins at its end: nothing but blanks and preprocessor lines
after the last semicolon or brace, and behind that a line break first. -/
inductive Precedes : Text → Prop where
  | first {lead : Text} (hlead : Lead FinishedLine true lead) : Precedes lead
  | later {q w lead : Text} {c : Char} (hc : endsStatement c = true) (hw : AllBlank w)
      (hlead : Lead FinishedLine true lead) : Precedes (q ++ c :: (w ++ '\n' :: lead))

namespace Precedes

variable {p : Text}

theorem offDirective (h : Precedes p) : OffDirective p.reverse := by
  cases h with
  | first hlead => simpa using hlead.offDirective .nil
  | @later q w lead c hc hw hlead =>
    have hended : isContinued (w.reverse ++ c :: q.reverse) = false := by
      by_contra h
      have hend := isContinued_append_blank hw.reverse (by simpa using h)
      rw [isContinued_boundary (.inr ⟨c, _, rfl, .inl hc⟩)] at hend
      cases hend
    simpa using hlead.offDirective (.newline hended)

theorem exists_lead (h : Precedes p) :
    ∃ fresh b lead, EndsBefore fresh b ∧ Lead DirectiveLine fresh lead ∧
      p.reverse = lead.reverse ++ b := by
  cases h with
  | first hlead => exact ⟨true, [], p, rfl, hlead.mono fun _ hl => hl.1, by simp⟩
  | @later q w lead c hc hw hlead =>
    exact ⟨false, c :: q.reverse, w ++ '\n' :: lead, hc, .newline hw (hlead.mono fun _ hl => hl.1),
      by simp⟩

theorem isWordChar_getLast (h : Precedes p) : p.getLast?.any isWordChar = false := by
  cases h with
  | first hlead => exact hlead.isWordChar_getLast
  | @later q w lead c hc hw hlead =>
    have hnew : q ++ c :: (w ++ '\n' :: lead) = (q ++ [c]) ++ (w ++ '\n' :: lead) := by simp
    have hlead' : Lead FinishedLine false (w ++ '\n' :: lead) := .newline hw hlead
    rw [hnew, List.getLast?_append_of_ne_nil _ (by simp), hlead'.isWordChar_getLast]

end Precedes

namespace Specifiers

variable {name s : Text}

theorem exists_cons (h : Specifiers name s) : ∃ c r, s = c :: r ∧ isWordChar c = true := by
  cases s with
  | nil => cases h.begins
  | cons c r => exact ⟨c, r, rfl, h.begins⟩

theorem cases_of_mem (h : Specifiers name s) {c : Char} (hc : c ∈ s) :
    isWordChar c = true ∨ isBlank c = true ∨ c = '*' := by
  simpa [or_assoc] using List.all_eq_true.1 h.plain c hc

theorem skipBlanks_eq (h : Specifiers name s) : skipBlanks s = s := by
  obtain ⟨c, r, rfl, hc⟩ := h.exists_cons
  exact skipBlanks_cons (isBlank_of_isWordChar hc) r

theorem ne_of_mem (h : Specifiers name s) {c d : Char} (hc : c ∈ s) (hword : isWordChar d = false)
    (hblank : isBlank d = false) (hstar : d ≠ '*') : c ≠ d := by
  rintro rfl
  rcases h.cases_of_mem hc with hc | hc | hc
  · rw [hword] at hc
    cases hc
  · rw [hblank] at hc
    cases hc
  · exact hstar hc

theorem dropWhile_eq (h : Specifiers name s) :
    (s.reverse.dropWhile fun c => isBlank c || c == '*') =
      s.reverse.dropWhile fun c => !isWordChar c := by
  have hstar : isWordChar '*' = false := by decide +kernel
  have hplain : ∀ c ∈ s.reverse, isWordChar c = true ∨ isBlank c = true ∨ c = '*' :=
    fun c hc => h.cases_of_mem (List.mem_reverse.1 hc)
  generalize s.reverse = r at hplain
  induction r with
  | nil => rfl
  | cons c r ih =>
    obtain ⟨hc, hr⟩ := List.forall_mem_cons.1 hplain
    have hagree : (isBlank c || c == '*') = !isWordChar c := by
      rcases hc with hc | hc | rfl
      · simp [hc, isBlank_of_isWordChar hc, isWordChar_ne hc hstar]
      · simp [hc, isWordChar_of_isBlank hc]
      · simp [hstar]
    simp only [List.dropWhile_cons, hagree, ih hr]

theorem declares (h : Specifiers name s) {b : Text}
    (hb : b.head?.any isWordChar = false) : isDeclaredName (s.reverse ++ b) = true := by
  have hclose : isWordChar ')' = false := by decide +kernel
  obtain ⟨first, tail, hs, hfirst⟩ := h.exists_cons
  cases hlast : s.reverse.dropWhile fun c => !isWordChar c with
  | nil =>
    have hall := List.dropWhile_eq_nil_iff.1 hlast first (by simp [hs])
    simp [hfirst] at hall
  | cons c r =>
    have hc : isWordChar c = true := by
      have hhead := List.head?_dropWhile_not (fun c => !isWordChar c) s.reverse
      simpa [hlast] using hhead
    have hdrop : ((s.reverse ++ b).dropWhile fun c => isBlank c || c == '*') = c :: (r ++ b) := by
      rw [List.dropWhile_append, h.dropWhile_eq, hlast]
      rfl
    have hword : wordBefore (c :: (r ++ b)) = lastWord s := by
      rw [wordBefore, skipBlanks_cons (isBlank_of_isWordChar hc), lastWord, hlast, ← List.cons_append,
        takeWhile_isWordChar_append hb]
    unfold isDeclaredName
    rw [hdrop]
    simp only [if_neg (isWordChar_ne hc hclose), hc, if_true, hword, h.type.1, h.type.2]
    rfl

theorem outsideDirective (h : Specifiers name s) {b : Text} (hb : OffDirective b) :
    inDirective (s.reverse ++ b) = false := by
  have hmem : '#' ∉ logicalHead (s.reverse ++ b) := by
    obtain ⟨c, r, rfl, hc⟩ := h.exists_cons
    refine hb.hashless_append (isBlank_of_isWordChar hc) fun d hd => ⟨?_, ?_⟩
    · exact h.ne_of_mem hd (by decide +kernel) rfl (by decide)
    · exact h.ne_of_mem hd (by decide +kernel) rfl (by decide)
  rw [inDirective, beq_eq_false_iff_ne]
  intro hhead
  exact hmem ((List.dropWhile_sublist _).mem (List.mem_of_mem_head? hhead))

theorem mayBeginName (h : Specifiers name s) (b : Text) : mayBeginName (s.reverse ++ b) = true := by
  obtain ⟨c, hlast⟩ : ∃ c, s.getLast? = some c := by
    obtain ⟨c, r, rfl, -⟩ := h.exists_cons
    exact ⟨_, List.getLast?_cons⟩
  have hword : isWordChar c = false := by simpa [hlast] using h.apart
  have hmem := List.mem_of_getLast? hlast
  have hdot : c ≠ '.' := h.ne_of_mem hmem (by decide +kernel) rfl (by decide)
  have harrow : c ≠ '>' := h.ne_of_mem hmem (by decide +kernel) rfl (by decide)
  simp [HeaderProbe.mayBeginName, List.head?_append, hlast, hword, hdot, harrow]

theorem statementHead_eq (h : Specifiers name s) {p : Text} (hp : Precedes p) :
    statementHead (s.reverse ++ p.reverse) = s := by
  obtain ⟨fresh, b, lead, hb, hlead, hsplit⟩ := hp.exists_lead
  rw [hsplit, statementHead_of_lead hb hlead fun c hc => ?_, h.skipBlanks_eq]
  have hne {d : Char} (hword : isWordChar d = false) (hblank : isBlank d = false) (hstar : d ≠ '*') :
      c ≠ d := h.ne_of_mem hc hword hblank hstar
  have hsemicolon := hne (d := ';') (by decide +kernel) rfl (by decide)
  have hopen := hne (d := '\x7b') (by decide +kernel) rfl (by decide)
  have hclose := hne (d := '\x7d') (by decide +kernel) rfl (by decide)
  refine ⟨?_, hne (by decide +kernel) rfl (by decide)⟩
  simp only [endsStatement, beq_false_of_ne hsemicolon, beq_false_of_ne hopen, beq_false_of_ne hclose]
  rfl

end Specifiers

theorem mention_of_callShape {name b s r : Text} {isPointer : Bool}
    (h : callShape name ⟨b, s⟩ = some (isPointer, r)) :
    ∃ v, Mention name (b.reverse ++ s) b.reverse v := by
  obtain ⟨hbegin, gap, rfl, hne, hgap⟩ := exists_gap_of_callShape h
  refine ⟨gap ++ r, by rw [List.append_assoc], ?_, ?_⟩
  · rw [List.getLast?_reverse]
    exact mayBeginName_left hbegin
  · obtain ⟨c, gap, rfl⟩ := List.exists_cons_of_ne_nil hne
    exact hgap c (List.mem_cons_self ..)

theorem Specifiers.callShape_eq_none {name p s rest u v : Text} (hname : IsWord name)
    (h : Specifiers name s) (hp : Unmentioned name p) (hedge : p.getLast?.any isWordChar = false)
    (hsplit : p ++ s = u ++ v) (hv : v ≠ []) :
    callShape name ⟨u.reverse, v ++ (name ++ rest)⟩ = none := by
  by_contra hsome
  obtain ⟨⟨isPointer, r⟩, hshape⟩ := Option.ne_none_iff_exists'.1 hsome
  obtain ⟨x, hmention⟩ := mention_of_callShape hshape
  rw [List.reverse_reverse, ← List.append_assoc, ← hsplit, List.append_assoc] at hmention
  rcases hmention.append hname (.inl hedge) with ⟨y, -, hbefore⟩ | ⟨y, rfl, hfrom⟩
  · exact hp u y hbefore
  · rcases hfrom.append hname (.inl h.apart) with ⟨z, -, hspecifier⟩ | ⟨z, rfl, -⟩
    · exact h.unmentioned y z hspecifier
    · rw [List.append_assoc, List.append_assoc, List.append_cancel_left_eq] at hsplit
      have hlen := congrArg List.length hsplit
      rw [List.length_append, List.length_append] at hlen
      have := List.length_pos_of_ne_nil hv
      omega

namespace Prototype

variable {name p s : Text} (d : Prototype name)

theorem callShape_eq (p s : Text) :
    callShape name ⟨d.specifiers.reverse ++ p, name ++ (d.tail ++ s)⟩ =
      some (false, d.parameters ++ ')' :: (d.trailer ++ ';' :: s)) := by
  have hprefix : name.isPrefixOf? (name ++ (d.tail ++ s)) = some (d.tail ++ s) :=
    List.isPrefixOf?_eq_some_iff_append_eq.2 rfl
  have hskip : skipBlanks (d.tail ++ s) =
      '(' :: (d.parameters ++ ')' :: (d.trailer ++ ';' :: s)) := by
    rw [tail, List.append_assoc, skipBlanks_append d.blank, List.cons_append, skipBlanks_cons rfl]
    simp
  simp only [callShape, d.declared.mayBeginName p, if_true, hprefix, Option.bind_eq_bind,
    Option.bind_some, hskip]

theorem functionExtent?_eq (hp : Precedes p) :
    functionExtent? ⟨⟨d.specifiers.reverse ++ p.reverse, name ++ (d.tail ++ s)⟩, false,
      d.parameters ++ ')' :: (d.trailer ++ ';' :: s)⟩ = some (p.length, p.length + d.text.length) := by
  have hedge : p.reverse.head?.any isWordChar = false := by
    rw [List.head?_reverse]
    exact hp.isWordChar_getLast
  have hclose := Bracket.afterClose_of_balanced d.balanced (d.trailer ++ ';' :: s)
  have htrailer := (d.attributes.afterTrailer_eq s).1
  have hstart : statementStart (d.specifiers.reverse ++ p.reverse) = p.length := by
    rw [statementStart, d.declared.statementHead_eq hp]
    simp
  have hstop : (d.specifiers.reverse ++ p.reverse).length +
      ((name ++ (d.tail ++ s)).length - s.length) = p.length + d.text.length := by
    simp only [text, List.length_append, List.length_reverse]
    omega
  simp only [functionExtent?, declaresFunction, d.declared.outsideDirective hp.offDirective,
    d.declared.declares hedge, hclose, htrailer, hstart, Place.offset, Place.reach, hstop,
    Option.bind_eq_bind, Option.bind_some, Option.getD_some]
  rfl

end Prototype

theorem prototype_found_exactly {name t p s : Text} (hname : IsWord name) (d : Prototype name)
    (hmask : mask t = p ++ (d.text ++ s)) (hunmentioned : Unmentioned name p) (hp : Precedes p) :
    findFunction name t = some (Span.cut t p.length (p.length + d.text.length)) := by
  have hsplit : Place.start (mask t) = ⟨[], (p ++ d.specifiers) ++ (name ++ (d.tail ++ s))⟩ := by
    rw [hmask, Place.start, Prototype.text]
    simp only [List.append_assoc]
  have hoccurrences : (Place.start (mask t)).occurrences (callShape name) =
      Place.occurrences (callShape name)
        ⟨d.specifiers.reverse ++ p.reverse, name ++ (d.tail ++ s)⟩ := by
    rw [hsplit, Place.occurrences_append_of_none [] _ fun u v huv hv => ?_, List.append_nil,
      List.reverse_append]
    rw [List.append_nil]
    exact d.declared.callShape_eq_none hname hunmentioned hp.isWordChar_getLast huv hv
  obtain ⟨later, hfirst⟩ := Place.occurrences_eq_cons (d.callShape_eq p.reverse s)
  rw [findFunction, hoccurrences, hfirst, List.findSome?_cons, d.functionExtent?_eq hp]
  rfl

def lockedPrototype : Prototype "foo".toList where
  specifiers := "static int __must_check\n*".toList
  gap := [' ']
  parameters := "struct foo *foo, int (*cb)(int)".toList
  trailer := [' '] ++ ("__acquires".toList ++ ([] ++ '(' ::
    ("foo->lock".toList ++ ')' :: ("\n\t".toList ++ ("__cold".toList ++ [' '])))))
  declared := ⟨by decide +kernel, by decide +kernel, by decide +kernel, by decide +kernel,
    by decide +kernel⟩
  blank := allBlank_space
  balanced := by decide +kernel
  attributes :=
    .call allBlank_space (by decide +kernel) (by decide +kernel) allBlank_nil (by decide +kernel)
      (.plain (by decide +kernel) (by decide +kernel) (by decide +kernel) (by decide +kernel)
        (.blanks allBlank_space))

def lockedText : Text :=
  "int x; /* foo(); */\n#ifdef A\n\t".toList ++ (lockedPrototype.text ++ " int y;".toList)

theorem locked_prototype_found :
    findFunction "foo".toList lockedText = some ⟨lockedPrototype.text, 30, 124, 3⟩ := by
  have hline : FinishedLine "#ifdef A".toList :=
    ⟨⟨by decide +kernel, by decide +kernel, by decide +kernel, by decide +kernel⟩, by decide +kernel⟩
  have hp : Precedes ("int x".toList ++ ';' :: (List.replicate 13 ' ' ++ '\n' ::
      ("#ifdef A".toList ++ '\n' :: ['\t']))) :=
    .later rfl (by decide +kernel) (.whole hline (.blanks (by decide +kernel)))
  rw [prototype_found_exactly (t := lockedText) (s := " int y;".toList) (by decide +kernel)
    lockedPrototype (by decide +kernel) (by decide +kernel) hp]
  decide +kernel

end HeaderProbe
