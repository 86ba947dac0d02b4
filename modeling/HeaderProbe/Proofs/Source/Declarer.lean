import HeaderProbe.Proofs.Source.Attribute
import HeaderProbe.Proofs.Source.Boundary

namespace HeaderProbe

open Text

def Stars (s : Text) : Prop :=
  ∀ c ∈ s, isBlank c = true ∨ c = '*'

/-- A word that makes the name behind it a declared one, with what stands between the two. -/
inductive Declarer : Text → Text → Prop where
  | type {a v : Text} (ha : IsWord a) (htype : a ∉ notTypes) (hdigit : a.head?.any isDigit = false)
      (hv : Stars v) : Declarer a v
  | call {a w arguments v : Text} (ha : IsWord a) (hmark : beginsAttribute a = true) (hw : AllBlank w)
      (hbalanced : Balanced arguments) (hv : Stars v) :
      Declarer a (w ++ '(' :: (arguments ++ ')' :: v))

def Names (s : Text) : Prop :=
  ∃ w u v, IsWord w ∧ w.head?.any isDigit = false ∧ Mention w s u v

theorem not_names_of_wordless {s : Text} (hs : ∀ c ∈ s, isWordChar c = false) : ¬ Names s := by
  rintro ⟨w, u, v, hw, -, hmention⟩
  exact unmentioned_of_wordless hw hs u v hmention

theorem Stars.wordless {s : Text} (hs : Stars s) : ∀ c ∈ s, isWordChar c = false := by
  intro c hc
  rcases hs c hc with hblank | rfl
  · exact isWordChar_of_isBlank hblank
  · decide +kernel

theorem names_skipBlanks (s : Text) : Names (skipBlanks s) ↔ Names s := by
  have hblank := allBlank_takeWhile s
  constructor
  · rintro ⟨w, u, v, hw, hdigit, hmention⟩
    refine ⟨w, s.takeWhile isBlank ++ u, v, hw, hdigit, ?_, ?_, hmention.right⟩
    · have hsplit := takeWhile_append_skipBlanks s
      rw [hmention.text_eq] at hsplit
      simpa using hsplit.symm
    · cases u with
      | nil => simpa using hblank.isWordChar_getLast?
      | cons c u =>
        rw [List.getLast?_append_of_ne_nil _ (List.cons_ne_nil c u)]
        exact hmention.left
  · rintro ⟨w, u, v, hw, hdigit, hmention⟩
    rw [← takeWhile_append_skipBlanks s] at hmention
    rcases hmention.append hw (.inl hblank.isWordChar_getLast?) with ⟨x, -, hin⟩ | ⟨x, -, hbehind⟩
    · exact absurd hin (hblank.unmentioned hw u x)
    · exact ⟨w, x, v, hw, hdigit, hbehind⟩

namespace Declarer

variable {a v : Text}

theorem isWord (h : Declarer a v) : IsWord a := by
  cases h with
  | type ha => exact ha
  | call ha => exact ha

theorem undigited (h : Declarer a v) : a.head?.any isDigit = false := by
  cases h with
  | type _ _ hdigit => exact hdigit
  | call ha hmark =>
    have hlow : isDigit '_' = false := by decide +kernel
    obtain ⟨r, rfl⟩ := List.isPrefixOf_iff_prefix.1 hmark
    exact hlow

theorem isWordChar_head? (h : Declarer a v) : v.head?.any isWordChar = false := by
  cases h with
  | type _ _ _ hv =>
    cases v with
    | nil => rfl
    | cons c v => exact hv.wordless c (List.mem_cons_self ..)
  | @call w _ _ _ _ hw =>
    have hopen : isWordChar '(' = false := by decide +kernel
    cases w with
    | nil => exact hopen
    | cons c w => exact hw.wordless c (List.mem_cons_self ..)

theorem names (h : Declarer a v) {u : Text} (hu : u.getLast?.any isWordChar = false) :
    Names (u ++ (a ++ v)) :=
  ⟨a, u, v, h.isWord, h.undigited, by rw [List.append_assoc], hu, h.isWordChar_head?⟩

end Declarer

theorem exists_wordBefore (b : Text) :
    ∃ u w, b.reverse = u ++ (wordBefore b ++ w) ∧ AllBlank w ∧ u.getLast?.any isWordChar = false ∧
      ∀ c ∈ wordBefore b, isWordChar c = true := by
  refine ⟨((skipBlanks b).dropWhile isWordChar).reverse, (b.takeWhile isBlank).reverse, ?_,
    (allBlank_takeWhile b).reverse, ?_, fun c hc => ?_⟩
  · calc b.reverse = (b.takeWhile isBlank ++ skipBlanks b).reverse := by rw [takeWhile_append_skipBlanks]
      _ = (skipBlanks b).reverse ++ (b.takeWhile isBlank).reverse := List.reverse_append
      _ = ((skipBlanks b).takeWhile isWordChar ++ (skipBlanks b).dropWhile isWordChar).reverse ++
            (b.takeWhile isBlank).reverse := by rw [List.takeWhile_append_dropWhile]
      _ = _ := by simp only [wordBefore, List.reverse_append, List.append_assoc]
  · rw [List.getLast?_reverse]
    have := List.head?_dropWhile_not isWordChar (skipBlanks b)
    cases hdrop : (skipBlanks b).dropWhile isWordChar with
    | nil => rfl
    | cons c r => simpa [hdrop] using this
  · rw [wordBefore, List.mem_reverse] at hc
    exact List.mem_takeWhile_imp hc

theorem exists_declarer {z : Text} (h : isDeclaredName z.reverse = true) :
    ∃ u a v, z = u ++ (a ++ v) ∧ u.getLast?.any isWordChar = false ∧ Declarer a v := by
  have hsplit := List.takeWhile_append_dropWhile (p := fun c => isBlank c || c == '*') (l := z.reverse)
  have hstars : Stars (z.reverse.takeWhile fun c => isBlank c || c == '*').reverse := fun c hc => by
    simpa using List.mem_takeWhile_imp (List.mem_reverse.1 hc)
  unfold isDeclaredName at h
  generalize (z.reverse.takeWhile fun c => isBlank c || c == '*') = v at hsplit hstars
  split at h
  · cases h
  · next c r hdrop =>
    rw [hdrop] at hsplit
    have hz : z = (c :: r).reverse ++ v.reverse := by
      rw [← List.reverse_append, hsplit, List.reverse_reverse]
    split at h
    · next hc =>
      subst hc
      obtain ⟨b, hb, hmark⟩ := (Option.any_eq_true _ _).1 h
      obtain ⟨arguments, hbalanced, rfl⟩ := Bracket.beforeOpen_eq_some_iff.1 hb
      obtain ⟨u, w, hsplit', hw, hu, hword⟩ := exists_wordBefore b
      have hne : wordBefore b ≠ [] := by
        intro hnil
        rw [hnil] at hmark
        cases hmark
      refine ⟨u, wordBefore b, _, ?_, hu, .call ⟨hne, ?_⟩ hmark hw hbalanced hstars⟩
      · rw [hz]
        simp [hsplit']
      · simpa using hword
    · split at h
      · next hword =>
        rw [Bool.and_eq_true, Bool.not_eq_true', Bool.not_eq_true'] at h
        obtain ⟨u, w, hsplit', hw, hu, hall⟩ := exists_wordBefore (c :: r)
        have hne : wordBefore (c :: r) ≠ [] := by
          simp [wordBefore, skipBlanks_cons (isBlank_of_isWordChar hword), hword]
        refine ⟨u, wordBefore (c :: r), w ++ v.reverse, ?_, hu, .type ⟨hne, by simpa using hall⟩ ?_ h.2 ?_⟩
        · rw [hz, hsplit']
          simp
        · simpa using h.1
        · exact List.forall_mem_append.2 ⟨fun d hd => .inl (hw d hd), hstars⟩
      · cases h

theorem wordBefore_reverse {u a w : Text} (hu : u.getLast?.any isWordChar = false) (ha : IsWord a)
    (hw : AllBlank w) : wordBefore (w.reverse ++ (a.reverse ++ u.reverse)) = a := by
  have hskip : skipBlanks (a.reverse ++ u.reverse) = a.reverse ++ u.reverse := by
    cases hrev : a.reverse with
    | nil => exact absurd (List.reverse_eq_nil_iff.1 hrev) ha.1
    | cons c r =>
      have hc : c ∈ a := List.mem_reverse.1 (by rw [hrev]; exact List.mem_cons_self ..)
      exact skipBlanks_cons (isBlank_of_isWordChar (ha.isWordChar hc)) _
  have hall : ∀ c ∈ a.reverse, isWordChar c = true := fun c hc => ha.isWordChar (List.mem_reverse.1 hc)
  rw [wordBefore, skipBlanks_append hw.reverse, hskip,
    takeWhile_isWordChar_append (by rwa [List.head?_reverse]), List.takeWhile_eq_self_iff.2 hall,
    List.reverse_reverse]

theorem isDeclaredName_iff {z : Text} :
    isDeclaredName z.reverse = true ↔
      ∃ u a v, z = u ++ (a ++ v) ∧ u.getLast?.any isWordChar = false ∧ Declarer a v := by
  refine ⟨exists_declarer, ?_⟩
  rintro ⟨u, a, v, rfl, hu, hdeclarer⟩
  have hdrop {v s : Text} {c : Char} (hv : Stars v) (hc : (isBlank c || c == '*') = false) :
      ((v.reverse ++ c :: s).dropWhile fun c => isBlank c || c == '*') = c :: s := by
    rw [List.dropWhile_append_of_pos fun d hd => by simpa using hv d (List.mem_reverse.1 hd),
      List.dropWhile_cons, hc]
    rfl
  cases hdeclarer with
  | type ha htype hdigit hv =>
    have hword := wordBefore_reverse hu ha allBlank_nil
    cases hrev : a.reverse ++ u.reverse with
    | nil => exact absurd (List.reverse_eq_nil_iff.1 (List.append_eq_nil_iff.1 hrev).1) ha.1
    | cons c r =>
      have hc : isWordChar c = true := by
        obtain ⟨d, s, hd⟩ := List.exists_cons_of_ne_nil (mt List.reverse_eq_nil_iff.1 ha.1)
        rw [hd] at hrev
        obtain ⟨rfl, -⟩ := List.cons.inj hrev
        exact ha.isWordChar (List.mem_reverse.1 (by rw [hd]; exact List.mem_cons_self ..))
      have hstar : isWordChar '*' = false := by decide +kernel
      have hclose : isWordChar ')' = false := by decide +kernel
      have hz : (u ++ (a ++ v)).reverse = v.reverse ++ c :: r := by
        rw [← hrev]
        simp
      rw [List.reverse_nil, List.nil_append, hrev] at hword
      unfold isDeclaredName
      rw [hz, hdrop hv (by simp [isBlank_of_isWordChar hc, isWordChar_ne hc hstar])]
      simp only [if_neg (isWordChar_ne hc hclose), hc, if_true, hword, hdigit]
      simpa using htype
  | @call w arguments v ha hmark hw hbalanced hv =>
    have hz : (u ++ (a ++ (w ++ '(' :: (arguments ++ ')' :: v)))).reverse =
        v.reverse ++ ')' :: (arguments.reverse ++ '(' :: (w.reverse ++ (a.reverse ++ u.reverse))) := by
      simp
    have hopen : Bracket.paren.beforeOpen
        (')' :: (arguments.reverse ++ '(' :: (w.reverse ++ (a.reverse ++ u.reverse)))) =
          some (w.reverse ++ (a.reverse ++ u.reverse)) :=
      Bracket.beforeOpen_eq_some_iff.2 ⟨arguments, hbalanced, rfl⟩
    unfold isDeclaredName
    rw [hz, hdrop hv rfl]
    simp only [if_true, hopen, Option.any_some, wordBefore_reverse hu ha hw, hmark]

theorem extract_statementHead (p : Place) :
    p.text.extract (statementStart p.before) p.offset = statementHead p.before := by
  obtain ⟨w, b, hb, -, -⟩ := exists_before_statementHead p.before
  have hbefore : p.before.reverse = (w ++ b).reverse ++ statementHead p.before := by
    conv_lhs => rw [hb]
    simp
  have hstart : statementStart p.before = (w ++ b).reverse.length := by
    have := congrArg List.length hb
    rw [List.length_append, List.length_reverse] at this
    rw [statementStart, List.length_reverse]
    omega
  have hwidth : p.offset - statementStart p.before = (statementHead p.before).length := by
    have := congrArg List.length hb
    rw [List.length_append, List.length_reverse] at this
    rw [hstart, Place.offset, List.length_reverse]
    omega
  rw [List.extract_eq_take_drop, hwidth, hstart, Place.text, hbefore, List.append_assoc, List.drop_left,
    List.take_left]

namespace Declarer

variable {u a v : Text}

theorem exists_statementRest (h : Declarer a v) (hunparted : Unparted (u ++ a) v) :
    ∃ y, y <:+ u ∧ statementRest (u ++ (a ++ v)).reverse = y ++ (a ++ v) := by
  have hword : Unparted u a := by
    refine unparted_of_closed fun c hc => ?_
    have hc' := h.isWord.isWordChar hc
    constructor
    · by_contra hends
      rw [(apart_of_endsStatement (by simpa using hends)).2.1] at hc'
      cases hc'
    · exact isWordChar_ne hc' (by decide +kernel)
  obtain ⟨y, hy⟩ := unparted_iff.1 (unparted_append.2 ⟨hword, hunparted⟩)
  have hsuffix := statementRest_suffix (u ++ (a ++ v))
  rw [← hy, List.suffix_append_inj_of_length_eq rfl] at hsuffix
  exact ⟨y, hsuffix.1, hy.symm⟩

theorem start_le_iff (h : Declarer a v) :
    statementStart (u ++ (a ++ v)).reverse ≤ u.length ↔ Unparted (u ++ a) v := by
  have hstart : statementStart (u ++ (a ++ v)).reverse ≤ u.length ↔
      (a ++ v).length ≤ (statementHead (u ++ (a ++ v)).reverse).length := by
    rw [statementStart, List.length_reverse, List.length_append]
    omega
  rw [hstart, statementHead]
  constructor
  · intro hle
    have hskip := length_skipBlanks_le (statementRest (u ++ (a ++ v)).reverse)
    have hsuffix : a ++ v <:+ statementRest (u ++ (a ++ v)).reverse :=
      List.suffix_of_suffix_length_le (List.suffix_append u _) (statementRest_suffix _) (by omega)
    exact (unparted_append.1 (unparted_iff.2 hsuffix)).2
  · intro hunparted
    obtain ⟨y, -, hrest⟩ := h.exists_statementRest hunparted
    obtain ⟨c, r, rfl⟩ := List.exists_cons_of_ne_nil h.isWord.1
    have hblank : isBlank c = false :=
      isBlank_of_isWordChar (h.isWord.isWordChar (List.mem_cons_self ..))
    rw [hrest, List.cons_append, skipBlanks_append_cons hblank]
    simp

theorem names_iff (h : Declarer a v) (hu : u.getLast?.any isWordChar = false) :
    Names (statementHead (u ++ (a ++ v)).reverse) ↔
      Unparted (u ++ a) v ∨ ∃ x c y, v = x ++ c :: y ∧ Parts (u ++ a ++ x) c ∧
        Unparted (u ++ a ++ x ++ [c]) y ∧ Names y := by
  rw [statementHead, names_skipBlanks]
  by_cases hunparted : Unparted (u ++ a) v
  · obtain ⟨y, hsuffix, hrest⟩ := h.exists_statementRest hunparted
    refine iff_of_true ?_ (.inl hunparted)
    rw [hrest]
    refine h.names ?_
    obtain ⟨x, rfl⟩ := hsuffix
    cases y with
    | nil => rfl
    | cons c y => rwa [List.getLast?_append_of_ne_nil x (List.cons_ne_nil c y)] at hu
  · rw [or_iff_right hunparted]
    obtain ⟨x, c, hv, hpart, hlast⟩ := exists_of_not_unparted hunparted
    rw [List.append_assoc u a v] at hv hlast
    constructor
    · intro hnames
      exact ⟨x, c, _, hv, hpart, hlast, hnames⟩
    · rintro ⟨x', c', y, rfl, hpart', hlast', hnames⟩
      have hrest := statementRest_eq_of_parts hpart' hlast'
      simp only [List.append_assoc] at hrest ⊢
      rwa [hrest]

end Declarer

theorem declarer_found_iff {name t : Text} {o : Occurrence Bool}
    (ho : o ∈ (Place.start (mask t)).occurrences (callShape name)) (hvalue : o.value = false)
    (hplace : functionPlace? name t = some o.place) :
    ∃ s u a v, findFunction name t = some s ∧ o.place.before.reverse = u ++ (a ++ v) ∧
      u.getLast?.any isWordChar = false ∧ Declarer a v ∧
      (s.start ≤ u.length ↔ Unparted (u ++ a) v) ∧
      (Names ((mask t).extract s.start o.place.offset) ↔
        Unparted (u ++ a) v ∨ ∃ x c y, v = x ++ c :: y ∧ Parts (u ++ a ++ x) c ∧
          Unparted (u ++ a ++ x ++ [c]) y ∧ Names y) := by
  obtain ⟨hsome, -⟩ := (functionPlace?_eq_some_iff ho).1 hplace
  obtain ⟨⟨start, stop⟩, hextent⟩ := Option.isSome_iff_exists.1 hsome
  have hfound := findFunction_of_functionPlace? ho hextent hplace
  simp only [functionExtent?, declaresFunction, hvalue, Option.bind_eq_bind, Option.bind_eq_some_iff,
    Option.pure_def, Option.some.injEq, Prod.mk.injEq] at hextent
  obtain ⟨_, hguard, -, -, rfl, -⟩ := hextent
  have hdeclared : isDeclaredName o.place.before = true := by
    by_contra hnot
    simp [guard, hnot] at hguard
  rw [← List.reverse_reverse o.place.before] at hdeclared
  obtain ⟨u, a, v, hbefore, hu, hdeclarer⟩ := exists_declarer hdeclared
  refine ⟨_, u, a, v, hfound, hbefore, hu, hdeclarer, ?_, ?_⟩
  · rw [← hdeclarer.start_le_iff, ← hbefore, List.reverse_reverse]
    rfl
  · have htext : mask t = o.place.text := (Place.text_of_mem ho).symm
    have hbetween : (mask t).extract (statementStart o.place.before) o.place.offset =
        statementHead (u ++ (a ++ v)).reverse := by
      rw [htext, extract_statementHead, ← hbefore, List.reverse_reverse]
    rw [← hdeclarer.names_iff hu, ← hbetween]
    rfl

def splitAttribute : Text :=
  "__x(a; b) foo(int a);".toList

def splitCall : Occurrence Bool :=
  ⟨Place.of (mask splitAttribute) 10, false, "int a);".toList⟩

theorem declared_by_split_attribute :
    findFunction "foo".toList splitAttribute = some ⟨"b) foo(int a);".toList, 7, 21, 1⟩ ∧
      ∃ u a v, "__x(a; b) ".toList = u ++ (a ++ v) ∧ Declarer a v ∧
        (7 ≤ u.length ↔ Unparted (u ++ a) v) ∧
        (Unparted (u ++ a) v ∨ ∃ x c y, v = x ++ c :: y ∧ Parts (u ++ a ++ x) c ∧
          Unparted (u ++ a ++ x ++ [c]) y ∧ Names y) := by
  have hfound : findFunction "foo".toList splitAttribute = some ⟨"b) foo(int a);".toList, 7, 21, 1⟩ := by
    decide +kernel
  have ho : splitCall ∈ (Place.start (mask splitAttribute)).occurrences (callShape "foo".toList) := by
    decide +kernel
  obtain ⟨s, u, a, v, hs, hbefore, -, hdeclarer, hstart, hnames⟩ :=
    declarer_found_iff ho rfl (by decide +kernel)
  rw [hfound] at hs
  cases hs
  have hname : Names ((mask splitAttribute).extract 7 splitCall.place.offset) :=
    ⟨['b'], [], ") ".toList, by decide +kernel, by decide +kernel, by decide +kernel⟩
  have hsplit : "__x(a; b) ".toList = splitCall.place.before.reverse := by decide +kernel
  exact ⟨hfound, u, a, v, hsplit.trans hbefore, hdeclarer, hstart, hnames.1 hname⟩

def guardedCall : Text :=
  "#ifdef X\nfoo(1);\n".toList

theorem call_declared_by_directive :
    ∃ o ∈ (Place.start (mask guardedCall)).occurrences (callShape "foo".toList), o.value = false ∧
      functionPlace? "foo".toList guardedCall = some o.place ∧
      findFunction "foo".toList guardedCall = some ⟨"foo(1);".toList, 9, 16, 2⟩ ∧
      ¬ Names ((mask guardedCall).extract 9 o.place.offset) := by
  have hbetween : (mask guardedCall).extract 9 (Place.of (mask guardedCall) 9).offset = [] := by
    decide +kernel
  refine ⟨⟨Place.of (mask guardedCall) 9, false, "1);\n".toList⟩, by decide +kernel, rfl, by decide +kernel,
    by decide +kernel, not_names_of_wordless fun c hc => ?_⟩
  rw [hbetween] at hc
  cases hc

end HeaderProbe
