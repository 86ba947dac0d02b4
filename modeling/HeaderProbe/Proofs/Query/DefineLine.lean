import HeaderProbe.Query.Printer
import HeaderProbe.Proofs.Mask.Join
import HeaderProbe.Proofs.Source.Define
import HeaderProbe.Proofs.Text.Blank
import HeaderProbe.Proofs.Text.Occurrence
import HeaderProbe.Proofs.Text.Word

namespace HeaderProbe

open Text

def defineOpening (name : Text) : Text :=
  "#define ".toList ++ name ++ " 1 ".toList

def reasonComment (comment : Text) : Text :=
  "/* ".toList ++ breakCommentEnd comment ++ " */".toList

theorem defineLine_eq (name comment : Text) :
    defineLine name comment = defineOpening name ++ (reasonComment comment ++ ['\n']) := by
  have hopen : " 1 /* ".toList = " 1 ".toList ++ "/* ".toList := rfl
  have hclose : " */\n".toList = " */".toList ++ ['\n'] := rfl
  unfold defineLine defineOpening reasonComment
  rw [hopen, hclose]
  simp only [List.append_assoc]

theorem commentLength_breakCommentEnd {star : Bool} {comment : Text} (s : Text)
    (h : star = true → comment.head? ≠ some '/') :
    commentLength star (breakCommentEnd comment ++ ' ' :: s) =
      (commentLength false s).map (· + ((breakCommentEnd comment).length + 1)) := by
  fun_induction breakCommentEnd comment generalizing star with
  | case1 r ih =>
    have hrest := @ih false (by simp)
    simp [commentLength, hrest, Function.comp_def, Nat.add_assoc]
  | case2 c r hc ih =>
    have hopen : (star && c == '/') = false := by
      cases star
      · rfl
      · simpa using h rfl
    have hnext : (c == '*') = true → r.head? ≠ some '/' := by
      intro hstar hslash
      obtain ⟨r', rfl⟩ := List.head?_eq_some_iff.1 hslash
      exact hc r' (by simpa using hstar) rfl
    simp [commentLength, hopen, ih hnext, Function.comp_def, Nat.add_assoc]
  | case3 => simp [commentLength]

theorem hiddenLength_reasonComment (comment s : Text) :
    hiddenLength (reasonComment comment ++ s) = some (reasonComment comment).length := by
  have hbody := @commentLength_breakCommentEnd false comment ('*' :: '/' :: s) (by simp)
  have hend : commentLength false ('*' :: '/' :: s) = some 2 := rfl
  rw [hend] at hbody
  simp only [reasonComment, List.append_assoc]
  simp [hiddenLength_block, commentLength, hbody]
  omega

def shownLine (name comment : Text) : Text :=
  defineOpening name ++ ((defineLine name comment).drop (defineOpening name).length).map blankOut

theorem shownLine_eq (name comment : Text) :
    shownLine name comment = defineOpening name ++ (reasonComment comment ++ ['\n']).map blankOut := by
  rw [shownLine, defineLine_eq, List.drop_left]

theorem opensHidden_defineOpening {name : Text} (hname : IsWord name) :
    ∀ c ∈ defineOpening name, opensHidden c = false := by
  have hword (c : Char) (hc : c ∈ name) : opensHidden c = false := by
    have hc := hname.isWordChar hc
    simp only [opensHidden, Bool.or_eq_false_iff, beq_eq_false_iff_ne]
    exact ⟨⟨isWordChar_ne hc (by decide +kernel), isWordChar_ne hc (by decide +kernel)⟩,
      isWordChar_ne hc (by decide +kernel)⟩
  have hopen : ∀ c ∈ "#define ".toList, opensHidden c = false := by simp [opensHidden]
  have hclose : ∀ c ∈ " 1 ".toList, opensHidden c = false := by simp [opensHidden]
  unfold defineOpening
  exact List.forall_mem_append.2 ⟨List.forall_mem_append.2 ⟨hopen, hword⟩, hclose⟩

theorem mask_defineLine_append {name : Text} (hname : IsWord name) (comment s : Text) :
    mask (defineLine name comment ++ s) = shownLine name comment ++ mask s := by
  have hnewline : mask ('\n' :: s) = ['\n'] ++ mask s :=
    mask_append_of_code (a := ['\n']) (by simp [opensHidden]) s
  rw [defineLine_eq, List.append_assoc, mask_append_of_code (opensHidden_defineOpening hname),
    List.append_assoc, mask_append_of_hidden (hiddenLength_reasonComment comment _),
    List.singleton_append, hnewline]
  simp [shownLine_eq, blankOut]

def defineLines (ds : List (Text × Text)) : Text :=
  ds.flatMap fun d => defineLine d.1 d.2

def shownLines (ds : List (Text × Text)) : Text :=
  ds.flatMap fun d => shownLine d.1 d.2

theorem mask_defineLines_append {ds : List (Text × Text)} (hds : ∀ d ∈ ds, IsWord d.1) (s : Text) :
    mask (defineLines ds ++ s) = shownLines ds ++ mask s := by
  induction ds with
  | nil => rfl
  | cons d ds ih =>
    obtain ⟨hd, hds⟩ := List.forall_mem_cons.1 hds
    simp only [defineLines, shownLines, List.flatMap_cons, List.append_assoc] at ih ⊢
    rw [mask_defineLine_append hd, ih hds]

theorem mask_defineLines {ds : List (Text × Text)} (hds : ∀ d ∈ ds, IsWord d.1) :
    mask (defineLines ds) = shownLines ds := by
  have h := mask_defineLines_append hds []
  rwa [List.append_nil, show mask [] = [] from rfl, List.append_nil] at h

theorem length_shownLines (ds : List (Text × Text)) :
    (shownLines ds).length = (defineLines ds).length := by
  simp [shownLines, defineLines, List.length_flatMap, shownLine_eq, defineLine_eq]

theorem exists_of_defineShape {name r : Text} {p : Place} (h : defineShape name p = some ((), r)) :
    ∃ s, p.after.dropWhile isIndent = '#' :: s := by
  simp only [defineShape] at h
  split at h
  · simp only [Option.bind_eq_bind, Option.bind_eq_some_iff,
      List.isPrefixOf?_eq_some_iff_append_eq] at h
    obtain ⟨s, hs, -⟩ := h
    exact ⟨s, hs.symm⟩
  · cases h

theorem defineShape_of_hashless {v : Text} (hhash : '#' ∉ v) (hnewline : '\n' ∈ v)
    (name b s : Text) : defineShape name ⟨b, v ++ s⟩ = none := by
  by_contra hsome
  obtain ⟨⟨_, r⟩, hr⟩ := Option.ne_none_iff_exists'.1 hsome
  obtain ⟨x, hx⟩ := exists_of_defineShape hr
  have hvisible : v.dropWhile isIndent ≠ [] := by
    intro hnil
    have := List.dropWhile_eq_nil_iff.1 hnil _ hnewline
    cases this
  rw [List.dropWhile_append, if_neg (by simpa using hvisible)] at hx
  obtain ⟨c, w, hw⟩ := List.exists_cons_of_ne_nil hvisible
  rw [hw, List.cons_append] at hx
  obtain ⟨rfl, -⟩ := List.cons.inj hx
  refine hhash ((List.dropWhile_sublist isIndent).subset ?_)
  rw [hw]
  exact List.mem_cons_self ..

theorem word_prefix_iff {name m u r : Text} (hname : IsWord name) (hm : IsWord m) :
    name ++ r = m ++ ' ' :: u ∧ isWordEdge (some (name.getLast?.getD ' ')) r.head? = true ↔
      name = m ∧ r = ' ' :: u := by
  have hlast : isWordChar (name.getLast?.getD ' ') = true := by
    obtain ⟨c, hlast, hc⟩ := hname.exists_getLast?
    rw [hlast]
    exact hc
  have hspace : isWordChar ' ' = false := by decide +kernel
  have hedge : isWordEdge (some (name.getLast?.getD ' ')) r.head? = true ↔
      r.head?.any isWordChar = false := by
    simp [isWordEdge, hlast]
  rw [hedge]
  constructor
  · rintro ⟨happend, hr⟩
    rcases List.append_eq_append_iff.1 happend with ⟨x, rfl, rfl⟩ | ⟨x, rfl, hx⟩
    · cases x with
      | nil => exact ⟨(List.append_nil _).symm, rfl⟩
      | cons c x =>
        have hc := hm.isWordChar (c := c) (by simp)
        rw [List.cons_append, List.head?_cons, Option.any_some, hc] at hr
        cases hr
    · cases x with
      | nil => exact ⟨List.append_nil _, hx.symm⟩
      | cons c x =>
        obtain ⟨rfl, -⟩ := List.cons.inj hx
        have hc := hname.isWordChar (c := ' ') (by simp)
        rw [hspace] at hc
        cases hc
  · rintro ⟨rfl, rfl⟩
    exact ⟨rfl, by rw [List.head?_cons, Option.any_some, hspace]⟩

theorem pastIndent_of_word {α : Type} {m : Text} (hm : IsWord m) (f : Text → Option α) (s : Text) :
    pastIndent f (' ' :: (m ++ s)) = f (m ++ s) := by
  obtain ⟨c, w, rfl⟩ := List.exists_cons_of_ne_nil hm.1
  have hc : isIndent c = false := isIndent_of_isWordChar (hm.isWordChar (List.mem_cons_self ..))
  have hspace : isIndent ' ' = true := rfl
  simp [pastIndent, hc, hspace]

theorem defineShape_line {name m : Text} (hname : IsWord name) (hm : IsWord m) {b : Text}
    (hb : b.head?.all (· == '\n') = true) (u : Text) {r : Text} :
    defineShape name ⟨b, "#define ".toList ++ (m ++ ' ' :: u)⟩ = some ((), r) ↔
      name = m ∧ r = ' ' :: u := by
  have hstart (s : Text) : Place.atLineStart ⟨b, s⟩ = true := hb
  have hhash : ("#define ".toList ++ (m ++ ' ' :: u)).dropWhile isIndent =
      ['#'] ++ ("define".toList ++ ' ' :: (m ++ ' ' :: u)) := rfl
  have hdefine : ("define".toList ++ ' ' :: (m ++ ' ' :: u)).dropWhile isIndent =
      "define".toList ++ ' ' :: (m ++ ' ' :: u) := rfl
  have hprefix (a x : Text) : a.isPrefixOf? (a ++ x) = some x :=
    List.isPrefixOf?_eq_some_iff_append_eq.2 rfl
  rw [← word_prefix_iff hname hm]
  simp only [defineShape, hstart, if_true, hhash, hdefine, hprefix, Option.bind_eq_bind,
    Option.bind_some, pastIndent_of_word hm]
  simp [Option.bind_eq_some_iff, List.isPrefixOf?_eq_some_iff_append_eq]

theorem shownLine_append (m comment s : Text) :
    ∃ u, shownLine m comment ++ s = "#define ".toList ++ (m ++ ' ' :: u) := by
  have hclose : " 1 ".toList = ' ' :: "1 ".toList := rfl
  rw [shownLine_eq]
  unfold defineOpening
  rw [hclose]
  simp only [List.cons_append, List.append_assoc]
  exact ⟨_, rfl⟩

theorem exists_shownLine_eq {m : Text} (hm : IsWord m) (comment : Text) :
    ∃ t, shownLine m comment = '#' :: (t ++ ['\n']) ∧ '#' ∉ t := by
  refine ⟨"define ".toList ++ m ++ " 1 ".toList ++ (reasonComment comment).map blankOut, ?_, ?_⟩
  · have hopen : "#define ".toList = '#' :: "define ".toList := rfl
    rw [shownLine_eq]
    unfold defineOpening
    rw [hopen, List.map_append]
    simp only [List.cons_append, List.append_assoc]
    rfl
  · have hword : '#' ∉ m := fun hmem => isWordChar_ne (hm.isWordChar hmem) (by decide +kernel) rfl
    have hblank : '#' ∉ (reasonComment comment).map blankOut := by
      intro hmem
      obtain ⟨c, -, hc⟩ := List.mem_map.1 hmem
      have := isBlank_blankOut c
      rw [hc] at this
      cases this
    simp only [List.mem_append, not_or]
    exact ⟨⟨⟨by decide, hword⟩, by decide⟩, hblank⟩

theorem defineShape_shownLine_of_ne {name m : Text} (hname : IsWord name) (hm : IsWord m)
    (hne : name ≠ m) {b : Text} (hb : b.head?.all (· == '\n') = true) (comment s : Text) {u v : Text}
    (huv : shownLine m comment = u ++ v) (hv : v ≠ []) :
    defineShape name ⟨u.reverse ++ b, v ++ s⟩ = none := by
  obtain ⟨t, ht, hhash⟩ := exists_shownLine_eq hm comment
  cases u with
  | nil =>
    obtain ⟨w, hw⟩ := shownLine_append m comment s
    rw [List.nil_append] at huv
    rw [← huv, hw]
    by_contra hsome
    obtain ⟨⟨_, r⟩, hr⟩ := Option.ne_none_iff_exists'.1 hsome
    exact hne ((defineShape_line hname hm hb w).1 hr).1
  | cons c u =>
    rw [ht, List.cons_append] at huv
    obtain ⟨-, huv⟩ := List.cons.inj huv
    have hlast : v.getLast? = some '\n' := by
      rw [← List.getLast?_append_of_ne_nil u hv, ← huv, List.getLast?_concat]
    have hhash' : '#' ∉ t ++ ['\n'] := by simpa using hhash
    rw [huv] at hhash'
    exact defineShape_of_hashless (fun hmem => hhash' (List.mem_append_right u hmem))
      (List.mem_of_getLast? hlast) ..

theorem occurrences_shownLines {name : Text} (hname : IsWord name) {ds : List (Text × Text)}
    (hds : ∀ d ∈ ds, IsWord d.1) (hfree : name ∉ ds.map Prod.fst) {b : Text}
    (hb : b.head?.all (· == '\n') = true) (s : Text) :
    Place.occurrences (defineShape name) ⟨b, shownLines ds ++ s⟩ =
      Place.occurrences (defineShape name) ⟨(shownLines ds).reverse ++ b, s⟩ := by
  induction ds generalizing b with
  | nil => rfl
  | cons d ds ih =>
    obtain ⟨hd, hds⟩ := List.forall_mem_cons.1 hds
    obtain ⟨hne, hfree⟩ := not_or.1 (mt List.mem_cons.2 hfree)
    have hlines : shownLines (d :: ds) = shownLine d.1 d.2 ++ shownLines ds := rfl
    have hskip := Place.occurrences_append_of_none b (shownLines ds ++ s)
      fun u v huv hv => defineShape_shownLine_of_ne hname hd hne hb d.2 (shownLines ds ++ s) huv hv
    obtain ⟨t, ht, -⟩ := exists_shownLine_eq hd d.2
    rw [hlines, List.append_assoc, hskip, ih hds hfree, List.reverse_append, List.append_assoc]
    rw [ht]
    simp

theorem head?_reverse_shownLines {ds : List (Text × Text)} (hds : ∀ d ∈ ds, IsWord d.1) :
    (shownLines ds).reverse.head?.all (· == '\n') = true := by
  rcases List.eq_nil_or_concat ds with rfl | ⟨before, d, rfl⟩
  · rfl
  · obtain ⟨t, ht, -⟩ := exists_shownLine_eq (hds d (by simp)) d.2
    simp [shownLines, ht]

theorem defineLength_line {seen a : Text} (hnewline : '\n' ∉ a)
    (hend : endsIn '\\' (a.reverse ++ seen) = false) (s : Text) :
    defineLength seen (a ++ '\n' :: s) = a.length := by
  induction a generalizing seen with
  | nil => simpa [defineLength] using hend
  | cons c a ih =>
    obtain ⟨hc, ha⟩ := not_or.1 (mt List.mem_cons.2 hnewline)
    rw [List.cons_append, defineLength, if_neg fun h => hc h.1.symm, ih ha (by simpa using hend)]
    rfl

theorem newline_notMem_breakCommentEnd {comment : Text} (h : '\n' ∉ comment) :
    '\n' ∉ breakCommentEnd comment := by
  fun_induction breakCommentEnd comment <;> simp_all

theorem findDefine_of_not_mem {name : Text} (hname : IsWord name) {ds : List (Text × Text)}
    (hds : ∀ d ∈ ds, IsWord d.1) (hfree : name ∉ ds.map Prod.fst) :
    findDefine name (defineLines ds) = none := by
  have hnone : Place.occurrences (defineShape name) (Place.start (mask (defineLines ds))) = [] := by
    have hskip := occurrences_shownLines hname hds hfree (b := []) rfl []
    rw [List.append_nil, List.append_nil] at hskip
    rw [mask_defineLines hds, Place.start, hskip]
    simp [Place.occurrences, Place.occurrences.go, defineShape, Place.atLineStart]
  rw [findDefine, hnone]
  rfl

theorem exists_first_occurrence {name : Text} (hname : IsWord name) (comment : Text)
    {before after : List (Text × Text)} (hbefore : ∀ d ∈ before, IsWord d.1)
    (hafter : ∀ d ∈ after, IsWord d.1) (hfree : name ∉ before.map Prod.fst) :
    ∃ o, (Place.occurrences (defineShape name)
        (Place.start (mask (defineLines (before ++ (name, comment) :: after))))).head? = some o ∧
      o.place.offset = (defineLines before).length ∧
      o.stop = (defineLines before ++ ("#define ".toList ++ name)).length := by
  have hds : ∀ d ∈ before ++ (name, comment) :: after, IsWord d.1 :=
    List.forall_mem_append.2 ⟨hbefore, List.forall_mem_cons.2 ⟨hname, hafter⟩⟩
  have hmask : mask (defineLines (before ++ (name, comment) :: after)) =
      shownLines before ++ (shownLine name comment ++ shownLines after) := by
    rw [mask_defineLines hds]
    simp [shownLines]
  obtain ⟨u, hu⟩ := shownLine_append name comment (shownLines after)
  have hshape := (defineShape_line hname hname (head?_reverse_shownLines hbefore) u).2 ⟨rfl, rfl⟩
  obtain ⟨later, hlater⟩ := Place.occurrences_eq_cons hshape
  refine ⟨⟨⟨(shownLines before).reverse, "#define ".toList ++ (name ++ ' ' :: u)⟩, (), ' ' :: u⟩,
    ?_, ?_, ?_⟩
  · rw [hmask, Place.start, occurrences_shownLines hname hbefore hfree (b := []) rfl, hu,
      List.append_nil, hlater]
    rfl
  · rw [Place.offset, List.length_reverse, length_shownLines]
  · simp only [Occurrence.stop, Place.offset, Place.reach, List.length_reverse, List.length_append,
      length_shownLines]
    omega

theorem defineLines_append_cons (name comment : Text) (before after : List (Text × Text)) :
    defineLines (before ++ (name, comment) :: after) =
      defineLines before ++ ("#define ".toList ++ name) ++
        (" 1 ".toList ++ reasonComment comment ++ '\n' :: defineLines after) := by
  unfold defineLines
  rw [List.flatMap_append, List.flatMap_cons, defineLine_eq]
  unfold defineOpening
  simp only [List.append_assoc]
  rfl

theorem findDefine_first {name : Text} (hname : IsWord name) (comment : Text)
    {before after : List (Text × Text)} (hbefore : ∀ d ∈ before, IsWord d.1)
    (hafter : ∀ d ∈ after, IsWord d.1) (hfree : name ∉ before.map Prod.fst) :
    ∃ s, findDefine name (defineLines (before ++ (name, comment) :: after)) = some s ∧
      s.start = (defineLines before).length ∧
      ('\n' ∉ comment → s.text ++ ['\n'] = defineLine name comment) := by
  obtain ⟨o, ho, hstart, hstop⟩ := exists_first_occurrence hname comment hbefore hafter hfree
  rw [defineLines_append_cons] at ho ⊢
  refine ⟨_, by simp only [findDefine, ho, Option.bind_eq_bind, Option.bind_some]; rfl, hstart,
    fun hnewline => ?_⟩
  have hseen (x : Text) : (defineLines before ++ ("#define ".toList ++ name) ++ x).drop
      (defineLines before).length = "#define ".toList ++ name ++ x := by
    rw [List.append_assoc, List.drop_left]
  have hwidth : (defineLines before ++ ("#define ".toList ++ name)).length -
      (defineLines before).length = ("#define ".toList ++ name).length := by
    rw [List.length_append, Nat.add_sub_cancel_left]
  have hrest : defineLength ("#define ".toList ++ name).reverse
      (" 1 ".toList ++ reasonComment comment ++ '\n' :: defineLines after) =
        (" 1 ".toList ++ reasonComment comment).length := by
    refine defineLength_line ?_ ?_ (defineLines after)
    · have := newline_notMem_breakCommentEnd hnewline
      simp [reasonComment, this]
    · simp [reasonComment, endsIn, skipBlanks, isBlank]
  have hspan : (defineLines before ++ ("#define ".toList ++ name)).length +
      (" 1 ".toList ++ reasonComment comment).length - (defineLines before).length =
        ("#define ".toList ++ name ++ (" 1 ".toList ++ reasonComment comment)).length := by
    simp only [List.length_append]
    omega
  simp only [Span.cut, hstart, hstop, hseen, hwidth, List.drop_left, List.take_left, hrest, hspan]
  have hline : "#define ".toList ++ name ++
      (" 1 ".toList ++ reasonComment comment ++ '\n' :: defineLines after) =
        "#define ".toList ++ name ++ (" 1 ".toList ++ reasonComment comment) ++
          '\n' :: defineLines after :=
    (List.append_assoc ..).symm
  rw [hline, List.take_left' rfl, defineLine_eq]
  unfold defineOpening
  simp only [List.append_assoc]

theorem defines_scanned_back {ds : List (Text × Text)} (hds : ∀ d ∈ ds, IsWord d.1) :
    mask (defineLines ds) = (ds.flatMap fun d => shownLine d.1 d.2) ∧
      ∀ name, IsWord name →
        (findDefine name (defineLines ds) ≠ none ↔ name ∈ ds.map Prod.fst) ∧
        ∀ before comment after, ds = before ++ (name, comment) :: after →
          name ∉ before.map Prod.fst →
          ∃ s, findDefine name (defineLines ds) = some s ∧ s.start = (defineLines before).length ∧
            ('\n' ∉ comment → s.text ++ ['\n'] = defineLine name comment) := by
  have hfirst (name : Text) (hname : IsWord name) (before : List (Text × Text)) (comment : Text)
      (after : List (Text × Text)) (hsplit : ds = before ++ (name, comment) :: after)
      (hfree : name ∉ before.map Prod.fst) :
      ∃ s, findDefine name (defineLines ds) = some s ∧ s.start = (defineLines before).length ∧
        ('\n' ∉ comment → s.text ++ ['\n'] = defineLine name comment) := by
    subst hsplit
    obtain ⟨hbefore, hafter⟩ := List.forall_mem_append.1 hds
    exact findDefine_first hname comment hbefore (List.forall_mem_cons.1 hafter).2 hfree
  refine ⟨mask_defineLines hds, fun name hname => ⟨⟨fun hfound => ?_, fun hmem => ?_⟩, hfirst name hname⟩⟩
  · by_contra hfree
    exact hfound (findDefine_of_not_mem hname hds hfree)
  · obtain ⟨names, others, hnames, hfree⟩ := List.eq_append_cons_of_mem hmem
    obtain ⟨before, rest, hsplit, rfl, hrest⟩ := List.map_eq_append_iff.1 hnames
    obtain ⟨⟨_, comment⟩, after, rfl, rfl, -⟩ := List.map_eq_cons_iff.1 hrest
    obtain ⟨s, hs, -⟩ := hfirst _ hname before comment after hsplit hfree
    rw [hs]
    exact Option.some_ne_none s

def trickyDefines : List (Text × Text) :=
  [("AB".toList, "**//".toList), ("A_B".toList, "*/ int x; /* \" // '\n#define A 2 /*".toList),
    ("A".toList, "/*/ '".toList), ("A".toList, [])]

theorem defines_scanned_back_past_comment_marks :
    ∃ s, findDefine "A".toList (defineLines trickyDefines) = some s ∧
      s.start = (defineLines (trickyDefines.take 2)).length ∧
      s.text = "#define A 1 /* /* / ' */".toList := by
  obtain ⟨-, hfind⟩ := @defines_scanned_back trickyDefines (by decide +kernel)
  obtain ⟨s, hs, hstart, htext⟩ := (hfind "A".toList (by decide +kernel)).2 (trickyDefines.take 2)
    "/*/ '".toList [("A".toList, [])] rfl (by decide)
  refine ⟨s, hs, hstart, ?_⟩
  exact List.append_cancel_right ((htext (by decide)).trans (by decide))

end HeaderProbe
