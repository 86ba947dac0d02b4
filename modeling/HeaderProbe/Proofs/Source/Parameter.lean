import HeaderProbe.Proofs.Source.MemberList

namespace HeaderProbe

open Text

def InList (before u y : Text) : Prop :=
  ∃ q lead x, u = q ++ (lead ++ (x ++ '(' :: y)) ∧ EndsBefore false (q.reverse ++ before) ∧
    Lead DirectiveLine false lead ∧ Plain x ∧ parenDepth x = 0 ∧
      StaysOpen y

/-- Whether the lookup takes an end of a list for the beginning of the declaration. -/
def Restarts (y h : Text) : Prop :=
  statementHead ('(' :: y).reverse = h ∧ h <:+ y

/-- What makes a name behind `y` in a list, and before `v`, read as a member: it is that of a pointer to a
function in parentheses of its own, or the list is cut and what is left of it reads as a declaration. -/
inductive Misread : Text → Text → Prop where
  | name {w w' v : Text} (hw : AllBlank w) (hw' : AllBlank w') (hv : closesPointer v = true) :
      Misread (w ++ '*' :: w') v
  | object {y h v : Text} (hcut : Restarts y h) (hdepth : parenDepth h = 0)
      (hv : closesPointer v = false) (hend : endsDeclarator v = true) (htag : ¬ Tagged ('(' :: y)) :
      Misread y v
  | pointer {y h v : Text} (hcut : Restarts y h) (hdepth : parenDepth h = 1)
      (hopens : opensPointer h.reverse = true) (hv : closesPointer v = true) : Misread y v

theorem InList.staysOpen {before u y : Text} (h : InList before u y) : StaysOpen y := by
  obtain ⟨-, -, -, -, -, -, -, -, hy⟩ := h
  exact hy

theorem statementRest_append_of_ends {s : Text} (hs : ∃ c ∈ s, endsStatement c = true) (b : Text) :
    statementRest (s.reverse ++ b) = statementRest s.reverse := by
  obtain ⟨c, hmem, hc⟩ := hs
  have hshort : (s.reverse.takeWhile fun c => !endsStatement c).length ≠ s.reverse.length := by
    intro hlen
    have hall := (List.takeWhile_prefix fun c => !endsStatement c).eq_of_length hlen
    have hends := List.takeWhile_eq_self_iff.1 hall c (List.mem_reverse.2 hmem)
    rw [hc] at hends
    cases hends
  have htail : (s.reverse ++ b).takeWhile (fun c => !endsStatement c) =
      s.reverse.takeWhile fun c => !endsStatement c := by
    rw [List.takeWhile_append, if_neg hshort]
  have hle := (List.takeWhile_sublist (fun c => !endsStatement c) (l := s.reverse)).length_le
  have hlong : (s.reverse.takeWhile fun c => !endsStatement c).length ≠ (s.reverse ++ b).length := by
    rw [List.length_append]
    omega
  simp only [statementRest, htail, if_neg hlong, if_neg hshort]

theorem afterDirectives_open {fresh : Bool} {x : Text} (hx : '#' ∉ x) (y : Text) :
    afterDirectives (.plain fresh) (x ++ '(' :: y) = afterDirectives .code y := by
  obtain ⟨fresh', h⟩ := @exists_afterDirectives_append fresh x hx
  rw [h]
  cases fresh' <;> rfl

theorem statementHead_in_list {b lead x y : Text} {fresh : Bool} (hb : EndsBefore fresh b)
    (hlead : Lead DirectiveLine fresh lead) (hx : Plain x)
    (hy : ∀ c ∈ y, endsStatement c = false) :
    statementHead ((x ++ '(' :: y).reverse ++ (lead.reverse ++ b)) =
      ((afterDirectives .code y).map skipBlanks).getD (skipBlanks x ++ '(' :: y) := by
  have hclosed : ∀ c ∈ lead ++ (x ++ '(' :: y), endsStatement c = false :=
    List.forall_mem_append.2 ⟨hlead.closed,
      List.forall_mem_append.2 ⟨hx.closed, List.forall_mem_cons.2 ⟨rfl, hy⟩⟩⟩
  have hcontext : (x ++ '(' :: y).reverse ++ (lead.reverse ++ b) =
      (lead ++ (x ++ '(' :: y)).reverse ++ b := by simp
  have hopen (fresh : Bool) :
      afterDirectives (.plain fresh) (x ++ '(' :: y) = afterDirectives .code y :=
    afterDirectives_open hx.hashless y
  rw [statementHead, hcontext, statementRest_eq hclosed hb]
  cases hafter : afterDirectives .code y with
  | some z => rw [hlead.afterDirectives_eq_some fun _ => (hopen _).trans hafter]; rfl
  | none =>
    obtain ⟨w, hw, hrest⟩ := hlead.exists_afterDirectives fun _ => (hopen _).trans hafter
    rw [hrest, skipBlanks_append hw, skipBlanks_append_cons rfl]
    rfl

theorem InList.statementHead_eq {before u y : Text} (h : InList before u y) :
    statementHead (u.reverse ++ before) = statementHead ('(' :: y).reverse ∨
      ∃ x, parenDepth x = 0 ∧ statementHead (u.reverse ++ before) = x ++ '(' :: y ∧
        statementHead ('(' :: y).reverse = '(' :: y := by
  obtain ⟨q, lead, x, rfl, hb, hlead, hx, hdepth, -⟩ := h
  have hcontext : (q ++ (lead ++ (x ++ '(' :: y))).reverse ++ before =
      (x ++ '(' :: y).reverse ++ (lead.reverse ++ (q.reverse ++ before)) := by simp
  -- An end of a statement in the list hides all that stands before it, the list's own parenthesis too.
  by_cases hends : ∃ c ∈ y, endsStatement c = true
  · left
    have hlong : (x ++ '(' :: y).reverse ++ (lead.reverse ++ (q.reverse ++ before)) =
        y.reverse ++ ('(' :: (x.reverse ++ (lead.reverse ++ (q.reverse ++ before)))) := by simp
    rw [statementHead, hcontext, hlong, statementRest_append_of_ends hends, statementHead,
      List.reverse_cons, statementRest_append_of_ends hends]
  · have hy : ∀ c ∈ y, endsStatement c = false := by
      intro c hc
      by_contra hc'
      exact hends ⟨c, hc, by simpa using hc'⟩
    have hopen : EndsBefore true [] := rfl
    have hlist := statementHead_in_list (x := []) hopen (.blanks allBlank_nil) allBlank_nil.plain hy
    rw [hcontext, statementHead_in_list hb hlead hx hy]
    simp only [List.reverse_nil, List.append_nil, List.nil_append] at hlist
    rw [hlist]
    cases afterDirectives .code y with
    | some z => exact .inl rfl
    | none => exact .inr ⟨skipBlanks x, by rw [parenDepth_skipBlanks, hdepth], rfl, rfl⟩

theorem wordBefore_append_open (s b : Text) : wordBefore (s ++ '(' :: b) = wordBefore (s ++ ['(']) := by
  have hopen : isWordChar '(' = false := by decide +kernel
  have hcut (r : Text) : wordBefore (s ++ '(' :: r) = ((skipBlanks s).takeWhile isWordChar).reverse := by
    have hedge : ('(' :: r).head?.any isWordChar = false := hopen
    rw [wordBefore, skipBlanks_append_cons rfl, takeWhile_isWordChar_append hedge]
  rw [hcut, hcut]

theorem InList.isMember_eq {field u v y : Text} {p : Place} (h : InList p.before u y) :
    isMember (mentionAt p field u v) =
      isMember (mentionAt ⟨[], []⟩ field ('(' :: y) v) := by
  have hword : wordBefore (u.reverse ++ p.before) = wordBefore ('(' :: y).reverse := by
    obtain ⟨q, lead, x, rfl, -⟩ := h
    have hlong : (q ++ (lead ++ (x ++ '(' :: y))).reverse ++ p.before =
        y.reverse ++ '(' :: (x.reverse ++ (lead.reverse ++ (q.reverse ++ p.before))) := by simp
    rw [hlong, wordBefore_append_open, List.reverse_cons]
  have hhead : parenDepth (statementHead (u.reverse ++ p.before)) =
        parenDepth (statementHead ('(' :: y).reverse) ∧
      opensPointer (statementHead (u.reverse ++ p.before)).reverse =
        opensPointer (statementHead ('(' :: y).reverse).reverse := by
    rcases h.statementHead_eq with heq | ⟨x, hx, hfull, hlist⟩
    · rw [heq]
      exact ⟨rfl, rfl⟩
    · rw [hfull, hlist, parenDepth_append, hx, Int.zero_add]
      refine ⟨rfl, ?_⟩
      rw [List.reverse_append, List.reverse_cons, List.append_assoc]
      exact opensPointer_append_open y.reverse x.reverse
  simp only [isMember, mentionAt, hword, hhead.1, hhead.2, List.append_nil]

theorem exists_of_opensPointer {s : Text} (hopens : opensPointer (s.reverse ++ ['(']) = true)
    (hs : StaysOpen s) (hdepth : parenDepth s = 0) :
    ∃ w w', AllBlank w ∧ AllBlank w' ∧ s = w ++ '*' :: w' := by
  unfold opensPointer at hopens
  rw [skipBlanks_append_cons rfl] at hopens
  split at hopens
  · next r hstar =>
    cases hskip : skipBlanks s.reverse with
    | nil =>
      rw [hskip] at hstar
      cases hstar
    | cons c r' =>
      rw [hskip] at hstar
      obtain ⟨rfl, hr⟩ := List.cons.inj hstar
      obtain rfl : r' ++ ['('] = r := hr
      obtain ⟨-, w', hw', hsplit⟩ := skipBlanks_eq_cons_iff.1 hskip
      rw [skipBlanks_append_cons rfl] at hopens
      cases hbefore : skipBlanks r' with
      | nil =>
        refine ⟨r'.reverse, w'.reverse, ?_, ?_, ?_⟩
        · exact (allBlank_of_skipBlanks hbefore).reverse
        · exact hw'.reverse
        · rw [← List.reverse_reverse s, hsplit]
          simp
      | cons d q =>
        exfalso
        obtain rfl : d = '(' := by simpa [hbefore] using hopens
        obtain ⟨-, w, hw, rfl⟩ := skipBlanks_eq_cons_iff.1 hbefore
        have hcut : s = q.reverse ++ ('(' :: (w.reverse ++ '*' :: w'.reverse)) := by
          rw [← List.reverse_reverse s, hsplit]
          simp
        have hend := parenDepth_star hw.reverse hw'.reverse
        have hstart := hs.depth_nonneg hcut
        rw [hcut, parenDepth_append, parenDepth_open, hend] at hdepth
        omega
  · cases hopens

theorem statementHead_of_uncut {y : Text} (hy : Plain y) :
    statementHead ('(' :: y).reverse = '(' :: y := by
  have hopen : EndsBefore true [] := rfl
  have hlist : Plain ('(' :: y) := List.forall_mem_cons.2 ⟨⟨rfl, by decide⟩, hy⟩
  have hhead := statementHead_of_lead hopen (.blanks allBlank_nil) hlist
  rw [skipBlanks_cons rfl] at hhead
  simpa using hhead

theorem restarts_or_uncut {y h : Text} (hh : statementHead ('(' :: y).reverse = h) :
    Restarts y h ∨ h = '(' :: y := by
  obtain ⟨w, x, hb, -, -⟩ := exists_before_statementHead ('(' :: y).reverse
  rw [hh] at hb
  generalize w ++ x = b at hb
  have hsplit : '(' :: y = b.reverse ++ h := by simpa using congrArg List.reverse hb
  cases hcut : b.reverse with
  | nil =>
    rw [hcut, List.nil_append] at hsplit
    exact .inr hsplit.symm
  | cons c q =>
    rw [hcut, List.cons_append] at hsplit
    exact .inl ⟨hh, q, (List.cons.inj hsplit).2.symm⟩

theorem isMember_list_iff {field y v : Text} (hy : StaysOpen y) :
    isMember (mentionAt ⟨[], []⟩ field ('(' :: y) v) = true ↔ Misread y v := by
  have hnonneg : 0 ≤ parenDepth y := hy.depth_nonneg (List.append_nil y).symm
  have hstate : isMember (mentionAt ⟨[], []⟩ field ('(' :: y) v) = true ↔
      if closesPointer v = true then
        parenDepth (statementHead ('(' :: y).reverse) = 1 ∧
          opensPointer (statementHead ('(' :: y).reverse).reverse = true
      else
        parenDepth (statementHead ('(' :: y).reverse) = 0 ∧ endsDeclarator v = true ∧
          ¬ Tagged ('(' :: y) := by
    simp only [isMember, mentionAt, List.append_nil, Tagged]
    split <;> simp [and_assoc]
  rw [hstate]
  constructor
  · intro h
    split at h
    · next hv =>
      rcases restarts_or_uncut (y := y) rfl with hcut | huncut
      · exact .pointer hcut h.1 h.2 hv
      · rw [huncut, parenDepth_open] at h
        have hopens : opensPointer (y.reverse ++ ['(']) = true := by simpa using h.2
        obtain ⟨w, w', hw, hw', rfl⟩ := exists_of_opensPointer hopens hy (by omega)
        exact .name hw hw' hv
    · next hv =>
      rcases restarts_or_uncut (y := y) rfl with hcut | huncut
      · exact .object hcut h.1 (by simpa using hv) h.2.1 h.2.2
      · rw [huncut, parenDepth_open] at h
        omega
  · intro h
    cases h with
    | @name w w' v hw hw' hv =>
      have huncut : Plain (w ++ '*' :: w') :=
        List.forall_mem_append.2 ⟨hw.plain, List.forall_mem_cons.2 ⟨by decide, hw'.plain⟩⟩
      rw [statementHead_of_uncut huncut, if_pos hv, parenDepth_open, parenDepth_star hw hw']
      exact ⟨rfl, opensPointer_star [] hw hw'⟩
    | object hcut hdepth hv hend htag =>
      rw [hcut.1, if_neg (by simp [hv])]
      exact ⟨hdepth, hend, htag⟩
    | pointer hcut hdepth hopens hv =>
      rw [hcut.1, if_pos hv]
      exact ⟨hdepth, hopens⟩

theorem InList.isMember_iff {u y : Text} {p : Place} (h : InList p.before u y) (field v : Text) :
    isMember (mentionAt p field u v) = true ↔ Misread y v := by
  rw [h.isMember_eq, isMember_list_iff h.staysOpen]

section

variable {type field t : Text} {struct : Span} {p : Place} (hfield : IsWord field)
  (hstruct : findStruct type t = some struct) (hp : p = bodyPlace (mask struct.text))
include hfield hstruct hp

theorem parameters_unfound_iff (hlists : ∀ u v, Met p field u v → ∃ y, InList p.before u y) :
    findMember type field t = none ↔
      ∀ u v y, Met p field u v → InList p.before u y → Misread y v → ';' ∉ v := by
  rw [findMember_eq_none_iff hfield hstruct hp]
  constructor
  · intro h u v y hmet hlist hmisread
    exact h u v hmet ((hlist.isMember_iff field v).2 hmisread)
  · intro h u v hmet hmember
    obtain ⟨y, hlist⟩ := hlists u v hmet
    exact h u v y hmet hlist ((hlist.isMember_iff field v).1 hmember)

end

def nestedCallback : Text :=
  "struct s \x7b int (*cb)(int a, int (*f)(int)); int b; \x7d;".toList

theorem nested_callback_unfound : findMember "s".toList "f".toList nestedCallback = none := by
  have hfind : findStruct "s".toList nestedCallback = some (Span.cut nestedCallback 0 52) := by
    decide +kernel
  have honly : ∀ u v, Mention "f".toList (bodyPlace (mask (Span.cut nestedCallback 0 52).text)).after u v →
      u = " int (*cb)(int a, int (*".toList ∧ v = ")(int)); int b; \x7d".toList := by
    decide +kernel
  have hlist : InList (bodyPlace (mask (Span.cut nestedCallback 0 52).text)).before
      " int (*cb)(int a, int (*".toList "int a, int (*".toList := by
    refine ⟨[], [' '], "int (*cb)".toList, by decide +kernel, ?_, .blanks allBlank_space,
      by decide +kernel, by decide +kernel, by decide +kernel⟩
    have hopen : (bodyPlace (mask (Span.cut nestedCallback 0 52).text)).before.head?.any endsStatement =
        true := by
      decide +kernel
    exact hopen
  have hunread : isMember (mentionAt (bodyPlace (mask (Span.cut nestedCallback 0 52).text)) "f".toList
      " int (*cb)(int a, int (*".toList ")(int)); int b; \x7d".toList) = false := by
    decide +kernel
  rw [parameters_unfound_iff (by decide +kernel) hfind rfl]
  · intro u v y hmet hlist' hmisread
    obtain ⟨rfl, rfl⟩ := honly u v hmet.mention
    have hmember := (hlist'.isMember_iff "f".toList _).2 hmisread
    rw [hunread] at hmember
    cases hmember
  · intro u v hmet
    obtain ⟨rfl, rfl⟩ := honly u v hmet.mention
    exact ⟨_, hlist⟩

def cutList : Text :=
  "struct s \x7b\n\tint (*cb)(int a,\n#ifdef X\n\t\tint f,\n#endif\n\t\tint b);\n\x7d;".toList

theorem parameter_behind_directive_found :
    ∃ struct y z, findStruct "s".toList cutList = some struct ∧
      (∀ u v, Mention "f".toList (bodyPlace (mask struct.text)).after u v →
        u = "\n\tint (*cb)(".toList ++ y ∧ v = z ++ ");\n\x7d".toList) ∧
      Balanced (y ++ ("f".toList ++ z)) ∧
      findMember "s".toList "f".toList cutList =
        some ⟨"int f,\n#endif\n\t\tint b);".toList, 40, 63, 4⟩ :=
  ⟨Span.cut cutList 0 65, "int a,\n#ifdef X\n\t\tint ".toList, ",\n#endif\n\t\tint b".toList,
    by decide +kernel, by decide +kernel, by decide +kernel, by decide +kernel⟩

end HeaderProbe
