import HeaderProbe.Proofs.Source.Mention

namespace HeaderProbe

open Text

theorem exists_afterDirectives_tail {st : LineState} {c : Char} {s : Text}
    (h : afterDirectives st (c :: s) = none) : ∃ st, afterDirectives st s = none := by
  rw [afterDirectives_cons, Option.or_eq_none_iff] at h
  exact ⟨_, h.1⟩

theorem exists_afterDirectives_eq_none {st : LineState} {s r : Text}
    (h : afterDirectives st s = some r) : ∃ st, afterDirectives st r = none := by
  obtain ⟨x, rfl, -, hlast⟩ := afterDirectives_eq_some_iff.1 h
  refine ⟨st.after (x ++ ['\n']), afterDirectives_eq_none_iff.2 fun x' y hr => ?_⟩
  have hbreaks := hlast x' y hr
  rwa [List.append_cons, Breaks, LineState.after_append] at hbreaks

theorem statementRest_cases (before : Text) :
    ∃ st tail, (∀ c ∈ tail, endsStatement c = false) ∧
      (afterDirectives st tail = none ∧ statementRest before = tail ∨
        afterDirectives st tail = some (statementRest before)) := by
  simp only [statementRest]
  generalize (if (before.takeWhile fun c => !endsStatement c).length = before.length then
    LineState.indent else .code) = st
  refine ⟨st, (before.takeWhile fun c => !endsStatement c).reverse, fun c hc => ?_, ?_⟩
  · simpa using List.mem_takeWhile_imp (List.mem_reverse.1 hc)
  · cases h : afterDirectives st (before.takeWhile fun c => !endsStatement c).reverse with
    | none => exact .inl ⟨rfl, rfl⟩
    | some r => exact .inr rfl

theorem exists_afterDirectives_statementHead (before : Text) :
    ∃ st, afterDirectives st (statementHead before) = none := by
  have hskip {s : Text} (h : ∃ st, afterDirectives st s = none) :
      ∃ st, afterDirectives st (skipBlanks s) = none := by
    induction s with
    | nil => exact h
    | cons c s ih =>
      rw [skipBlanks, List.dropWhile_cons]
      split
      · obtain ⟨st, h⟩ := h
        exact ih (exists_afterDirectives_tail h)
      · exact h
  obtain ⟨st, tail, -, ⟨hnone, hrest⟩ | hsome⟩ := statementRest_cases before
  · exact hskip ⟨st, by rw [hrest, hnone]⟩
  · exact hskip (exists_afterDirectives_eq_none hsome)

theorem statementHead_closed (before : Text) : ∀ c ∈ statementHead before, endsStatement c = false := by
  intro c hc
  have hmem : c ∈ statementRest before := (List.dropWhile_sublist isBlank).mem hc
  obtain ⟨st, tail, hclosed, ⟨-, hrest⟩ | hsome⟩ := statementRest_cases before
  · exact hclosed c (by rw [← hrest]; exact hmem)
  · obtain ⟨y, rfl, -⟩ := exists_of_afterDirectives (if st = .directive true then ['\\'] else [])
      (by rintro (_ | _) rfl <;> rfl) hsome
    exact hclosed c (List.mem_append_right y (List.mem_cons_of_mem _ hmem))

theorem length_statementHead_le {u b : Text} {c : Char} (hc : endsStatement c = true) :
    (statementHead (u ++ c :: b)).length ≤ u.length := by
  obtain ⟨w, x, hb, -, -⟩ := exists_before_statementHead (u ++ c :: b)
  by_contra hlt
  have hcut : u ++ [c] <+: (statementHead (u ++ c :: b)).reverse := by
    have hstop : u ++ [c] <+: u ++ c :: b := ⟨b, by simp⟩
    refine List.prefix_of_prefix_length_le hstop ⟨w ++ x, hb.symm⟩ ?_
    rw [List.length_append, List.length_reverse, List.length_singleton]
    omega
  have hmem : c ∈ statementHead (u ++ c :: b) := List.mem_reverse.1 (hcut.subset (by simp))
  rw [statementHead_closed _ c hmem] at hc
  cases hc

theorem skipBlanks_statementHead (before : Text) :
    skipBlanks (statementHead before) = statementHead before := by
  cases h : statementHead before with
  | nil => rfl
  | cons c r => exact skipBlanks_cons (isBlank_of_skipBlanks h) r

theorem mayBeginName_boundary {w b : Text} (hw : AllBlank w) (hb : StatementBoundary b) :
    mayBeginName (w ++ b) = true := by
  have hhead : ∀ c, (w ++ b).head? = some c → isBlank c = true ∨ endsStatement c = true := by
    intro c hc
    cases w with
    | cons d w =>
      cases hc
      exact .inl (hw c (List.mem_cons_self ..))
    | nil =>
      rcases hb with rfl | ⟨d, r, rfl, hd⟩
      · cases hc
      · cases hc
        rcases hd with hd | rfl
        · exact .inr hd
        · exact .inl rfl
  cases h : (w ++ b).head? with
  | none => rw [mayBeginName, h]; rfl
  | some c =>
    have hword : isWordChar c = false := by
      rcases hhead c h with hc | hc
      · exact isWordChar_of_isBlank hc
      · exact (apart_of_endsStatement hc).2.1
    have hmark : c ≠ '.' ∧ c ≠ '>' := by
      rcases hhead c h with hc | hc
      · constructor <;> (rintro rfl; cases hc)
      · constructor <;> (rintro rfl; cases hc)
    simp [mayBeginName, h, hword, hmark]

theorem logicalHead_append_cons {c : Char} (hc : isBlank c = false) (s b : Text) :
    logicalHead (s ++ [c]) = c :: s.reverse ∧ logicalHead (s ++ c :: b) = logicalHead b ++ c :: s.reverse ∨
      logicalHead (s ++ c :: b) = logicalHead (s ++ [c]) := by
  have hn : c ≠ '\n' := by
    rintro rfl
    cases hc
  induction s with
  | nil =>
    left
    rw [List.nil_append, List.nil_append, logicalHead_cons hn, logicalHead_cons hn]
    exact ⟨rfl, rfl⟩
  | cons d s ih =>
    by_cases hd : d = '\n'
    · subst hd
      cases hcont : isContinued (s ++ [c]) with
      | false =>
        right
        rw [List.cons_append, List.cons_append, logicalHead_newline hcont, logicalHead_newline]
        rw [isContinued_append_cons hc, hcont]
      | true =>
        have hcont' : isContinued (s ++ c :: b) = true := by rw [isContinued_append_cons hc, hcont]
        rw [List.cons_append, List.cons_append, logicalHead_continued hcont, logicalHead_continued hcont']
        rcases ih with ⟨h, h'⟩ | h
        · exact .inl (by rw [h, h']; simp)
        · exact .inr (by rw [h])
    · rw [List.cons_append, List.cons_append, logicalHead_cons hd, logicalHead_cons hd]
      rcases ih with ⟨h, h'⟩ | h
      · exact .inl (by rw [h, h']; simp)
      · exact .inr (by rw [h])

theorem inDirective_append_cons {c : Char} (hc : isBlank c = false) (hhash : c ≠ '#') {s b : Text}
    (h : inDirective (s ++ c :: b) = true) : inDirective (s ++ [c]) = true ∨ inDirective b = true := by
  rcases logicalHead_append_cons hc s b with ⟨-, hline⟩ | hline
  · right
    rw [inDirective, hline, skipBlanks_append_cons hc] at h
    rw [inDirective]
    cases hskip : skipBlanks (logicalHead b) with
    | nil => simp [hskip, hhash] at h
    | cons d r => simpa [hskip] using h
  · left
    rw [inDirective, ← hline]
    exact h

theorem afterDirectives_line_eq_none {st : LineState} {s : Text} (hs : '\n' ∉ s) :
    afterDirectives st s = none := by
  induction s generalizing st with
  | nil => cases st <;> rfl
  | cons c s ih =>
    rw [List.mem_cons, not_or] at hs
    have hc : c ≠ '\n' := Ne.symm hs.1
    cases st with
    | indent =>
      rw [afterDirectives]
      split
      · exact ih hs.2
      · split
        · exact ih hs.2
        · exact ih hs.2
    | code =>
      rw [afterDirectives]
      exact ih hs.2
    | directive escaped =>
      rw [afterDirectives, if_neg hc]
      exact ih hs.2

section

variable {before : Text} (hcode : (statementHead before).head? ≠ some '#')
include hcode

theorem inDirective_statementHead (h : inDirective before = false) :
    inDirective (statementHead before).reverse = false := by
  obtain ⟨w, b, hbefore, -, -⟩ := exists_before_statementHead before
  have hskip := skipBlanks_statementHead before
  cases hhead : statementHead before with
  | nil => rfl
  | cons c r =>
    rw [hhead] at hcode hskip hbefore
    have hc : isBlank c = false := isBlank_of_skipBlanks hskip
    rw [List.reverse_cons]
    rcases logicalHead_append_cons hc r.reverse (w ++ b) with ⟨hline, -⟩ | hline
    · rw [inDirective, hline, skipBlanks_cons hc]
      simpa using hcode
    · rw [inDirective, ← hline]
      rw [hbefore] at h
      simpa [inDirective] using h

theorem statementHead_statementHead : statementHead (statementHead before).reverse = statementHead before := by
  have hopen : EndsBefore true [] := rfl
  have hclosed := statementHead_closed before
  have hskip := skipBlanks_statementHead before
  obtain ⟨st, hst⟩ := exists_afterDirectives_statementHead before
  have hnone : afterDirectives .indent (statementHead before) = none := by
    cases hhead : statementHead before with
    | nil => rfl
    | cons c r =>
      rw [hhead] at hcode hskip hst
      have hblank : isBlank c = false := isBlank_of_skipBlanks hskip
      have hhash : c ≠ '#' := by simpa using hcode
      have hindent : ¬(c = ' ' ∨ c = '\t' ∨ c = '\n') := by
        rintro (rfl | rfl | rfl) <;> cases hblank
      have hnew : c ≠ '\n' := fun hc => hindent (.inr (.inr hc))
      rw [afterDirectives, if_neg hhash, if_neg hindent]
      cases st with
      | indent => simpa [afterDirectives, hhash, hindent] using hst
      | code => simpa [afterDirectives, hnew] using hst
      | directive escaped =>
        rw [afterDirectives_directive_eq_none_iff, List.mem_cons, not_or] at hst
        exact afterDirectives_line_eq_none hst.2
  have hrest := statementRest_eq hclosed hopen
  rw [List.append_nil] at hrest
  change skipBlanks (statementRest (statementHead before).reverse) = _
  rw [hrest]
  change skipBlanks ((afterDirectives .indent _).getD _) = _
  rw [hnone, Option.getD_none, hskip]

end

theorem logicalHead_of_notMem {s : Text} (hs : '\n' ∉ s) : logicalHead s = s.reverse := by
  induction s with
  | nil => rfl
  | cons c s ih =>
    rw [List.mem_cons, not_or] at hs
    rw [logicalHead_cons (Ne.symm hs.1), ih hs.2, List.reverse_cons]

theorem inDirective_or_statementStart {before : Text} (hhash : (statementHead before).head? = some '#') :
    inDirective (statementHead before).reverse = true ∨ statementStart (statementHead before).reverse ≠ 0 := by
  have hclosed := statementHead_closed before
  obtain ⟨r, hr⟩ := List.head?_eq_some_iff.1 hhash
  rw [hr] at hclosed ⊢
  by_cases hline : '\n' ∈ '#' :: r
  · right
    have hsome : afterDirectives .indent ('#' :: r) ≠ none := by
      rw [afterDirectives, if_pos rfl, ne_eq, afterDirectives_directive_eq_none_iff, not_not]
      simpa using hline
    obtain ⟨x, hx⟩ := Option.ne_none_iff_exists'.1 hsome
    have hopen : EndsBefore true [] := rfl
    have hrest := statementRest_eq hclosed hopen
    rw [List.append_nil] at hrest
    change statementRest _ = (afterDirectives .indent _).getD _ at hrest
    rw [hx, Option.getD_some] at hrest
    obtain ⟨y, hy, -⟩ := exists_of_afterDirectives [] (by simp) hx
    have hlen := congrArg List.length hy
    have hskip := length_skipBlanks_le x
    rw [statementStart, statementHead, hrest, List.length_reverse]
    simp only [List.length_append, List.length_cons] at hlen ⊢
    omega
  · left
    rw [inDirective, logicalHead_of_notMem (by simpa using hline), List.reverse_reverse,
      skipBlanks_cons rfl]
    rfl

end HeaderProbe
