import HeaderProbe.Proofs.Query.DefineLine
import HeaderProbe.Proofs.Query.Meaning
import HeaderProbe.Proofs.Query.Words

namespace HeaderProbe

open Text Outcome

def isCName : Text → Bool
  | [] => false
  | c :: r => (c.isAlpha || c == '_') && r.all fun c => c.isAlphanum || c == '_'

def IsDefineLine (out : Text) : Prop :=
  ∃ name rest, isCName name = true ∧ '\n' ∉ rest ∧
    out = "#define ".toList ++ name ++ " 1 /* ".toList ++ rest ++ ['\n']

theorem notMem_of_isCName {c : Char} (hc : c.isAlphanum = false) (hlow : c ≠ '_') {name : Text}
    (h : isCName name = true) : c ∉ name := by
  cases name with
  | nil => simp
  | cons d r =>
    rw [isCName, Bool.and_eq_true, List.all_eq_true] at h
    have hd : (d.isAlphanum || d == '_') = true := by
      have hfirst := h.1
      unfold Char.isAlphanum
      revert hfirst
      cases d.isAlpha <;> simp +contextual
    intro hmem
    have hword : (c.isAlphanum || c == '_') = true := by
      rcases List.mem_cons.1 hmem with rfl | hmem
      · exact hd
      · exact h.2 c hmem
    simp [hc, hlow] at hword

theorem IsDefineLine.newline_notMem_dropLast {out : Text} (h : IsDefineLine out) : '\n' ∉ out.dropLast := by
  obtain ⟨name, rest, hname, hrest, rfl⟩ := h
  have hopen : '\n' ∉ "#define ".toList := by decide
  have hone : '\n' ∉ " 1 /* ".toList := by decide
  have hcname : '\n' ∉ name := notMem_of_isCName (by decide) (by decide) hname
  rw [List.dropLast_concat]
  simp only [List.mem_append, hopen, hone, hrest, hcname, or_false, not_false_iff]

theorem eq_of_append_space {m n u v : Text} (hm : ' ' ∉ m) (hn : ' ' ∉ n)
    (h : m ++ ' ' :: u = n ++ ' ' :: v) : m = n ∧ u = v := by
  have hstop (w x : Text) (hw : ' ' ∉ w) : (w ++ ' ' :: x).takeWhile (· != ' ') = w := by
    rw [List.takeWhile_append_of_pos fun c hc => bne_iff_ne.2 (ne_of_mem_of_not_mem hc hw)]
    simp
  have hmn : m = n := by rw [← hstop m u hm, h, hstop n v hn]
  subst hmn
  exact ⟨rfl, (List.cons.inj (List.append_cancel_left h)).2⟩

theorem newline_mem_breakCommentEnd_iff {comment : Text} :
    '\n' ∈ breakCommentEnd comment ↔ '\n' ∈ comment := by
  refine ⟨fun h => by_contra fun hnot => newline_notMem_breakCommentEnd hnot h, fun h => ?_⟩
  fun_induction breakCommentEnd comment with
  | case1 r ih => simpa using ih (by simpa using h)
  | case2 c r hc ih => exact List.mem_cons.2 ((List.mem_cons.1 h).imp_right ih)
  | case3 => exact h

theorem newline_mem_intercalate_iff {ws : List Text} :
    '\n' ∈ [' '].intercalate ws ↔ ∃ w ∈ ws, '\n' ∈ w := by
  induction ws with
  | nil => simp
  | cons w ws ih =>
    cases ws with
    | nil => simp
    | cons v ws =>
      rw [List.intercalate_cons_cons, List.mem_append, List.mem_append, ih, List.exists_mem_cons_iff]
      simp

theorem isBlank_of_mem_fields {s w : Text} (hw : w ∈ fields s) {c : Char} (hc : c ∈ w) :
    isBlank c = false := by
  have hgo (s held : Text) (hheld : ∀ c ∈ held, isBlank c = false) :
      ∀ w ∈ fields.go held s, ∀ c ∈ w, isBlank c = false := by
    have hclose (held : Text) (hheld : ∀ c ∈ held, isBlank c = false) :
        ∀ w ∈ fields.close held, ∀ c ∈ w, isBlank c = false := by
      intro w hw c hc
      unfold fields.close at hw
      split at hw
      · cases hw
      · obtain rfl := List.mem_singleton.1 hw
        exact hheld c (List.mem_reverse.1 hc)
    induction s generalizing held with
    | nil => exact hclose held hheld
    | cons d s ih =>
      rw [fields.go]
      split
      · exact List.forall_mem_append.2 ⟨hclose held hheld, ih [] (List.forall_mem_nil _)⟩
      · next hd => exact ih (d :: held) (List.forall_mem_cons.2 ⟨by simpa using hd, hheld⟩)
  exact hgo s [] (List.forall_mem_nil _) w hw c hc

theorem newline_notMem_collapse (s : Text) : '\n' ∉ collapse s := by
  rw [collapse, newline_mem_intercalate_iff]
  rintro ⟨w, hw, hbreak⟩
  have hblank := isBlank_of_mem_fields hw hbreak
  revert hblank
  decide

theorem newline_notMem_ofNat (n : Nat) : '\n' ∉ Text.ofNat n := by
  intro h
  have hdigit := Nat.isDigit_of_mem_toDigits (by decide) (by decide) h
  revert hdigit
  decide

theorem newline_mem_quoted_iff (opening : Text) (h : '\n' ∉ opening) (s : Text) :
    '\n' ∈ opening ++ s ++ ['\x27'] ↔ '\n' ∈ s := by
  simp [h]

namespace Test

theorem newline_notMem_word (t : Test) : '\n' ∉ t.word := by
  cases t <;> (dsimp only [word]; decide)

theorem newline_mem_reason_iff (t : Test) (label : Text) (s : Span) :
    '\n' ∈ t.reason label s ↔ ∃ w ∈ t.words ++ [label], '\n' ∈ w := by
  have hplace : '\n' ∈ label ++ ':' :: Text.ofNat s.line ↔ '\n' ∈ label := by
    simp [newline_notMem_ofNat]
  have hin : '\n' ∉ "in".toList := by decide
  unfold reason
  rw [newline_mem_intercalate_iff]
  cases t with
  | presence => simp only [words, List.nil_append, List.exists_mem_cons_iff, hin, hplace, false_or]
  | has p =>
    have hmatches := newline_mem_quoted_iff ("matches".toList ++ " '".toList) (by decide) p.source
    have hfound := newline_mem_quoted_iff "found '".toList (by decide)
      (collapse ((p.find? s.text).getD []))
    simp only [words, List.cons_append, List.nil_append, List.exists_mem_cons_iff, hin, hplace,
      newline_notMem_word, hmatches, hfound, newline_notMem_collapse, false_or]
  | lacks p =>
    have hlacks := newline_mem_quoted_iff ("lacks".toList ++ " '".toList) (by decide) p.source
    simp only [words, List.cons_append, List.nil_append, List.exists_mem_cons_iff, hin, hplace,
      newline_notMem_word, hlacks, false_or]
  | absent =>
    have habsent : '\n' ∉ "absent".toList := by decide
    simp only [words, List.cons_append, List.nil_append, List.exists_mem_cons_iff, hin, hplace,
      newline_notMem_word, habsent, false_or]

theorem newline_mem_reasonForNone_iff (labels : List Text) :
    '\n' ∈ reasonForNone labels ↔ ∃ w ∈ absent.words ++ labels, '\n' ∈ w := by
  have hplace (place : Text) :
      (∃ w ∈ if place.isEmpty then [] else [place], '\n' ∈ w) ↔ '\n' ∈ place := by
    cases place <;> simp
  have habsent : '\n' ∉ "absent".toList := by decide
  have hin : '\n' ∉ "in".toList := by decide
  unfold reasonForNone
  simp only [newline_mem_intercalate_iff, words, List.cons_append, List.nil_append, List.exists_mem_cons_iff,
    habsent, hin, newline_notMem_word, false_or, hplace]

end Test

namespace Query

/-- The labels of the files that a query names beside its test: all that it looks at if nothing is found,
else that of the one which decides. -/
inductive Names (q : Query) (root : Text) (seen now : Tree) : List Text → Prop
  | all (h : q.subject.Undecided root seen now q.files) : Names q root seen now (q.files.map FileRef.label)
  | deciding {before : List FileRef} {f : FileRef} {spans : List Span}
      (h : q.subject.Decided root seen now q.files before f spans) : Names q root seen now [f.label]

variable {q : Query} {root text : Text} {seen now : Tree} {labels : List Text}

theorem isDefineLine_line_iff (hname : isName q.define = true) (reason : Text) :
    IsDefineLine (q.line reason) ↔
      isCName q.define = true ∧ '\n' ∉ q.subject.print ∧ '\n' ∉ reason := by
  have hone : " 1 /* ".toList = ' ' :: "1 /* ".toList := rfl
  have hend : " */\n".toList = " */".toList ++ ['\n'] := rfl
  have hshape (name rest : Text) : "#define ".toList ++ name ++ " 1 /* ".toList ++ rest ++ ['\n'] =
      "#define ".toList ++ (name ++ ' ' :: ("1 /* ".toList ++ (rest ++ ['\n']))) := by
    rw [hone]
    simp only [List.append_assoc, List.cons_append]
  have hline : q.line reason = "#define ".toList ++ q.define ++ " 1 /* ".toList ++
      (breakCommentEnd (q.subject.print ++ ' ' :: reason) ++ " */".toList) ++ ['\n'] := by
    unfold line defineLine
    rw [hend]
    simp only [List.append_assoc]
  have hbreak : '\n' ∉ breakCommentEnd (q.subject.print ++ ' ' :: reason) ++ " */".toList ↔
      '\n' ∉ q.subject.print ∧ '\n' ∉ reason := by
    simp [newline_mem_breakCommentEnd_iff]
  rw [← hbreak]
  constructor
  · rintro ⟨name, rest, hcname, hrest, hout⟩
    rw [hline, hshape, hshape] at hout
    obtain ⟨rfl, hcomment⟩ := eq_of_append_space (space_notMem_of_isName hname)
      (notMem_of_isCName (by decide) (by decide) hcname) (List.append_cancel_left hout)
    rw [List.append_cancel_right (List.append_cancel_left hcomment)]
    exact ⟨hcname, hrest⟩
  · rintro ⟨hcname, hrest⟩
    exact ⟨q.define, _, hcname, hrest, hline⟩

theorem newline_notMem_shown_iff {reason : Text}
    (h : '\n' ∈ reason ↔ ∃ w ∈ q.test.words ++ labels, '\n' ∈ w) :
    '\n' ∉ q.subject.print ∧ '\n' ∉ reason ↔
      ∀ w ∈ q.subject.words ++ q.test.words ++ labels, '\n' ∉ w := by
  rw [h, Subject.print, newline_mem_intercalate_iff]
  simp only [List.mem_append, not_exists, not_and, or_imp, forall_and]
  tauto

theorem exists_names (h : (q.generate root seen now).output ≠ []) :
    ∃ labels, q.Names root seen now labels := by
  obtain ⟨r, text, hemits⟩ := exists_emits q root seen now
  obtain ⟨-, htext⟩ := hemits.generate_eq
  rw [htext] at h
  cases hemits with
  | absent hnone _ => exact ⟨_, .all hnone⟩
  | satisfied hdecided _ _ => exact ⟨_, .deciding hdecided⟩
  | _ => exact absurd rfl h

theorem Names.output_cases (h : q.Names root seen now labels) :
    (q.generate root seen now).output = [] ∨
      ∃ reason, (q.generate root seen now).output = q.line reason ∧
        ('\n' ∈ reason ↔ ∃ w ∈ q.test.words ++ labels, '\n' ∈ w) := by
  cases h with
  | all h =>
    by_cases ht : q.test = .absent
    · refine .inr ⟨_, (Emits.absent h ht).generate_eq.2, ?_⟩
      rw [ht, Test.newline_mem_reasonForNone_iff]
    · exact .inl (Emits.missing h ht).generate_eq.2
  | @deciding _ f spans h =>
    by_cases hb : q.test.BreaksOff (q.subject.considered spans)
    · exact .inl (Emits.brokenOff h hb).generate_eq.2
    · cases hs : q.test.firstSatisfied? (q.subject.considered spans) with
      | none => exact .inl (Emits.unsatisfied h hb (Test.firstSatisfied?_eq_none_iff.1 hs)).generate_eq.2
      | some s => exact .inr ⟨_, (Emits.satisfied h hb hs).generate_eq.2, Test.newline_mem_reason_iff ..⟩

theorem isName_of_ofLine {line label : Text} {literal : Option Text}
    (h : Query.ofLine line literal label = .ok q) : isName q.define = true := by
  unfold ofLine at h
  split at h
  · obtain ⟨_, _, _, -, hdefine, -⟩ := ofWords_eq_ok_iff.1 h
    exact hdefine
  · cases h

theorem single_line_iff {line label : Text} {literal : Option Text}
    (hq : Query.ofLine line literal label = .ok q) (hout : (q.generate root seen now).output ≠ []) :
    (∃ labels, q.Names root seen now labels) ∧
      ∀ labels, q.Names root seen now labels →
        (IsDefineLine (q.generate root seen now).output ↔
          isCName q.define = true ∧ ∀ w ∈ q.subject.words ++ q.test.words ++ labels, '\n' ∉ w) := by
  refine ⟨exists_names hout, fun labels h => ?_⟩
  obtain ⟨reason, hline, hreason⟩ := h.output_cases.resolve_left hout
  rw [hline, isDefineLine_line_iff (isName_of_ofLine hq), newline_notMem_shown_iff hreason]

end Query

def brokenParameters : Tree where
  entries := [(["a.h".toList], .file (Utf8.encode "int f(int a,\nint b);\n".toList))]

theorem found_over_two_lines_in_single_line :
    ∃ q, Query.ofLine "A if fun f matches ',\\s*int' in a.h".toList none literalMark = .ok q ∧
      IsDefineLine (q.generate [] brokenParameters brokenParameters).output := by
  have hrun : (Query.ofLine "A if fun f matches ',\\s*int' in a.h".toList none literalMark).toOption.any
      (fun q => decide ((q.generate [] brokenParameters brokenParameters).output ≠ [] ∧
        isCName q.define = true ∧ (∀ w ∈ q.subject.words ++ q.test.words, '\n' ∉ w) ∧
        ∀ f ∈ q.files, '\n' ∉ f.label)) = true := by
    decide +kernel
  obtain ⟨q, hq, hall⟩ := exists_ok_of_any hrun
  obtain ⟨hout, hname, hwords, hfiles⟩ := of_decide_eq_true hall
  obtain ⟨⟨labels, hlabels⟩, hsingle⟩ := Query.single_line_iff hq hout
  refine ⟨q, hq, (hsingle labels hlabels).2 ⟨hname, List.forall_mem_append.2 ⟨hwords, ?_⟩⟩⟩
  cases hlabels with
  | all _ => exact List.forall_mem_map.2 hfiles
  | deciding h => exact List.forall_mem_singleton.2 (hfiles _ (h.listed.subset (by simp)))

theorem pattern_breaks_line :
    ∃ q, Query.ofLine "A if fun f matches 'a,\nint' in a.h".toList none literalMark = .ok q ∧
      (q.generate [] brokenParameters brokenParameters).output =
        "#define A 1 /* fun f matches 'a,\nint' in a.h:1 found 'a, int' */\n".toList ∧
      ¬ IsDefineLine (q.generate [] brokenParameters brokenParameters).output := by
  have hrun : (Query.ofLine "A if fun f matches 'a,\nint' in a.h".toList none literalMark).toOption.any
      (fun q => decide ((q.generate [] brokenParameters brokenParameters).output =
        "#define A 1 /* fun f matches 'a,\nint' in a.h:1 found 'a, int' */\n".toList)) = true := by
    decide +kernel
  obtain ⟨q, hq, hall⟩ := exists_ok_of_any hrun
  have hout := of_decide_eq_true hall
  refine ⟨q, hq, hout, fun hline => ?_⟩
  rw [hout] at hline
  exact absurd hline.newline_notMem_dropLast (by decide +kernel)

end HeaderProbe
