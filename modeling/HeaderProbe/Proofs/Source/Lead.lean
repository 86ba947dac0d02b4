import HeaderProbe.Proofs.Source.Directive
import HeaderProbe.Proofs.Text.Word
import HeaderProbe.Source.Define

namespace HeaderProbe

open Text

def Plain (s : Text) : Prop :=
  ∀ c ∈ s, endsStatement c = false ∧ c ≠ '#'

instance (s : Text) : Decidable (Plain s) :=
  decidable_of_iff (s.all (fun c => !endsStatement c && c != '#') = true) (by simp [Plain])

theorem Plain.hashless {s : Text} (hs : Plain s) : '#' ∉ s :=
  fun hmem => (hs _ hmem).2 rfl

theorem Plain.closed {s : Text} (hs : Plain s) : ∀ c ∈ s, endsStatement c = false :=
  fun c hc => (hs c hc).1

theorem Text.AllBlank.plain {w : Text} (hw : AllBlank w) : Plain w := by
  intro c hc
  have hblank := hw c hc
  constructor
  · by_contra hends
    simp only [endsStatement, Bool.not_eq_false, Bool.or_eq_true, beq_iff_eq] at hends
    rcases hends with (rfl | rfl) | rfl <;> cases hblank
  · rintro rfl
    cases hblank

structure DirectiveLine (line : Text) : Prop where
  physical : '\n' ∉ line
  marked : (line.dropWhile isIndent).head? = some '#'
  closed : line.any endsStatement = false
  unescaped : line.getLast? ≠ some '\\'

inductive Lead (line : Text → Prop) : (atLineStart : Bool) → Text → Prop where
  | blanks {atLineStart : Bool} {w : Text} (hw : AllBlank w) : Lead line atLineStart w
  | newline {atLineStart : Bool} {w s : Text} (hw : AllBlank w) (hs : Lead line true s) :
      Lead line atLineStart (w ++ '\n' :: s)
  | whole {l s : Text} (hl : line l) (hs : Lead line true s) : Lead line true (l ++ '\n' :: s)

namespace Lead

variable {line kind : Text → Prop} {fresh : Bool} {s : Text}

theorem mono (h : Lead line fresh s) (hkind : ∀ l, line l → kind l) : Lead kind fresh s := by
  induction h with
  | blanks hw => exact .blanks hw
  | newline hw _ ih => exact .newline hw ih
  | whole hl _ ih => exact .whole (hkind _ hl) ih

theorem isBlank_getLast (h : Lead line fresh s) {c : Char} (hc : s.getLast? = some c) :
    isBlank c = true := by
  have hbreak {x r : Text} (hlast : (x ++ '\n' :: r).getLast? = some c) :
      c = '\n' ∨ r.getLast? = some c := by
    rw [List.getLast?_append_of_ne_nil x (List.cons_ne_nil '\n' r), List.getLast?_cons] at hlast
    cases hr : r.getLast? with
    | none => exact .inl (by simpa [hr] using hlast.symm)
    | some d => exact .inr (by simpa [hr] using hlast)
  induction h with
  | blanks hw => exact hw c (List.mem_of_getLast? hc)
  | newline _ _ ih =>
    rcases hbreak hc with rfl | hc
    · rfl
    · exact ih hc
  | whole _ _ ih =>
    rcases hbreak hc with rfl | hc
    · rfl
    · exact ih hc

theorem isWordChar_getLast (h : Lead line fresh s) :
    s.getLast?.any isWordChar = false := by
  cases hlast : s.getLast? with
  | none => rfl
  | some c => simp [isWordChar_of_isBlank (h.isBlank_getLast hlast)]

theorem isWordChar_head? (h : Lead line fresh s) {b : Text}
    (hb : b.head?.any isWordChar = false) : (s.reverse ++ b).head?.any isWordChar = false := by
  have hlast := h.isWordChar_getLast
  rw [List.head?_append, List.head?_reverse]
  cases hs : s.getLast? with
  | none => exact hb
  | some c => simpa [hs] using hlast

theorem closed (h : Lead DirectiveLine fresh s) : ∀ c ∈ s, endsStatement c = false := by
  induction h with
  | blanks hw => exact hw.plain.closed
  | newline hw _ ih =>
    exact List.forall_mem_append.2 ⟨hw.plain.closed, List.forall_mem_cons.2 ⟨rfl, ih⟩⟩
  | @whole l s hl _ ih =>
    have hline : ∀ c ∈ l, endsStatement c = false := by simpa using hl.closed
    exact List.forall_mem_append.2 ⟨hline, List.forall_mem_cons.2 ⟨rfl, ih⟩⟩

end Lead

theorem apart_of_endsStatement {c : Char} (hc : endsStatement c = true) :
    isBlank c = false ∧ isWordChar c = false ∧ c ≠ '(' := by
  simp only [endsStatement, Bool.or_eq_true, beq_iff_eq] at hc
  rcases hc with (rfl | rfl) | rfl <;> decide +kernel

def LineState.plain (atLineStart : Bool) : LineState :=
  if atLineStart then .indent else .code

theorem exists_afterDirectives_append {fresh : Bool} {s : Text} (hs : '#' ∉ s) :
    ∃ fresh', ∀ r, afterDirectives (.plain fresh) (s ++ r) = afterDirectives (.plain fresh') r := by
  induction s generalizing fresh with
  | nil => exact ⟨fresh, fun _ => rfl⟩
  | cons c s ih =>
    simp only [List.mem_cons, not_or] at hs
    cases fresh with
    | true =>
      obtain ⟨fresh', hnext⟩ := @ih (decide (c = ' ' ∨ c = '\t' ∨ c = '\n')) hs.2
      refine ⟨fresh', fun r => ?_⟩
      rw [← hnext r]
      simp only [LineState.plain, List.cons_append, afterDirectives, if_neg (Ne.symm hs.1), if_true,
        decide_eq_true_eq]
      split <;> rfl
    | false =>
      obtain ⟨fresh', hnext⟩ := @ih (decide (c = '\n')) hs.2
      refine ⟨fresh', fun r => ?_⟩
      rw [← hnext r]
      simp [LineState.plain, afterDirectives]

theorem afterDirectives_plain_nil (fresh : Bool) : afterDirectives (.plain fresh) [] = none := by
  cases fresh <;> rfl

theorem afterDirectives_plain_newline (fresh : Bool) (r : Text) :
    afterDirectives (.plain fresh) ('\n' :: r) = afterDirectives .indent r := by
  cases fresh <;> rfl

theorem afterDirectives_newline {fresh : Bool} {s : Text} (hs : '#' ∉ s) (r : Text) :
    afterDirectives (.plain fresh) (s ++ '\n' :: r) = afterDirectives .indent r := by
  obtain ⟨fresh', h⟩ := @exists_afterDirectives_append fresh s hs
  rw [h, afterDirectives_plain_newline]

theorem afterDirectives_eq_none {fresh : Bool} {s : Text} (hs : '#' ∉ s) :
    afterDirectives (.plain fresh) s = none := by
  obtain ⟨fresh', h⟩ := @exists_afterDirectives_append fresh s hs
  rw [← List.append_nil s, h, afterDirectives_plain_nil]

theorem afterDirectives_whole_go {escaped : Bool} {s : Text} (hs : '\n' ∉ s)
    (hlast : s.getLast? ≠ some '\\') (hescaped : s = [] → escaped = false) (r : Text) :
    afterDirectives (.directive escaped) (s ++ '\n' :: r) =
      (afterDirectives .indent r).or (some r) := by
  induction s generalizing escaped with
  | nil => simp [afterDirectives, hescaped rfl]
  | cons c s ih =>
    simp only [List.mem_cons, not_or] at hs
    rw [List.cons_append, afterDirectives, if_neg (Ne.symm hs.1)]
    refine ih hs.2 ?_ ?_
    · intro hs'
      exact hlast (by rw [List.getLast?_cons, hs']; rfl)
    · rintro rfl
      simpa using hlast

theorem afterDirectives_whole {l : Text} (hl : DirectiveLine l) (r : Text) :
    afterDirectives .indent (l ++ '\n' :: r) = (afterDirectives .indent r).or (some r) := by
  obtain ⟨hn, hmarked, -, hlast⟩ := hl
  induction l with
  | nil => cases hmarked
  | cons c l ih =>
    simp only [List.mem_cons, not_or] at hn
    rw [List.dropWhile_cons] at hmarked
    have hne : l ≠ [] → l.getLast? ≠ some '\\' := by
      intro hne hl
      apply hlast
      rw [List.getLast?_cons, hl]
      rfl
    split at hmarked
    · next hc =>
      have hcons : l ≠ [] := by
        rintro rfl
        cases hmarked
      have hindent : c = ' ' ∨ c = '\t' := by
        simpa [isIndent] using hc
      have hhash : c ≠ '#' := by
        rcases hindent with rfl | rfl <;> decide
      rw [List.cons_append, afterDirectives, if_neg hhash, if_pos (by tauto)]
      exact ih hn.2 hmarked (hne hcons)
    · cases hmarked
      rw [List.cons_append, afterDirectives, if_pos rfl]
      refine afterDirectives_whole_go hn.2 ?_ (fun _ => rfl) r
      intro hl
      exact hne (by rintro rfl; cases hl) hl

namespace Lead

variable {fresh : Bool} {s r : Text}

theorem afterDirectives_eq_some (h : Lead DirectiveLine fresh s) {z : Text}
    (hr : ∀ fresh, afterDirectives (.plain fresh) r = some z) :
    afterDirectives (.plain fresh) (s ++ r) = some z := by
  induction h with
  | @blanks fresh w hw =>
    obtain ⟨fresh', hnext⟩ := @exists_afterDirectives_append fresh w hw.plain.hashless
    rw [hnext, hr]
  | newline hw _ ih =>
    rw [List.append_assoc, List.cons_append, afterDirectives_newline hw.plain.hashless]
    exact ih
  | @whole l s hl _ ih =>
    have hrest : afterDirectives .indent (s ++ r) = some z := ih
    rw [List.append_assoc, List.cons_append]
    change afterDirectives .indent (l ++ '\n' :: (s ++ r)) = some z
    rw [afterDirectives_whole hl, hrest]
    rfl

theorem exists_afterDirectives (h : Lead DirectiveLine fresh s)
    (hr : ∀ fresh, afterDirectives (.plain fresh) r = none) :
    ∃ w, AllBlank w ∧ (afterDirectives (.plain fresh) (s ++ r)).getD (s ++ r) = w ++ r := by
  induction h with
  | @blanks fresh w hw =>
    obtain ⟨fresh', hnext⟩ := @exists_afterDirectives_append fresh w hw.plain.hashless
    exact ⟨w, hw, by rw [hnext, hr, Option.getD_none]⟩
  | @newline fresh w s hw hs ih =>
    obtain ⟨v, hv, hrest⟩ := ih
    rw [List.append_assoc, List.cons_append, afterDirectives_newline hw.plain.hashless]
    change (afterDirectives .indent (s ++ r)).getD (s ++ r) = v ++ r at hrest
    cases hafter : afterDirectives .indent (s ++ r) with
    | some x => exact ⟨v, hv, by simpa [hafter] using hrest⟩
    | none =>
      rw [hafter, Option.getD_none] at hrest
      refine ⟨w ++ '\n' :: v, ?_, by rw [Option.getD_none, hrest]; simp⟩
      exact List.forall_mem_append.2 ⟨hw, List.forall_mem_cons.2 ⟨rfl, hv⟩⟩
  | @whole l s hl hs ih =>
    obtain ⟨v, hv, hrest⟩ := ih
    change (afterDirectives .indent (s ++ r)).getD (s ++ r) = v ++ r at hrest
    refine ⟨v, hv, ?_⟩
    rw [List.append_assoc, List.cons_append]
    change (afterDirectives .indent (l ++ '\n' :: (s ++ r))).getD _ = v ++ r
    rw [afterDirectives_whole hl, ← hrest]
    cases afterDirectives .indent (s ++ r) <;> rfl

end Lead

def EndsBefore (fresh : Bool) (before : Text) : Prop :=
  if fresh then before = [] else before.head?.any endsStatement = true

theorem EndsBefore.isWordChar_head? {fresh : Bool} {b : Text} (hb : EndsBefore fresh b) :
    b.head?.any isWordChar = false := by
  cases fresh with
  | true =>
    obtain rfl : b = [] := hb
    rfl
  | false =>
    obtain ⟨c, hhead, hc⟩ := (Option.any_eq_true _ _).1 hb
    rw [hhead]
    exact (apart_of_endsStatement hc).2.1

theorem statementRest_eq {b s : Text} (hs : ∀ c ∈ s, endsStatement c = false) {fresh : Bool}
    (hb : EndsBefore fresh b) :
    statementRest (s.reverse ++ b) = (afterDirectives (.plain fresh) s).getD s := by
  have hall : ∀ c ∈ s.reverse, (!endsStatement c) = true := by
    intro c hc
    rw [hs c (List.mem_reverse.1 hc)]
    rfl
  have htail : (s.reverse ++ b).takeWhile (fun c => !endsStatement c) = s.reverse ∧
      (if s.reverse.length = (s.reverse ++ b).length then LineState.indent else .code) =
        .plain fresh := by
    cases fresh with
    | true =>
      obtain rfl : b = [] := hb
      rw [List.append_nil]
      exact ⟨List.takeWhile_eq_self_iff.2 hall, if_pos rfl⟩
    | false =>
      obtain ⟨c, hhead, hc⟩ := Option.any_eq_true _ _ |>.1 hb
      obtain ⟨r, rfl⟩ := List.head?_eq_some_iff.1 hhead
      have hstop : (c :: r).takeWhile (fun c => !endsStatement c) = [] := by
        simp [hc]
      rw [List.takeWhile_append_of_pos hall, hstop, List.append_nil, if_neg (by simp)]
      exact ⟨rfl, rfl⟩
  rw [statementRest, htail.1, htail.2, List.reverse_reverse]

theorem statementHead_of_lead {b lead r : Text} {fresh : Bool} (hb : EndsBefore fresh b)
    (hlead : Lead DirectiveLine fresh lead) (hr : Plain r) :
    statementHead (r.reverse ++ (lead.reverse ++ b)) = skipBlanks r := by
  have hclosed : ∀ c ∈ lead ++ r, endsStatement c = false :=
    List.forall_mem_append.2 ⟨hlead.closed, hr.closed⟩
  obtain ⟨w, hw, hrest⟩ := hlead.exists_afterDirectives fun _ => afterDirectives_eq_none hr.hashless
  have hbefore : r.reverse ++ (lead.reverse ++ b) = (lead ++ r).reverse ++ b := by simp
  rw [statementHead, hbefore, statementRest_eq hclosed hb, hrest, skipBlanks_append hw]

theorem isContinued_append_cons {c : Char} (hc : isBlank c = false) (s b : Text) :
    isContinued (s ++ c :: b) = isContinued (s ++ [c]) := by
  have hn : c ≠ '\n' := by
    rintro rfl
    cases hc
  induction s with
  | nil => simp [isContinued, endsIn, hn, skipBlanks_cons hc]
  | cons d s ih =>
    by_cases hd : d = '\n'
    · simp [isContinued, hd]
    · cases hblank : isBlank d with
      | true =>
        rw [List.cons_append, isContinued_cons hd hblank, ih, List.cons_append, isContinued_cons hd hblank]
      | false => simp [isContinued, endsIn, hd, skipBlanks_cons hblank]

theorem isContinued_of_not_mem {s : Text} (hs : '\\' ∉ s) : isContinued s = false := by
  simp only [isContinued, endsIn, beq_eq_false_iff_ne, ne_eq]
  intro hhead
  have hmem := (List.dropWhile_sublist _).mem (List.mem_of_mem_head? hhead)
  exact hs ((List.takeWhile_sublist _).mem hmem)

/-- Whether what follows is neither on a preprocessor line nor continues one, for the text before it
read backwards. -/
structure OffDirective (before : Text) : Prop where
  ended : isContinued before = false
  hashless : '#' ∉ logicalHead before

namespace OffDirective

variable {b : Text}

theorem nil : OffDirective [] :=
  ⟨rfl, by decide⟩

theorem newline (hb : isContinued b = false) : OffDirective ('\n' :: b) :=
  ⟨rfl, by rw [logicalHead_newline hb]; exact List.not_mem_nil⟩

theorem cons_blank (hb : OffDirective b) {c : Char} (hc : isBlank c = true) : OffDirective (c :: b) := by
  by_cases hn : c = '\n'
  · rw [hn]
    exact newline hb.ended
  · refine ⟨by rw [isContinued_cons hn hc, hb.ended], ?_⟩
    have hhash : '#' ≠ c := by
      rintro rfl
      cases hc
    rw [logicalHead_cons hn]
    simp [hb.hashless, hhash]

theorem append_blanks (hb : OffDirective b) {w : Text} (hw : AllBlank w) :
    OffDirective (w.reverse ++ b) := by
  induction w generalizing b with
  | nil => exact hb
  | cons c w ih =>
    rw [List.reverse_cons, List.append_assoc]
    exact ih (hb.cons_blank (hw c (List.mem_cons_self ..))) fun d hd => hw d (List.mem_cons_of_mem c hd)

theorem hashless_append (hb : OffDirective b) {c : Char} (hc : isBlank c = false) {s : Text}
    (hs : ∀ d ∈ c :: s, d ≠ '\\' ∧ d ≠ '#') : '#' ∉ logicalHead ((c :: s).reverse ++ b) := by
  have hn : c ≠ '\n' := by
    rintro rfl
    cases hc
  rw [List.reverse_cons, List.append_assoc, List.singleton_append]
  -- A line break in the run continues no line, since no backslash is left between it and `c`.
  have hrun (r : Text) (hr : ∀ d ∈ r, d ≠ '\\' ∧ d ≠ '#') : '#' ∉ logicalHead (r ++ c :: b) := by
    induction r with
    | nil =>
      rw [List.nil_append, logicalHead_cons hn]
      simp [hb.hashless, Ne.symm (hs c (List.mem_cons_self ..)).2]
    | cons d r ih =>
      obtain ⟨hd, hr⟩ := List.forall_mem_cons.1 hr
      by_cases hnew : d = '\n'
      · have hended : isContinued (r ++ c :: b) = false := by
          rw [isContinued_append_cons hc]
          refine isContinued_of_not_mem fun hmem => ?_
          rcases List.mem_append.1 hmem with hmem | hmem
          · exact (hr _ hmem).1 rfl
          · exact (hs c (List.mem_cons_self ..)).1 (List.mem_singleton.1 hmem).symm
        rw [hnew, List.cons_append, logicalHead_newline hended]
        exact List.not_mem_nil
      · rw [List.cons_append, logicalHead_cons hnew]
        simp [ih hr, Ne.symm hd.2]
  exact hrun s.reverse fun d hd => hs d (List.mem_cons_of_mem c (List.mem_reverse.1 hd))

end OffDirective

def FinishedLine (line : Text) : Prop :=
  DirectiveLine line ∧ isContinued line.reverse = false

theorem FinishedLine.isContinued_append {l : Text} (hl : FinishedLine l) (b : Text) :
    isContinued (l.reverse ++ b) = false := by
  obtain ⟨r, hr⟩ := List.head?_eq_some_iff.1 hl.1.marked
  have hsplit : l.reverse = r.reverse ++ '#' :: (l.takeWhile isIndent).reverse := by
    conv_lhs => rw [← List.takeWhile_append_dropWhile (p := isIndent) (l := l), hr]
    simp
  have hended := hl.2
  rw [hsplit, isContinued_append_cons rfl] at hended
  rw [hsplit, List.append_assoc, List.cons_append, isContinued_append_cons rfl, hended]

theorem Lead.offDirective {fresh : Bool} {s b : Text} (h : Lead FinishedLine fresh s)
    (hb : OffDirective b) : OffDirective (s.reverse ++ b) := by
  induction h generalizing b with
  | blanks hw => exact hb.append_blanks hw
  | newline hw _ ih =>
    have hnext := ih (.newline (hb.append_blanks hw).ended)
    simpa using hnext
  | whole hl _ ih =>
    have hnext := ih (.newline (hl.isContinued_append b))
    simpa using hnext

end HeaderProbe
