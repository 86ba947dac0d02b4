import HeaderProbe.Source.Function
import HeaderProbe.Proofs.Text.Blank
import HeaderProbe.Proofs.Text.Occurrence

namespace HeaderProbe

open Text

theorem logicalHead_go (head before : Text) :
    logicalHead.go head before = logicalHead.go [] before ++ head := by
  induction before generalizing head with
  | nil => rfl
  | cons c r ih =>
    simp only [logicalHead.go]
    rw [ih (c :: head), ih [c]]
    split
    · split <;> simp
    · simp

theorem logicalHead_cons {c : Char} (hc : c ≠ '\n') (b : Text) :
    logicalHead (c :: b) = logicalHead b ++ [c] := by
  rw [logicalHead, logicalHead.go, if_neg hc, logicalHead_go]
  rfl

theorem logicalHead_newline {b : Text} (hb : isContinued b = false) :
    logicalHead ('\n' :: b) = [] := by
  simp [logicalHead, logicalHead.go, hb]

theorem logicalHead_continued {b : Text} (hb : isContinued b = true) :
    logicalHead ('\n' :: b) = logicalHead b ++ ['\n'] := by
  rw [logicalHead, logicalHead.go, if_pos rfl, if_pos hb, logicalHead_go]
  rfl

theorem head?_skipBlanks_append {s : Text} {c : Char} (hc : isBlank c = true) :
    (skipBlanks (s ++ [c])).head? = (skipBlanks s).head? := by
  induction s with
  | nil => simp [skipBlanks, hc]
  | cons d s ih =>
    simp only [skipBlanks, List.cons_append, List.dropWhile_cons] at ih ⊢
    split
    · exact ih
    · rfl

theorem inDirective_cons_blank {c : Char} (hc : isBlank c = true) (hn : c ≠ '\n') (b : Text) :
    inDirective (c :: b) = inDirective b := by
  rw [inDirective, logicalHead_cons hn, head?_skipBlanks_append hc]
  rfl

theorem inDirective_append_blank {w : Text} (hw : AllBlank w) (hn : '\n' ∉ w) (b : Text) :
    inDirective (w ++ b) = inDirective b := by
  induction w with
  | nil => rfl
  | cons c w ih =>
    simp only [List.mem_cons, not_or] at hn
    rw [List.cons_append, inDirective_cons_blank (hw c (List.mem_cons_self ..)) (Ne.symm hn.1)]
    exact ih (fun d hd => hw d (List.mem_cons_of_mem c hd)) hn.2

theorem inDirective_append {w b : Text} (hn : '\n' ∉ w) (hb : inDirective b = true) :
    inDirective (w ++ b) = true := by
  induction w with
  | nil => exact hb
  | cons c w ih =>
    simp only [List.mem_cons, not_or] at hn
    have hw := ih hn.2
    simp only [inDirective, beq_iff_eq, List.cons_append] at hw ⊢
    rw [logicalHead_cons (Ne.symm hn.1)]
    obtain ⟨r, hr⟩ := List.head?_eq_some_iff.1 hw
    obtain ⟨hc, u, hu, hs⟩ := skipBlanks_eq_cons_iff.1 hr
    rw [hs, List.append_assoc, skipBlanks_append hu, List.cons_append, skipBlanks_cons hc]
    rfl

theorem isContinued_cons {c : Char} (hn : c ≠ '\n') (hc : isBlank c = true) (b : Text) :
    isContinued (c :: b) = isContinued b := by
  simp [isContinued, endsIn, hn, skipBlanks, hc]

theorem isContinued_append_blank {w b : Text} (hw : AllBlank w)
    (h : isContinued (w ++ b) = true) : isContinued b = true := by
  induction w with
  | nil => exact h
  | cons c w ih =>
    by_cases hn : c = '\n'
    · simp [isContinued, endsIn, hn, skipBlanks] at h
    · rw [List.cons_append, isContinued_cons hn (hw c (List.mem_cons_self ..))] at h
      exact ih (fun d hd => hw d (List.mem_cons_of_mem c hd)) h

theorem inDirective_newline {b : Text} (hb : isContinued b = false) :
    inDirective ('\n' :: b) = false := by
  rw [inDirective, logicalHead_newline hb]
  rfl

namespace LineState

def next : LineState → Char → LineState
  | indent, c =>
      if c = '#' then directive false
      else if c = ' ' ∨ c = '\t' ∨ c = '\n' then indent
      else code
  | code, c => if c = '\n' then indent else code
  | directive escaped, c =>
      if c = '\n' then if escaped then directive false else indent else directive (c == '\\')

def isDirective : LineState → Bool
  | directive _ => true
  | _ => false

def after (st : LineState) (s : Text) : LineState :=
  s.foldl next st

@[simp] theorem after_nil (st : LineState) : st.after [] = st :=
  rfl

@[simp] theorem after_cons (st : LineState) (c : Char) (s : Text) :
    st.after (c :: s) = (st.next c).after s :=
  rfl

theorem after_append (st : LineState) (s r : Text) : st.after (s ++ r) = (st.after s).after r :=
  List.foldl_append

end LineState

theorem afterDirectives_cons (st : LineState) (c : Char) (s : Text) :
    afterDirectives st (c :: s) =
      (afterDirectives (st.next c) s).or (if c = '\n' ∧ st.isDirective = true then some s else none) := by
  cases st with
  | indent =>
    simp only [afterDirectives, LineState.next, LineState.isDirective, Bool.false_eq_true, and_false,
      if_false, Option.or_none]
    split
    · rfl
    · split <;> rfl
  | code =>
    simp only [afterDirectives, LineState.next, LineState.isDirective, Bool.false_eq_true, and_false,
      if_false, Option.or_none]
  | directive escaped =>
    simp only [afterDirectives, LineState.next, LineState.isDirective, and_true]
    split
    · rfl
    · rw [Option.or_none]

def Breaks (st : LineState) (x : Text) : Prop :=
  (st.after x).isDirective = true

theorem afterDirectives_eq_none_iff {st : LineState} {s : Text} :
    afterDirectives st s = none ↔ ∀ x y, s = x ++ '\n' :: y → ¬ Breaks st x := by
  induction s generalizing st with
  | nil =>
    refine iff_of_true (by cases st <;> rfl) fun x y h => ?_
    simp at h
  | cons c s ih =>
    rw [afterDirectives_cons, Option.or_eq_none_iff, ih]
    constructor
    · rintro ⟨hrest, hfirst⟩ x y h
      cases x with
      | nil =>
        obtain ⟨rfl, -⟩ := List.cons.inj h
        intro hbreaks
        rw [if_pos ⟨rfl, hbreaks⟩] at hfirst
        cases hfirst
      | cons d x =>
        obtain ⟨rfl, hs⟩ := List.cons.inj h
        exact hrest x y hs
    · intro h
      refine ⟨fun x y hs => h (c :: x) y (by rw [hs]; rfl), ?_⟩
      rw [ite_eq_right_iff]
      rintro ⟨rfl, hdirective⟩
      exact absurd hdirective (h [] s rfl)

theorem afterDirectives_eq_some_iff {st : LineState} {s r : Text} :
    afterDirectives st s = some r ↔
      ∃ x, s = x ++ '\n' :: r ∧ Breaks st x ∧
        ∀ x' y, r = x' ++ '\n' :: y → ¬ Breaks st (x ++ '\n' :: x') := by
  induction s generalizing st with
  | nil =>
    refine iff_of_false (by cases st <;> simp [afterDirectives]) ?_
    rintro ⟨x, h, -⟩
    simp at h
  | cons c s ih =>
    rw [afterDirectives_cons, Option.or_eq_some_iff, ih, afterDirectives_eq_none_iff]
    constructor
    · rintro (⟨x, rfl, hx, hlast⟩ | ⟨hlast, hfirst⟩)
      · exact ⟨c :: x, rfl, hx, hlast⟩
      · split at hfirst
        · next h =>
          obtain ⟨rfl, hdirective⟩ := h
          cases hfirst
          exact ⟨[], rfl, hdirective, hlast⟩
        · cases hfirst
    · rintro ⟨x, h, hx, hlast⟩
      cases x with
      | nil =>
        obtain ⟨rfl, rfl⟩ := List.cons.inj h
        exact .inr ⟨hlast, if_pos ⟨rfl, hx⟩⟩
      | cons d x =>
        obtain ⟨rfl, rfl⟩ := List.cons.inj h
        exact .inl ⟨x, rfl, hx, hlast⟩

theorem afterDirectives_directive_eq_none_iff {escaped : Bool} {s : Text} :
    afterDirectives (.directive escaped) s = none ↔ '\n' ∉ s := by
  induction s generalizing escaped with
  | nil => simp [afterDirectives]
  | cons c r ih =>
    simp only [afterDirectives]
    split
    · next hc => simp [hc]
    · next hc => simp [ih, Ne.symm hc]

theorem exists_of_afterDirectives (prev : Text) {st : LineState} {s r : Text}
    (hst : ∀ escaped, st = .directive escaped → escaped = (prev.head? == some '\\'))
    (h : afterDirectives st s = some r) :
    ∃ y, s = y ++ '\n' :: r ∧ ((y.reverse ++ prev).head? ≠ some '\\' ∨ '\n' ∉ r) := by
  induction s generalizing st prev with
  | nil => simp [afterDirectives] at h
  | cons c s ih =>
    have step {st' : LineState} (h' : afterDirectives st' s = some r)
        (hst' : ∀ escaped, st' = .directive escaped → escaped = (c == '\\')) :
        ∃ y, c :: s = y ++ '\n' :: r ∧ ((y.reverse ++ prev).head? ≠ some '\\' ∨ '\n' ∉ r) := by
      obtain ⟨y, rfl, hy⟩ := ih (c :: prev) (by simpa using hst') h'
      exact ⟨c :: y, rfl, by simpa using hy⟩
    cases st with
    | indent =>
      simp only [afterDirectives] at h
      split at h
      · next hc => exact step h (by simp [hc])
      · split at h
        · exact step h (by simp)
        · exact step h (by simp)
    | code =>
      simp only [afterDirectives] at h
      refine step h ?_
      split <;> simp
    | directive escaped =>
      simp only [afterDirectives] at h
      split at h
      · next hc =>
        rcases Option.or_eq_some_iff.1 h with h | ⟨hnone, h⟩
        · refine step h ?_
          split <;> simp [hc]
        · cases h
          refine ⟨[], by rw [hc]; rfl, ?_⟩
          have he := hst escaped rfl
          cases escaped with
          | false => exact .inl (by simpa using he.symm)
          | true => exact .inr (afterDirectives_directive_eq_none_iff.1 hnone)
      · exact step h (by simp)

def StatementBoundary (before : Text) : Prop :=
  before = [] ∨ ∃ c r, before = c :: r ∧ (endsStatement c = true ∨ c = '\n')

theorem isContinued_boundary {b : Text} (hb : StatementBoundary b) : isContinued b = false := by
  rcases hb with rfl | ⟨c, r, rfl, hc | rfl⟩
  · rfl
  · simp only [endsStatement, Bool.or_eq_true, beq_iff_eq] at hc
    rcases hc with (rfl | rfl) | rfl <;> simp [isContinued, endsIn, skipBlanks, isBlank]
  · simp [isContinued, endsIn, skipBlanks]

theorem inDirective_append_boundary {w b : Text} (hw : AllBlank w) (hb : StatementBoundary b) :
    inDirective (w ++ b) = true ↔ '\n' ∉ w ∧ inDirective b = true := by
  by_cases hn : '\n' ∈ w
  · obtain ⟨u, v, rfl, hu⟩ := List.eq_append_cons_of_mem hn
    have huBlank : AllBlank u := fun c hc => hw c (by simp [hc])
    have hvBlank : AllBlank v := fun c hc => hw c (by simp [hc])
    have hend : isContinued (v ++ b) = false := by
      by_contra h
      have := isContinued_append_blank hvBlank (by simpa using h)
      rw [isContinued_boundary hb] at this
      cases this
    rw [List.append_assoc, List.cons_append, inDirective_append_blank huBlank hu,
      inDirective_newline hend]
    simp
  · simp [inDirective_append_blank hw hn, hn]

theorem exists_before_statementRest (before : Text) :
    ∃ b, before = (statementRest before).reverse ++ b ∧ StatementBoundary b ∧
      ∀ r, b = '\n' :: r → r.head? ≠ some '\\' ∨ '\n' ∉ statementRest before := by
  have hsplit := List.takeWhile_append_dropWhile (p := fun c => !endsStatement c) (l := before)
  have hrest : ∀ c r, before.dropWhile (fun c => !endsStatement c) = c :: r →
      endsStatement c = true := by
    intro c r h
    have := List.head?_dropWhile_not (fun c => !endsStatement c) before
    simpa [h] using this
  simp only [statementRest]
  generalize before.takeWhile (fun c => !endsStatement c) = tail at hsplit ⊢
  generalize before.dropWhile (fun c => !endsStatement c) = rest at hsplit hrest
  generalize hst : (if tail.length = before.length then LineState.indent else .code) = st
  subst hsplit
  cases h : afterDirectives st tail.reverse with
  | none =>
    refine ⟨rest, by simp, ?_, ?_⟩
    · cases rest with
      | nil => exact .inl rfl
      | cons c r => exact .inr ⟨c, r, rfl, .inl (hrest c r rfl)⟩
    · rintro r rfl
      cases hrest _ _ rfl
  | some r =>
    have hcode : ∀ escaped, st = .directive escaped → escaped = (rest.head? == some '\\') := by
      rintro escaped rfl
      split at hst <;> cases hst
    obtain ⟨y, hy, hlast⟩ := exists_of_afterDirectives rest hcode h
    refine ⟨'\n' :: (y.reverse ++ rest), ?_, .inr ⟨_, _, rfl, .inr rfl⟩, ?_⟩
    · rw [List.reverse_eq_iff.1 hy]
      simp
    · intro _ hr
      cases hr
      exact hlast

/-- A preprocessor line that a statement is taken to begin on: behind a semicolon or brace of it, or
on the line continued by a backslash that blanks follow. -/
def InterruptsDirective (before : Text) : Prop :=
  inDirective before = true ∧
    ((∃ c r, before = c :: r ∧ endsStatement c = true) ∨
      ∃ r, before = '\n' :: r ∧ isContinued r = true ∧ r.head? ≠ some '\\')

theorem exists_before_statementStart (p : Place) :
    ∃ w b, (Place.of p.text (statementStart p.before)).before = w ++ b ∧ AllBlank w ∧
      StatementBoundary b ∧
      (inDirective p.before = false → inDirective b = true → InterruptsDirective b) := by
  obtain ⟨b, hb, hbound, hline⟩ := exists_before_statementRest p.before
  have hrest := takeWhile_append_skipBlanks (statementRest p.before)
  have hblank := allBlank_takeWhile (statementRest p.before)
  generalize (statementRest p.before).takeWhile isBlank = w at hrest hblank
  rw [← statementHead] at hrest
  refine ⟨w.reverse, b, ?_, fun c hc => hblank c (List.mem_reverse.1 hc), hbound, ?_⟩
  · have hbefore : p.before.reverse = (b.reverse ++ w) ++ statementHead p.before :=
      calc p.before.reverse = ((statementRest p.before).reverse ++ b).reverse := congrArg _ hb
        _ = (b.reverse ++ w) ++ statementHead p.before := by simp [← hrest]
    have hstart : statementStart p.before = (b.reverse ++ w).length := by
      have := congrArg List.length hbefore
      rw [List.length_append, List.length_reverse] at this
      rw [statementStart, this, Nat.add_sub_cancel]
    rw [Place.of, Place.text, hbefore, hstart, List.append_assoc (b.reverse ++ w), List.take_left]
    simp
  · intro hp hdir
    refine ⟨hdir, ?_⟩
    rcases hbound with rfl | ⟨c, r, rfl, hc | rfl⟩
    · cases hdir
    · exact .inl ⟨c, r, rfl, hc⟩
    · refine .inr ⟨r, rfl, ?_, ?_⟩
      · by_contra h
        rw [inDirective_newline (by simpa using h)] at hdir
        cases hdir
      · rcases hline r rfl with h | h
        · exact h
        · rw [hb, inDirective_append (by simpa using h) hdir] at hp
          cases hp

theorem exists_of_findFunction {name t : Text} {s : Span} (h : findFunction name t = some s) :
    ∃ o ∈ (Place.start (mask t)).occurrences (callShape name), o.place.text = mask t ∧
      inDirective o.place.before = false ∧ s.start = statementStart o.place.before := by
  obtain ⟨⟨i, j⟩, hfound, rfl⟩ := Option.map_eq_some_iff.1 h
  obtain ⟨o, ho, hextent⟩ := List.exists_of_findSome?_eq_some hfound
  refine ⟨o, ho, Place.text_of_mem ho, ?_, ?_⟩
  · by_contra hdir
    simp [functionExtent?, declaresFunction, hdir] at hextent
  · simp only [functionExtent?, bind, Option.bind_eq_some_iff] at hextent
    obtain ⟨-, -, close, -, hspan⟩ := hextent
    cases hspan
    rfl

theorem function_start_in_directive_iff {name t : Text} {s : Span}
    (h : findFunction name t = some s) :
    inDirective (Place.of (mask t) s.start).before = true ↔
      ∃ w b, (Place.of (mask t) s.start).before = w ++ b ∧ AllBlank w ∧ '\n' ∉ w ∧
        InterruptsDirective b := by
  obtain ⟨o, -, htext, hoff, hstart⟩ := exists_of_findFunction h
  obtain ⟨w, b, hb, hw, hbound, hinterrupts⟩ := exists_before_statementStart o.place
  rw [hstart, ← htext]
  constructor
  · intro hdir
    rw [hb, inDirective_append_boundary hw hbound] at hdir
    exact ⟨w, b, hb, hw, hdir.1, hinterrupts hoff hdir.2⟩
  · rintro ⟨u, c, hc, hu, hn, hdir, -⟩
    rw [hc, inDirective_append_blank hu hn]
    exact hdir

def spacedContinuationText : Text :=
  "#define A 1 \\ \n + 2\nint f(int a);".toList

theorem function_start_past_spaced_backslash :
    findFunction "f".toList spacedContinuationText = some (Span.cut spacedContinuationText 16 33) ∧
      ∃ w b, (Place.of (mask spacedContinuationText) 16).before = w ++ b ∧ AllBlank w ∧ '\n' ∉ w ∧
        InterruptsDirective b := by
  have h : findFunction "f".toList spacedContinuationText =
      some (Span.cut spacedContinuationText 16 33) := by
    decide +kernel
  exact ⟨h, (function_start_in_directive_iff h).1 (by decide +kernel)⟩

def loopMacroText : Text :=
  "#define X do \x7b \x7d while (0)\nint foo(int a);\n".toList

theorem function_start_inside_loop_macro :
    findFunction "foo".toList loopMacroText = some (Span.cut loopMacroText 17 42) ∧
      inDirective (Place.of (mask loopMacroText) 17).before = true := by
  decide +kernel

end HeaderProbe
