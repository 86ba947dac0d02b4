import HeaderProbe.Proofs.Query.Deciding

namespace HeaderProbe

open Outcome

namespace Query

def line (q : Query) (reason : Text) : Text :=
  defineLine q.define (q.subject.print ++ ' ' :: reason)

theorem output_evaluate (q : Query) (root : Text) (seen now : Tree) :
    (q.evaluate root seen now).output = [] := by
  simp only [evaluate, output_bind, output_resolve, resolve_value, value_ofExcept, output_ofExcept,
    List.nil_append]
  cases q.firstMatch now (q.files.filterMap (FileRef.source? seen root)) with
  | error e => rfl
  | ok found =>
    rcases found with _ | ⟨s, first, others⟩
    · rfl
    · exact output_ofExcept _

variable {q : Query} {root : Text} {seen now : Tree}

theorem generate_of_error {e : ProbeError} (h : (q.evaluate root seen now).value = .error e) :
    (q.generate root seen now).value = .error e ∧ (q.generate root seen now).output = [] := by
  rw [generate, bind_of_error h]
  exact ⟨rfl, output_evaluate q root seen now⟩

theorem generate_of_ok {v : Verdict} (h : (q.evaluate root seen now).value = .ok v) :
    (q.generate root seen now).value = .ok v.holds ∧
      (q.generate root seen now).output = if v.holds then q.line v.evidence else [] := by
  rw [generate, bind_of_ok h, output_evaluate]
  obtain ⟨holds, evidence⟩ := v
  cases holds with
  | true => exact ⟨rfl, List.append_nil _⟩
  | false => exact ⟨rfl, rfl⟩

inductive Emits (q : Query) (root : Text) (seen now : Tree) :
    Except ProbeError Bool → Text → Prop
  | absent (h : q.subject.Undecided root seen now q.files) (ht : q.test = .absent) :
      Emits q root seen now (.ok true) (q.line (Test.reasonForNone (q.files.map FileRef.label)))
  | missing (h : q.subject.Undecided root seen now q.files) (ht : q.test ≠ .absent) :
      Emits q root seen now (.ok false) []
  | satisfied {before : List FileRef} {f : FileRef} {spans : List Span} {s : Span}
      (h : q.subject.Decided root seen now q.files before f spans)
      (hb : ¬ q.test.BreaksOff (q.subject.considered spans))
      (hs : q.test.firstSatisfied? (q.subject.considered spans) = some s) :
      Emits q root seen now (.ok true) (q.line (q.test.reason f.label s))
  | unsatisfied {before : List FileRef} {f : FileRef} {spans : List Span}
      (h : q.subject.Decided root seen now q.files before f spans)
      (hb : ¬ q.test.BreaksOff (q.subject.considered spans))
      (hs : ∀ s ∈ q.subject.considered spans, ¬ q.test.Satisfied s) :
      Emits q root seen now (.ok false) []
  | brokenOff {before : List FileRef} {f : FileRef} {spans : List Span}
      (h : q.subject.Decided root seen now q.files before f spans)
      (hb : q.test.BreaksOff (q.subject.considered spans)) :
      Emits q root seen now (.error .crossedGroup) []
  | lost {before : List FileRef} {path : Text}
      (h : q.subject.Lost root seen now q.files before path) :
      Emits q root seen now (.error (.unreadable (Path.join root path) (some q.define))) []

theorem Emits.generate_eq {r : Except ProbeError Bool} {text : Text}
    (h : q.Emits root seen now r text) :
    (q.generate root seen now).value = r ∧ (q.generate root seen now).output = text := by
  cases h with
  | absent h ht =>
    have hvalue := evaluate_of_undecided h
    rw [ht, Test.judge_absent_none] at hvalue
    exact generate_of_ok hvalue
  | missing h ht =>
    have hholds := Test.holds_judge_none ht ([' '].intercalate (q.files.map FileRef.label))
    have hgenerate := generate_of_ok (evaluate_of_undecided h)
    rw [hholds] at hgenerate
    exact hgenerate
  | satisfied h hb hs =>
    obtain ⟨first, others, hspans, hvalue⟩ := evaluate_of_decided h
    rw [hspans] at hb hs
    rw [Test.firstVerdict_of_firstSatisfied? hb hs] at hvalue
    exact generate_of_ok hvalue
  | unsatisfied h hb hs =>
    obtain ⟨first, others, hspans, hvalue⟩ := evaluate_of_decided h
    rw [hspans] at hb hs
    obtain ⟨v, hv, hverdict⟩ := Test.firstVerdict_of_unsatisfied hb hs _
    have hgenerate := generate_of_ok (hvalue.trans hverdict)
    rw [hv] at hgenerate
    exact hgenerate
  | brokenOff h hb =>
    obtain ⟨first, others, hspans, hvalue⟩ := evaluate_of_decided h
    rw [hspans] at hb
    rw [Test.firstVerdict_of_breaksOff hb] at hvalue
    exact generate_of_error hvalue
  | lost h => exact generate_of_error (evaluate_of_lost h)

theorem exists_emits (q : Query) (root : Text) (seen now : Tree) :
    ∃ r text, q.Emits root seen now r text := by
  rcases q.subject.undecided_or_decided_or_lost root seen now q.files with
    hnone | ⟨before, f, spans, hdecided⟩ | ⟨before, path, hlost⟩
  · by_cases ht : q.test = .absent
    · exact ⟨_, _, .absent hnone ht⟩
    · exact ⟨_, _, .missing hnone ht⟩
  · by_cases hb : q.test.BreaksOff (q.subject.considered spans)
    · exact ⟨_, _, .brokenOff hdecided hb⟩
    · cases hs : q.test.firstSatisfied? (q.subject.considered spans) with
      | none => exact ⟨_, _, .unsatisfied hdecided hb (Test.firstSatisfied?_eq_none_iff.1 hs)⟩
      | some s => exact ⟨_, _, .satisfied hdecided hb hs⟩
  · exact ⟨_, _, .lost hlost⟩

theorem emits_generate (q : Query) (root : Text) (seen now : Tree) :
    q.Emits root seen now (q.generate root seen now).value (q.generate root seen now).output := by
  obtain ⟨r, text, h⟩ := exists_emits q root seen now
  obtain ⟨rfl, rfl⟩ := h.generate_eq
  exact h

theorem generate_iff_emits (q : Query) (root : Text) (seen now : Tree) (sunk : Text)
    (r : Except ProbeError Bool) (out : Text) :
    (Outcome.write sunk >>= fun _ => q.generate root seen now).value = r ∧
        (Outcome.write sunk >>= fun _ => q.generate root seen now).output = out ↔
      ∃ text, out = sunk ++ text ∧ q.Emits root seen now r text := by
  rw [bind_of_ok rfl]
  constructor
  · rintro ⟨rfl, rfl⟩
    exact ⟨_, rfl, emits_generate q root seen now⟩
  · rintro ⟨text, rfl, h⟩
    obtain ⟨rfl, rfl⟩ := h.generate_eq
    exact ⟨rfl, rfl⟩

end Query

def twoInstances : Tree where
  entries := [(["a.h".toList], .file (Utf8.encode
    "struct ops o = \x7b .f = xyz \x7d;\nstruct ops p = \x7b .f = good \x7d;\n".toList))]

theorem breaks_off_before_satisfied_span :
    ∃ q f spans,
      Query.ofLine "A if any initializer f of ops lacks '((x)|y|z)++' in a.h".toList none
          literalMark = .ok q ∧
        q.subject.Decided [] twoInstances twoInstances q.files [] f spans ∧
        (∃ s ∈ q.subject.considered spans, q.test.Satisfied s) ∧
        (q.generate [] twoInstances twoInstances).value ≠ .ok true := by
  have hrun : (Query.ofLine "A if any initializer f of ops lacks '((x)|y|z)++' in a.h".toList none
      literalMark).toOption.any (fun q =>
        decide (q.files = [.path "a.h".toList] ∧
          q.subject.spansAt? [] twoInstances twoInstances (.path "a.h".toList) =
            some [⟨"xyz".toList, 22, 25, 1⟩, ⟨"good".toList, 51, 55, 2⟩] ∧
          ⟨"good".toList, 51, 55, 2⟩ ∈ q.subject.considered
            [⟨"xyz".toList, 22, 25, 1⟩, ⟨"good".toList, 51, 55, 2⟩] ∧
          q.test.Satisfied ⟨"good".toList, 51, 55, 2⟩ ∧
          (q.generate [] twoInstances twoInstances).value ≠ .ok true)) = true := by
    decide +kernel
  obtain ⟨q, hq, hall⟩ := exists_ok_of_any hrun
  obtain ⟨hfiles, hfound, hmem, hs, hvalue⟩ := of_decide_eq_true hall
  refine ⟨q, _, _, hq, ⟨?_, ?_, hfound, ?_⟩, ⟨_, hmem, hs⟩, hvalue⟩
  · rw [hfiles]
    exact List.prefix_rfl
  · simp [Subject.Undecided]
  · simp

end HeaderProbe
