import HeaderProbe.Proofs.Query.Meaning

namespace HeaderProbe

namespace Subject

variable {s : Subject} {spans others : List Span} {first : Span}

theorem considered_cons (s : Subject) (first : Span) (others : List Span) :
    ∃ rest, s.considered (first :: others) = first :: rest := by
  unfold considered
  split
  · exact ⟨others, rfl⟩
  · exact ⟨[], rfl⟩

theorem considered_of_not_isAny (h : s.isAny = false) (first : Span) (others : List Span) :
    s.considered (first :: others) = [first] := by
  simp [considered, h]

end Subject

namespace Query

variable {q : Query} {root : Text} {t : Tree} {before : List FileRef} {f : FileRef}
  {others : List Span} {first : Span}

def Holds (q : Query) (root : Text) (t : Tree) : Prop :=
  (q.generate root t t).value = .ok true

def BreaksOff (q : Query) (root : Text) (t : Tree) : Prop :=
  (q.generate root t t).value = .error .crossedGroup

theorem holds_iff :
    q.Holds root t ↔
      q.subject.Undecided root t t q.files ∧ q.test = .absent ∨
        ∃ before f spans, q.subject.Decided root t t q.files before f spans ∧
          ¬ q.test.BreaksOff (q.subject.considered spans) ∧
          ∃ s, q.test.firstSatisfied? (q.subject.considered spans) = some s := by
  constructor
  · intro h
    obtain ⟨text, hemits⟩ : ∃ text, q.Emits root t t (.ok true) text :=
      ⟨_, h ▸ q.emits_generate root t t⟩
    cases hemits with
    | absent hnone ht => exact .inl ⟨hnone, ht⟩
    | satisfied hdecided hb hs => exact .inr ⟨_, _, _, hdecided, hb, _, hs⟩
  · rintro (⟨hnone, ht⟩ | ⟨before, f, spans, hdecided, hb, s, hs⟩)
    · exact (Emits.absent hnone ht).generate_eq.1
    · exact (Emits.satisfied hdecided hb hs).generate_eq.1

theorem exists_decided_of_holds (h : q.Holds root t) (ht : q.test ≠ .absent) :
    ∃ before f first others, q.subject.Decided root t t q.files before f (first :: others) := by
  rcases holds_iff.1 h with ⟨-, habsent⟩ | ⟨before, f, spans, hdecided, -⟩
  · exact absurd habsent ht
  · obtain ⟨first, others, rfl⟩ := List.exists_cons_of_ne_nil hdecided.nonempty
    exact ⟨before, f, first, others, hdecided⟩

theorem holds_of_first (h : q.subject.Decided root t t q.files before f (first :: others))
    (hc : q.test.crosses first = false) (hs : q.test.Satisfied first) : q.Holds root t := by
  obtain ⟨rest, hrest⟩ := q.subject.considered_cons first others
  refine holds_iff.2 (.inr ⟨before, f, first :: others, h, ?_, first, ?_⟩)
  · rw [hrest, Test.not_breaksOff_cons]
    exact ⟨hc, fun hn => absurd hs hn⟩
  · rw [hrest, Test.firstSatisfied?, List.find?_cons_of_pos (by simpa using hs)]

theorem breaksOff_of_first (h : q.subject.Decided root t t q.files before f (first :: others))
    (hc : q.test.crosses first = true) : q.BreaksOff root t := by
  obtain ⟨rest, hrest⟩ := q.subject.considered_cons first others
  refine (Emits.brokenOff h ?_).generate_eq.1
  rw [hrest, Test.breaksOff_cons]
  exact .inl hc

theorem satisfied_of_holds (h : q.subject.Decided root t t q.files before f (first :: others))
    (hany : q.subject.isAny = false) (hholds : q.Holds root t) : q.test.Satisfied first := by
  have hsingle := Subject.considered_of_not_isAny hany first others
  rw [Holds] at hholds
  by_contra hs
  by_cases hb : q.test.BreaksOff (q.subject.considered (first :: others))
  · rw [(Emits.brokenOff h hb).generate_eq.1] at hholds
    cases hholds
  · have hnone : ∀ r ∈ q.subject.considered (first :: others), ¬ q.test.Satisfied r := by
      rw [hsingle]
      simpa using hs
    rw [(Emits.unsatisfied h hb hnone).generate_eq.1] at hholds
    cases hholds

end Query

section

variable {define root : Text} {t : Tree} {files before : List FileRef} {f : FileRef} {s : Subject}
  {first : Span} {others : List Span} {p : Pattern}

theorem holds_presence_iff :
    Query.Holds ⟨define, s, .presence, files⟩ root t ↔
      ∃ before f first others, s.Decided root t t files before f (first :: others) := by
  constructor
  · intro h
    exact Query.exists_decided_of_holds h (by simp)
  · rintro ⟨before, f, first, others, h⟩
    exact Query.holds_of_first (q := ⟨define, s, .presence, files⟩) h rfl trivial

theorem holds_absent_iff :
    Query.Holds ⟨define, s, .absent, files⟩ root t ↔ s.Undecided root t t files := by
  rw [Query.holds_iff]
  constructor
  · rintro (⟨hnone, -⟩ | ⟨before, f, spans, -, -, found, hfound⟩)
    · exact hnone
    · exact absurd (Test.satisfied_of_firstSatisfied? hfound).2 id
  · intro hnone
    exact .inl ⟨hnone, rfl⟩

theorem holds_presence_iff_not_absent :
    Query.Holds ⟨define, s, .presence, files⟩ root t ↔
      ¬ Query.Holds ⟨define, s, .absent, files⟩ root t := by
  rw [holds_presence_iff, holds_absent_iff]
  constructor
  · rintro ⟨before, f, first, others, h⟩
    exact h.not_undecided
  · intro hsome
    rcases s.undecided_or_decided_or_lost root t t files with
      hnone | ⟨before, f, spans, h⟩ | ⟨before, path, hlost⟩
    · exact absurd hnone hsome
    · obtain ⟨first, others, rfl⟩ := List.exists_cons_of_ne_nil h.nonempty
      exact ⟨before, f, first, others, h⟩
    · exact absurd hlost (s.not_lost root t files before path)

theorem holds_has_or_lacks (h : s.Decided root t t files before f (first :: others))
    (hc : p.crosses first.text = false) :
    Query.Holds ⟨define, s, .has p, files⟩ root t ∨
      Query.Holds ⟨define, s, .lacks p, files⟩ root t := by
  cases hp : p.occursIn first.text with
  | true => exact .inl (Query.holds_of_first (q := ⟨define, s, .has p, files⟩) h hc hp)
  | false => exact .inr (Query.holds_of_first (q := ⟨define, s, .lacks p, files⟩) h hc hp)

theorem not_holds_has_and_lacks (h : s.Decided root t t files before f (first :: others))
    (hany : s.isAny = false) :
    ¬ (Query.Holds ⟨define, s, .has p, files⟩ root t ∧
      Query.Holds ⟨define, s, .lacks p, files⟩ root t) := by
  rintro ⟨hhas, hlacks⟩
  have hin : p.occursIn first.text = true :=
    Query.satisfied_of_holds (q := ⟨define, s, .has p, files⟩) h hany hhas
  have hout : p.occursIn first.text = false :=
    Query.satisfied_of_holds (q := ⟨define, s, .lacks p, files⟩) h hany hlacks
  rw [hin] at hout
  cases hout

end

section

variable {define root field type : Text} {t seen now : Tree} {files before : List FileRef}
  {f : FileRef} {spans : List Span} {test : Test}

theorem decided_first_iff_any :
    (Subject.initializer field type .first).Decided root seen now files before f spans ↔
      (Subject.initializer field type .any).Decided root seen now files before f spans := by
  have hsame (g : FileRef) : (Subject.initializer field type .first).spansAt? root seen now g =
      (Subject.initializer field type .any).spansAt? root seen now g := by
    cases g <;> rfl
  exact ⟨fun h => h.of_agree fun g _ => (hsame g).symm, fun h => h.of_agree fun g _ => hsame g⟩

theorem holds_any_of_first (ht : test ≠ .absent)
    (h : Query.Holds ⟨define, .initializer field type .first, test, files⟩ root t) :
    Query.Holds ⟨define, .initializer field type .any, test, files⟩ root t := by
  rcases Query.holds_iff.1 h with ⟨-, habsent⟩ | ⟨before, f, spans, hdecided, hb, s, hs⟩
  · exact absurd habsent ht
  · obtain ⟨first, others, rfl⟩ := List.exists_cons_of_ne_nil hdecided.nonempty
    have hsatisfied : test.Satisfied first := Query.satisfied_of_holds hdecided rfl h
    obtain ⟨hc, -⟩ := Test.not_breaksOff_cons.1 hb
    exact Query.holds_of_first
      (q := ⟨define, .initializer field type .any, test, files⟩)
      (decided_first_iff_any.1 hdecided) hc hsatisfied

end

theorem tests_of_one_subject (define root : Text) (t : Tree) (files : List FileRef) (p : Pattern) :
    let holds (s : Subject) (test : Test) := Query.Holds ⟨define, s, test, files⟩ root t
    let breaksOff (s : Subject) (test : Test) := Query.BreaksOff ⟨define, s, test, files⟩ root t
    (∀ s : Subject,
      (holds s .presence ↔ ¬ holds s .absent) ∧
      (holds s (.has p) → holds s .presence) ∧
      (holds s (.lacks p) → holds s .presence) ∧
      (holds s .presence → ∃ before f first others,
        s.Decided root t t files before f (first :: others) ∧
        (p.crosses first.text = true → breaksOff s (.has p) ∧ breaksOff s (.lacks p)) ∧
        (p.crosses first.text = false →
          (holds s (.has p) ∨ holds s (.lacks p)) ∧
          (s.isAny = false → ¬ (holds s (.has p) ∧ holds s (.lacks p)))))) ∧
    ∀ field type : Text,
      (holds (.initializer field type .first) .presence ↔
        holds (.initializer field type .any) .presence) ∧
      (holds (.initializer field type .first) (.has p) →
        holds (.initializer field type .any) (.has p)) ∧
      (holds (.initializer field type .first) (.lacks p) →
        holds (.initializer field type .any) (.lacks p)) := by
  intro holds breaksOff
  refine ⟨fun s => ⟨holds_presence_iff_not_absent, fun h => ?_, fun h => ?_, fun h => ?_⟩,
    fun field type => ⟨?_, holds_any_of_first (by simp), holds_any_of_first (by simp)⟩⟩
  · exact holds_presence_iff.2 (Query.exists_decided_of_holds h (by simp))
  · exact holds_presence_iff.2 (Query.exists_decided_of_holds h (by simp))
  · obtain ⟨before, f, first, others, hdecided⟩ := holds_presence_iff.1 h
    refine ⟨before, f, first, others, hdecided, fun hc => ⟨?_, ?_⟩, fun hc => ⟨?_, fun hany => ?_⟩⟩
    · exact Query.breaksOff_of_first (q := ⟨define, s, .has p, files⟩) hdecided hc
    · exact Query.breaksOff_of_first (q := ⟨define, s, .lacks p, files⟩) hdecided hc
    · exact holds_has_or_lacks hdecided hc
    · exact not_holds_has_and_lacks hdecided hany
  · show Query.Holds _ _ _ ↔ Query.Holds _ _ _
    simp only [holds_presence_iff, decided_first_iff_any]

def crossingTree : Tree where
  entries := [(["a.h".toList], .file (Utf8.encode "struct a \x7b xyz \x7d;\n".toList))]

theorem neither_matches_nor_lacks :
    ∃ p, Pattern.read "((x)|y|z)++".toList = .ok p ∧
      Query.Holds ⟨"A".toList, .declaration .struct "a".toList, .presence, [.path "a.h".toList]⟩ []
        crossingTree ∧
      ¬ Query.Holds ⟨"A".toList, .declaration .struct "a".toList, .has p, [.path "a.h".toList]⟩ []
        crossingTree ∧
      ¬ Query.Holds ⟨"A".toList, .declaration .struct "a".toList, .lacks p, [.path "a.h".toList]⟩ []
        crossingTree := by
  have hrun : (Pattern.read "((x)|y|z)++".toList).toOption.any (fun p =>
      let value (test : Test) := (Query.generate
        ⟨"A".toList, .declaration .struct "a".toList, test, [.path "a.h".toList]⟩ [] crossingTree
        crossingTree).value
      decide (value .presence = .ok true ∧ value (.has p) ≠ .ok true ∧
        value (.lacks p) ≠ .ok true)) = true := by
    decide +kernel
  obtain ⟨p, hp, hall⟩ := Outcome.exists_ok_of_any hrun
  obtain ⟨hpresence, hhas, hlacks⟩ := of_decide_eq_true hall
  exact ⟨p, hp, hpresence, hhas, hlacks⟩

end HeaderProbe
