import HeaderProbe.Error
import HeaderProbe.Proofs.Pattern.Count
import HeaderProbe.Proofs.Pattern.Limits
import HeaderProbe.Proofs.Query.Grammar

namespace HeaderProbe

def Query.AsksPattern (words : List Text) (source : Text) : Prop :=
  ∃ define subject lead rest, words = define :: "if".toList :: (subject ++ lead :: source :: rest) ∧
    isName define = true ∧ (∃ s : Subject, s.Written subject) ∧
    (lead = "matches".toList ∨ lead = "lacks".toList)

namespace QueryReader

variable {α β : Type} {words rest : List Text} {source : Text} {e : Pattern.Error} {x : QueryReader α}

theorem run_bind_eq_error_iff {f : α → QueryReader β} {c : Complaint} :
    (x >>= f).run words = .error c ↔
      x.run words = .error c ∨ ∃ a mid, x.run words = .ok (a, mid) ∧ (f a).run mid = .error c := by
  rw [StateT.run_bind]
  cases x.run words with
  | error c' => simp [bind, Except.bind]
  | ok r =>
    obtain ⟨a, mid⟩ := r
    simp [bind, Except.bind]

def Unpatterned (x : QueryReader α) : Prop :=
  ∀ words source e, x.run words ≠ .error (.badPattern source e)

namespace Unpatterned

theorem bind {f : α → QueryReader β} (hx : Unpatterned x) (hf : ∀ a, Unpatterned (f a)) :
    Unpatterned (x >>= f) := by
  intro words source e h
  rcases run_bind_eq_error_iff.1 h with h | ⟨a, mid, -, h⟩
  · exact hx words source e h
  · exact hf a mid source e h

theorem pure (a : α) : Unpatterned (Pure.pure a) :=
  fun _ _ _ h => nomatch h

theorem throw {c : Complaint} (h : ∀ source e, c ≠ .badPattern source e) :
    Unpatterned (MonadExcept.throw c : QueryReader α) :=
  fun _ source e hrun => h source e (Except.error.inj hrun)

theorem run_bind_iff {f : α → QueryReader β} (hx : Unpatterned x) :
    (x >>= f).run words = .error (.badPattern source e) ↔
      ∃ a mid, x.run words = .ok (a, mid) ∧ (f a).run mid = .error (.badPattern source e) :=
  run_bind_eq_error_iff.trans (or_iff_right (hx words source e))

theorem run_bind_iff_left {f : α → QueryReader β} (hf : ∀ a, Unpatterned (f a)) :
    (x >>= f).run words = .error (.badPattern source e) ↔ x.run words = .error (.badPattern source e) :=
  run_bind_eq_error_iff.trans (or_iff_left fun ⟨a, mid, _, h⟩ => hf a mid source e h)

end Unpatterned

theorem unpatterned_next (what : Expected) : Unpatterned (next what) := by
  intro words source e h
  cases words with
  | nil => cases h
  | cons w rest => cases h

theorem unpatterned_keyword (word : Text) : Unpatterned (keyword word) := by
  refine (unpatterned_next _).bind fun w => ?_
  split
  · exact .throw nofun
  · exact .pure _

theorem unpatterned_name (what : Expected) : Unpatterned (name what) := by
  refine (unpatterned_next what).bind fun w => ?_
  split
  · exact .bind (.throw nofun) fun _ => .pure _
  · exact .pure _

theorem unpatterned_accept (word : Text) : Unpatterned (accept word) := by
  intro words source e h
  by_cases hw : words.head? = some word
  · obtain ⟨rest, rfl⟩ := List.head?_eq_some_iff.1 hw
    rw [accept_self] at h
    cases h
  · rw [accept_of_ne hw] at h
    cases h

theorem unpatterned_instances (any : Bool) : Unpatterned (instances any) := by
  refine (unpatterned_accept _).bind fun found => ?_
  split
  · split
    · exact .bind (.throw nofun) fun _ => (unpatterned_name _).bind fun _ => .pure _
    · exact (unpatterned_name _).bind fun _ => .pure _
  · exact .pure _

theorem unpatterned_subject : Unpatterned subject := by
  refine (unpatterned_accept _).bind fun any => (unpatterned_next _).bind fun word => ?_
  split
  · refine (unpatterned_name _).bind fun _ => (unpatterned_keyword _).bind fun _ => ?_
    exact (unpatterned_name _).bind fun _ => (unpatterned_instances _).bind fun _ => .pure _
  · split
    · have hmember : Unpatterned (do
          let field ← name .fieldName
          keyword "of".toList
          return Subject.member field (← name .structName)) :=
        (unpatterned_name _).bind fun _ => (unpatterned_keyword _).bind fun _ =>
          (unpatterned_name _).bind fun _ => .pure _
      split
      · exact .bind (.throw nofun) fun _ => hmember
      · exact hmember
    · split
      · split
        · exact .bind (.throw nofun) fun _ => (unpatterned_name _).bind fun _ => .pure _
        · exact (unpatterned_name _).bind fun _ => .pure _
      · exact .throw nofun

theorem pattern_eq_error_iff :
    pattern.run words = .error (.badPattern source e) ↔
      ∃ rest, words = source :: rest ∧ Pattern.read source = .error e := by
  rw [pattern, (unpatterned_next _).run_bind_iff]
  simp only [next_eq_ok_iff]
  constructor
  · rintro ⟨w, mid, rfl, h⟩
    split at h
    · cases h
    · next hread =>
      cases h
      exact ⟨mid, rfl, hread⟩
  · rintro ⟨rest, rfl, hread⟩
    refine ⟨source, rest, rfl, ?_⟩
    rw [hread]
    rfl

theorem pattern_then_eq_error_iff {k : Pattern → β} :
    (do return k (← pattern) : QueryReader β).run words = .error (.badPattern source e) ↔
      ∃ rest, words = source :: rest ∧ Pattern.read source = .error e := by
  rw [Unpatterned.run_bind_iff_left fun _ => .pure _, pattern_eq_error_iff]

theorem accept_then_eq_error_iff {word : Text} {x y : QueryReader β} :
    (accept word >>= fun found => if found = true then x else y).run words = .error (.badPattern source e) ↔
      (∃ mid, words = word :: mid ∧ x.run mid = .error (.badPattern source e)) ∨
        words.head? ≠ some word ∧ y.run words = .error (.badPattern source e) := by
  by_cases hw : words.head? = some word
  · obtain ⟨vs, rfl⟩ := List.head?_eq_some_iff.1 hw
    rw [run_bind_of_ok (accept_self word vs)]
    simp
  · rw [run_bind_of_ok (accept_of_ne hw)]
    refine ⟨fun h => .inr ⟨hw, h⟩, ?_⟩
    rintro (⟨mid, rfl, -⟩ | ⟨-, h⟩)
    · exact absurd rfl hw
    · exact h

theorem test_eq_error_iff :
    test.run words = .error (.badPattern source e) ↔
      ∃ lead rest, words = lead :: source :: rest ∧ (lead = "matches".toList ∨ lead = "lacks".toList) ∧
        Pattern.read source = .error e := by
  simp only [test, accept_then_eq_error_iff, pattern_then_eq_error_iff]
  constructor
  · rintro (⟨_, rfl, rest, rfl, hread⟩ | ⟨-, ⟨_, rfl, rest, rfl, hread⟩ | ⟨-, ⟨_, -, h⟩ | ⟨-, h⟩⟩⟩)
    · exact ⟨_, rest, rfl, .inl rfl, hread⟩
    · exact ⟨_, rest, rfl, .inr rfl, hread⟩
    · cases h
    · cases h
  · rintro ⟨lead, rest, rfl, rfl | rfl, hread⟩
    · exact .inl ⟨_, rfl, rest, rfl, hread⟩
    · exact .inr ⟨by simp, .inl ⟨_, rfl, rest, rfl, hread⟩⟩

variable {literal : Option Text} {label : Text}

theorem eq_of_files_eq_error {c : Complaint} (h : files literal label words = .error c) :
    c = .noLiteral := by
  induction words with
  | nil => cases h
  | cons w ws ih =>
    by_cases hw : w = literalMark
    · subst hw
      cases literal with
      | none =>
        cases h
        rfl
      | some t =>
        rw [files_mark] at h
        cases hws : files (some t) label ws with
        | error c' =>
          rw [hws] at h
          cases h
          exact ih hws
        | ok fs =>
          rw [hws] at h
          cases h
    · rw [files_path _ _ hw] at h
      cases hws : files literal label ws with
      | error c' =>
        rw [hws] at h
        cases h
        exact ih hws
      | ok fs =>
        rw [hws] at h
        cases h

theorem unpatterned_files (ws : List Text) : Unpatterned (liftM (files literal label ws)) := by
  intro words source e h
  cases hws : files literal label ws with
  | error c =>
    rw [hws] at h
    cases h
    cases eq_of_files_eq_error hws
  | ok fs =>
    rw [hws] at h
    cases h

theorem query_eq_error_iff :
    (query literal label).run words = .error (.badPattern source e) ↔
      Query.AsksPattern words source ∧ Pattern.read source = .error e := by
  have hget : Unpatterned (get : QueryReader (List Text)) := fun _ _ _ h => nomatch h
  have hfiles (define : Text) (s : Subject) (t : Test) : Unpatterned (do
      keyword "in".toList
      let words ← get
      let files ← files literal label words
      if files.isEmpty then throw .missingFiles
      return Query.mk define s t files) := by
    refine (unpatterned_keyword _).bind fun _ => hget.bind fun _ => (unpatterned_files _).bind fun fs => ?_
    split
    · exact .bind (.throw nofun) fun _ => .pure _
    · exact .pure _
  simp only [query, (unpatterned_name _).run_bind_iff, name_eq_ok_iff, (unpatterned_keyword _).run_bind_iff,
    keyword_eq_ok_iff, unpatterned_subject.run_bind_iff, Unpatterned.run_bind_iff_left (hfiles _ _),
    test_eq_error_iff]
  constructor
  · rintro ⟨define, _, ⟨rfl, hdefine⟩, _, _, rfl, s, _, hs, lead, rest, rfl, hlead, hread⟩
    obtain ⟨subject, hsubject, rfl⟩ := exists_written_of_subject hs
    exact ⟨⟨define, subject, lead, rest, rfl, hdefine, ⟨s, hsubject⟩, hlead⟩, hread⟩
  · rintro ⟨⟨define, subject, lead, rest, rfl, hdefine, ⟨s, hsubject⟩, hlead⟩, hread⟩
    refine ⟨define, _, ⟨rfl, hdefine⟩, (), _, rfl, s, _, subject_of_written hsubject ?_, lead, rest, rfl,
      hlead, hread⟩
    rcases hlead with rfl | rfl
    · simp
    · simp

end QueryReader

section Classes

variable {words : List Text} {literal : Option Text} {label : Text}

theorem Complaint.errorClass_inWords_ne_iff {c : Complaint} :
    (ProbeError.query (c.inWords words)).errorClass ≠ .catalog ↔
      ∃ source e, c = .badPattern source e ∧ e.errorClass ≠ .syntactic := by
  cases c with
  | badPattern source e =>
    rw [Complaint.inWords]
    split
    · next he => simp [ProbeError.errorClass, he]
    · next he => simp [ProbeError.errorClass, he]
  | _ => simp [Complaint.inWords, ProbeError.errorClass]

theorem Query.ofWords_beyond_catalog_iff :
    (∃ e, Query.ofWords words literal label = .error e ∧ (ProbeError.query e).errorClass ≠ .catalog) ↔
      ∃ source e, Query.AsksPattern (dropLeadingGen words) source ∧ Pattern.read source = .error e ∧
        e.errorClass ≠ .syntactic := by
  unfold Query.ofWords
  dsimp only
  constructor
  · rintro ⟨e, h, hclass⟩
    split at h
    · cases h
    · next c hc =>
      cases h
      obtain ⟨source, e, rfl, he⟩ := Complaint.errorClass_inWords_ne_iff.1 hclass
      obtain ⟨hasks, hread⟩ := QueryReader.query_eq_error_iff.1 hc
      exact ⟨source, e, hasks, hread, he⟩
  · rintro ⟨source, e, hasks, hread, he⟩
    rw [QueryReader.query_eq_error_iff.2 ⟨hasks, hread⟩]
    exact ⟨_, rfl, Complaint.errorClass_inWords_ne_iff.2 ⟨source, e, rfl, he⟩⟩

end Classes

theorem Query.beyond_catalog_iff (line : Text) (literal : Option Text) (label : Text) :
    ((∃ e, Query.ofLine line literal label = .error e ∧ (ProbeError.query e).errorClass ≠ .catalog) ↔
      ∃ words source e, ShellWords.split line = .ok words ∧
        Query.AsksPattern (dropLeadingGen words) source ∧ Pattern.read source = .error e ∧
        e.errorClass ≠ .syntactic) ∧
    (∀ source e, Pattern.read source = .error e → Pattern.Excused source e) ∧
    ∀ digits : Text, (∀ d ∈ digits, d.isDigit = true) → Pattern.TooGreat digits →
      ∃ e, Pattern.read ("a\x7b".toList ++ digits ++ ['\x7d']) = .error e ∧ e.errorClass ≠ .syntactic := by
  refine ⟨?_, fun source e => Pattern.excused_of_read, fun digits => Pattern.read_of_tooGreat⟩
  unfold Query.ofLine
  cases hsplit : ShellWords.split line with
  | error fault => simp [ProbeError.errorClass]
  | ok words =>
    dsimp only
    rw [Query.ofWords_beyond_catalog_iff]
    simp

theorem great_count_beyond_catalog :
    ∃ e, Query.ofLine "A if fun f lacks 'a\x7b99999999999\x7d' in a.h".toList none literalMark = .error e ∧
      (ProbeError.query e).errorClass ≠ .catalog := by
  obtain ⟨hiff, -, hgreat⟩ :=
    Query.beyond_catalog_iff "A if fun f lacks 'a\x7b99999999999\x7d' in a.h".toList none literalMark
  obtain ⟨e, hread, he⟩ := hgreat "99999999999".toList (by simp) (.inl (by decide +kernel))
  have hsplit : ShellWords.split "A if fun f lacks 'a\x7b99999999999\x7d' in a.h".toList =
      .ok (["A", "if", "fun", "f", "lacks", "a\x7b99999999999\x7d", "in", "a.h"].map String.toList) := by
    decide +kernel
  have hsubject : (Subject.declaration .function "f".toList).Written ["fun".toList, "f".toList] :=
    .declaration .function (by decide)
  exact hiff.2 ⟨_, _, e, hsplit, ⟨_, _, _, _, rfl, by decide, ⟨_, hsubject⟩, .inr rfl⟩, hread, he⟩

theorem pattern_beyond_catalog :
    (∃ e, Query.ofLine "A if fun f matches 'a\x7b4294967295\x7d' in a.h".toList none literalMark = .error e ∧
        (ProbeError.query e).errorClass = .pattern .overflow) ∧
      (∃ e, Query.ofLine "A if fun f matches '(?a)(?u)' in a.h".toList none literalMark = .error e ∧
        (ProbeError.query e).errorClass = .pattern .badValue) ∧
      ∃ e, Query.ofLine "A if fun f matches '(?<=a\x7b2147483648\x7d)' in a.h".toList none literalMark =
          .error e ∧
        (ProbeError.query e).errorClass = .pattern .unusable := by
  have hclass {r : Except QueryError Query} {c : ProbeError.Class}
      (h : (match r with
        | .ok _ => false
        | .error e => decide ((ProbeError.query e).errorClass = c)) = true) :
      ∃ e, r = .error e ∧ (ProbeError.query e).errorClass = c := by
    cases r with
    | ok q => cases h
    | error e => exact ⟨e, rfl, of_decide_eq_true h⟩
  refine ⟨hclass ?_, hclass ?_, hclass ?_⟩
  · decide +kernel
  · decide +kernel
  · decide +kernel

end HeaderProbe
