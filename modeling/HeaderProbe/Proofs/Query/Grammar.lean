import HeaderProbe.Query.Parser
import HeaderProbe.Proofs.Query.Deciding
import Mathlib.Data.List.Forall2

namespace HeaderProbe

inductive Subject.Written : Subject → List Text → Prop
  | declaration (kind : DeclKind) {name : Text} (hname : isName name = true) :
      Written (.declaration kind name) [kind.word, name]
  | member {field type : Text} (hfield : isName field = true) (htype : isName type = true) :
      Written (.member field type) ["method".toList, field, "of".toList, type]
  | first {field type : Text} (hfield : isName field = true) (htype : isName type = true) :
      Written (.initializer field type .first) ["initializer".toList, field, "of".toList, type]
  | named {field type v : Text} (hfield : isName field = true) (htype : isName type = true)
      (hv : isName v = true) :
      Written (.initializer field type (.named v))
        ["initializer".toList, field, "of".toList, type, "instance".toList, v]
  | any {field type : Text} (hfield : isName field = true) (htype : isName type = true) :
      Written (.initializer field type .any)
        ["any".toList, "initializer".toList, field, "of".toList, type]

inductive Test.Written : Test → List Text → Prop
  | presence : Written .presence []
  | has {source : Text} {p : Pattern} (h : Pattern.read source = .ok p) :
      Written (.has p) ["matches".toList, source]
  | lacks {source : Text} {p : Pattern} (h : Pattern.read source = .ok p) :
      Written (.lacks p) ["lacks".toList, source]
  | absent : Written .absent ["absent".toList]

inductive FileRef.Written (literal : Option Text) (label : Text) : FileRef → Text → Prop
  | path {w : Text} (h : w ≠ literalMark) : Written literal label (.path w) w
  | literal {t : Text} (h : literal = some t) : Written literal label (.literal t label) literalMark

def Query.Written (literal : Option Text) (label : Text) (q : Query) (words : List Text) : Prop :=
  ∃ subject test files, words = q.define :: "if".toList :: (subject ++ test ++ "in".toList :: files) ∧
    isName q.define = true ∧ q.subject.Written subject ∧ q.test.Written test ∧
    List.Forall₂ (FileRef.Written literal label) q.files files ∧ files ≠ []

theorem Test.Written.head?_ne {t : Test} {u : List Text} (h : t.Written u) (files : List Text) :
    (u ++ "in".toList :: files).head? ≠ some "instance".toList := by
  cases h <;> simp

theorem DeclKind.word_ne (kind : DeclKind) :
    kind.word ≠ "any".toList ∧ kind.word ≠ "method".toList ∧ kind.word ≠ "initializer".toList := by
  cases kind <;> decide

theorem DeclKind.ofWord?_word (kind : DeclKind) : DeclKind.ofWord? kind.word = some kind := by
  cases kind <;> decide

theorem DeclKind.ofWord?_eq_some_iff {w : Text} {kind : DeclKind} :
    DeclKind.ofWord? w = some kind ↔ w = kind.word := by
  constructor
  · intro h
    have hword := List.find?_some (p := fun k : DeclKind => k.word == w) h
    exact (beq_iff_eq.1 hword).symm
  · rintro rfl
    exact DeclKind.ofWord?_word kind

namespace QueryReader

variable {α β : Type} {words rest mid : List Text} {w word : Text}

theorem run_bind_eq_ok_iff {x : QueryReader α} {f : α → QueryReader β} {b : β} :
    (x >>= f).run words = .ok (b, rest) ↔
      ∃ a mid, x.run words = .ok (a, mid) ∧ (f a).run mid = .ok (b, rest) := by
  rw [StateT.run_bind]
  cases x.run words with
  | error c => simp [bind, Except.bind]
  | ok r =>
    obtain ⟨a, mid⟩ := r
    simp [bind, Except.bind]

theorem run_bind_of_ok {x : QueryReader α} {a : α} (h : x.run words = .ok (a, mid))
    (f : α → QueryReader β) : (x >>= f).run words = (f a).run mid := by
  rw [StateT.run_bind, h]
  rfl

theorem next_eq_ok_iff {what : Expected} :
    (next what).run words = .ok (w, rest) ↔ words = w :: rest := by
  cases words with
  | nil =>
    change Except.error _ = _ ↔ _
    simp
  | cons v vs =>
    change Except.ok (v, vs) = _ ↔ _
    simp

theorem keyword_eq_ok_iff {u : Unit} :
    (keyword word).run words = .ok (u, rest) ↔ words = word :: rest := by
  simp only [keyword, run_bind_eq_ok_iff, next_eq_ok_iff]
  constructor
  · rintro ⟨w, mid, rfl, h⟩
    split at h
    · cases h
    · next hw =>
      cases h
      rw [Classical.not_not.1 hw]
  · rintro rfl
    refine ⟨word, rest, rfl, ?_⟩
    rw [if_neg (by simp)]
    rfl

theorem name_eq_ok_iff {what : Expected} :
    (name what).run words = .ok (w, rest) ↔ words = w :: rest ∧ isName w = true := by
  simp only [name, run_bind_eq_ok_iff, next_eq_ok_iff]
  constructor
  · rintro ⟨v, mid, rfl, h⟩
    split at h
    · cases h
    · next hv =>
      cases h
      exact ⟨rfl, by simpa using hv⟩
  · rintro ⟨rfl, hw⟩
    refine ⟨w, rest, rfl, ?_⟩
    rw [hw]
    rfl

theorem accept_self (word : Text) (rest : List Text) :
    (accept word).run (word :: rest) = .ok (true, rest) := by
  simp [accept]
  rfl

theorem accept_of_ne (h : words.head? ≠ some word) :
    (accept word).run words = .ok (false, words) := by
  cases words with
  | nil => rfl
  | cons w vs =>
    have hw : w ≠ word := by simpa using h
    simp [accept, hw]
    rfl

theorem eq_of_accept {b : Bool} (h : (accept word).run words = .ok (b, rest)) :
    b = true ∧ words = word :: rest ∨ b = false ∧ words = rest := by
  by_cases hw : words.head? = some word
  · obtain ⟨vs, rfl⟩ := List.head?_eq_some_iff.1 hw
    rw [accept_self] at h
    cases h
    exact .inl ⟨rfl, rfl⟩
  · rw [accept_of_ne hw] at h
    cases h
    exact .inr ⟨rfl, rfl⟩

theorem accept_then_eq_ok_iff {x y : QueryReader β} {b : β} :
    (accept word >>= fun found => if found = true then x else y).run words = .ok (b, rest) ↔
      (∃ mid, words = word :: mid ∧ x.run mid = .ok (b, rest)) ∨
        words.head? ≠ some word ∧ y.run words = .ok (b, rest) := by
  by_cases hw : words.head? = some word
  · obtain ⟨vs, rfl⟩ := List.head?_eq_some_iff.1 hw
    rw [run_bind_of_ok (accept_self word vs)]
    simp
  · rw [run_bind_of_ok (accept_of_ne hw)]
    refine ⟨fun h => .inr ⟨hw, h⟩, ?_⟩
    rintro (⟨mid, rfl, -⟩ | ⟨-, h⟩)
    · exact absurd rfl hw
    · exact h

theorem pattern_then_eq_ok_iff {k : Pattern → β} {b : β} :
    (do return k (← pattern) : QueryReader β).run words = .ok (b, rest) ↔
      ∃ source p, Pattern.read source = .ok p ∧ words = source :: rest ∧ k p = b := by
  simp only [pattern, run_bind_eq_ok_iff, next_eq_ok_iff]
  constructor
  · rintro ⟨p, _, ⟨source, mid, rfl, hp⟩, h⟩
    split at hp
    · next hread =>
      cases hp
      cases h
      exact ⟨source, p, hread, rfl, rfl⟩
    · cases hp
  · rintro ⟨source, p, hread, rfl, rfl⟩
    refine ⟨p, rest, ⟨source, rest, rfl, ?_⟩, rfl⟩
    rw [hread]
    rfl

theorem field_of_type_eq_ok_iff {k : Text → Text → QueryReader β} {b : β} :
    (do
      let field ← name .fieldName
      keyword "of".toList
      let type ← name .structName
      k field type : QueryReader β).run words = .ok (b, rest) ↔
      ∃ field type mid, isName field = true ∧ isName type = true ∧
        words = field :: "of".toList :: type :: mid ∧ (k field type).run mid = .ok (b, rest) := by
  simp only [run_bind_eq_ok_iff, name_eq_ok_iff, keyword_eq_ok_iff]
  constructor
  · rintro ⟨field, _, ⟨rfl, hfield⟩, _, _, rfl, type, mid, ⟨rfl, htype⟩, h⟩
    exact ⟨field, type, mid, hfield, htype, rfl, h⟩
  · rintro ⟨field, type, mid, hfield, htype, rfl, h⟩
    exact ⟨field, _, ⟨rfl, hfield⟩, (), _, rfl, type, mid, ⟨rfl, htype⟩, h⟩

theorem exists_written_of_instances {any : Bool} {which : Instances} {field type : Text}
    (hfield : isName field = true) (htype : isName type = true)
    (h : (instances any).run words = .ok (which, rest)) :
    ∃ u, (Subject.initializer field type which).Written
        ((if any then ["any".toList] else []) ++
          "initializer".toList :: field :: "of".toList :: type :: u) ∧ words = u ++ rest := by
  rw [instances, accept_then_eq_ok_iff] at h
  cases any with
  | true =>
    rcases h with ⟨_, -, h⟩ | ⟨-, h⟩
    · cases h
    · cases h
      exact ⟨[], .any hfield htype, rfl⟩
  | false =>
    rcases h with ⟨_, rfl, h⟩ | ⟨-, h⟩
    · simp only [run_bind_eq_ok_iff, name_eq_ok_iff, Bool.false_eq_true, if_false] at h
      obtain ⟨v, _, ⟨rfl, hv⟩, h⟩ := h
      cases h
      exact ⟨["instance".toList, v], .named hfield htype hv, rfl⟩
    · cases h
      exact ⟨[], .first hfield htype, rfl⟩

theorem instances_of_ne (any : Bool) (h : words.head? ≠ some "instance".toList) :
    (instances any).run words = .ok (if any then .any else .first, words) := by
  rw [instances, accept_then_eq_ok_iff]
  exact .inr ⟨h, rfl⟩

theorem instances_named {v : Text} (hv : isName v = true) (rest : List Text) :
    (instances false).run ("instance".toList :: v :: rest) = .ok (.named v, rest) := by
  rw [instances, accept_then_eq_ok_iff]
  exact .inl ⟨_, rfl, run_bind_of_ok (name_eq_ok_iff.2 ⟨rfl, hv⟩) _⟩

theorem exists_written_of_subject {s : Subject} (h : subject.run words = .ok (s, rest)) :
    ∃ u, s.Written u ∧ words = u ++ rest := by
  simp only [subject, run_bind_eq_ok_iff, next_eq_ok_iff] at h
  obtain ⟨any, _, hany, word, mid, rfl, h⟩ := h
  split at h
  · next hkind =>
    subst hkind
    rw [field_of_type_eq_ok_iff] at h
    obtain ⟨field, type, mid, hfield, htype, rfl, h⟩ := h
    rw [run_bind_eq_ok_iff] at h
    obtain ⟨which, _, hwhich, h⟩ := h
    obtain ⟨u, hu, rfl⟩ := exists_written_of_instances hfield htype hwhich
    cases h
    rcases eq_of_accept hany with ⟨rfl, rfl⟩ | ⟨rfl, rfl⟩
    · exact ⟨_, hu, rfl⟩
    · exact ⟨_, hu, rfl⟩
  rcases eq_of_accept hany with ⟨rfl, rfl⟩ | ⟨rfl, rfl⟩
  · repeat (split at h; · cases h)
    cases h
  simp only [Bool.false_eq_true, if_false] at h
  split at h
  · next hkind =>
    subst hkind
    rw [field_of_type_eq_ok_iff] at h
    obtain ⟨field, type, _, hfield, htype, rfl, h⟩ := h
    cases h
    exact ⟨_, .member hfield htype, rfl⟩
  · split at h
    · next kind hkind =>
      obtain rfl := DeclKind.ofWord?_eq_some_iff.1 hkind
      simp only [run_bind_eq_ok_iff, name_eq_ok_iff] at h
      obtain ⟨name, _, ⟨rfl, hname⟩, h⟩ := h
      cases h
      exact ⟨_, .declaration kind hname, rfl⟩
    · cases h

theorem subject_of_written {s : Subject} {u : List Text} (h : s.Written u)
    (hrest : rest.head? ≠ some "instance".toList) : subject.run (u ++ rest) = .ok (s, rest) := by
  simp only [subject, run_bind_eq_ok_iff, next_eq_ok_iff]
  cases h with
  | declaration kind hname =>
    obtain ⟨hany, hmethod, hinitializer⟩ := kind.word_ne
    refine ⟨false, _, accept_of_ne (by simpa using hany), kind.word, _, rfl, ?_⟩
    rw [if_neg hinitializer, if_neg hmethod, DeclKind.ofWord?_word]
    exact run_bind_of_ok (name_eq_ok_iff.2 ⟨rfl, hname⟩) _
  | member hfield htype =>
    refine ⟨false, _, accept_of_ne (by simp), "method".toList, _, rfl, ?_⟩
    rw [if_neg (by simp), if_pos rfl, if_neg (by simp), field_of_type_eq_ok_iff]
    exact ⟨_, _, rest, hfield, htype, rfl, rfl⟩
  | first hfield htype =>
    refine ⟨false, _, accept_of_ne (by simp), "initializer".toList, _, rfl, ?_⟩
    rw [if_pos rfl, field_of_type_eq_ok_iff]
    exact ⟨_, _, rest, hfield, htype, rfl, run_bind_of_ok (instances_of_ne false hrest) _⟩
  | named hfield htype hv =>
    refine ⟨false, _, accept_of_ne (by simp), "initializer".toList, _, rfl, ?_⟩
    rw [if_pos rfl, field_of_type_eq_ok_iff]
    have hwhich := instances_named hv rest
    exact ⟨_, _, _, hfield, htype, rfl, run_bind_of_ok hwhich _⟩
  | any hfield htype =>
    refine ⟨true, _, accept_self .., "initializer".toList, _, rfl, ?_⟩
    rw [if_pos rfl, field_of_type_eq_ok_iff]
    exact ⟨_, _, rest, hfield, htype, rfl, run_bind_of_ok (instances_of_ne true hrest) _⟩

theorem exists_written_of_test {t : Test} (h : test.run words = .ok (t, rest)) :
    ∃ u, t.Written u ∧ words = u ++ rest := by
  simp only [test, accept_then_eq_ok_iff, pattern_then_eq_ok_iff] at h
  rcases h with ⟨_, rfl, source, p, hp, rfl, rfl⟩ | ⟨-, h⟩
  · exact ⟨_, .has hp, rfl⟩
  rcases h with ⟨_, rfl, source, p, hp, rfl, rfl⟩ | ⟨-, h⟩
  · exact ⟨_, .lacks hp, rfl⟩
  rcases h with ⟨_, rfl, h⟩ | ⟨-, h⟩
  · cases h
    exact ⟨_, .absent, rfl⟩
  · cases h
    exact ⟨_, .presence, rfl⟩

theorem test_of_written {t : Test} {u : List Text} (h : t.Written u) (files : List Text) :
    test.run (u ++ "in".toList :: files) = .ok (t, "in".toList :: files) := by
  simp only [test, accept_then_eq_ok_iff, pattern_then_eq_ok_iff]
  cases h with
  | presence => exact .inr ⟨by simp, .inr ⟨by simp, .inr ⟨by simp, rfl⟩⟩⟩
  | has hp => exact .inl ⟨_, rfl, _, _, hp, rfl, rfl⟩
  | lacks hp => exact .inr ⟨by simp, .inl ⟨_, rfl, _, _, hp, rfl, rfl⟩⟩
  | absent => exact .inr ⟨by simp, .inr ⟨by simp, .inl ⟨_, rfl, rfl⟩⟩⟩

variable {literal : Option Text} {label : Text}

theorem files_path (literal : Option Text) (label : Text) (h : w ≠ literalMark)
    (words : List Text) :
    files literal label (w :: words) = (files literal label words).map (.path w :: ·) := by
  rw [files.eq_def literal label (w :: words)]
  dsimp only
  rw [if_neg h]
  cases files literal label words <;> rfl

theorem files_mark (t label : Text) (words : List Text) :
    files (some t) label (literalMark :: words) =
      (files (some t) label words).map (.literal t label :: ·) := by
  rw [files.eq_def (some t) label (literalMark :: words)]
  dsimp only
  rw [if_pos rfl]
  cases files (some t) label words <;> rfl

theorem map_eq_ok_iff {ε : Type} {x : Except ε α} {f : α → β} {b : β} :
    x.map f = .ok b ↔ ∃ a, x = .ok a ∧ f a = b := by
  cases x <;> simp [Except.map]

theorem files_eq_ok_iff {fs : List FileRef} :
    files literal label words = .ok fs ↔ List.Forall₂ (FileRef.Written literal label) fs words := by
  induction words generalizing fs with
  | nil => simp [files, eq_comm]
  | cons w ws ih =>
    rw [List.forall₂_cons_right_iff]
    by_cases hw : w = literalMark
    · subst hw
      cases literal with
      | none =>
        refine iff_of_false (fun h => nomatch h) ?_
        rintro ⟨f, _, hf, -, -⟩
        cases hf with
        | path hf => exact hf rfl
        | literal ht => cases ht
      | some t =>
        rw [files_mark, map_eq_ok_iff]
        constructor
        · rintro ⟨rest, hrest, rfl⟩
          exact ⟨_, rest, .literal rfl, ih.1 hrest, rfl⟩
        · rintro ⟨f, rest, hf, hrest, rfl⟩
          cases hf with
          | path hf => exact absurd rfl hf
          | literal ht =>
            cases ht
            exact ⟨rest, ih.2 hrest, rfl⟩
    · rw [files_path literal label hw, map_eq_ok_iff]
      constructor
      · rintro ⟨rest, hrest, rfl⟩
        exact ⟨_, rest, .path hw, ih.1 hrest, rfl⟩
      · rintro ⟨f, rest, hf, hrest, rfl⟩
        cases hf with
        | path _ => exact ⟨rest, ih.2 hrest, rfl⟩
        | literal _ => exact absurd rfl hw

theorem run_liftM_eq_ok_iff {x : Except Complaint α} {a : α} :
    (liftM x : QueryReader α).run words = .ok (a, rest) ↔ x = .ok a ∧ words = rest := by
  cases x with
  | error c =>
    change Except.error c = _ ↔ _
    simp
  | ok b =>
    change Except.ok (b, words) = _ ↔ _
    simp

theorem run_get_eq_ok_iff {ws : List Text} :
    (get : QueryReader (List Text)).run words = .ok (ws, rest) ↔ words = ws ∧ words = rest := by
  change Except.ok (words, words) = _ ↔ _
  simp

theorem exists_query_iff_written {q : Query} :
    (∃ rest, (query literal label).run words = .ok (q, rest)) ↔ q.Written literal label words := by
  simp only [query, run_bind_eq_ok_iff, name_eq_ok_iff, keyword_eq_ok_iff, run_liftM_eq_ok_iff,
    run_get_eq_ok_iff, files_eq_ok_iff]
  constructor
  · rintro ⟨rest, define, _, ⟨rfl, hdefine⟩, _, _, rfl, s, _, hs, t, _, ht, _, _, rfl, names, _,
      ⟨rfl, rfl⟩, fs, _, ⟨hfs, rfl⟩, h⟩
    obtain ⟨subject, hsubject, rfl⟩ := exists_written_of_subject hs
    obtain ⟨test, htest, rfl⟩ := exists_written_of_test ht
    split at h
    · cases h
    · next hne =>
      cases h
      refine ⟨subject, test, _, by rw [List.append_assoc], hdefine, hsubject, htest, hfs, ?_⟩
      rintro rfl
      cases hfs
      exact hne rfl
  · rintro ⟨subject, test, files, rfl, hdefine, hsubject, htest, hfs, hne⟩
    rw [List.append_assoc]
    refine ⟨files, _, _, ⟨rfl, hdefine⟩, (), _, rfl, _, _,
      subject_of_written hsubject (htest.head?_ne files), _, _, test_of_written htest files, (), _,
      rfl, _, _, ⟨rfl, rfl⟩, _, _, ⟨hfs, rfl⟩, ?_⟩
    have hfiles : q.files ≠ [] := by
      intro hnil
      rw [hnil, List.forall₂_nil_left_iff] at hfs
      exact hne hfs
    rw [if_neg (by simpa using hfiles)]
    rfl

end QueryReader

theorem Query.ofWords_eq_ok_iff {words : List Text} {literal : Option Text} {label : Text}
    {q : Query} :
    Query.ofWords words literal label = .ok q ↔ q.Written literal label (dropLeadingGen words) := by
  rw [Query.ofWords, ← QueryReader.exists_query_iff_written]
  cases h : (QueryReader.query literal label).run (dropLeadingGen words) with
  | error c => simp
  | ok r => simp [Prod.ext_iff]

namespace Subject

def kindWord : Subject → Text
  | declaration kind _ => kind.word
  | member .. => "method".toList
  | initializer .. => "initializer".toList

def type? : Subject → Option Text
  | declaration .. => none
  | member _ type => some type
  | initializer _ type _ => some type

def instance? : Subject → Option Text
  | initializer _ _ which => which.name?
  | _ => none

theorem isSome_type?_iff (s : Subject) :
    s.type?.isSome = true ↔ s.kindWord = "method".toList ∨ s.kindWord = "initializer".toList := by
  cases s with
  | declaration kind name =>
    obtain ⟨-, hmethod, hinitializer⟩ := kind.word_ne
    exact iff_of_false (nomatch ·) (not_or.2 ⟨hmethod, hinitializer⟩)
  | member field type => exact iff_of_true rfl (.inl rfl)
  | initializer field type which => exact iff_of_true rfl (.inr rfl)

theorem instance?_of_isAny {s : Subject} (h : s.isAny = true) : s.instance? = none := by
  cases s with
  | declaration kind name => cases h
  | member field type => cases h
  | initializer field type which =>
    cases which with
    | any => rfl
    | first => cases h
    | named v => cases h

theorem kindWord_of_isAny_or_instance? {s : Subject}
    (h : s.isAny = true ∨ s.instance?.isSome = true) : s.kindWord = "initializer".toList := by
  cases s with
  | declaration kind name => simp [isAny, instance?] at h
  | member field type => simp [isAny, instance?] at h
  | initializer field type which => rfl

end Subject

theorem Test.isSome_pattern?_iff (t : Test) :
    t.pattern?.isSome = true ↔ t.word = "matches".toList ∨ t.word = "lacks".toList := by
  cases t with
  | presence => decide
  | has p => exact iff_of_true rfl (.inl rfl)
  | lacks p => exact iff_of_true rfl (.inr rfl)
  | absent => decide

theorem accepts_exactly_grammar (words : List Text) (literal : Option Text) (label : Text)
    (q : Query) :
    (Query.ofWords words literal label = .ok q ↔
        q.Written literal label (dropLeadingGen words)) ∧
      (q.test.pattern?.isSome = true ↔
        q.test.word = "matches".toList ∨ q.test.word = "lacks".toList) ∧
      (q.subject.type?.isSome = true ↔
        q.subject.kindWord = "method".toList ∨ q.subject.kindWord = "initializer".toList) ∧
      (q.subject.isAny = true → q.subject.instance? = none) ∧
      (q.subject.isAny = true ∨ q.subject.instance?.isSome = true →
        q.subject.kindWord = "initializer".toList) :=
  ⟨Query.ofWords_eq_ok_iff, q.test.isSome_pattern?_iff, q.subject.isSome_type?_iff,
    Subject.instance?_of_isAny, Subject.kindWord_of_isAny_or_instance?⟩

theorem keywords_accepted_as_names :
    ∃ p, Pattern.read "a|b".toList = .ok p ∧
      Query.ofWords (["gen", "gen", "if", "any", "initializer", "in", "of", "absent", "lacks", "a|b",
          "in", "in", "-"].map String.toList) (some []) "<L>".toList =
        .ok ⟨"gen".toList, .initializer "in".toList "absent".toList .any, .lacks p,
          [.path "in".toList, .literal [] "<L>".toList]⟩ := by
  have hread : (Pattern.read "a|b".toList).toOption.any (fun _ => true) = true := by
    decide +kernel
  obtain ⟨p, hp, -⟩ := Outcome.exists_ok_of_any hread
  have hfiles : List.Forall₂ (FileRef.Written (some []) "<L>".toList)
      [.path "in".toList, .literal [] "<L>".toList] ["in".toList, literalMark] :=
    .cons (.path (by decide)) (.cons (.literal rfl) .nil)
  exact ⟨p, hp, (accepts_exactly_grammar ..).1.2
    ⟨["any", "initializer", "in", "of", "absent"].map String.toList,
      ["lacks", "a|b"].map String.toList, _, rfl, rfl, .any (by decide) (by decide), .lacks hp,
      hfiles, by decide⟩⟩

end HeaderProbe
