import HeaderProbe.Proofs.Query.Resolve
import HeaderProbe.Proofs.Source.Fragment

namespace HeaderProbe

theorem firstMatch_declaration (kind : DeclKind) (name : Text) {now : Tree} {sources : List Source}
    (hread : ∀ s ∈ sources, ∃ x, s.read now = .ok x) :
    (firstDeclaration kind name now sources = .ok [] ∧
      ∀ q : Query, q.subject = .declaration kind name → q.firstMatch now sources = .ok none) ∨
    ∃ s t span, kind.find name t = some span ∧
      firstDeclaration kind name now sources = .ok span.text ∧
      ∀ q : Query, q.subject = .declaration kind name →
        q.firstMatch now sources = .ok (some (s, span, [])) := by
  induction sources with
  | nil => exact .inl ⟨rfl, fun _ _ => rfl⟩
  | cons s rest ih =>
    obtain ⟨t, ht⟩ := hread s (List.mem_cons_self ..)
    cases hf : kind.find name t with
    | none =>
      have hd : firstDeclaration kind name now (s :: rest) = firstDeclaration kind name now rest := by
        simp [firstDeclaration, ht, hf, bind, Except.bind]
      have hm (q : Query) (hq : q.subject = .declaration kind name) :
          q.firstMatch now (s :: rest) = q.firstMatch now rest := by
        simp [Query.firstMatch, Subject.locate, hq, ht, hf]
      rw [hd]
      rcases ih fun u hu => hread u (List.mem_cons_of_mem s hu) with
        ⟨hnil, hnone⟩ | ⟨u, x, span, hspan, htext, hsome⟩
      · exact .inl ⟨hnil, fun q hq => (hm q hq).trans (hnone q hq)⟩
      · exact .inr ⟨u, x, span, hspan, htext, fun q hq => (hm q hq).trans (hsome q hq)⟩
    | some span =>
      refine .inr ⟨s, t, span, hf, ?_, fun q hq => ?_⟩
      · simp [firstDeclaration, ht, hf, bind, Except.bind, pure, Except.pure]
      · simp [Query.firstMatch, Subject.locate, hq, ht, hf]

theorem value_extract (kind : DeclKind) (name : Text) (files : List Text) (root : Text)
    (seen now : Tree) :
    (extract kind.word name files root seen now).value =
      firstDeclaration kind name now
        ((files.map FileRef.path).filterMap (FileRef.source? seen root)) := by
  have hword : DeclKind.ofWord? kind.word = some kind := by
    cases kind <;> decide
  simp only [extract, hword, Outcome.value_bind, resolve_value, Except.bind,
    Outcome.value_ofExcept]

theorem holds_verdict_congr (test : Test) (l₁ l₂ : Text) {s₁ s₂ : Span} (h : s₁.text = s₂.text) :
    (test.verdict l₁ s₁).map Verdict.holds = (test.verdict l₂ s₂).map Verdict.holds := by
  have hhit : test.hit? (some s₁) = test.hit? (some s₂) := by
    simp [Test.hit?, h]
  simp only [Test.verdict, hhit]
  split
  · rfl
  · cases test <;> rfl

theorem find_fragment {kind : DeclKind} (hk : kind = .struct ∨ kind = .enum) {name t : Text}
    {s : Span} (h : kind.find name t = some s) :
    s.text ≠ [] ∧ kind.find name s.text = some ⟨s.text, 0, s.text.length, 1⟩ := by
  rcases hk with rfl | rfl
  · exact findBody_fragment (by decide) h
  · exact findBody_fragment (by decide) h

theorem find_nil {kind : DeclKind} (hk : kind = .struct ∨ kind = .enum) (name : Text) :
    kind.find name [] = none := by
  rcases hk with rfl | rfl <;> rfl

theorem value_evaluate_literal {kind : DeclKind} {name : Text} (define : Text) (test : Test)
    (L label root : Text) (seen now : Tree) :
    (Query.evaluate ⟨define, .declaration kind name, test, [.literal L label]⟩ root seen now).value =
      match kind.find name L with
      | none => .ok (test.judge none label)
      | some s => test.verdict label s := by
  rw [value_evaluate]
  cases h : kind.find name L with
  | none =>
    simp [FileRef.source?, Query.firstMatch, Source.read, Subject.locate, h, Except.bind,
      FileRef.label]
  | some s =>
    simp [FileRef.source?, Query.firstMatch, Source.read, Subject.locate, h, Except.bind,
      Test.firstVerdict, Source.label]

theorem holds_verdict_absent (label : Text) (s : Span) :
    (Test.verdict .absent label s).map Verdict.holds = .ok false :=
  rfl

theorem fragment_agrees_with_files (kind : DeclKind) (hk : kind = .struct ∨ kind = .enum)
    (name : Text) :
    (∀ t s, kind.find name t = some s →
      kind.find name s.text = some ⟨s.text, 0, s.text.length, 1⟩) ∧
    (∀ t s field, findStruct name t = some s →
      (findMember name field t).map (fun m => (m.text, m.start, m.stop)) =
        (findMember name field s.text).map
          fun m => (m.text, s.start + m.start, s.start + m.stop)) ∧
    ∀ (tree : Tree) (root : Text) (files : List Text) (define label : Text), ∃ L,
      (extract kind.word name files root tree tree).value = .ok L ∧
      (∀ test : Test,
        (Query.evaluate ⟨define, .declaration kind name, test, files.map .path⟩
            root tree tree).value.map Verdict.holds =
          (Query.evaluate ⟨define, .declaration kind name, test, [.literal L label]⟩
            root tree tree).value.map Verdict.holds) ∧
      (L = [] ↔
        (Query.evaluate ⟨define, .declaration kind name, .absent, files.map .path⟩
            root tree tree).value.map Verdict.holds = .ok true) := by
  refine ⟨fun t s h => (find_fragment hk h).2, fun t s field h => findMember_fragment h, ?_⟩
  intro tree root files define label
  have hread : ∀ s ∈ (files.map FileRef.path).filterMap (FileRef.source? tree root),
      ∃ x, s.read tree = .ok x := by
    intro s hs
    obtain ⟨f, -, hf⟩ := List.mem_filterMap.1 hs
    exact read_of_source? hf
  simp only [value_evaluate_literal, value_extract]
  rcases firstMatch_declaration kind name hread with
    ⟨hnil, hnone⟩ | ⟨s, t, span, hspan, htext, hsome⟩
  · refine ⟨[], hnil, fun test => ?_, ?_⟩
    · rw [value_evaluate, hnone _ rfl, find_nil hk]
      cases test <;> rfl
    · rw [value_evaluate, hnone _ rfl]
      exact iff_of_true rfl rfl
  · obtain ⟨hne, hwhole⟩ := find_fragment hk hspan
    refine ⟨span.text, htext, fun test => ?_, ?_⟩
    · rw [value_evaluate, hsome _ rfl, hwhole]
      exact holds_verdict_congr test s.label label rfl
    · rw [value_evaluate, hsome _ rfl]
      refine iff_of_false hne ?_
      intro h
      have := (holds_verdict_absent s.label span).symm.trans h
      cases this

def unclosedText : Text :=
  "don't\nstruct dev \x7b char c; /* \x7d */ int x; \x7d d; /*".toList

theorem fragment_agrees_amid_unclosed :
    findStruct "dev".toList unclosedText = some (Span.cut unclosedText 6 43) ∧
      findStruct "dev".toList (unclosedText.extract 6 43) =
        some ⟨unclosedText.extract 6 43, 0, 37, 1⟩ ∧
      (findMember "dev".toList "x".toList unclosedText).map (fun m => (m.text, m.start, m.stop)) =
        (findMember "dev".toList "x".toList (unclosedText.extract 6 43)).map
          fun m => (m.text, 6 + m.start, 6 + m.stop) :=
  have h : findStruct "dev".toList unclosedText = some (Span.cut unclosedText 6 43) := by
    decide +kernel
  have all := fragment_agrees_with_files .struct (.inl rfl) "dev".toList
  ⟨h, all.1 _ _ h, all.2.1 _ _ "x".toList h⟩

end HeaderProbe
