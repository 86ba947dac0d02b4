import HeaderProbe.Proofs.Query.Resolve
import HeaderProbe.Proofs.Query.Verdict

namespace HeaderProbe

def Instances.name? : Instances → Option Text
  | named v => some v
  | _ => none

namespace Subject

def spans (text : Text) : Subject → List Span
  | declaration kind name => (kind.find name text).toList
  | member field type => (findMember type field text).toList
  | initializer field type which => findInitializers type field text which.name?

def isAny : Subject → Bool
  | initializer _ _ .any => true
  | _ => false

def considered (s : Subject) (spans : List Span) : List Span :=
  if s.isAny then spans else spans.take 1

/-- What is found at a reference: nothing where no file with a content is, and no answer where the file
vanished after it was resolved. -/
def spansAt? (s : Subject) (root : Text) (seen now : Tree) : FileRef → Option (List Span)
  | .literal text _ => some (s.spans text)
  | .path p =>
      if seen.hasContent root p then (now.text? (Path.join root p)).map fun x => s.spans x
      else some []

def Undecided (s : Subject) (root : Text) (seen now : Tree) (files : List FileRef) : Prop :=
  ∀ f ∈ files, s.spansAt? root seen now f = some []

structure Decided (s : Subject) (root : Text) (seen now : Tree) (files before : List FileRef)
    (f : FileRef) (spans : List Span) : Prop where
  listed : before ++ [f] <+: files
  silent : s.Undecided root seen now before
  found : s.spansAt? root seen now f = some spans
  nonempty : spans ≠ []

structure Lost (s : Subject) (root : Text) (seen now : Tree) (files before : List FileRef)
    (path : Text) : Prop where
  listed : before ++ [.path path] <+: files
  silent : s.Undecided root seen now before
  vanished : s.spansAt? root seen now (.path path) = none

theorem locate_eq (s : Subject) (text : Text) : s.locate text = s.considered (s.spans text) := by
  cases s with
  | declaration kind name =>
    cases h : kind.find name text <;> simp [locate, spans, considered, isAny, h]
  | member field type =>
    cases h : findMember type field text <;> simp [locate, spans, considered, isAny, h]
  | initializer field type which => cases which <;> rfl

theorem considered_eq_nil_iff {s : Subject} {spans : List Span} :
    s.considered spans = [] ↔ spans = [] := by
  unfold considered
  split <;> simp

variable {s : Subject} {root : Text} {seen now : Tree} {files before : List FileRef} {f : FileRef}
  {spans : List Span} {path : Text}

theorem Undecided.cons (hf : s.spansAt? root seen now f = some [])
    (h : s.Undecided root seen now files) : s.Undecided root seen now (f :: files) :=
  List.forall_mem_cons.2 ⟨hf, h⟩

theorem Decided.cons {g : FileRef} (hg : s.spansAt? root seen now g = some [])
    (h : s.Decided root seen now files before f spans) :
    s.Decided root seen now (g :: files) (g :: before) f spans where
  listed := (List.prefix_cons_inj g).2 h.listed
  silent := h.silent.cons hg
  found := h.found
  nonempty := h.nonempty

theorem Lost.cons {g : FileRef} (hg : s.spansAt? root seen now g = some [])
    (h : s.Lost root seen now files before path) :
    s.Lost root seen now (g :: files) (g :: before) path where
  listed := (List.prefix_cons_inj g).2 h.listed
  silent := h.silent.cons hg
  vanished := h.vanished

theorem source?_of_spansAt? (h : s.spansAt? root seen now f = some spans) :
    f.source? seen root = none ∧ spans = [] ∨
      ∃ source text, f.source? seen root = some source ∧ source.label = f.label ∧
        source.read now = .ok text ∧ s.spans text = spans := by
  cases f with
  | literal text label => exact .inr ⟨.literal text label, text, rfl, rfl, rfl, Option.some.inj h⟩
  | path p =>
    simp only [spansAt?] at h
    split at h
    · next hcontent =>
      obtain ⟨text, hread, ht⟩ := Option.map_eq_some_iff.1 h
      refine .inr ⟨.file (Path.join root p) p, text, if_pos hcontent, rfl, ?_, ht⟩
      simp only [Source.read, hread]
    · next hcontent => exact .inl ⟨if_neg hcontent, (Option.some.inj h).symm⟩

theorem exists_path_of_spansAt?_eq_none (h : s.spansAt? root seen now f = none) :
    ∃ p, f = .path p := by
  cases f with
  | literal text label => cases h
  | path p => exact ⟨p, rfl⟩

theorem undecided_or_decided_or_lost (s : Subject) (root : Text) (seen now : Tree)
    (files : List FileRef) :
    s.Undecided root seen now files ∨
      (∃ before f spans, s.Decided root seen now files before f spans) ∨
      ∃ before path, s.Lost root seen now files before path := by
  -- A reference at which nothing is found goes in front of what the rest comes to; any other ends it.
  induction files with
  | nil => exact .inl (by simp [Undecided])
  | cons f rest ih =>
    cases hf : s.spansAt? root seen now f with
    | none =>
      obtain ⟨p, rfl⟩ := exists_path_of_spansAt?_eq_none hf
      exact .inr (.inr ⟨[], p, ⟨by simp, by simp [Undecided], hf⟩⟩)
    | some spans =>
      by_cases hspans : spans = []
      · subst hspans
        rcases ih with hnone | ⟨before, g, spans, hdecided⟩ | ⟨before, p, hlost⟩
        · exact .inl (hnone.cons hf)
        · exact .inr (.inl ⟨f :: before, g, spans, hdecided.cons hf⟩)
        · exact .inr (.inr ⟨f :: before, p, hlost.cons hf⟩)
      · exact .inr (.inl ⟨[], f, spans, ⟨by simp, by simp [Undecided], hf, hspans⟩⟩)

theorem Decided.not_undecided (h : s.Decided root seen now files before f spans) :
    ¬ s.Undecided root seen now files := by
  intro hnone
  have hf : f ∈ files := h.listed.subset (by simp)
  have hfound := hnone f hf
  rw [h.found, Option.some.injEq] at hfound
  exact h.nonempty hfound

theorem spansAt?_congr {seen' now' : Tree}
    (hseen : Tree.Alike root (files.filterMap FileRef.path?) seen seen')
    (hnow : Tree.Alike root (files.filterMap FileRef.path?) now now') (hf : f ∈ files) :
    s.spansAt? root seen' now' f = s.spansAt? root seen now f := by
  cases f with
  | literal text label => rfl
  | path p =>
    have hp : p ∈ files.filterMap FileRef.path? := List.mem_filterMap.2 ⟨.path p, hf, rfl⟩
    simp only [spansAt?, hseen.hasContent hp, Tree.text?, hnow p hp]

theorem Decided.of_agree {s' : Subject} {seen' now' : Tree}
    (h : s.Decided root seen now files before f spans)
    (hagree : ∀ g ∈ before ++ [f], s'.spansAt? root seen' now' g = s.spansAt? root seen now g) :
    s'.Decided root seen' now' files before f spans where
  listed := h.listed
  silent g hg := (hagree g (List.mem_append_left [f] hg)).trans (h.silent g hg)
  found := (hagree f (by simp)).trans h.found
  nonempty := h.nonempty

theorem Decided.congr {seen' now' : Tree}
    (hseen : Tree.Alike root ((before ++ [f]).filterMap FileRef.path?) seen seen')
    (hnow : Tree.Alike root ((before ++ [f]).filterMap FileRef.path?) now now')
    (h : s.Decided root seen now files before f spans) :
    s.Decided root seen' now' files before f spans :=
  h.of_agree fun _ hg => spansAt?_congr hseen hnow hg

theorem not_lost (s : Subject) (root : Text) (t : Tree) (files before : List FileRef)
    (path : Text) : ¬ s.Lost root t t files before path := by
  intro h
  have hvanished := h.vanished
  simp only [spansAt?] at hvanished
  split at hvanished
  · next hcontent =>
    cases hbytes : t.bytes? (Path.join root path) with
    | none => simp [Tree.hasContent, hbytes] at hcontent
    | some b => simp [Tree.text?, hbytes] at hvanished
  · cases hvanished

end Subject

namespace Query

variable {q : Query} {root : Text} {seen now : Tree} {files before : List FileRef} {f : FileRef}
  {spans : List Span} {path : Text}

theorem firstMatch_of_silent (h : q.subject.spansAt? root seen now f = some []) :
    q.firstMatch now ((f :: files).filterMap (FileRef.source? seen root)) =
      q.firstMatch now (files.filterMap (FileRef.source? seen root)) := by
  rcases Subject.source?_of_spansAt? h with ⟨hsource, -⟩ | ⟨source, text, hsource, -, hread, ht⟩
  · rw [List.filterMap_cons_none hsource]
  · have hlocate : q.subject.locate text = [] := by
      rw [Subject.locate_eq, ht, Subject.considered_eq_nil_iff]
    rw [List.filterMap_cons_some hsource]
    simp only [firstMatch, hread, hlocate]

theorem firstMatch_of_found (h : q.subject.spansAt? root seen now f = some spans) {first : Span}
    {others : List Span} (hspans : q.subject.considered spans = first :: others)
    (rest : List FileRef) :
    ∃ source : Source, source.label = f.label ∧
      q.firstMatch now ((f :: rest).filterMap (FileRef.source? seen root)) =
        .ok (some (source, first, others)) := by
  rcases Subject.source?_of_spansAt? h with ⟨-, rfl⟩ | ⟨source, text, hsource, hlabel, hread, ht⟩
  · rw [Subject.considered_eq_nil_iff.2 rfl] at hspans
    cases hspans
  · have hlocate : q.subject.locate text = first :: others := by
      rw [Subject.locate_eq, ht, hspans]
    refine ⟨source, hlabel, ?_⟩
    rw [List.filterMap_cons_some hsource]
    simp only [firstMatch, hread, hlocate]

theorem firstMatch_of_vanished (h : q.subject.spansAt? root seen now (.path path) = none) :
    q.firstMatch now ((.path path :: files).filterMap (FileRef.source? seen root)) =
      .error (.unreadable (Path.join root path) (some q.define)) := by
  simp only [Subject.spansAt?] at h
  split at h
  · next hcontent =>
    have hsource : (FileRef.path path).source? seen root = some (.file (Path.join root path) path) :=
      if_pos hcontent
    have hread : now.text? (Path.join root path) = none := Option.map_eq_none_iff.1 h
    rw [List.filterMap_cons_some hsource]
    simp only [firstMatch, Source.read, hread, ProbeError.evaluating]
  · cases h

theorem firstMatch_append (h : q.subject.Undecided root seen now before) (rest : List FileRef) :
    q.firstMatch now ((before ++ rest).filterMap (FileRef.source? seen root)) =
      q.firstMatch now (rest.filterMap (FileRef.source? seen root)) := by
  induction before with
  | nil => rfl
  | cons g before ih =>
    obtain ⟨hg, hbefore⟩ := List.forall_mem_cons.1 h
    rw [List.cons_append, firstMatch_of_silent hg, ih hbefore]

theorem evaluate_of_undecided (h : q.subject.Undecided root seen now q.files) :
    (q.evaluate root seen now).value =
      .ok (q.test.judge none ([' '].intercalate (q.files.map FileRef.label))) := by
  have hmatch := firstMatch_append h []
  rw [List.append_nil] at hmatch
  rw [value_evaluate, hmatch]
  rfl

theorem evaluate_of_decided (h : q.subject.Decided root seen now q.files before f spans) :
    ∃ first others, q.subject.considered spans = first :: others ∧
      (q.evaluate root seen now).value = q.test.firstVerdict f.label first others := by
  obtain ⟨after, hfiles⟩ := h.listed
  rw [List.append_assoc, List.singleton_append] at hfiles
  cases hspans : q.subject.considered spans with
  | nil => exact absurd (Subject.considered_eq_nil_iff.1 hspans) h.nonempty
  | cons first others =>
    obtain ⟨source, hlabel, hmatch⟩ := firstMatch_of_found h.found hspans after
    refine ⟨first, others, rfl, ?_⟩
    rw [value_evaluate, ← hfiles, firstMatch_append h.silent, hmatch, ← hlabel]
    rfl

theorem evaluate_of_lost (h : q.subject.Lost root seen now q.files before path) :
    (q.evaluate root seen now).value =
      .error (.unreadable (Path.join root path) (some q.define)) := by
  obtain ⟨after, hfiles⟩ := h.listed
  rw [List.append_assoc, List.singleton_append] at hfiles
  rw [value_evaluate, ← hfiles, firstMatch_append h.silent, firstMatch_of_vanished h.vanished]
  rfl

end Query

end HeaderProbe
