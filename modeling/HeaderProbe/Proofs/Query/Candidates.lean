import HeaderProbe.Proofs.Query.Meaning
import HeaderProbe.Proofs.Tree.Walk

namespace HeaderProbe

/-- The references `more` are the references `files`, with references to what is no file, or an empty
one, inserted among them. -/
inductive Padded (seen : Tree) (root : Text) : (files more : List FileRef) → Prop
  | nil : Padded seen root [] []
  | keep {files more : List FileRef} (f : FileRef) (h : Padded seen root files more) :
      Padded seen root (f :: files) (f :: more)
  | insert {files more : List FileRef} (p : Text) (hp : seen.hasContent root p = false)
      (h : Padded seen root files more) : Padded seen root files (.path p :: more)

namespace Padded

variable {s : Subject} {root : Text} {seen now : Tree} {files more before : List FileRef}
  {f : FileRef} {spans : List Span}

theorem spansAt?_of_missing {p : Text} (hp : seen.hasContent root p = false) :
    s.spansAt? root seen now (.path p) = some [] := by
  simp [Subject.spansAt?, hp]

theorem undecided (h : Padded seen root files more) (hnone : s.Undecided root seen now files) :
    s.Undecided root seen now more := by
  induction h with
  | nil => exact hnone
  | keep f h ih =>
    obtain ⟨hf, hfiles⟩ := List.forall_mem_cons.1 hnone
    exact (ih hfiles).cons hf
  | insert p hp h ih => exact (ih hnone).cons (spansAt?_of_missing hp)

theorem exists_decided (h : Padded seen root files more)
    (hdecided : s.Decided root seen now files before f spans) :
    ∃ before', s.Decided root seen now more before' f spans := by
  induction h generalizing before with
  | nil => simpa using hdecided.listed
  | keep g h ih =>
    cases before with
    | nil =>
      obtain ⟨rfl, -⟩ := List.cons_prefix_cons.1 hdecided.listed
      exact ⟨[], by simp, by simp [Subject.Undecided], hdecided.found, hdecided.nonempty⟩
    | cons b before =>
      obtain ⟨rfl, hlisted⟩ := List.cons_prefix_cons.1 hdecided.listed
      obtain ⟨hg, hbefore⟩ := List.forall_mem_cons.1 hdecided.silent
      obtain ⟨before', hmore⟩ := ih ⟨hlisted, hbefore, hdecided.found, hdecided.nonempty⟩
      exact ⟨b :: before', hmore.cons hg⟩
  | insert p hp h ih =>
    obtain ⟨before', hmore⟩ := ih hdecided
    exact ⟨.path p :: before', hmore.cons (spansAt?_of_missing hp)⟩

end Padded

namespace Query

variable {q q' : Query} {root : Text} {seen now seen' now' : Tree} {before before' : List FileRef}
  {f : FileRef} {spans : List Span}

theorem evaluate_eq_of_decided (hsubject : q'.subject = q.subject) (htest : q'.test = q.test)
    (h : q.subject.Decided root seen now q.files before f spans)
    (h' : q.subject.Decided root seen' now' q'.files before' f spans) :
    (q'.evaluate root seen' now').value = (q.evaluate root seen now).value := by
  rw [← hsubject] at h'
  obtain ⟨first, others, hspans, hvalue⟩ := evaluate_of_decided h
  obtain ⟨first', others', hspans', hvalue'⟩ := evaluate_of_decided h'
  rw [hsubject, hspans] at hspans'
  obtain ⟨rfl, rfl⟩ := List.cons.inj hspans'
  rw [hvalue, hvalue', htest]

structure SameAnswer (q : Query) (root : Text) (seen now : Tree) (q' : Query) (seen' now' : Tree) :
    Prop where
  verdict : (q'.evaluate root seen' now').value = (q.evaluate root seen now).value
  emitted : (q'.generate root seen' now').output = (q.generate root seen now).output

theorem sameAnswer_of_verdict (hsubject : q'.subject = q.subject) (hdefine : q'.define = q.define)
    (h : (q'.evaluate root seen' now').value = (q.evaluate root seen now).value) :
    q.SameAnswer root seen now q' seen' now' := by
  refine ⟨h, ?_⟩
  cases hvalue : (q.evaluate root seen now).value with
  | error e =>
    exact (generate_of_error (h.trans hvalue)).2.trans (generate_of_error hvalue).2.symm
  | ok v =>
    rw [(generate_of_ok hvalue).2, (generate_of_ok (h.trans hvalue)).2, line, line, hsubject,
      hdefine]

theorem sameAnswer_of_decided (hsubject : q'.subject = q.subject) (hdefine : q'.define = q.define)
    (htest : q'.test = q.test) (h : q.subject.Decided root seen now q.files before f spans)
    (h' : q.subject.Decided root seen' now' q'.files before' f spans) :
    q.SameAnswer root seen now q' seen' now' :=
  sameAnswer_of_verdict hsubject hdefine (evaluate_eq_of_decided hsubject htest h h')

theorem sourceRead_iff_lost :
    (∃ e, (q.evaluate root seen now).value = .error e ∧ e.errorClass = .sourceRead) ↔
      ∃ before path, q.subject.Lost root seen now q.files before path := by
  constructor
  · rintro ⟨e, hvalue, hclass⟩
    obtain ⟨text, hemits⟩ : ∃ text, q.Emits root seen now (.error e) text :=
      ⟨_, (generate_of_error hvalue).1 ▸ q.emits_generate root seen now⟩
    cases hemits with
    | brokenOff => cases hclass
    | lost hlost => exact ⟨_, _, hlost⟩
  · rintro ⟨before, path, hlost⟩
    exact ⟨_, evaluate_of_lost hlost, rfl⟩

theorem holds_eq_of_undecided (hsubject : q'.subject = q.subject) (htest : q'.test = q.test)
    (h : q.subject.Undecided root seen now q.files)
    (h' : q.subject.Undecided root seen' now' q'.files) :
    (q'.evaluate root seen' now').value.map Verdict.holds =
      (q.evaluate root seen now).value.map Verdict.holds := by
  rw [← hsubject] at h'
  rw [evaluate_of_undecided h, evaluate_of_undecided h', htest]
  cases q.test <;> rfl

end Query

namespace Subject

theorem exists_lost_iff {s : Subject} {root : Text} {seen now : Tree}
    {files : List FileRef} :
    (∃ before path, s.Lost root seen now files before path) ↔
      ∃ before path after, files = before ++ .path path :: after ∧
        s.spansAt? root seen now (.path path) = none ∧
        ∀ g ∈ before, ∀ spans, s.spansAt? root seen now g = some spans → spans = [] := by
  constructor
  · rintro ⟨before, path, ⟨after, hfiles⟩, hsilent, hvanished⟩
    refine ⟨before, path, after, by simp [← hfiles], hvanished, ?_⟩
    intro g hg spans hspans
    rw [hsilent g hg] at hspans
    exact (Option.some.inj hspans).symm
  · rintro ⟨before, path, after, rfl, hvanished, hbefore⟩
    induction before with
    | nil => exact ⟨[], path, ⟨by simp, by simp [Undecided], hvanished⟩⟩
    | cons g before ih =>
      obtain ⟨hg, hbefore⟩ := List.forall_mem_cons.1 hbefore
      cases hspans : s.spansAt? root seen now g with
      | none =>
        obtain ⟨p, rfl⟩ := exists_path_of_spansAt?_eq_none hspans
        exact ⟨[], p, ⟨by simp, by simp [Undecided], hspans⟩⟩
      | some spans =>
        obtain rfl := hg spans hspans
        obtain ⟨before', p, hlost⟩ := ih hbefore
        exact ⟨g :: before', p, hlost.cons hspans⟩

end Subject

theorem Tree.DifferInFiles.alike {changed : List Location} {root : Text} {files : List Text}
    {t u : Tree} (h : DifferInFiles changed t u) (ht : t.Avoids root files changed)
    (hu : u.Avoids root files changed) : Tree.Alike root files t u := by
  intro p hp
  exact h.bytes?_eq (ht p hp) (hu p hp)

theorem answer_rests_on_reached_files (q : Query) (root : Text) (seen now : Tree) :
    ((∃ e, (q.evaluate root seen now).value = .error e ∧ e.errorClass = .sourceRead) ↔
      ∃ before path after, q.files = before ++ .path path :: after ∧
        q.subject.spansAt? root seen now (.path path) = none ∧
        ∀ g ∈ before, ∀ spans,
          q.subject.spansAt? root seen now g = some spans → spans = []) ∧
    (∀ e, (q.evaluate root seen now).value = .error e →
      (q.generate root seen now).value = .error e ∧ (q.generate root seen now).output = []) ∧
    (∀ before f spans, q.subject.Decided root seen now q.files before f spans →
      (∀ seen' now', Tree.Alike root ((before ++ [f]).filterMap FileRef.path?) seen seen' →
        Tree.Alike root ((before ++ [f]).filterMap FileRef.path?) now now' →
        q.SameAnswer root seen now q seen' now') ∧
      (∀ changed seen' now', Tree.DifferInFiles changed seen seen' →
        Tree.DifferInFiles changed now now' →
        (∀ t ∈ [seen, seen', now, now'],
          t.Avoids root ((before ++ [f]).filterMap FileRef.path?) changed) →
        q.SameAnswer root seen now q seen' now') ∧
      (∀ more, q.SameAnswer root seen now { q with files := q.files ++ more } seen now) ∧
      ∀ files, Padded seen root q.files files →
        q.SameAnswer root seen now { q with files := files } seen now) ∧
    (q.subject.Undecided root seen now q.files →
      ∀ files, Padded seen root q.files files →
        (Query.evaluate { q with files := files } root seen now).value.map Verdict.holds =
          (q.evaluate root seen now).value.map Verdict.holds) := by
  refine ⟨Query.sourceRead_iff_lost.trans Subject.exists_lost_iff,
    fun e he => Query.generate_of_error he, fun before f spans h => ⟨?_, ?_, ?_, ?_⟩, ?_⟩
  · intro seen' now' hseen hnow
    exact Query.sameAnswer_of_decided rfl rfl rfl h (h.congr hseen hnow)
  · intro changed seen' now' hseen hnow havoid
    simp only [List.forall_mem_cons, List.not_mem_nil, false_implies, implies_true, and_true]
      at havoid
    obtain ⟨havoidSeen, havoidSeen', havoidNow, havoidNow'⟩ := havoid
    exact Query.sameAnswer_of_decided rfl rfl rfl h
      (h.congr (hseen.alike havoidSeen havoidSeen') (hnow.alike havoidNow havoidNow'))
  · intro more
    have hmore : q.subject.Decided root seen now (q.files ++ more) before f spans :=
      ⟨h.listed.trans (List.prefix_append _ _), h.silent, h.found, h.nonempty⟩
    exact Query.sameAnswer_of_decided rfl rfl rfl h hmore
  · intro files hfiles
    obtain ⟨before', hdecided⟩ := hfiles.exists_decided h
    exact Query.sameAnswer_of_decided rfl rfl rfl h hdecided
  · intro hnone files hfiles
    exact Query.holds_eq_of_undecided rfl rfl hnone (hfiles.undecided hnone)

def threeHeaders : Tree where
  entries := [(["a.h".toList], .file (Utf8.encode "int x;\n".toList)),
    (["b.h".toList], .file (Utf8.encode "struct s \x7b int y; \x7d;\n".toList)),
    (["c.h".toList], .file (Utf8.encode "struct s \x7b int z; \x7d;\n".toList))]

def inThreeHeaders : Query :=
  ⟨"A".toList, .declaration .struct "s".toList, .presence,
    [.path "a.h".toList, .path "b.h".toList, .path "c.h".toList]⟩

theorem answer_without_last_header :
    inThreeHeaders.SameAnswer [] threeHeaders threeHeaders inThreeHeaders threeHeaders
        (threeHeaders.unlink ["c.h".toList]) ∧
      ∃ e, (inThreeHeaders.evaluate [] threeHeaders
        (threeHeaders.unlink ["b.h".toList])).value = .error e ∧ e.errorClass = .sourceRead := by
  have hdecided : inThreeHeaders.subject.Decided [] threeHeaders threeHeaders inThreeHeaders.files
      [.path "a.h".toList] (.path "b.h".toList)
      [⟨"struct s \x7b int y; \x7d".toList, 0, 19, 1⟩] := by
    refine ⟨by decide, ?_, by decide +kernel, by simp⟩
    simp only [Subject.Undecided, List.mem_singleton, forall_eq]
    decide +kernel
  constructor
  · obtain ⟨-, hchange, -⟩ := (answer_rests_on_reached_files inThreeHeaders [] threeHeaders
      threeHeaders).2.2.1 _ _ _ hdecided
    exact hchange [["c.h".toList]] _ _ (Tree.differInFiles_self (by decide +kernel))
      (Tree.differInFiles_unlink (by decide +kernel)) (by decide +kernel)
  · refine (answer_rests_on_reached_files inThreeHeaders [] threeHeaders
      (threeHeaders.unlink ["b.h".toList])).1.2 ⟨[.path "a.h".toList], "b.h".toList,
      [.path "c.h".toList], rfl, by decide +kernel, ?_⟩
    intro g hg spans hspans
    obtain rfl := List.mem_singleton.1 hg
    have hsilent : inThreeHeaders.subject.spansAt? [] threeHeaders
        (threeHeaders.unlink ["b.h".toList]) (.path "a.h".toList) = some [] := by
      decide +kernel
    exact (Option.some.inj (hsilent.symm.trans hspans)).symm

end HeaderProbe
