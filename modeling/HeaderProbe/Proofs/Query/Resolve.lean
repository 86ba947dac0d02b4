import HeaderProbe.Probe
import HeaderProbe.Proofs.Outcome

namespace HeaderProbe

theorem resolve_value (seen : Tree) (root : Text) (refs : List FileRef) :
    (resolve seen root refs).value = .ok (refs.filterMap (FileRef.source? seen root)) := by
  induction refs with
  | nil => rfl
  | cons f rest ih =>
    cases h : f.source? seen root with
    | none => simp [resolve, h, Outcome.value_bind, Except.bind, ih]
    | some s => simp [resolve, h, Outcome.value_bind, Except.bind, ih]

theorem output_resolve (seen : Tree) (root : Text) (refs : List FileRef) :
    (resolve seen root refs).output = [] := by
  induction refs with
  | nil => rfl
  | cons f rest ih =>
    cases h : f.source? seen root with
    | none => simp [resolve, h, Outcome.output_bind, ih]
    | some s => simp [resolve, h, Outcome.output_bind, resolve_value, ih]

theorem value_evaluate (q : Query) (root : Text) (seen now : Tree) :
    (q.evaluate root seen now).value =
      (q.firstMatch now (q.files.filterMap (FileRef.source? seen root))).bind fun found =>
        match found with
        | none => .ok (q.test.judge none ([' '].intercalate (q.files.map FileRef.label)))
        | some (s, first, others) => q.test.firstVerdict s.label first others := by
  simp only [Query.evaluate, Outcome.value_bind, resolve_value, Except.bind,
    Outcome.value_ofExcept]
  cases q.firstMatch now (q.files.filterMap (FileRef.source? seen root)) with
  | error e => rfl
  | ok found =>
    rcases found with _ | ⟨s, first, others⟩
    · rfl
    · exact Outcome.value_ofExcept _

theorem read_of_source? {t : Tree} {root : Text} {f : FileRef} {s : Source}
    (h : f.source? t root = some s) : ∃ x, s.read t = .ok x := by
  cases f with
  | literal text label =>
    cases h
    exact ⟨text, rfl⟩
  | path p =>
    simp only [FileRef.source?, Option.ite_none_right_eq_some, Option.some.injEq] at h
    obtain ⟨hcontent, rfl⟩ := h
    cases hb : t.bytes? (Path.join root p) with
    | none => simp [Tree.hasContent, hb] at hcontent
    | some b =>
      exact ⟨Text.unifyLineEnds (Utf8.decode b), by simp [Source.read, Tree.text?, hb]⟩

def Tree.Alike (root : Text) (files : List Text) (t u : Tree) : Prop :=
  ∀ p ∈ files, t.bytes? (Path.join root p) = u.bytes? (Path.join root p)

def Tree.ReadAlike (root : Text) (files : List Text) (t u : Tree) : Prop :=
  ∀ p ∈ files,
    (t.hasContent root p = true → t.text? (Path.join root p) = u.text? (Path.join root p)) ∧
      t.hasContent root p = u.hasContent root p

variable {root : Text} {files : List Text} {t u : Tree}

theorem Tree.Alike.hasContent (h : Tree.Alike root files t u) {p : Text} (hp : p ∈ files) :
    t.hasContent root p = u.hasContent root p := by
  rw [Tree.hasContent, Tree.hasContent, h p hp]

theorem Tree.Alike.readAlike (h : Tree.Alike root files t u) : Tree.ReadAlike root files t u :=
  fun p hp => ⟨fun _ => by rw [Tree.text?, Tree.text?, h p hp], h.hasContent hp⟩

theorem Tree.ReadAlike.mono (h : Tree.ReadAlike root files t u) {fewer : List Text}
    (hf : ∀ p ∈ fewer, p ∈ files) : Tree.ReadAlike root fewer t u :=
  fun p hp => h p (hf p hp)

theorem Tree.readAlike_append {more : List Text} :
    Tree.ReadAlike root (files ++ more) t u ↔
      Tree.ReadAlike root files t u ∧ Tree.ReadAlike root more t u :=
  List.forall_mem_append

theorem FileRef.source?_congr {f : FileRef} (h : Tree.ReadAlike root f.path?.toList t u) :
    f.source? t root = f.source? u root := by
  cases f with
  | literal text label => rfl
  | path p =>
    have hp : p ∈ (FileRef.path p).path?.toList := by simp [FileRef.path?]
    simp only [FileRef.source?, (h p hp).2]

theorem Source.read_congr {f : FileRef} (h : Tree.ReadAlike root f.path?.toList t u) {s : Source}
    (hs : f.source? t root = some s) : s.read t = s.read u := by
  cases f with
  | literal text label =>
    cases hs
    rfl
  | path p =>
    simp only [FileRef.source?, Option.ite_none_right_eq_some, Option.some.injEq] at hs
    obtain ⟨hcontent, rfl⟩ := hs
    simp only [Source.read, (h p (by simp [FileRef.path?])).1 hcontent]

theorem resolve_congr {refs : List FileRef}
    (h : Tree.ReadAlike root (refs.filterMap FileRef.path?) t u) :
    resolve t root refs = resolve u root refs := by
  induction refs with
  | nil => rfl
  | cons f rest ih =>
    have hf : f.source? t root = f.source? u root :=
      FileRef.source?_congr (h.mono fun p hp => by
        simp only [Option.mem_toList] at hp
        simp [hp])
    have hrest := ih (h.mono fun p hp => by
      simp only [List.mem_filterMap] at hp ⊢
      obtain ⟨g, hg, hgp⟩ := hp
      exact ⟨g, List.mem_cons_of_mem f hg, hgp⟩)
    simp only [resolve, hf, hrest]

theorem read_of_resolve {refs : List FileRef}
    (h : Tree.ReadAlike root (refs.filterMap FileRef.path?) t u) {sources : List Source}
    (hs : (resolve t root refs).value = .ok sources) : ∀ s ∈ sources, s.read t = s.read u := by
  rw [resolve_value, Except.ok.injEq] at hs
  subst hs
  intro s hs
  obtain ⟨f, hf, hfs⟩ := List.mem_filterMap.1 hs
  refine Source.read_congr (h.mono fun p hp => ?_) hfs
  exact List.mem_filterMap.2 ⟨f, hf, Option.mem_toList.1 hp⟩

end HeaderProbe
