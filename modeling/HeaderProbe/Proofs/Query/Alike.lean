import HeaderProbe.Proofs.Query.Resolve

namespace HeaderProbe

variable {root : Text} {t u : Tree}

theorem Query.firstMatch_congr {q : Query} {sources : List Source}
    (h : ∀ s ∈ sources, s.read t = s.read u) : q.firstMatch t sources = q.firstMatch u sources := by
  induction sources with
  | nil => rfl
  | cons s rest ih =>
    have hrest := ih fun r hr => h r (List.mem_cons_of_mem s hr)
    simp only [Query.firstMatch, h s (List.mem_cons_self ..), hrest]

theorem firstDeclaration_congr {kind : DeclKind} {name : Text} {sources : List Source}
    (h : ∀ s ∈ sources, s.read t = s.read u) :
    firstDeclaration kind name t sources = firstDeclaration kind name u sources := by
  induction sources with
  | nil => rfl
  | cons s rest ih =>
    have hrest := ih fun r hr => h r (List.mem_cons_of_mem s hr)
    simp only [firstDeclaration, h s (List.mem_cons_self ..), hrest]

theorem Query.evaluate_congr {q : Query} (h : Tree.ReadAlike root q.paths t u) :
    q.evaluate root t t = q.evaluate root u u := by
  simp only [Query.evaluate, ← resolve_congr h]
  refine Outcome.bind_congr fun sources hs => ?_
  rw [Query.firstMatch_congr (read_of_resolve h hs)]

theorem Query.generate_congr {q : Query} (h : Tree.ReadAlike root q.paths t u) :
    q.generate root t t = q.generate root u u := by
  simp only [Query.generate, Query.evaluate_congr h]

theorem extract_congr {kind name : Text} {files : List Text} (h : Tree.ReadAlike root files t u) :
    extract kind name files root t t = extract kind name files root u u := by
  have hpaths : (files.map FileRef.path).filterMap FileRef.path? = files :=
    List.filterMap_map.trans List.filterMap_some
  rw [← hpaths] at h
  unfold extract
  split
  · simp only [← resolve_congr h]
    refine Outcome.bind_congr fun sources hs => ?_
    rw [firstDeclaration_congr (read_of_resolve h hs)]
  · rfl

end HeaderProbe
