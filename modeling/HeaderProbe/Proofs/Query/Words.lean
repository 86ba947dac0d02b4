import HeaderProbe.Proofs.Query.Grammar

namespace HeaderProbe

theorem Pattern.source_of_read {source : Text} {p : Pattern} (h : Pattern.read source = .ok p) :
    p.source = source := by
  simp only [Pattern.read, bind, Except.bind] at h
  split at h
  · cases h
  split at h
  · cases h
  split at h
  · cases h
  split at h
  · cases h
  · cases h
    rfl

theorem space_notMem_of_isName {w : Text} (h : isName w = true) : ' ' ∉ w := by
  cases w with
  | nil => simp
  | cons c r =>
    simp only [isName, Bool.and_eq_true, Bool.or_eq_true, beq_iff_eq] at h
    obtain ⟨hc, hr⟩ := h
    have hfirst : ' ' ≠ c := by
      rintro rfl
      revert hc
      decide
    have hword : ' ' ∉ r.takeWhile Text.isWordChar := by
      intro hmem
      have hspace := List.all_eq_true.1 List.all_takeWhile _ hmem
      revert hspace
      decide
    have hrest : ' ' ∉ r.dropWhile Text.isWordChar := by
      rcases hr with hr | hr <;> simp [hr]
    rw [List.mem_cons, not_or, ← List.takeWhile_append_dropWhile (p := Text.isWordChar) (l := r),
      List.mem_append, not_or]
    exact ⟨hfirst, hword, hrest⟩

namespace Subject

variable {s s' : Subject} {u : List Text}

theorem Written.words_eq (h : s.Written u) : s.words = u := by
  cases h <;> rfl

theorem Written.space_notMem (h : s.Written u) : ∀ w ∈ u, ' ' ∉ w := by
  cases h with
  | declaration kind hname =>
    have hkind : ' ' ∉ kind.word := by cases kind <;> decide
    simp [hkind, space_notMem_of_isName hname]
  | member hfield htype =>
    simp [space_notMem_of_isName hfield, space_notMem_of_isName htype]
  | first hfield htype =>
    simp [space_notMem_of_isName hfield, space_notMem_of_isName htype]
  | named hfield htype hv =>
    simp [space_notMem_of_isName hfield, space_notMem_of_isName htype, space_notMem_of_isName hv]
  | any hfield htype =>
    simp [space_notMem_of_isName hfield, space_notMem_of_isName htype]

theorem Written.splitOn_print (h : s.Written u) : s.print.splitOn ' ' = u := by
  have hne : u ≠ [] := by cases h <;> simp
  rw [print, h.words_eq, List.splitOn_intercalate ' ' h.space_notMem hne]

theorem Written.unique (h : s.Written u) (h' : s'.Written u) : s = s' := by
  have hs : QueryReader.subject.run (u ++ []) = .ok (s, []) :=
    QueryReader.subject_of_written h (by simp)
  rw [QueryReader.subject_of_written h' (by simp)] at hs
  cases hs
  rfl

end Subject

def Test.words : Test → List Text
  | presence => []
  | has p => [(has p).word, p.source]
  | lacks p => [(lacks p).word, p.source]
  | absent => [absent.word]

def FileRef.word : FileRef → Text
  | path p => p
  | literal .. => literalMark

def Query.words (q : Query) : List Text :=
  "gen".toList :: q.define :: "if".toList ::
    (q.subject.print.splitOn ' ' ++ q.test.words ++ "in".toList :: q.files.map FileRef.word)

theorem Test.Written.words_eq {t : Test} {u : List Text} (h : t.Written u) : t.words = u := by
  cases h with
  | presence => rfl
  | has hp => exact congrArg (fun source => ["matches".toList, source]) (Pattern.source_of_read hp)
  | lacks hp => exact congrArg (fun source => ["lacks".toList, source]) (Pattern.source_of_read hp)
  | absent => rfl

variable {literal : Option Text} {label : Text}

theorem FileRef.map_word_of_written {files : List FileRef} {names : List Text}
    (h : List.Forall₂ (FileRef.Written literal label) files names) :
    files.map FileRef.word = names := by
  induction h with
  | nil => rfl
  | cons hf _ ih =>
    rw [List.map_cons, ih]
    cases hf <;> rfl

theorem Query.Written.words_eq {q : Query} {ws : List Text} (h : q.Written literal label ws) :
    q.words = "gen".toList :: ws := by
  obtain ⟨subject, test, files, rfl, -, hsubject, htest, hfiles, -⟩ := h
  rw [Query.words, hsubject.splitOn_print, htest.words_eq, FileRef.map_word_of_written hfiles]

theorem printing_undoes_reading {words : List Text} {q : Query}
    (h : Query.ofWords words literal label = .ok q) :
    Query.ofWords q.words literal label = .ok q ∧
      ∀ (others : List Text) (literal' : Option Text) (label' : Text) (q' : Query),
        Query.ofWords others literal' label' = .ok q' → q'.subject.print = q.subject.print →
          q'.subject = q.subject := by
  rw [Query.ofWords_eq_ok_iff] at h
  constructor
  · rw [h.words_eq, Query.ofWords_eq_ok_iff]
    exact h
  · intro others literal' label' q' h' hprint
    rw [Query.ofWords_eq_ok_iff] at h'
    obtain ⟨u, _, _, -, -, hsubject, -⟩ := h
    obtain ⟨u', _, _, -, -, hsubject', -⟩ := h'
    have hu : u' = u := by rw [← hsubject'.splitOn_print, hprint, hsubject.splitOn_print]
    exact (hu ▸ hsubject').unique hsubject

theorem printing_undoes_reading_amid_keywords :
    ∃ q, Query.ofWords (["gen", "gen", "if", "initializer", "instance", "of", "in", "instance",
          "absent", "lacks", "a|b", "in", "in", "-"].map String.toList) (some []) "<L>".toList = .ok q ∧
      Query.ofWords q.words (some []) "<L>".toList = .ok q ∧
        ∀ (others : List Text) (literal' : Option Text) (label' : Text) (q' : Query),
          Query.ofWords others literal' label' = .ok q' → q'.subject.print = q.subject.print →
            q'.subject = q.subject := by
  have hread : (Query.ofWords (["gen", "gen", "if", "initializer", "instance", "of", "in", "instance",
      "absent", "lacks", "a|b", "in", "in", "-"].map String.toList) (some [])
      "<L>".toList).toOption.any (fun _ => true) = true := by
    decide +kernel
  obtain ⟨q, hq, -⟩ := Outcome.exists_ok_of_any hread
  exact ⟨q, hq, printing_undoes_reading hq⟩

end HeaderProbe
