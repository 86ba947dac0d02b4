import HeaderProbe.Proofs.Source.Nesting
import HeaderProbe.Proofs.Text.Blank
import HeaderProbe.Proofs.Text.Word

namespace HeaderProbe

open Text

def Designates (field s r : Text) : Prop :=
  ∃ inner outer, s = inner ++ field ++ outer ++ '=' :: r ∧ AllBlank inner ∧ AllBlank outer

theorem skipBlanks_word {w : Text} (hw : IsWord w) (r : Text) : skipBlanks (w ++ r) = w ++ r := by
  cases w with
  | nil => exact absurd rfl hw.1
  | cons c w => exact skipBlanks_cons (isBlank_of_isWordChar (hw.isWordChar (List.mem_cons_self ..))) _

theorem afterDesignator_eq_some_iff {field : Text} (hfield : IsWord field) {s x : Text} :
    afterDesignator field s = some x ↔ ∃ r, Designates field s r ∧ x = skipBlanks r := by
  have hblank (c : Char) (r : Text) (hc : isBlank c = true) : field.isPrefixOf? (c :: r) = none := by
    cases field with
    | nil => exact absurd rfl hfield.1
    | cons d field =>
      have hd := hfield.isWordChar (List.mem_cons_self ..)
      have hne : d ≠ c := by
        rintro rfl
        rw [isWordChar_of_isBlank hc] at hd
        cases hd
      simp [List.isPrefixOf?, hne]
  rw [afterDesignator, pastOptionalBlanks_eq fun c r hc => by simp [hblank c r hc]]
  simp only [Option.bind_eq_bind, Option.bind_eq_some_iff, List.isPrefixOf?_eq_some_iff_append_eq]
  constructor
  · rintro ⟨y, hy, hx⟩
    split at hx
    · next r hr =>
      cases hx
      obtain ⟨-, outer, houter, rfl⟩ := skipBlanks_eq_cons_iff.1 hr
      refine ⟨r, ⟨s.takeWhile isBlank, outer, ?_, allBlank_takeWhile s, houter⟩, rfl⟩
      calc s = s.takeWhile isBlank ++ skipBlanks s := (takeWhile_append_skipBlanks s).symm
        _ = _ := by rw [← hy]; simp
    · cases hx
  · rintro ⟨r, ⟨inner, outer, rfl, hinner, houter⟩, rfl⟩
    refine ⟨outer ++ '=' :: r, ?_, ?_⟩
    · rw [List.append_assoc, List.append_assoc, skipBlanks_append hinner, skipBlanks_word hfield]
    · rw [skipBlanks_append houter, skipBlanks_cons (by decide)]
      rfl

theorem exists_of_append_eq {p v s r : Text} {c : Char} (hc : c ∉ p) (h : v ++ c :: s = p ++ r) :
    ∃ r', v = p ++ r' ∧ r = r' ++ c :: s := by
  rcases List.append_eq_append_iff.1 h with ⟨a, rfl, ha⟩ | ⟨a, rfl, ha⟩
  · cases a with
    | nil => exact ⟨[], by simp, by simpa using ha.symm⟩
    | cons d a =>
      obtain ⟨rfl, -⟩ := List.cons.inj ha
      exact absurd (by simp) hc
  · exact ⟨a, rfl, ha⟩

theorem designates_before {field : Text} (hfield : IsWord field) {c : Char} (hblank : isBlank c = false)
    (hword : isWordChar c = false) (hsign : c ≠ '=') {v s r : Text} :
    Designates field (v ++ c :: s) r ↔ ∃ r', Designates field v r' ∧ r = r' ++ c :: s := by
  constructor
  · rintro ⟨inner, outer, h, hinner, houter⟩
    have hgap {w : Text} (hw : AllBlank w) : c ∉ w := by
      intro hmem
      rw [hw c hmem] at hblank
      cases hblank
    have hname : c ∉ field := by
      intro hmem
      rw [hfield.isWordChar hmem] at hword
      cases hword
    have hmark : c ∉ inner ++ field ++ outer ++ ['='] := by
      simp [hgap hinner, hgap houter, hname, hsign]
    obtain ⟨r', rfl, rfl⟩ := exists_of_append_eq (r := r) hmark (by simpa using h)
    exact ⟨r', ⟨inner, outer, by simp, hinner, houter⟩, rfl⟩
  · rintro ⟨r', ⟨inner, outer, rfl, hinner, houter⟩, rfl⟩
    exact ⟨inner, outer, by simp, hinner, houter⟩

theorem designates_before_dot {field : Text} (hfield : IsWord field) {v s r : Text} :
    Designates field (v ++ '.' :: s) r ↔ ∃ r', Designates field v r' ∧ r = r' ++ '.' :: s :=
  designates_before hfield rfl (by decide +kernel) (by decide)

theorem afterDesignator_before_dot {field : Text} (hfield : IsWord field) {v s : Text}
    (h : ∀ r, ¬ Designates field v r) : afterDesignator field (v ++ '.' :: s) = none := by
  by_contra hsome
  obtain ⟨x, hx⟩ := Option.ne_none_iff_exists'.1 hsome
  obtain ⟨r, hr, -⟩ := (afterDesignator_eq_some_iff hfield).1 hx
  obtain ⟨r', hr', -⟩ := (designates_before_dot hfield).1 hr
  exact h r' hr'

theorem findDesignator_append {field s r : Text} {d : Int}
    (h : ∀ u v, s = u ++ '.' :: v → d + depth u = 0 → afterDesignator field (v ++ r) = none)
    (n : Nat) :
    findDesignator field d (s.length + n) (s ++ r) = findDesignator field (d + depth s) n r := by
  induction s generalizing d with
  | nil => simp
  | cons c s ih =>
    have hrest : findDesignator field (d + nesting c) (s.length + n) (s ++ r) =
        findDesignator field (d + depth (c :: s)) n r := by
      rw [ih, depth_cons, Int.add_assoc]
      intro u v hs hd
      refine h (c :: u) v (by rw [hs]; rfl) ?_
      rw [depth_cons]
      omega
    rw [List.length_cons, Nat.add_right_comm, List.cons_append, findDesignator, hrest]
    split
    · next hdot =>
      rw [h [] s (by rw [hdot.1]; rfl) (by simpa using hdot.2), Option.none_or]
    · rfl

theorem length_findDesignator_le {field : Text} (hfield : IsWord field) {d : Int} {n : Nat}
    {s x : Text} (h : findDesignator field d n s = some x) : x.length ≤ s.length := by
  induction s generalizing d n with
  | nil => cases n <;> cases h
  | cons c s ih =>
    cases n with
    | zero => cases h
    | succ n =>
      simp only [findDesignator] at h
      rw [List.length_cons]
      split at h
      · rcases Option.or_eq_some_iff.1 h with h | ⟨-, h⟩
        · obtain ⟨r, ⟨inner, outer, rfl, -, -⟩, rfl⟩ := (afterDesignator_eq_some_iff hfield).1 h
          have := List.length_dropWhile_le isBlank r
          simp only [skipBlanks, List.length_append, List.length_cons]
          omega
        · exact (ih h).trans (Nat.le_succ _)
      · exact (ih h).trans (Nat.le_succ _)

theorem exists_of_early_designator {field : Text} (hfield : IsWord field) {before s : Text} {d : Int}
    (h : ∃ u v r, before = u ++ '.' :: v ∧ d + depth u = 0 ∧ Designates field v r) (n : Nat) :
    ∃ x, findDesignator field d (before.length + n) (before ++ '.' :: s) = some x ∧
      s.length < x.length := by
  induction before generalizing d with
  | nil =>
    obtain ⟨u, v, r, h, -⟩ := h
    simp at h
  | cons c before ih =>
    rw [List.length_cons, Nat.add_right_comm, List.cons_append, findDesignator]
    by_cases hhere : (c = '.' ∧ d = 0) ∧ ∃ r, Designates field before r
    · obtain ⟨hdot, r, hr⟩ := hhere
      have hafter : afterDesignator field (before ++ '.' :: s) = some (skipBlanks r ++ '.' :: s) := by
        rw [afterDesignator_eq_some_iff hfield]
        refine ⟨r ++ '.' :: s, (designates_before_dot hfield).2 ⟨r, hr, rfl⟩, ?_⟩
        rw [skipBlanks_append_cons (by decide)]
      refine ⟨skipBlanks r ++ '.' :: s, by rw [if_pos hdot, hafter, Option.some_or], ?_⟩
      rw [List.length_append, List.length_cons]
      omega
    · have hnext : ∃ u v r, before = u ++ '.' :: v ∧ d + nesting c + depth u = 0 ∧
          Designates field v r := by
        obtain ⟨u, v, r, hu, hd, hr⟩ := h
        cases u with
        | nil =>
          obtain ⟨rfl, rfl⟩ := List.cons.inj hu
          exact absurd ⟨⟨rfl, by simpa using hd⟩, r, hr⟩ hhere
        | cons b u =>
          obtain ⟨rfl, rfl⟩ := List.cons.inj hu
          refine ⟨u, v, r, rfl, ?_, hr⟩
          rw [depth_cons] at hd
          omega
      obtain ⟨x, hx, hlt⟩ := ih hnext
      refine ⟨x, ?_, hlt⟩
      split
      · next hdot =>
        have hnone : afterDesignator field (before ++ '.' :: s) = none :=
          afterDesignator_before_dot hfield fun r hr => hhere ⟨hdot, r, hr⟩
        rw [hnone, Option.none_or, hx]
      · exact hx

theorem expressionLength_append {s : Text} {d : Int}
    (h : ∀ u v, s = u ++ ',' :: v → d + depth u ≠ 0) (n : Nat) (r : Text) :
    expressionLength d (s.length + n) (s ++ r) =
      s.length + expressionLength (d + depth s) n r := by
  induction s generalizing d with
  | nil => simp
  | cons c s ih =>
    have hcomma : ¬ (c = ',' ∧ d = 0) := by
      rintro ⟨rfl, rfl⟩
      exact h [] s rfl (by simp)
    have hrest := ih (d := d + nesting c) fun u v hs => by
      have := h (c :: u) v (by rw [hs]; rfl)
      rw [depth_cons] at this
      omega
    rw [List.length_cons, Nat.add_right_comm, List.cons_append, expressionLength, if_neg hcomma,
      hrest, depth_cons, ← Int.add_assoc]
    omega

end HeaderProbe
