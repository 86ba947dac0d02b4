import HeaderProbe.Proofs.Source.Balance
import HeaderProbe.Proofs.Text.Word

namespace HeaderProbe

open Text

theorem skipBlanks_append_word {w a : Text} (hw : AllBlank w) (ha : IsWord a) (s : Text) :
    skipBlanks (w ++ (a ++ s)) = a ++ s := by
  obtain ⟨c, r, rfl⟩ := List.exists_cons_of_ne_nil ha.1
  have hc : isWordChar c = true := ha.isWordChar (List.mem_cons_self ..)
  rw [skipBlanks_append hw, List.cons_append, skipBlanks_cons (isBlank_of_isWordChar hc)]

theorem head?_append_word_ne {a : Text} (ha : IsWord a) {c : Char} (hc : isWordChar c = false)
    (s : Text) : (a ++ s).head? ≠ some c := by
  obtain ⟨d, r, rfl⟩ := List.exists_cons_of_ne_nil ha.1
  have hd : isWordChar d = true := ha.isWordChar (List.mem_cons_self ..)
  simpa using isWordChar_ne hd hc

theorem afterAttribute_word {w a s : Text} (hw : AllBlank w) (ha : IsWord a) (hmark : isAttribute a = true)
    (hedge : s.head?.any isWordChar = false) : afterAttribute (w ++ (a ++ s)) = some s := by
  have hall : ∀ c ∈ a, isWordChar c = true := fun c hc => ha.isWordChar hc
  have hstop : s.takeWhile isWordChar = [] ∧ s.dropWhile isWordChar = s := by
    cases s with
    | nil => exact ⟨rfl, rfl⟩
    | cons d s =>
      have hd : isWordChar d = false := by simpa using hedge
      simp [hd]
  simp only [afterAttribute, skipBlanks_append_word hw ha, List.takeWhile_append_of_pos hall,
    List.dropWhile_append_of_pos hall, hstop.1, hstop.2, List.append_nil, hmark, if_true]

theorem afterAttribute_eq_none {s : Text} (hs : (skipBlanks s).head?.any isWordChar = false) :
    afterAttribute s = none := by
  have hstop : (skipBlanks s).takeWhile isWordChar = [] := by
    cases hskip : skipBlanks s with
    | nil => rfl
    | cons c r =>
      rw [hskip] at hs
      simpa using hs
  simp only [afterAttribute, hstop]
  rfl

theorem exists_of_afterAttribute {s r : Text} (h : afterAttribute s = some r) :
    ∃ w a, AllBlank w ∧ IsWord a ∧ isAttribute a = true ∧ r.head?.any isWordChar = false ∧
      s = w ++ (a ++ r) := by
  simp only [afterAttribute] at h
  split at h
  · next ha =>
    cases h
    refine ⟨s.takeWhile isBlank, (skipBlanks s).takeWhile isWordChar, allBlank_takeWhile s, ⟨?_, ?_⟩, ha,
      ?_, ?_⟩
    · intro hnil
      rw [hnil] at ha
      cases ha
    · exact List.all_takeWhile
    · have hhead := List.head?_dropWhile_not isWordChar (skipBlanks s)
      cases hd : (skipBlanks s).dropWhile isWordChar with
      | nil => rfl
      | cons c x =>
        rw [hd] at hhead
        simpa using hhead
    · rw [List.takeWhile_append_dropWhile, takeWhile_append_skipBlanks]
  · cases h

theorem afterTrailer_semicolon {s r : Text} (hs : skipBlanks s = ';' :: r) :
    afterTrailer s = some r := by
  have hword : isWordChar ';' = false := by decide +kernel
  have hnone : afterAttribute s = none := afterAttribute_eq_none (by rw [hs]; exact hword)
  unfold afterTrailer
  split
  · simp only [hs]
  · next hsome =>
    rw [hnone] at hsome
    cases hsome

theorem afterTrailer_plain {s r : Text} (hs : afterAttribute s = some r)
    (hr : (skipBlanks r).head? ≠ some '(') : afterTrailer s = afterTrailer (skipBlanks r) := by
  conv_lhs => unfold afterTrailer
  split
  · next hnone =>
    rw [hs] at hnone
    cases hnone
  · next r' hsome =>
    rw [hs] at hsome
    cases hsome
    rw [if_neg hr]

theorem afterTrailer_call {s r r' rest : Text} (hs : afterAttribute s = some r)
    (hr : skipBlanks r = '(' :: r') (hclose : Bracket.paren.afterClose ('(' :: r') = some rest) :
    afterTrailer s = afterTrailer rest := by
  conv_lhs => unfold afterTrailer
  split
  · next hnone =>
    rw [hs] at hnone
    cases hnone
  · next x hsome =>
    rw [hs] at hsome
    cases hsome
    rw [if_pos (by rw [hr]; rfl)]
    split
    · next hnone =>
      rw [hr, hclose] at hnone
      cases hnone
    · next y hsome =>
      rw [hr, hclose] at hsome
      cases hsome
      rfl

inductive Attributes : Text → Prop where
  | blanks {w : Text} (hw : AllBlank w) : Attributes w
  | plain {w a s : Text} (hw : AllBlank w) (ha : IsWord a) (hmark : isAttribute a = true)
      (hedge : s.head?.any isWordChar = false) (hs : Attributes s) : Attributes (w ++ (a ++ s))
  | call {w a v arguments s : Text} (hw : AllBlank w) (ha : IsWord a) (hmark : isAttribute a = true)
      (hv : AllBlank v) (hbalanced : Balanced arguments) (hs : Attributes s) :
      Attributes (w ++ (a ++ (v ++ '(' :: (arguments ++ ')' :: s))))

namespace Attributes

theorem head?_skipBlanks_ne {z : Text} (hz : Attributes z) (r : Text) :
    (skipBlanks (z ++ ';' :: r)).head? ≠ some '(' := by
  have hopen : isWordChar '(' = false := by decide +kernel
  cases hz with
  | blanks hw =>
    rw [skipBlanks_append hw, skipBlanks_cons rfl]
    simp
  | plain hw ha =>
    rw [List.append_assoc, List.append_assoc, skipBlanks_append_word hw ha]
    exact head?_append_word_ne ha hopen _
  | call hw ha =>
    rw [List.append_assoc, List.append_assoc, skipBlanks_append_word hw ha]
    exact head?_append_word_ne ha hopen _

theorem isWordChar_head? {s : Text} (hs : s.head?.any isWordChar = false) (r : Text) :
    (s ++ ';' :: r).head?.any isWordChar = false := by
  have hsemicolon : isWordChar ';' = false := by decide +kernel
  cases s with
  | nil => exact hsemicolon
  | cons c s => exact hs

theorem afterTrailer_eq {z : Text} (hz : Attributes z) (r : Text) :
    afterTrailer (z ++ ';' :: r) = some r ∧ afterTrailer (skipBlanks (z ++ ';' :: r)) = some r := by
  induction hz with
  | @blanks w hw =>
    have hskip : skipBlanks (w ++ ';' :: r) = ';' :: r := by
      rw [skipBlanks_append hw, skipBlanks_cons rfl]
    exact ⟨afterTrailer_semicolon hskip, by rw [hskip]; exact afterTrailer_semicolon (skipBlanks_cons rfl r)⟩
  | @plain w a s hw ha hmark hedge hs ih =>
    have hread {u : Text} (hu : AllBlank u) : afterTrailer (u ++ (a ++ (s ++ ';' :: r))) = some r := by
      have hafter := afterAttribute_word hu ha hmark (isWordChar_head? hedge r)
      rw [afterTrailer_plain hafter (hs.head?_skipBlanks_ne r), ih.2]
    rw [List.append_assoc, List.append_assoc, skipBlanks_append_word hw ha]
    exact ⟨hread hw, hread allBlank_nil⟩
  | @call w a v arguments s hw ha hmark hv hbalanced hs ih =>
    have hopen : isWordChar '(' = false := by decide +kernel
    have hread {u : Text} (hu : AllBlank u) :
        afterTrailer (u ++ (a ++ (v ++ '(' :: (arguments ++ ')' :: (s ++ ';' :: r))))) = some r := by
      have hedge : (v ++ '(' :: (arguments ++ ')' :: (s ++ ';' :: r))).head?.any isWordChar = false := by
        cases v with
        | nil => exact hopen
        | cons c v => exact isWordChar_of_isBlank (hv c (List.mem_cons_self ..))
      have hskip : skipBlanks (v ++ '(' :: (arguments ++ ')' :: (s ++ ';' :: r))) =
          '(' :: (arguments ++ ')' :: (s ++ ';' :: r)) := by
        rw [skipBlanks_append hv, skipBlanks_cons rfl]
      rw [afterTrailer_call (afterAttribute_word hu ha hmark hedge) hskip
        (Bracket.afterClose_of_balanced hbalanced _), ih.1]
    simp only [List.append_assoc, List.cons_append]
    rw [skipBlanks_append_word hw ha]
    exact ⟨hread hw, hread allBlank_nil⟩

theorem prepend {z w : Text} (hz : Attributes z) (hw : AllBlank w) : Attributes (w ++ z) := by
  have hblank {v : Text} (hv : AllBlank v) : AllBlank (w ++ v) := List.forall_mem_append.2 ⟨hw, hv⟩
  cases hz with
  | blanks hv => exact .blanks (hblank hv)
  | plain hv ha hmark hedge hs =>
    rw [← List.append_assoc]
    exact .plain (hblank hv) ha hmark hedge hs
  | call hv ha hmark hv' hbalanced hs =>
    rw [← List.append_assoc]
    exact .call (hblank hv) ha hmark hv' hbalanced hs

theorem exists_of_afterTrailer {s r : Text} (h : afterTrailer s = some r) :
    ∃ z, Attributes z ∧ s = z ++ ';' :: r := by
  induction s using afterTrailer.induct with
  | case1 s hnone x hskip =>
    rw [afterTrailer_semicolon hskip] at h
    cases h
    obtain ⟨-, w, hw, hs⟩ := skipBlanks_eq_cons_iff.1 hskip
    exact ⟨w, .blanks hw, hs⟩
  | case2 s hnone hskip =>
    exfalso
    unfold afterTrailer at h
    split at h
    · split at h
      · next hskip' => exact hskip _ hskip'
      · cases h
    · next hsome =>
      rw [hnone] at hsome
      cases hsome
  | case3 s x hattr hx hx' hopen hnone =>
    exfalso
    unfold afterTrailer at h
    split at h
    · next hnone' =>
      rw [hattr] at hnone'
      cases hnone'
    · next y hsome =>
      rw [hattr] at hsome
      cases hsome
      rw [if_pos hopen] at h
      split at h
      · cases h
      · next hclose =>
        rw [hnone] at hclose
        cases hclose
  | case4 s x hattr hx hx' hopen rest hclose hrest ih =>
    obtain ⟨w, a, hw, ha, hmark, hedge, rfl⟩ := exists_of_afterAttribute hattr
    obtain ⟨arguments', hskip⟩ := List.head?_eq_some_iff.1 hopen
    rw [hskip] at hclose
    rw [afterTrailer_call hattr hskip hclose] at h
    obtain ⟨z, hz, rfl⟩ := ih h
    obtain ⟨arguments, hbalanced, rfl⟩ := Bracket.afterClose_eq_some_iff.1 hclose
    obtain ⟨-, v, hv, rfl⟩ := skipBlanks_eq_cons_iff.1 hskip
    exact ⟨_, .call hw ha hmark hv hbalanced hz, by simp⟩
  | case5 s x hattr hx hx' hopen ih =>
    obtain ⟨w, a, hw, ha, hmark, hedge, rfl⟩ := exists_of_afterAttribute hattr
    rw [afterTrailer_plain hattr hopen] at h
    obtain ⟨z, hz, hskip⟩ := ih h
    have hx : x = (x.takeWhile isBlank ++ z) ++ ';' :: r := by
      rw [List.append_assoc, ← hskip, takeWhile_append_skipBlanks]
    have hedge' : (x.takeWhile isBlank ++ z).head?.any isWordChar = false := by
      rw [hx] at hedge
      cases hcut : x.takeWhile isBlank ++ z with
      | nil => rfl
      | cons c y =>
        rw [hcut] at hedge
        exact hedge
    refine ⟨_, .plain hw ha hmark hedge' (hz.prepend (allBlank_takeWhile x)), ?_⟩
    rw [List.append_assoc, List.append_assoc, ← hx]

end Attributes

theorem afterTrailer_eq_some_iff {s r : Text} :
    afterTrailer s = some r ↔ ∃ z, Attributes z ∧ s = z ++ ';' :: r := by
  constructor
  · exact Attributes.exists_of_afterTrailer
  · rintro ⟨z, hz, rfl⟩
    exact (hz.afterTrailer_eq r).1

end HeaderProbe
