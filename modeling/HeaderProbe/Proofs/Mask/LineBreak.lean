import HeaderProbe.Proofs.Mask.Join

namespace HeaderProbe

open Text

def EndsAtBreak (a : Text) : Prop :=
  ∀ v s n, v <:+ a → hiddenLength (v ++ '\n' :: s) = some n → n ≤ v.length

theorem EndsAtBreak.tail {c : Char} {a : Text} (h : EndsAtBreak (c :: a)) : EndsAtBreak a :=
  fun v s n hv => h v s n (hv.trans (List.suffix_cons c a))

theorem EndsAtBreak.maskFrom_append {a : Text} (h : EndsAtBreak a) {n : Nat} (hn : n ≤ a.length)
    (s : Text) : maskFrom n (a ++ '\n' :: s) = maskFrom n a ++ '\n' :: mask s := by
  induction a generalizing n with
  | nil =>
    obtain rfl := Nat.le_zero.1 hn
    exact maskFrom_plain (hiddenLength_of_not_opensHidden (by decide) s)
  | cons c a ih =>
    rw [List.cons_append]
    cases n with
    | succ n =>
      rw [maskFrom, maskFrom, ih h.tail (Nat.le_of_succ_le_succ hn), List.cons_append]
    | zero =>
      rcases hiddenLength_eq_none_or (c :: (a ++ '\n' :: s)) with hnone | ⟨m, hsome⟩
      · have hplain : hiddenLength (c :: a) = none := by
          by_contra hne
          exact hiddenLength_append_ne_none ('\n' :: s) hne hnone
        rw [maskFrom_plain hnone, maskFrom_plain hplain, ih h.tail (Nat.zero_le _), List.cons_append]
      · have hm : m + 1 ≤ (c :: a).length := h _ s _ List.suffix_rfl hsome
        rw [maskFrom_hidden hsome, maskFrom_hidden (hiddenLength_of_append hsome hm),
          ih h.tail (Nat.le_of_succ_le_succ hm), List.cons_append]

theorem EndsAtBreak.mask_append {a : Text} (h : EndsAtBreak a) (s : Text) :
    mask (a ++ '\n' :: s) = mask a ++ '\n' :: mask s :=
  h.maskFrom_append (Nat.zero_le _) s

theorem commentLength_le_of_closed {star : Bool} {a s : Text} {n : Nat}
    (h : commentLength star (a ++ (" */".toList ++ s)) = some n) : n ≤ a.length + 3 := by
  induction a generalizing star n with
  | nil =>
    have hclosed : commentLength star (" */".toList ++ s) = some 3 := by simp [commentLength]
    rw [List.nil_append, hclosed] at h
    exact Nat.le_of_eq (Option.some.inj h).symm
  | cons c a ih =>
    rw [List.cons_append, commentLength] at h
    split at h
    · obtain rfl := Option.some.inj h
      exact Nat.le_add_left 1 _
    · obtain ⟨k, hk, rfl⟩ := Option.map_eq_some_iff.1 h
      have := ih hk
      rw [List.length_cons]
      omega

theorem literalLength_le_of_break {q : Char} (hq : q ≠ '\n') {e : Bool} {a s : Text} {n : Nat}
    (he : e = true → a ≠ []) (hlast : a.getLast? ≠ some '\\')
    (h : literalLength q e (a ++ '\n' :: s) = some n) : n ≤ a.length := by
  induction a generalizing e n with
  | nil =>
    cases e with
    | true => exact absurd rfl (he rfl)
    | false =>
      rw [List.nil_append, literalLength, if_neg (by decide), if_neg hq.symm, if_pos rfl] at h
      cases h
  | cons c a ih =>
    have hlast' : a.getLast? ≠ some '\\' := by
      cases a with
      | nil => simp
      | cons d a => rwa [List.getLast?_cons_cons] at hlast
    have hstep {e : Bool} (he : e = true → a ≠ [])
        (h : (literalLength q e (a ++ '\n' :: s)).map (· + 1) = some n) : n ≤ (c :: a).length := by
      obtain ⟨k, hk, rfl⟩ := Option.map_eq_some_iff.1 h
      exact Nat.succ_le_succ (ih he hlast' hk)
    rw [List.cons_append] at h
    cases e with
    | true => exact hstep Bool.noConfusion h
    | false =>
      rw [literalLength] at h
      split at h
      · next hc =>
        refine hstep (fun _ hnil => ?_) h
        rw [hnil, hc] at hlast
        exact hlast rfl
      · split at h
        · cases h
          exact Nat.succ_le_succ (Nat.zero_le _)
        · split at h
          · cases h
          · exact hstep Bool.noConfusion h

theorem length_takeWhile_break_le (a s : Text) :
    ((a ++ '\n' :: s).takeWhile (· ≠ '\n')).length ≤ a.length := by
  rw [List.takeWhile_append]
  split
  · simp
  · exact (List.takeWhile_sublist _).length_le

theorem exists_of_append_break {c d : Char} {v r s : Text} (hc : c ≠ '\n') (hd : d ≠ '\n')
    (h : v ++ '\n' :: s = c :: d :: r) : ∃ w, v = c :: d :: w ∧ r = w ++ '\n' :: s := by
  rcases v with _ | ⟨c', _ | ⟨d', w⟩⟩
  · exact absurd (List.cons.inj h).1.symm hc
  · exact absurd (List.cons.inj (List.cons.inj h).2).1.symm hd
  · simp only [List.cons_append, List.cons.injEq] at h
    obtain ⟨rfl, rfl, rfl⟩ := h
    exact ⟨w, rfl, rfl⟩

theorem exists_of_suffix_closed {a w : Text} (h : '/' :: '*' :: w <:+ a ++ " */".toList) :
    ∃ x, w = x ++ " */".toList := by
  obtain ⟨u, hu⟩ := h
  rcases List.append_eq_append_iff.1 hu with ⟨x, -, hx⟩ | ⟨x, -, hx⟩
  · rcases x with _ | ⟨c, _ | ⟨d, x⟩⟩
    · simp at hx
    · simp at hx
    · exact ⟨x, by simpa using (List.cons.inj (List.cons.inj hx).2).2⟩
  · rcases x with _ | ⟨c, _ | ⟨d, _ | ⟨e, x⟩⟩⟩ <;> simp at hx

theorem endsAtBreak_of_closed (a : Text) : EndsAtBreak (a ++ " */".toList) := by
  intro v s n hv h
  rcases hiddenLength_cases (v ++ '\n' :: s) with ⟨r, hr⟩ | ⟨r, hr⟩ | ⟨q, r, hq, hr⟩ | hnone
  · obtain ⟨w, rfl, rfl⟩ := exists_of_append_break (by decide) (by decide) hr
    obtain ⟨x, rfl⟩ := exists_of_suffix_closed hv
    rw [hr, hiddenLength_block, List.append_assoc] at h
    obtain ⟨k, hk, rfl⟩ := Option.map_eq_some_iff.1 h
    have := commentLength_le_of_closed hk
    simp
    omega
  · obtain ⟨w, rfl, rfl⟩ := exists_of_append_break (by decide) (by decide) hr
    rw [hr, hiddenLength_line, Option.some.injEq] at h
    have := length_takeWhile_break_le w s
    simp only [List.length_cons]
    omega
  · have hq' : q ≠ '\n' := by rcases hq with rfl | rfl <;> decide
    rcases v with _ | ⟨c, w⟩
    · exact absurd (List.cons.inj hr).1.symm hq'
    · obtain ⟨rfl, rfl⟩ := List.cons.inj hr
      rw [List.cons_append, hiddenLength_literal hq] at h
      obtain ⟨k, hk, rfl⟩ := Option.map_eq_some_iff.1 h
      refine Nat.succ_le_succ (literalLength_le_of_break hq' Bool.noConfusion (fun hlast => ?_) hk)
      obtain ⟨u, hu⟩ := hv
      have hslash := congrArg List.getLast? hu
      simp [List.getLast?_append, hlast, List.getLast?_cons] at hslash
  · rw [hnone] at h
    cases h

theorem mask_append_of_closed (a s : Text) :
    mask (a ++ " */\n".toList ++ s) = mask (a ++ " */\n".toList) ++ mask s := by
  have hmark : " */\n".toList = " */".toList ++ ['\n'] := rfl
  have hbreak := (endsAtBreak_of_closed a).mask_append
  rw [hmark, ← List.append_assoc]
  calc mask (a ++ " */".toList ++ ['\n'] ++ s) = mask (a ++ " */".toList ++ '\n' :: s) := by simp
    _ = mask (a ++ " */".toList) ++ '\n' :: mask s := hbreak s
    _ = mask (a ++ " */".toList ++ ['\n']) ++ mask s := by rw [hbreak []]; simp [mask, maskFrom]

end HeaderProbe
