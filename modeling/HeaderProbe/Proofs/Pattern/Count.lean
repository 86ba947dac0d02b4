import HeaderProbe.Proofs.Pattern.Reading

namespace HeaderProbe.Pattern

open Reading

theorem tokens_of_plain {s : Text} (h : ∀ c ∈ s, c ≠ '\\') : tokens false s = s.map fun c => [c] := by
  induction s with
  | nil => rfl
  | cons c s ih =>
    obtain ⟨hc, hs⟩ := List.forall_mem_cons.1 h
    rw [tokens, if_neg hc, ih hs, List.map_cons]

variable {α β : Type} {s digits : Text} {c : Char} {place n : Nat} {p : Char → Bool}

def Cursor.before (s : Text) (place : Nat) : Cursor :=
  ⟨s.map fun c => [c], place⟩

theorem Reading.run_bind_ok {x : Reading α} {f : α → Reading β} {c c' : Cursor} {a : α}
    (h : x.run c = .ok (a, c')) : (x >>= f).run c = (f a).run c' := by
  rw [StateT.run_bind, h]
  rfl

theorem Reading.run_bind_error {x : Reading α} {f : α → Reading β} {c : Cursor} {e : Error}
    (h : x.run c = .error e) : (x >>= f).run c = .error e := by
  rw [StateT.run_bind, h]
  rfl

theorem run_get (c : Cursor) : (get : Reading Cursor).run c = .ok (c, c) :=
  rfl

theorem run_pure (a : α) (c : Cursor) : (pure a : Reading α).run c = .ok (a, c) :=
  rfl

theorem Cursor.checked_before (hs : s.head? ≠ some '\\') :
    (before s place).checked = .ok (before s place) := by
  refine if_neg fun h => hs ?_
  cases s with
  | nil => cases h
  | cons d s =>
    have hd : [d] = ['\\'] := Option.some.inj h
    rw [List.head?_cons, List.singleton_inj.1 hd]

theorem run_skip_before (hs : s.head? ≠ some '\\') :
    (discard take).run (Cursor.before (c :: s) place) = .ok ((), Cursor.before s (place + 1)) := by
  have hnext : (Cursor.before (c :: s) place).next = .ok (some [c], Cursor.before s (place + 1)) := by
    change (do return (some [c], ← (Cursor.before s (place + 1)).checked)) = _
    rw [Cursor.checked_before hs]
    rfl
  change (Functor.map (fun _ => ()) take).run _ = _
  rw [StateT.run_map, run_take, hnext]
  rfl

theorem run_peek_before :
    peek.run (Cursor.before s place) = .ok (s.head?.map fun c => [c], Cursor.before s place) := by
  cases s <;> rfl

theorem run_accept_before (hs : s.head? ≠ some '\\') :
    (accept [c]).run (Cursor.before (c :: s) place) = .ok (true, Cursor.before s (place + 1)) := by
  rw [accept, run_bind_ok run_peek_before]
  rw [List.head?_cons, Option.map_some, if_pos rfl, run_bind_ok (run_skip_before hs)]
  rfl

theorem run_accept_before_of_ne (hs : s.head? ≠ some c) :
    (accept [c]).run (Cursor.before s place) = .ok (false, Cursor.before s place) := by
  rw [accept, run_bind_ok run_peek_before]
  rw [if_neg]
  · rfl
  · simpa using hs

theorem run_takeWhile_before (hdigits : ∀ d ∈ digits, p d = true)
    (hs : ∀ c, s.head? = some c → p c = false) (hplain : ∀ c ∈ digits ++ s, c ≠ '\\')
    (hn : digits.length ≤ n) :
    (takeWhile p n).run (Cursor.before (digits ++ s) place) =
      .ok (digits, Cursor.before s (place + digits.length)) := by
  induction digits generalizing n place with
  | nil =>
    cases n with
    | zero => rfl
    | succ n =>
      rw [takeWhile, List.nil_append, run_bind_ok run_peek_before]
      cases s with
      | nil => rfl
      | cons c s =>
        simp [hs c rfl]
        rfl
  | cons d digits ih =>
    obtain ⟨hd, hdigits⟩ := List.forall_mem_cons.1 hdigits
    cases n with
    | zero => cases hn
    | succ n =>
      rw [List.cons_append] at hplain ⊢
      obtain ⟨-, hplain⟩ := List.forall_mem_cons.1 hplain
      have hhead : (digits ++ s).head? ≠ some '\\' := fun h => hplain _ (List.mem_of_head? h) rfl
      rw [takeWhile, run_bind_ok run_peek_before]
      simp only [List.head?_cons, Option.map_some, hd, if_true]
      rw [run_bind_ok (run_skip_before hhead), run_bind_ok (ih hdigits hplain (Nat.le_of_succ_le_succ hn))]
      rw [List.length_cons, Nat.add_comm digits.length, ← Nat.add_assoc]
      rfl

theorem TooGreat.ne_nil (h : TooGreat digits) : digits ≠ [] := by
  rintro rfl
  rcases h with h | h
  · exact absurd h (by decide)
  · cases h

theorem run_readCount_error (h : TooGreat digits) :
    ∃ e, e.errorClass ≠ .syntactic ∧ ∀ c, (readCount digits).run c = .error e := by
  unfold readCount
  rw [if_neg (by simpa using h.ne_nil)]
  by_cases hmany : digits.length > Text.mostDigits
  · refine ⟨⟨.tooManyDigits digits.length, none⟩, nofun, fun c => ?_⟩
    rw [if_pos hmany]
    rfl
  · refine ⟨⟨.repetitionTooLarge, none⟩, nofun, fun c => ?_⟩
    rw [if_neg hmany]
    dsimp only
    rw [if_pos (h.resolve_right hmany)]
    rfl

theorem run_takeAll_before (hdigits : ∀ d ∈ digits, p d = true)
    (hs : ∀ c, s.head? = some c → p c = false) (hplain : ∀ c ∈ digits ++ s, c ≠ '\\') :
    (takeAll p).run (Cursor.before (digits ++ s) place) =
      .ok (digits, Cursor.before s (place + digits.length)) := by
  refine run_takeWhile_before hdigits hs hplain ?_
  rw [Cursor.before, List.length_map, List.length_append]
  exact Nat.le_add_right ..

theorem run_readBounds_error (place : Nat) (hdigits : ∀ d ∈ digits, d.isDigit = true) (h : TooGreat digits)
    (hplain : ∀ c ∈ digits ++ ['\x7d'], c ≠ '\\') :
    ∃ e, e.errorClass ≠ .syntactic ∧
      readBounds.run (Cursor.before (digits ++ ['\x7d']) place) = .error e := by
  obtain ⟨e, he, hcount⟩ := run_readCount_error h
  refine ⟨e, he, ?_⟩
  have hpeek : (digits ++ ['\x7d']).head?.map (fun c => [c]) ≠ some ['\x7d'] := by
    obtain ⟨d, rest, rfl⟩ := List.exists_cons_of_ne_nil h.ne_nil
    intro hd
    have hd : d = '\x7d' := by simpa using hd
    have := hdigits d List.mem_cons_self
    rw [hd] at this
    cases this
  unfold readBounds
  rw [run_bind_ok (run_get _), run_bind_ok run_peek_before, if_neg hpeek]
  rw [run_bind_ok (run_takeAll_before hdigits (by simp) hplain)]
  rw [run_bind_ok (run_accept_before_of_ne (by simp))]
  dsimp only
  rw [if_neg (by decide), run_bind_ok (run_pure digits _), run_bind_ok (run_accept_before (by simp))]
  exact run_bind_error (hcount _)

theorem run_readAll_before {d : Draft} (hverbose : d.flags.verbose = false) (hc : c ≠ '|' ∧ c ≠ ')')
    (hs : s.head? ≠ some '\\') :
    (readAll (n + 1) d).run (Cursor.before (c :: s) place) =
      (readPlain d place c >>= readAll n).run (Cursor.before s (place + 1)) := by
  rw [readAll, offset, bind_assoc, run_bind_ok (run_get _), pure_bind, run_bind_ok run_peek_before]
  split
  · next h => cases h
  · next h => exact absurd (by simpa using h) hc.1
  · next h => exact absurd (by simpa using h) hc.2
  · next t _ _ h =>
    cases h
    rw [run_bind_ok (run_skip_before hs)]
    simp only [hverbose, Bool.false_and, Bool.false_eq_true, if_false]
    rfl

theorem read_of_tooGreat (hdigits : ∀ d ∈ digits, d.isDigit = true) (h : TooGreat digits) :
    ∃ e, Pattern.read ("a\x7b".toList ++ digits ++ ['\x7d']) = .error e ∧ e.errorClass ≠ .syntactic := by
  have hplain : ∀ c ∈ digits ++ ['\x7d'], c ≠ '\\' := by
    rintro c hc rfl
    rcases List.mem_append.1 hc with hc | hc
    · cases hdigits _ hc
    · simp at hc
  have hhead : (digits ++ ['\x7d']).head? ≠ some '\\' := fun h => hplain _ (List.mem_of_head? h) rfl
  obtain ⟨e, he, hbounds⟩ := run_readBounds_error 2 hdigits h hplain
  refine ⟨e, ?_, he⟩
  have hstart : Cursor.ofPattern ("a\x7b".toList ++ digits ++ ['\x7d']) =
      .ok (Cursor.before ('a' :: '\x7b' :: (digits ++ ['\x7d'])) 0) := by
    rw [Cursor.ofPattern, List.append_assoc, tokens_of_plain]
    · exact Cursor.checked_before (by simp)
    · exact List.forall_mem_append.2 ⟨by simp, hplain⟩
  have hrun (n : Nat) :
      (readAll (n + 2) {}).run (Cursor.before ('a' :: '\x7b' :: (digits ++ ['\x7d'])) 0) = .error e := by
    have hletter : readPlain {} 0 'a' = pure (({} : Draft).literal 'a'.toNat) := rfl
    rw [run_readAll_before rfl (by decide) (by simp), hletter, run_bind_ok (run_pure _ _),
      run_readAll_before rfl (by decide) hhead]
    exact run_bind_error (run_bind_error hbounds)
  have hfuel : (Cursor.before ('a' :: '\x7b' :: (digits ++ ['\x7d'])) 0).rest.length + 1 =
      digits.length + 2 + 2 := by
    simp [Cursor.before]
  unfold Pattern.read
  rw [hstart]
  simp only [bind, Except.bind]
  rw [hfuel, hrun]

end HeaderProbe.Pattern
