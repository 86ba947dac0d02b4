import HeaderProbe.Proofs.Source.StatementHead
import Mathlib.Data.List.Chain

namespace HeaderProbe

open Text

def Spliced (s : Text) : Prop :=
  s.IsChain fun c d => d = '\n' → c = '\\'

structure DirectiveHead (l : Text) : Prop where
  marked : (l.dropWhile isIndent).head? = some '#'
  spliced : Spliced l

/-- Whether a text ends on a preprocessor line that begins behind a line break of it, or where it begins
itself. -/
def EndsOnDirective (atLineStart : Bool) (s : Text) : Prop :=
  ∃ p l, s = p ++ l ∧ (atLineStart = true ∧ p = [] ∨ p.getLast? = some '\n') ∧ DirectiveHead l

theorem spliced_cons_cons {c d : Char} {s : Text} :
    Spliced (d :: c :: s) ↔ (c = '\n' → d = '\\') ∧ Spliced (c :: s) :=
  List.isChain_cons_cons

namespace DirectiveHead

variable {c : Char} {s : Text}

theorem spliced_cons (h : DirectiveHead s) (d : Char) : Spliced (d :: s) := by
  obtain ⟨hmarked, hspliced⟩ := h
  cases s with
  | nil => exact .singleton d
  | cons c s =>
    refine spliced_cons_cons.2 ⟨?_, hspliced⟩
    rintro rfl
    cases hmarked

theorem cons_iff : DirectiveHead (c :: s) ↔
    c = '#' ∧ Spliced ('#' :: s) ∨ isIndent c = true ∧ DirectiveHead s := by
  constructor
  · rintro ⟨hmarked, hspliced⟩
    rw [List.dropWhile_cons] at hmarked
    split at hmarked
    · next hc => exact .inr ⟨hc, hmarked, hspliced.of_cons⟩
    · obtain rfl : c = '#' := by simpa using hmarked
      exact .inl ⟨rfl, hspliced⟩
  · rintro (⟨rfl, hspliced⟩ | ⟨hc, h⟩)
    · exact ⟨rfl, hspliced⟩
    · exact ⟨by rw [List.dropWhile_cons, if_pos hc]; exact h.marked, h.spliced_cons c⟩

end DirectiveHead

theorem endsOnDirective_false_cons {c : Char} {s : Text} :
    EndsOnDirective false (c :: s) ↔ EndsOnDirective (decide (c = '\n')) s := by
  constructor
  · rintro ⟨p, l, h, hp, hl⟩
    have hlast : p.getLast? = some '\n' := by simpa using hp
    cases p with
    | nil => cases hlast
    | cons d p =>
      obtain ⟨rfl, rfl⟩ := List.cons.inj h
      refine ⟨p, l, rfl, ?_, hl⟩
      cases p with
      | nil => exact .inl ⟨by simpa using hlast, rfl⟩
      | cons e p => exact .inr (by rwa [List.getLast?_cons_cons] at hlast)
  · rintro ⟨p, l, rfl, hp, hl⟩
    refine ⟨c :: p, l, rfl, .inr ?_, hl⟩
    rcases hp with ⟨hc, rfl⟩ | hp
    · simpa using hc
    · rw [List.getLast?_cons, hp]
      rfl

theorem endsOnDirective_true {s : Text} :
    EndsOnDirective true s ↔ DirectiveHead s ∨ EndsOnDirective false s := by
  constructor
  · rintro ⟨p, l, rfl, ⟨-, rfl⟩ | hp, hl⟩
    · exact .inl hl
    · exact .inr ⟨p, l, rfl, .inr hp, hl⟩
  · rintro (hs | ⟨p, l, rfl, hp, hl⟩)
    · exact ⟨[], s, rfl, .inl ⟨rfl, rfl⟩, hs⟩
    · exact ⟨p, l, rfl, .inr (by simpa using hp), hl⟩

theorem not_endsOnDirective_nil (fresh : Bool) : ¬ EndsOnDirective fresh [] := by
  rintro ⟨p, l, h, -, hl⟩
  have hmarked := hl.marked
  rw [(List.append_eq_nil_iff.1 h.symm).2] at hmarked
  cases hmarked

theorem breaks_iff (s : Text) :
    (∀ fresh, Breaks (.plain fresh) s ↔ EndsOnDirective fresh s) ∧
      ∀ d, Breaks (.directive (d == '\\')) s ↔ Spliced (d :: s) ∨ EndsOnDirective false s := by
  induction s with
  | nil =>
    refine ⟨fun fresh => iff_of_false ?_ (not_endsOnDirective_nil fresh), fun d => iff_of_true rfl ?_⟩
    · cases fresh <;> exact Bool.false_ne_true
    · exact .inl (.singleton d)
  | cons c s ih =>
    obtain ⟨hplain, hdirective⟩ := ih
    have step (st : LineState) : Breaks st (c :: s) ↔ Breaks (st.next c) s := Iff.rfl
    have hcode : Breaks (.plain false) (c :: s) ↔ EndsOnDirective false (c :: s) := by
      have hnext : (LineState.plain false).next c = .plain (decide (c = '\n')) := by
        by_cases hc : c = '\n' <;> simp [LineState.plain, LineState.next, hc]
      rw [step, hnext, hplain, endsOnDirective_false_cons]
    refine ⟨fun fresh => ?_, fun d => ?_⟩
    · cases fresh with
      | false => exact hcode
      | true =>
        rw [endsOnDirective_true, DirectiveHead.cons_iff, endsOnDirective_false_cons, step]
        by_cases hhash : c = '#'
        · subst hhash
          have hnext : (LineState.plain true).next '#' = .directive ('#' == '\\') := rfl
          rw [hnext, hdirective]
          simp [isIndent]
        · have hindent : isIndent c = true ↔ c = ' ' ∨ c = '\t' := by simp [isIndent]
          by_cases hblank : c = ' ' ∨ c = '\t' ∨ c = '\n'
          · have hnext : (LineState.plain true).next c = .plain true := by
              simp [LineState.plain, LineState.next, hhash, hblank]
            rw [hnext, hplain, endsOnDirective_true, hindent]
            rcases hblank with rfl | rfl | rfl <;> simp [endsOnDirective_true]
          · have hnext : (LineState.plain true).next c = .plain false := by
              simp [LineState.plain, LineState.next, hhash, hblank]
            rw [hnext, hplain, hindent]
            simp only [not_or] at hblank
            simp [hhash, hblank]
    · rw [step, spliced_cons_cons, endsOnDirective_false_cons]
      by_cases hc : c = '\n'
      · subst hc
        by_cases hd : d = '\\'
        · have hnext : (LineState.directive (d == '\\')).next '\n' = .directive ('\n' == '\\') := by
            simp [LineState.next, hd]
          rw [hnext, hdirective]
          simp only [hd, decide_true, endsOnDirective_true, implies_true, true_and]
          constructor
          · rintro (h | h)
            · exact .inl h
            · exact .inr (.inr h)
          · rintro (h | h | h)
            · exact .inl h
            · exact .inl (h.spliced_cons '\n')
            · exact .inr h
        · have hnext : (LineState.directive (d == '\\')).next '\n' = .plain true := by
            simp [LineState.next, LineState.plain, hd]
          rw [hnext, hplain]
          simp [hd]
      · have hnext : (LineState.directive (d == '\\')).next c = .directive (c == '\\') := by
          simp [LineState.next, hc]
        rw [hnext, hdirective]
        simp [hc]

/-- What ends the statement or the preprocessor line that `x` ends in. -/
def Parts (x : Text) (c : Char) : Prop :=
  endsStatement c = true ∨ c = '\n' ∧
    ∃ p l, x = p ++ l ∧ (p = [] ∨ p.getLast? = some '\n') ∧ (∀ d ∈ l, endsStatement d = false) ∧
      DirectiveHead l

/-- Whether nothing in `v` ends a statement or a preprocessor line, where `z` stands before it. -/
def Unparted (z v : Text) : Prop :=
  ∀ x c y, v = x ++ c :: y → ¬ Parts (z ++ x) c

theorem exists_of_closed {fresh : Bool} {q x p l : Text} (hq : EndsBefore fresh q.reverse)
    (h : q ++ x = p ++ l) (hl : ∀ d ∈ l, endsStatement d = false) : ∃ p', p = q ++ p' ∧ x = p' ++ l := by
  rcases List.append_eq_append_iff.1 h with hcut | ⟨l', rfl, rfl⟩
  · exact hcut
  · cases fresh with
    | true =>
      have hnil : (p ++ l').reverse = [] := hq
      obtain ⟨rfl, rfl⟩ : l' = [] ∧ p = [] := by simpa using hnil
      exact ⟨[], rfl, rfl⟩
    | false =>
      obtain ⟨e, hlast, he⟩ := (Option.any_eq_true _ _).1 hq
      rw [List.head?_reverse] at hlast
      rcases List.eq_nil_or_concat l' with rfl | ⟨l', d, rfl⟩
      · exact ⟨[], by simp, rfl⟩
      · obtain rfl : d = e := by simpa [← List.append_assoc] using hlast
        rw [hl d (by simp)] at he
        cases he

theorem parts_iff {fresh : Bool} {q x : Text} {c : Char} (hq : EndsBefore fresh q.reverse)
    (hx : ∀ d ∈ x, endsStatement d = false) (hc : endsStatement c = false) :
    Parts (q ++ x) c ↔ c = '\n' ∧ EndsOnDirective fresh x := by
  rw [Parts, hc]
  simp only [Bool.false_eq_true, false_or]
  refine and_congr_right fun _ => ⟨?_, ?_⟩
  · rintro ⟨p, l, hsplit, hp, hl, hhead⟩
    obtain ⟨p', rfl, rfl⟩ := exists_of_closed hq hsplit hl
    refine ⟨p', l, rfl, ?_, hhead⟩
    cases p' with
    | cons d p' =>
      rw [List.append_eq_nil_iff, List.getLast?_append_of_ne_nil q (List.cons_ne_nil d p')] at hp
      simpa using hp
    | nil =>
      rw [List.append_nil] at hp
      cases fresh with
      | true => exact .inl ⟨rfl, rfl⟩
      | false =>
        obtain ⟨e, hlast, he⟩ := (Option.any_eq_true _ _).1 hq
        rw [List.head?_reverse] at hlast
        rcases hp with rfl | hp
        · cases hlast
        · rw [hp] at hlast
          cases hlast
          cases he
  · rintro ⟨p, l, rfl, hp, hhead⟩
    refine ⟨q ++ p, l, by simp, ?_, fun d hd => hx d (List.mem_append_right p hd), hhead⟩
    rcases hp with ⟨rfl, rfl⟩ | hp
    · left
      have hnil : q.reverse = [] := hq
      simpa using hnil
    · right
      have hne : p ≠ [] := by
        rintro rfl
        cases hp
      rw [List.getLast?_append_of_ne_nil q hne, hp]

theorem exists_open_statement (z : Text) :
    ∃ fresh q s, z = q ++ s ∧ EndsBefore fresh q.reverse ∧ ∀ c ∈ s, endsStatement c = false := by
  have hsplit := List.takeWhile_append_dropWhile (p := fun c => !endsStatement c) (l := z.reverse)
  have hclosed : ∀ c ∈ z.reverse.takeWhile (fun c => !endsStatement c), endsStatement c = false :=
    fun c hc => by simpa using List.mem_takeWhile_imp hc
  have hstop := List.head?_dropWhile_not (fun c => !endsStatement c) z.reverse
  generalize z.reverse.takeWhile (fun c => !endsStatement c) = s at hsplit hclosed
  generalize z.reverse.dropWhile (fun c => !endsStatement c) = q at hsplit hstop
  refine ⟨q.isEmpty, q.reverse, s.reverse, ?_, ?_, fun c hc => hclosed c (List.mem_reverse.1 hc)⟩
  · rw [← List.reverse_append, hsplit, List.reverse_reverse]
  · rw [List.reverse_reverse]
    cases q with
    | nil => rfl
    | cons c q => simpa [EndsBefore] using hstop

theorem statementRest_spec (z : Text) :
    statementRest z.reverse = z ∧ Unparted [] z ∨
      ∃ x c, z = x ++ c :: statementRest z.reverse ∧ Parts x c ∧
        Unparted (x ++ [c]) (statementRest z.reverse) := by
  obtain ⟨fresh, q, s, rfl, hq, hs⟩ := exists_open_statement z
  have hrest : statementRest (q ++ s).reverse = (afterDirectives (.plain fresh) s).getD s := by
    rw [List.reverse_append, statementRest_eq hs hq]
  have hparts {x y : Text} {c : Char} (hsplit : s = x ++ c :: y) :
      Parts (q ++ x) c ↔ c = '\n' ∧ Breaks (.plain fresh) x := by
    rw [(breaks_iff x).1]
    exact parts_iff hq (fun d hd => hs d (by rw [hsplit]; exact List.mem_append_left _ hd))
      (hs c (by rw [hsplit]; simp))
  rw [hrest]
  cases hafter : afterDirectives (.plain fresh) s with
  | none =>
    rw [Option.getD_none]
    have hwhole : Unparted q s := by
      intro x c y hsplit hpart
      obtain ⟨rfl, hbreaks⟩ := (hparts hsplit).1 hpart
      exact afterDirectives_eq_none_iff.1 hafter x y hsplit hbreaks
    cases fresh with
    | true =>
      obtain rfl : q = [] := List.reverse_eq_nil_iff.1 hq
      exact .inl ⟨rfl, hwhole⟩
    | false =>
      obtain ⟨e, hlast, he⟩ := (Option.any_eq_true _ _).1 hq
      rw [List.head?_reverse] at hlast
      obtain ⟨x, rfl⟩ := List.getLast?_eq_some_iff.1 hlast
      exact .inr ⟨x, e, by simp, .inl he, hwhole⟩
  | some r =>
    rw [Option.getD_some]
    obtain ⟨x, rfl, hbreaks, hlast⟩ := afterDirectives_eq_some_iff.1 hafter
    refine .inr ⟨q ++ x, '\n', by simp, (hparts rfl).2 ⟨rfl, hbreaks⟩, ?_⟩
    rintro x' c y rfl hpart
    have hsplit : x ++ '\n' :: (x' ++ c :: y) = (x ++ '\n' :: x') ++ c :: y := by simp
    rw [List.append_assoc, List.append_assoc, List.singleton_append, hparts hsplit] at hpart
    obtain ⟨rfl, hbreaks'⟩ := hpart
    exact hlast x' y rfl hbreaks'

theorem unparted_append {z x y : Text} : Unparted z (x ++ y) ↔ Unparted z x ∧ Unparted (z ++ x) y := by
  constructor
  · intro h
    refine ⟨fun u c v huv => h u c (v ++ y) (by rw [huv]; simp), fun u c v huv => ?_⟩
    rw [List.append_assoc]
    exact h (x ++ u) c v (by rw [huv]; simp)
  · rintro ⟨hx, hy⟩ u c v huv
    rcases List.append_eq_append_iff.1 huv with ⟨u', rfl, hv⟩ | ⟨u', rfl, hv⟩
    · have hpart := hy u' c v hv
      rwa [List.append_assoc] at hpart
    · cases u' with
      | nil =>
        have hpart := hy [] c v hv.symm
        rwa [List.append_nil, List.append_nil] at hpart
      | cons d u' =>
        obtain ⟨rfl, -⟩ := List.cons.inj hv
        exact hx u c u' rfl

theorem unparted_of_closed {z v : Text} (hv : ∀ c ∈ v, endsStatement c = false ∧ c ≠ '\n') :
    Unparted z v := by
  rintro x c y rfl hpart
  obtain ⟨hends, hbreak⟩ := hv c (by simp)
  rcases hpart with hpart | ⟨rfl, -⟩
  · rw [hends] at hpart
    cases hpart
  · exact hbreak rfl

theorem statementRest_suffix (z : Text) : statementRest z.reverse <:+ z := by
  rcases statementRest_spec z with ⟨hwhole, -⟩ | ⟨x, c, hsplit, -⟩
  · simp only [hwhole, List.suffix_refl]
  · exact ⟨x ++ [c], by rw [List.append_assoc, List.singleton_append, ← hsplit]⟩

theorem unparted_iff {q v : Text} : Unparted q v ↔ v <:+ statementRest (q ++ v).reverse := by
  constructor
  · intro h
    refine List.suffix_of_suffix_length_le (List.suffix_append q v) (statementRest_suffix _) ?_
    rcases statementRest_spec (q ++ v) with ⟨hwhole, -⟩ | ⟨x, c, hsplit, hpart, -⟩
    · rw [hwhole, List.length_append]
      omega
    · rcases List.append_eq_append_iff.1 hsplit with ⟨x', rfl, hv⟩ | ⟨y, rfl, hrest⟩
      · exact absurd hpart (h x' c _ hv)
      · cases y with
        | nil =>
          rw [List.append_nil] at h
          exact absurd hpart (by simpa using h [] c _ hrest.symm)
        | cons d y =>
          obtain ⟨-, hbehind⟩ := List.cons.inj hrest
          rw [hbehind]
          exact (List.suffix_append y v).length_le
  · rintro ⟨y, hy⟩
    rcases statementRest_spec (q ++ v) with ⟨-, hwhole⟩ | ⟨x, c, hsplit, -, hlast⟩
    · exact (unparted_append.1 hwhole).2
    · rw [← hy] at hsplit hlast
      have hwhole : q ++ v = (x ++ c :: y) ++ v := by
        rw [hsplit]
        simp
      obtain rfl := List.append_cancel_right hwhole
      have hbehind := (unparted_append.1 hlast).2
      rwa [List.append_assoc] at hbehind

theorem statementRest_eq_of_parts {x y : Text} {c : Char} (hpart : Parts x c) (hy : Unparted (x ++ [c]) y) :
    statementRest (x ++ c :: y).reverse = y := by
  have hbehind : y <:+ statementRest (x ++ c :: y).reverse := by
    have h := unparted_iff.1 hy
    rwa [List.append_assoc] at h
  refine (hbehind.eq_of_length_le ?_).symm
  by_contra hlt
  have hmore : c :: y <:+ statementRest (x ++ c :: y).reverse := by
    refine List.suffix_of_suffix_length_le (List.suffix_append x _) (statementRest_suffix _) ?_
    rw [List.length_cons]
    omega
  exact unparted_iff.2 hmore [] c y rfl (by simpa using hpart)

theorem exists_of_not_unparted {q v : Text} (h : ¬ Unparted q v) :
    ∃ x c, v = x ++ c :: statementRest (q ++ v).reverse ∧ Parts (q ++ x) c ∧
      Unparted (q ++ x ++ [c]) (statementRest (q ++ v).reverse) := by
  rcases statementRest_spec (q ++ v) with ⟨-, hwhole⟩ | ⟨x, c, hsplit, hpart, hlast⟩
  · exact absurd (unparted_append.1 hwhole).2 h
  · rcases List.append_eq_append_iff.1 hsplit with ⟨x', rfl, hv⟩ | ⟨y, hq, hrest⟩
    · exact ⟨x', c, hv, hpart, hlast⟩
    · cases y with
      | nil =>
        rw [List.append_nil] at hq
        subst hq
        exact ⟨[], c, hrest.symm, by simpa using hpart, by simpa using hlast⟩
      | cons d y =>
        obtain ⟨-, hbehind⟩ := List.cons.inj hrest
        exact absurd (unparted_iff.2 (hbehind ▸ List.suffix_append y v)) h

end HeaderProbe
