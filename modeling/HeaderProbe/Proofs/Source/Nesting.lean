import HeaderProbe.Source.Initializer
import HeaderProbe.Proofs.Source.Partner
import HeaderProbe.Proofs.Text.Blank
import Mathlib.Data.List.Basic

namespace HeaderProbe

def depth : Text → Int
  | [] => 0
  | c :: r => nesting c + depth r

@[simp] theorem depth_nil : depth [] = 0 :=
  rfl

@[simp] theorem depth_cons (c : Char) (s : Text) : depth (c :: s) = nesting c + depth s :=
  rfl

@[simp] theorem depth_append (s r : Text) : depth (s ++ r) = depth s + depth r := by
  induction s with
  | nil => simp
  | cons c s ih => rw [List.cons_append, depth_cons, ih, depth_cons, Int.add_assoc]

def isNested : (opened : List Bracket) → Text → Bool
  | opened, [] => opened.isEmpty
  | opened, c :: r =>
      match Bracket.ofOpening? c, Bracket.ofClosing? c with
      | some b, _ => isNested (b :: opened) r
      | none, some b => opened.head? == some b && isNested opened.tail r
      | none, none => isNested opened r

namespace Bracket

theorem opening_of_ofOpening? {c : Char} {b : Bracket} (h : ofOpening? c = some b) :
    c = b.opening := by
  have := List.find?_some h
  exact (beq_iff_eq.1 this).symm

theorem closing_of_ofClosing? {c : Char} {b : Bracket} (h : ofClosing? c = some b) :
    c = b.closing := by
  have := List.find?_some h
  exact (beq_iff_eq.1 this).symm

theorem mem_all (b : Bracket) : b ∈ all := by
  cases b <;> decide

theorem ne_opening_of_none {c : Char} (h : ofOpening? c = none) (b : Bracket) :
    c ≠ b.opening := by
  rintro rfl
  simpa using List.find?_eq_none.1 h b (mem_all b)

theorem ne_closing_of_none {c : Char} (h : ofClosing? c = none) (b : Bracket) :
    c ≠ b.closing := by
  rintro rfl
  simpa using List.find?_eq_none.1 h b (mem_all b)

theorem opening_injective {b b' : Bracket} (h : b.opening = b'.opening) : b = b' := by
  revert h
  cases b <;> cases b' <;> decide

theorem closing_injective {b b' : Bracket} (h : b.closing = b'.closing) : b = b' := by
  revert h
  cases b <;> cases b' <;> decide

theorem partner_of_isNested {b : Bracket} {opened : List Bracket} {s : Text}
    (h : isNested opened s = true) (r : Text) :
    partner b.opening b.closing (opened.count b + 1) (s ++ b.closing :: r) = some r := by
  induction s generalizing opened with
  | nil =>
    obtain rfl : opened = [] := by simpa [isNested] using h
    simp [partner, Ne.symm (opening_ne_closing b b)]
  | cons c s ih =>
    simp only [isNested] at h
    simp only [List.cons_append, partner]
    cases hopening : ofOpening? c with
    | some b' =>
      simp only [hopening] at h
      obtain rfl := opening_of_ofOpening? hopening
      by_cases hb : b' = b
      · subst hb
        simpa using ih h
      · rw [if_neg fun hc => hb (opening_injective hc), if_neg (opening_ne_closing b' b)]
        simpa [List.count_cons, hb] using ih h
    | none =>
      rw [if_neg (ne_opening_of_none hopening b)]
      cases hclosing : ofClosing? c with
      | none =>
        simp only [hopening, hclosing] at h
        rw [if_neg (ne_closing_of_none hclosing b)]
        exact ih h
      | some b' =>
        simp only [hopening, hclosing, Bool.and_eq_true, beq_iff_eq] at h
        obtain ⟨hhead, hnested⟩ := h
        obtain rfl := closing_of_ofClosing? hclosing
        obtain ⟨rest, rfl⟩ := List.head?_eq_some_iff.1 hhead
        by_cases hb : b' = b
        · subst hb
          simpa using ih hnested
        · rw [if_neg fun hc => hb (closing_injective hc)]
          simpa [List.count_cons, hb] using ih hnested

theorem paired_of_isNested {s : Text} (h : isNested [] s = true) (b : Bracket) :
    Paired b.opening b.closing s :=
  paired_of_partner (opening_ne_closing b b) (partner_of_isNested (b := b) h [])

end Bracket

theorem exists_opened {opened : List Bracket} {s r : Text} (h : isNested opened (s ++ r) = true) :
    ∃ opened' : List Bracket, (opened'.length : Int) = opened.length + depth s ∧
      ∀ x, isNested opened (s ++ x) = isNested opened' x := by
  induction s generalizing opened with
  | nil => exact ⟨opened, by simp, fun x => rfl⟩
  | cons c s ih =>
    simp only [List.cons_append, isNested] at h ⊢
    rw [depth_cons, nesting]
    cases hopening : Bracket.ofOpening? c with
    | some b =>
      simp only [hopening] at h
      obtain ⟨opened', hlength, hgo⟩ := ih h
      refine ⟨opened', ?_, hgo⟩
      rw [List.length_cons] at hlength
      simp only [Option.isSome_some, if_true]
      omega
    | none =>
      cases hclosing : Bracket.ofClosing? c with
      | none =>
        simp only [hopening, hclosing] at h
        obtain ⟨opened', hlength, hgo⟩ := ih h
        exact ⟨opened', by simpa using hlength, hgo⟩
      | some b =>
        simp only [hopening, hclosing, Bool.and_eq_true, beq_iff_eq] at h
        obtain ⟨hhead, hnested⟩ := h
        obtain ⟨rest, rfl⟩ := List.head?_eq_some_iff.1 hhead
        obtain ⟨opened', hlength, hgo⟩ := ih hnested
        refine ⟨opened', ?_, fun x => by simpa using hgo x⟩
        simp only [Option.isSome_none, Option.isSome_some, Bool.false_eq_true, if_true, if_false,
          List.tail_cons, List.length_cons] at hlength ⊢
        omega

theorem depth_of_isNested {s : Text} (h : isNested [] s = true) : depth s = 0 := by
  obtain ⟨opened, hlength, hgo⟩ := exists_opened (s := s) (r := []) (by simpa using h)
  have hclosed := hgo []
  rw [List.append_nil, h] at hclosed
  obtain rfl : opened = [] := by simpa [isNested] using hclosed.symm
  simpa using hlength.symm

theorem isNested_append {s r : Text} (h : isNested [] (s ++ r) = true) (hs : depth s = 0) :
    isNested [] s = true ∧ isNested [] r = true := by
  obtain ⟨opened, hlength, hgo⟩ := exists_opened h
  obtain rfl : opened = [] := List.eq_nil_of_length_eq_zero (by simp at hlength; omega)
  have hself := hgo []
  rw [List.append_nil] at hself
  exact ⟨hself, by rw [← hgo r, h]⟩

theorem nesting_eq_zero {c : Char} (hopening : ∀ b : Bracket, c ≠ b.opening)
    (hclosing : ∀ b : Bracket, c ≠ b.closing) : nesting c = 0 := by
  have hup : Bracket.ofOpening? c = none := by
    by_contra hsome
    obtain ⟨b, hb⟩ := Option.ne_none_iff_exists'.1 hsome
    exact hopening b (Bracket.opening_of_ofOpening? hb)
  have hdown : Bracket.ofClosing? c = none := by
    by_contra hsome
    obtain ⟨b, hb⟩ := Option.ne_none_iff_exists'.1 hsome
    exact hclosing b (Bracket.closing_of_ofClosing? hb)
  simp [nesting, hup, hdown]

theorem nesting_of_isBlank {c : Char} (hc : Text.isBlank c = true) : nesting c = 0 := by
  refine nesting_eq_zero ?_ ?_ <;> rintro b rfl <;> cases b <;> cases hc

theorem nesting_of_isWordChar {c : Char} (hc : Text.isWordChar c = true) : nesting c = 0 := by
  refine nesting_eq_zero ?_ ?_ <;> rintro b rfl <;> cases b <;> revert hc <;> decide +kernel

theorem depth_eq_zero {s : Text} (hs : ∀ c ∈ s, nesting c = 0) : depth s = 0 := by
  induction s with
  | nil => rfl
  | cons c s ih =>
    rw [depth_cons, hs c (List.mem_cons_self ..), ih fun d hd => hs d (List.mem_cons_of_mem c hd),
      Int.add_zero]

theorem depth_of_allBlank {w : Text} (hw : Text.AllBlank w) : depth w = 0 :=
  depth_eq_zero fun c hc => nesting_of_isBlank (hw c hc)

theorem depth_skipBlanks (s : Text) : depth (Text.skipBlanks s) = depth s := by
  conv_rhs => rw [← Text.takeWhile_append_skipBlanks s]
  rw [depth_append, depth_of_allBlank (Text.allBlank_takeWhile s), Int.zero_add]

def Unbroken (s : Text) : Prop :=
  ∀ n < s.length, s[n]? = some ',' → depth (s.take n) ≠ 0

instance (s : Text) : Decidable (Unbroken s) :=
  inferInstanceAs (Decidable (∀ n < s.length, s[n]? = some ',' → depth (s.take n) ≠ 0))

theorem unbroken_iff {s : Text} : Unbroken s ↔ ∀ u v, s = u ++ ',' :: v → depth u ≠ 0 := by
  constructor
  · rintro h u v rfl
    simpa using h u.length (by simp) (by simp)
  · intro h n hn hcomma
    exact h (s.take n) (s.drop (n + 1)) (eq_take_append_drop_of_getElem? hcomma)

theorem Unbroken.depth_ne {s u v : Text} (h : Unbroken s) (hs : s = u ++ ',' :: v) :
    depth u ≠ 0 :=
  unbroken_iff.1 h u v hs

end HeaderProbe
