import HeaderProbe.Text.Alphanumeric
import HeaderProbe.Proofs.Text.Blank
import Mathlib.Data.List.Basic

namespace HeaderProbe.Text

def blankCodes : List Nat :=
  [0x20, 0x9, 0xa, 0xb, 0xc, 0xd, 0x1c, 0x1d, 0x1e, 0x1f, 0x85, 0xa0, 0x1680, 0x2000, 0x2001, 0x2002,
    0x2003, 0x2004, 0x2005, 0x2006, 0x2007, 0x2008, 0x2009, 0x200a, 0x2028, 0x2029, 0x202f, 0x205f,
    0x3000]

theorem toNat_mem_blankCodes {c : Char} (h : isBlank c = true) : c.toNat ∈ blankCodes := by
  simp only [isBlank, Bool.or_eq_true, Bool.and_eq_true, beq_iff_eq, decide_eq_true_eq] at h
  simp only [blankCodes, List.mem_cons, List.not_mem_nil, or_false]
  omega

theorem isWordChar_of_isBlank {c : Char} (h : isBlank c = true) : isWordChar c = false := by
  have hall : ∀ n ∈ blankCodes, isWordChar (Char.ofNat n) = false := by
    decide +kernel
  rw [← Char.ofNat_toNat c]
  exact hall _ (toNat_mem_blankCodes h)

theorem isBlank_of_isWordChar {c : Char} (h : isWordChar c = true) : isBlank c = false := by
  by_contra hb
  rw [isWordChar_of_isBlank (by simpa using hb)] at h
  cases h

theorem isWordChar_ne {c d : Char} (hc : isWordChar c = true) (hd : isWordChar d = false) : c ≠ d := by
  rintro rfl
  rw [hd] at hc
  cases hc

theorem takeWhile_isWordChar_append {b : Text} (hb : b.head?.any isWordChar = false)
    (s : Text) : (s ++ b).takeWhile isWordChar = s.takeWhile isWordChar := by
  have hstop : b.takeWhile isWordChar = [] := by
    cases b with
    | nil => rfl
    | cons c b =>
      have hc : isWordChar c = false := by simpa using hb
      simp [hc]
  rw [List.takeWhile_append, hstop, List.append_nil]
  split
  · next hlen => rw [(List.takeWhile_prefix isWordChar).eq_of_length hlen]
  · rfl

def IsWord (w : Text) : Prop :=
  w ≠ [] ∧ w.all isWordChar = true

instance (w : Text) : Decidable (IsWord w) :=
  inferInstanceAs (Decidable (w ≠ [] ∧ w.all isWordChar = true))

theorem IsWord.isWordChar {w : Text} (hw : IsWord w) {c : Char} (hc : c ∈ w) :
    isWordChar c = true :=
  List.all_eq_true.1 hw.2 c hc

theorem IsWord.exists_getLast? {w : Text} (hw : IsWord w) :
    ∃ c, w.getLast? = some c ∧ Text.isWordChar c = true := by
  obtain ⟨c, hc⟩ := Option.ne_none_iff_exists'.1 (mt List.getLast?_eq_none_iff.1 hw.1)
  exact ⟨c, hc, hw.isWordChar (List.mem_of_getLast? hc)⟩

structure Mention (name s u v : Text) : Prop where
  text_eq : s = u ++ name ++ v
  left : u.getLast?.any isWordChar = false
  right : v.head?.any isWordChar = false

instance (name s u v : Text) : Decidable (Mention name s u v) :=
  decidable_of_iff (s = u ++ name ++ v ∧ u.getLast?.any isWordChar = false ∧
    v.head?.any isWordChar = false) ⟨fun ⟨h, hu, hv⟩ => ⟨h, hu, hv⟩, fun ⟨h, hu, hv⟩ => ⟨h, hu, hv⟩⟩

theorem forall_mention_iff {name s : Text} {P : Text → Text → Prop} :
    (∀ u v, Mention name s u v → P u v) ↔
      ∀ n ∈ List.range (s.length + 1), Mention name s (s.take n) (s.drop (n + name.length)) →
        P (s.take n) (s.drop (n + name.length)) := by
  refine ⟨fun h n _ => h _ _, fun h u v hm => ?_⟩
  have hs := hm.text_eq
  have hu : s.take u.length = u := by
    rw [hs, List.append_assoc, List.take_left]
  have hv : s.drop (u.length + name.length) = v := by
    rw [hs, ← List.length_append, List.drop_left]
  have hlen : u.length < s.length + 1 := by
    rw [hs, List.length_append, List.length_append]
    omega
  have hn := h u.length (List.mem_range.2 hlen)
  rw [hu, hv] at hn
  exact hn hm

instance {name s : Text} {P : Text → Text → Prop} [∀ u v, Decidable (P u v)] :
    Decidable (∀ u v, Mention name s u v → P u v) :=
  decidable_of_iff _ forall_mention_iff.symm

def Unmentioned (name s : Text) : Prop :=
  ∀ u v, Mention name s u v → False

instance (name s : Text) : Decidable (Unmentioned name s) :=
  inferInstanceAs (Decidable (∀ u v, Mention name s u v → False))

theorem Mention.append {name s r u v : Text} (hname : IsWord name)
    (hedge : s.getLast?.any isWordChar = false ∨ r.head?.any isWordChar = false)
    (h : Mention name (s ++ r) u v) :
    (∃ x, v = x ++ r ∧ Mention name s u x) ∨ ∃ x, u = s ++ x ∧ Mention name r x v := by
  obtain ⟨hsr, hu, hv⟩ := h
  rw [List.append_assoc] at hsr
  rcases List.append_eq_append_iff.1 hsr with ⟨x, rfl, hr⟩ | ⟨x, rfl, hr⟩
  · refine .inr ⟨x, rfl, by rw [hr, List.append_assoc], ?_, hv⟩
    cases hx : x.getLast? with
    | none => rfl
    | some c => simpa [List.getLast?_append, hx] using hu
  · rcases List.append_eq_append_iff.1 hr with ⟨y, rfl, rfl⟩ | ⟨y, rfl, rfl⟩
    · refine .inl ⟨y, rfl, by rw [List.append_assoc], hu, ?_⟩
      cases y with
      | nil => rfl
      | cons c y => simpa using hv
    · cases x with
      | nil => exact .inr ⟨[], by simp, by simp, rfl, hv⟩
      | cons c x =>
        cases y with
        | nil => exact .inl ⟨[], rfl, by simp, hu, rfl⟩
        | cons d y =>
          exfalso
          obtain ⟨e, he⟩ := Option.ne_none_iff_exists'.1
            (mt List.getLast?_eq_none_iff.1 (List.cons_ne_nil c x))
          have hleft := hname.isWordChar (List.mem_append_left (d :: y) (List.mem_of_getLast? he))
          have hright : isWordChar d = true := hname.isWordChar (by simp)
          rw [List.getLast?_append, he, Option.some_or] at hedge
          rcases hedge with hedge | hedge
          · simp [hleft] at hedge
          · simp [hright] at hedge

theorem Mention.divided {name s r u v : Text} {c : Char} (hname : IsWord name) (hc : isWordChar c = false)
    (h : Mention name (s ++ c :: r) u v) :
    (∃ x, v = x ++ c :: r ∧ Mention name s u x) ∨ ∃ x, u = s ++ c :: x ∧ Mention name r x v := by
  have hright : (c :: r).head?.any isWordChar = false := by simpa using hc
  have hleft : [c].getLast?.any isWordChar = false := by simpa using hc
  rcases h.append hname (.inr hright) with hs | ⟨x, rfl, hr⟩
  · exact .inl hs
  · have hcut : Mention name ([c] ++ r) x v := hr
    rcases hcut.append hname (.inl hleft) with ⟨y, -, hmention⟩ | ⟨y, rfl, hmention⟩
    · have hmem : ∀ d ∈ name, d = c := by
        intro d hd
        have hin : d ∈ [c] := by
          rw [hmention.text_eq]
          simp [hd]
        exact List.mem_singleton.1 hin
      obtain ⟨d, tail, rfl⟩ := List.exists_cons_of_ne_nil hname.1
      have hd : isWordChar d = true := hname.isWordChar (List.mem_cons_self ..)
      rw [hmem d (List.mem_cons_self ..), hc] at hd
      cases hd
    · exact .inr ⟨y, rfl, hmention⟩

theorem unmentioned_of_wordless {name s : Text} (hname : IsWord name)
    (hs : ∀ c ∈ s, isWordChar c = false) : Unmentioned name s := by
  intro u v h
  obtain ⟨c, r, rfl⟩ := List.exists_cons_of_ne_nil hname.1
  have hword := hs c (by rw [h.text_eq]; simp)
  rw [hname.isWordChar (List.mem_cons_self ..)] at hword
  cases hword

namespace AllBlank

variable {w : Text} (hw : AllBlank w)
include hw

theorem wordless : ∀ c ∈ w, isWordChar c = false :=
  fun c hc => isWordChar_of_isBlank (hw c hc)

theorem unmentioned {name : Text} (hname : IsWord name) : Unmentioned name w :=
  unmentioned_of_wordless hname hw.wordless

theorem isWordChar_getLast? : w.getLast?.any isWordChar = false := by
  cases hlast : w.getLast? with
  | none => rfl
  | some c => exact hw.wordless c (List.mem_of_getLast? hlast)

theorem isWordChar_head? (hne : w ≠ []) (s : Text) : (w ++ s).head?.any isWordChar = false := by
  obtain ⟨c, w, rfl⟩ := List.exists_cons_of_ne_nil hne
  exact hw.wordless c (List.mem_cons_self ..)

end AllBlank

theorem Mention.eq_nil {name s u v : Text} (h : Mention name s u v) (hs : IsWord s) :
    u = [] ∧ v = [] := by
  have hword {c : Char} (hc : c ∈ u ++ v) : isWordChar c = true := by
    refine hs.isWordChar ?_
    rw [h.text_eq]
    rcases List.mem_append.1 hc with hc | hc <;> simp [hc]
  constructor
  · by_contra hu
    obtain ⟨c, hc⟩ := Option.ne_none_iff_exists'.1 (mt List.getLast?_eq_none_iff.1 hu)
    have hleft := h.left
    rw [hc, Option.any_some, hword (List.mem_append_left v (List.mem_of_getLast? hc))] at hleft
    cases hleft
  · by_contra hv
    obtain ⟨c, v', rfl⟩ := List.exists_cons_of_ne_nil hv
    have hright := h.right
    rw [List.head?_cons, Option.any_some, hword (by simp)] at hright
    cases hright

end HeaderProbe.Text
