import HeaderProbe.Text.Newline
import HeaderProbe.Text.Utf8
import Mathlib.Algebra.Order.Ring.Nat
import Mathlib.Data.List.Basic
import Mathlib.Tactic.GCongr

namespace HeaderProbe

def withReturns (bytes : List UInt8) : List UInt8 :=
  bytes.flatMap fun b => if b = 10 then [13, 10] else [b]

@[simp]
theorem withReturns_nil : withReturns [] = [] := rfl

theorem withReturns_lineFeed (r : List UInt8) : withReturns (10 :: r) = 13 :: 10 :: withReturns r :=
  rfl

theorem withReturns_of_ne {b : UInt8} (h : b ≠ 10) (r : List UInt8) :
    withReturns (b :: r) = b :: withReturns r := by
  simp [withReturns, h]

theorem withReturns_eq_nil_iff {bytes : List UInt8} : withReturns bytes = [] ↔ bytes = [] := by
  cases bytes with
  | nil => simp
  | cons b r =>
    by_cases h : b = 10
    · subst h
      simp [withReturns_lineFeed]
    · simp [withReturns_of_ne h]

namespace Text

theorem unifyFrom_append {cs : Text} (h : '\r' ∉ cs) (t : Text) :
    unifyFrom false (cs ++ t) = unifyFrom false cs ++ unifyFrom false t := by
  induction cs with
  | nil => rfl
  | cons c cs ih =>
    obtain ⟨hc, hcs⟩ := List.ne_and_not_mem_of_not_mem_cons h
    simp only [List.cons_append, unifyFrom, hc.symm, if_false, ih hcs]
    split <;> rfl

end Text

namespace Utf8

structure Pending.Long (p : Pending) : Prop where
  low : 0x80 ≤ p.low
  least : 0x80 ≤ (p.bits * 64 + (p.low - 0x80)) * 64 ^ (p.due - 1)

theorem long_of_begin? {b : Nat} {p : Pending} (h : begin? b = some p) : p.Long := by
  unfold begin? at h
  split_ifs at h <;> simp only [Option.some.injEq] at h <;> subst h <;>
    exact ⟨by simp, by simp; try omega⟩

theorem Pending.Long.next {p : Pending} (h : p.Long) {b : Nat} (hb : p.low ≤ b) (hdue : ¬ p.due ≤ 1) :
    Pending.Long ⟨p.bits * 64 + (b - 0x80), p.due - 1, 0x80, 0xbf⟩ where
  low := le_refl _
  least := by
    have hpow : 64 ^ (p.due - 1) = 64 * 64 ^ (p.due - 1 - 1) := by
      rw [← pow_succ']
      congr 1
      omega
    calc 0x80 ≤ (p.bits * 64 + (p.low - 0x80)) * 64 ^ (p.due - 1) := h.least
      _ ≤ (p.bits * 64 + (b - 0x80)) * 64 ^ (p.due - 1) := by
          gcongr
      _ = _ := by
          rw [hpow, Nat.sub_self, Nat.add_zero, Nat.mul_assoc]

theorem Pending.Long.last {p : Pending} (h : p.Long) {b : Nat} (hb : p.low ≤ b) (hdue : p.due ≤ 1) :
    0x80 ≤ p.bits * 64 + (b - 0x80) := by
  have hleast := h.least
  rw [Nat.sub_eq_zero_of_le hdue, pow_zero, Nat.mul_one] at hleast
  omega

def broken (pending : Option Pending) : Text :=
  (pending.map fun _ => replacement).toList

theorem return_not_mem_broken (pending : Option Pending) : '\r' ∉ broken pending := by
  cases pending <;> simp [broken, replacement]

theorem eq_of_ofNat_eq_return {n : Nat} (h : Char.ofNat n = '\r') : n = 13 := by
  by_cases hn : n.isValidChar
  · rw [Char.ofNat, dif_pos hn] at h
    exact congrArg Char.toNat h
  · rw [Char.ofNat, dif_neg hn] at h
    cases h

theorem return_not_mem_first {b : Nat} (h : b ≠ 13) : '\r' ∉ (first b).1 := by
  unfold first
  split
  · simpa using fun hr => h (eq_of_ofNat_eq_return hr.symm)
  · split <;> simp [replacement]

theorem return_not_mem_step {pending : Option Pending} (hlong : ∀ p ∈ pending, p.Long) {b : Nat}
    (h : b ≠ 13) : '\r' ∉ (step pending b).1 := by
  cases pending with
  | none => exact return_not_mem_first h
  | some p =>
    have hp : p.Long := hlong p rfl
    unfold step
    dsimp only
    split
    · next hb =>
      split
      · next hdue =>
        have := hp.last hb.1 hdue
        simp only [List.mem_singleton]
        intro hr
        have := eq_of_ofNat_eq_return hr.symm
        omega
      · simp
    · have := return_not_mem_first h
      simpa [replacement] using this

theorem long_of_first {b : Nat} : ∀ p ∈ (first b).2, p.Long := by
  unfold first
  split
  · simp
  · cases h : begin? b with
    | none => simp
    | some p => simpa using long_of_begin? h

theorem long_of_step {pending : Option Pending} (hlong : ∀ p ∈ pending, p.Long) (b : Nat) :
    ∀ p ∈ (step pending b).2, p.Long := by
  cases pending with
  | none => exact long_of_first
  | some p =>
    unfold step
    dsimp only
    split
    · next hb =>
      split
      · simp
      · next hdue => simpa using (hlong p rfl).next hb.1 hdue
    · exact long_of_first

theorem step_of_lt {pending : Option Pending} (hlong : ∀ p ∈ pending, p.Long) {b : Nat}
    (h : b < 0x80) : step pending b = (broken pending ++ [Char.ofNat b], none) := by
  cases pending with
  | none => simp [step, first, broken, h]
  | some p =>
    have hlow := (hlong p rfl).low
    have hb : ¬ (p.low ≤ b ∧ b ≤ p.high) := by omega
    simp [step, first, broken, h, hb]

theorem unifyFrom_decodeFrom_withReturns {bytes : List UInt8} (h : 13 ∉ bytes) {pending : Option Pending}
    (hlong : ∀ p ∈ pending, p.Long) :
    Text.unifyFrom false (decodeFrom pending (withReturns bytes)) =
      Text.unifyFrom false (decodeFrom pending bytes) := by
  induction bytes generalizing pending with
  | nil => rfl
  | cons b r ih =>
    obtain ⟨hb, hr⟩ := List.ne_and_not_mem_of_not_mem_cons h
    by_cases hfeed : b = 10
    · subst hfeed
      have hreturn : step pending (13 : UInt8).toNat = (broken pending ++ ['\r'], none) :=
        step_of_lt hlong (by decide)
      have hline : step pending (10 : UInt8).toNat = (broken pending ++ ['\n'], none) :=
        step_of_lt hlong (by decide)
      have hnext : step none (10 : UInt8).toNat = (['\n'], none) := rfl
      rw [withReturns_lineFeed]
      simp only [decodeFrom, hreturn, hline, hnext, List.append_assoc,
        Text.unifyFrom_append (return_not_mem_broken pending)]
      simp [Text.unifyFrom, ih hr]
    · have hcode : b.toNat ≠ 13 := fun hcode => hb (UInt8.toNat_inj.1 hcode).symm
      rw [withReturns_of_ne hfeed]
      simp only [decodeFrom, Text.unifyFrom_append (return_not_mem_step hlong hcode),
        ih hr (long_of_step hlong b.toNat)]

theorem unifyLineEnds_decode_withReturns {bytes : List UInt8} (h : 13 ∉ bytes) :
    Text.unifyLineEnds (decode (withReturns bytes)) = Text.unifyLineEnds (decode bytes) :=
  unifyFrom_decodeFrom_withReturns h (by simp)

end Utf8

end HeaderProbe
