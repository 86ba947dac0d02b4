import HeaderProbe.Source.Mask
import HeaderProbe.Proofs.Mask.Cut
import HeaderProbe.Proofs.Text.Strip

namespace HeaderProbe

open Text

inductive Role where
  | code
  | comment
  | literal
  deriving DecidableEq, Repr

def hiddenRole (c : Char) : Role :=
  if c = '/' then .comment else .literal

def rolesFrom : (n : Nat) → Role → Text → List (Char × Role)
  | _, _, [] => []
  | n + 1, role, c :: r => (c, role) :: rolesFrom n role r
  | 0, _, c :: r =>
      match hiddenLength (c :: r) with
      | some (n + 1) => (c, hiddenRole c) :: rolesFrom n (hiddenRole c) r
      | _ => (c, .code) :: rolesFrom 0 .code r

def roles (t : Text) : List (Char × Role) :=
  rolesFrom 0 .code t

def masked (x : Char × Role) : Char :=
  if x.2 = .code then x.1 else blankOut x.1

theorem hiddenRole_ne_code (c : Char) : hiddenRole c ≠ .code := by
  unfold hiddenRole
  split <;> simp

theorem map_fst_rolesFrom (n : Nat) (role : Role) (t : Text) :
    (rolesFrom n role t).map Prod.fst = t := by
  induction t generalizing n role with
  | nil => simp [rolesFrom]
  | cons c r ih =>
    cases n with
    | succ n => simp [rolesFrom, ih]
    | zero =>
      simp only [rolesFrom]
      split <;> simp [ih]

theorem map_masked_rolesFrom {n : Nat} {role : Role} (h : role = .code → n = 0) (t : Text) :
    (rolesFrom n role t).map masked = maskFrom n t := by
  induction t generalizing n role with
  | nil => simp [rolesFrom, maskFrom]
  | cons c r ih =>
    cases n with
    | succ n =>
      have hrole : role ≠ .code := fun hc => by cases h hc
      simp [rolesFrom, maskFrom, masked, hrole, ih]
    | zero =>
      simp only [rolesFrom, maskFrom]
      cases hlength : hiddenLength (c :: r) with
      | none => simp [masked, ih]
      | some n =>
        cases n with
        | zero => simp [masked, ih]
        | succ n => simp [masked, hiddenRole_ne_code, ih]

theorem map_fst_roles (t : Text) : (roles t).map Prod.fst = t :=
  map_fst_rolesFrom 0 .code t

theorem map_masked_roles (t : Text) : (roles t).map masked = mask t :=
  map_masked_rolesFrom (fun _ => rfl) t

def isGap : Char × Role → Bool
  | (c, .code) => isBlank c
  | (_, .comment) => true
  | (_, .literal) => false

theorem isBlank_masked (x : Char × Role) :
    isBlank (masked x) = (isGap x || decide (x.2 = .literal)) := by
  obtain ⟨c, role⟩ := x
  cases role <;> simp [masked, isGap, isBlank_blankOut]

theorem isBlank_masked_of_isGap (x : Char × Role) (hx : isGap x = true) :
    isBlank (masked x) = true := by
  rw [isBlank_masked, hx]
  rfl

theorem isBlank_masked_edge {l : List (Char × Role)} {x : Char × Role}
    (hx : (strip isGap l).head? = some x ∨ (strip isGap l).getLast? = some x) :
    isBlank (masked x) = false ↔ x.2 ≠ .literal := by
  rw [isBlank_masked, neg_of_edge_strip hx]
  simp

end HeaderProbe
