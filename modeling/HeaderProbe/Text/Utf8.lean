import HeaderProbe.Text.Blank

namespace HeaderProbe.Utf8

def replacement : Char := '\uFFFD'

structure Pending where
  bits : Nat
  due : Nat
  low : Nat
  high : Nat
  deriving DecidableEq, Repr

def begin? (b : Nat) : Option Pending :=
  if 0xc2 ≤ b ∧ b ≤ 0xdf then some ⟨b - 0xc0, 1, 0x80, 0xbf⟩
  else if b = 0xe0 then some ⟨0, 2, 0xa0, 0xbf⟩
  else if b = 0xed then some ⟨0xd, 2, 0x80, 0x9f⟩
  else if 0xe1 ≤ b ∧ b ≤ 0xef then some ⟨b - 0xe0, 2, 0x80, 0xbf⟩
  else if b = 0xf0 then some ⟨0, 3, 0x90, 0xbf⟩
  else if b = 0xf4 then some ⟨4, 3, 0x80, 0x8f⟩
  else if 0xf1 ≤ b ∧ b ≤ 0xf3 then some ⟨b - 0xf0, 3, 0x80, 0xbf⟩
  else none

def first (b : Nat) : Text × Option Pending :=
  if b < 0x80 then ([Char.ofNat b], none)
  else match begin? b with
    | some p => ([], some p)
    | none => ([replacement], none)

def step (pending : Option Pending) (b : Nat) : Text × Option Pending :=
  match pending with
  | none => first b
  | some p =>
      if p.low ≤ b ∧ b ≤ p.high then
        let bits := p.bits * 64 + (b - 0x80)
        if p.due ≤ 1 then ([Char.ofNat bits], none) else ([], some ⟨bits, p.due - 1, 0x80, 0xbf⟩)
      else
        let (cs, next) := first b
        (replacement :: cs, next)

def decodeFrom : Option Pending → List UInt8 → Text
  | none, [] => []
  | some _, [] => [replacement]
  | pending, b :: r =>
      let (cs, next) := step pending b.toNat
      cs ++ decodeFrom next r

def decode (bytes : List UInt8) : Text :=
  decodeFrom none bytes

def encode (t : Text) : List UInt8 :=
  t.flatMap String.utf8EncodeChar

end HeaderProbe.Utf8
