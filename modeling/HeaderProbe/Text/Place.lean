import HeaderProbe.Text.Blank

namespace HeaderProbe

/-- Where a text is cut in two: `before` runs back from the place, `after` on from it. -/
structure Place where
  before : Text
  after : Text
  deriving DecidableEq, Repr

namespace Place

def start (t : Text) : Place :=
  ⟨[], t⟩

def of (t : Text) (n : Nat) : Place :=
  ⟨(t.take n).reverse, t.drop n⟩

def offset (p : Place) : Nat :=
  p.before.length

def text (p : Place) : Text :=
  p.before.reverse ++ p.after

def reach (p : Place) (rest : Text) : Nat :=
  p.after.length - rest.length

def atLineStart (p : Place) : Bool :=
  p.before.head?.all (· == '\n')

end Place

structure Occurrence (α : Type) where
  place : Place
  value : α
  rest : Text
  deriving DecidableEq, Repr

def Occurrence.stop {α : Type} (o : Occurrence α) : Nat :=
  o.place.offset + o.place.reach o.rest

abbrev Shape (α : Type) := Place → Option (α × Text)

namespace Place

def occurrences {α : Type} (shape : Shape α) (p : Place) : List (Occurrence α) :=
  go 0 p.before p.after
where
  go : Nat → Text → Text → List (Occurrence α)
    | 0, b, [] => (shape ⟨b, []⟩).toList.map fun (a, rest) => ⟨⟨b, []⟩, a, rest⟩
    | _ + 1, _, [] => []
    | 0, b, c :: r =>
        match shape ⟨b, c :: r⟩ with
        | none => go 0 (c :: b) r
        | some (a, rest) => ⟨⟨b, c :: r⟩, a, rest⟩ :: go (r.length - rest.length) (c :: b) r
    | n + 1, b, c :: r => go n (c :: b) r

end Place

end HeaderProbe
