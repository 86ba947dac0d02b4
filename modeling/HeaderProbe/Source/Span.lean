import HeaderProbe.Text.Blank

namespace HeaderProbe

structure Span where
  text : Text
  start : Nat
  stop : Nat
  line : Nat
  deriving DecidableEq, Repr

def Span.cut (t : Text) (start stop : Nat) : Span where
  text := (t.drop start).take (stop - start)
  start := start
  stop := stop
  line := (t.take start).count '\n' + 1

end HeaderProbe
