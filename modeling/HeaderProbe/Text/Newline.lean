import HeaderProbe.Text.Blank

namespace HeaderProbe.Text

def unifyFrom : (returned : Bool) → Text → Text
  | _, [] => []
  | returned, c :: r =>
      if c = '\r' then '\n' :: unifyFrom true r
      else if c = '\n' then if returned then unifyFrom false r else '\n' :: unifyFrom false r
      else c :: unifyFrom false r

def unifyLineEnds (t : Text) : Text :=
  unifyFrom false t

def lines : Text → List Text
  | [] => []
  | c :: r =>
      if c = '\n' then [c] :: lines r
      else match lines r with
        | [] => [[c]]
        | l :: rest => (c :: l) :: rest

end HeaderProbe.Text
