import HeaderProbe.Text.Place
import HeaderProbe.Text.Alphanumeric
import HeaderProbe.Text.Digit

namespace HeaderProbe

open Text

def wordBefore (before : Text) : Text :=
  ((skipBlanks before).takeWhile isWordChar).reverse

def isWordEdge (previous next : Option Char) : Bool :=
  previous.any isWordChar != next.any isWordChar

def mayBeginName (before : Text) : Bool :=
  !before.head?.any fun c => isWordChar c || c == '.' || c == '>'

def beginsAttribute (s : Text) : Bool :=
  ['_', '_'].isPrefixOf s

def isAttribute (w : Text) : Bool :=
  beginsAttribute w && w.length > 2

def afterAttribute (s : Text) : Option Text :=
  let s := skipBlanks s
  if isAttribute (s.takeWhile isWordChar) then some (s.dropWhile isWordChar) else none

end HeaderProbe
