import HeaderProbe.Query.Printer
import HeaderProbe.Pattern.Match
import HeaderProbe.Source.Span

namespace HeaderProbe

structure Verdict where
  holds : Bool
  evidence : Text
  deriving DecidableEq, Repr

namespace Test

def hit? (t : Test) (span : Option Span) : Option Pattern.Hit := do
  (← t.pattern?).hit? (← span).text

def accepts (span : Option Span) (hit : Option Pattern.Hit) : Test → Bool
  | presence => span.isSome
  | has _ => hit.isSome
  | lacks _ => span.isSome && hit.isNone
  | absent => span.isNone

def holds (t : Test) (span : Option Span) : Bool :=
  t.accepts span (t.hit? span)

def found (hit : Option Pattern.Hit) : Test → Text
  | has _ =>
      match hit with
      | some h => "found '".toList ++ Text.collapse h.text ++ ['\x27']
      | none => []
  | _ => []

def verdictOn (t : Test) (span : Option Span) (hit : Option Pattern.Hit) (place : Text) :
    Verdict where
  holds := t.accepts span hit
  evidence := [' '].intercalate
    ([t.print, "in".toList, place, t.found hit].filter fun part => !part.isEmpty)

def judge (t : Test) (span : Option Span) (place : Text) : Verdict :=
  t.verdictOn span (t.hit? span) place

end Test

end HeaderProbe
