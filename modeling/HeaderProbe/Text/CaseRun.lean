namespace HeaderProbe.Text

structure CaseRun where
  first : Nat
  last : Nat
  step : Nat
  shift : Int

namespace CaseRun

def covers (run : CaseRun) (n : Nat) : Bool :=
  run.first ≤ n && n ≤ run.last && (n - run.first) % run.step == 0

def move (run : CaseRun) (n : Nat) : Nat :=
  ((n : Int) + run.shift).toNat

def apply (runs : List CaseRun) (n : Nat) : Nat :=
  match runs.find? (·.covers n) with
  | some run => run.move n
  | none => n

def within (run : CaseRun) (first last : Nat) : List Nat :=
  if last < run.first || run.last < first then []
  else (List.range ((run.last - run.first) / run.step + 1)).map (run.first + · * run.step)
    |>.filter fun n => first ≤ n && n ≤ last

end CaseRun

end HeaderProbe.Text
