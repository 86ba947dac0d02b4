import HeaderProbe.Source.Mask
import HeaderProbe.Source.Bracket
import HeaderProbe.Source.Directive
import HeaderProbe.Source.Span

namespace HeaderProbe

open Text

def notTypes : List Text :=
  ["return", "else", "case", "do", "goto", "sizeof", "typeof", "__typeof__", "if", "while", "for",
    "switch", "define"].map String.toList

def opensPointer (before : Text) : Bool :=
  match skipBlanks before with
  | '*' :: r => (skipBlanks r).head? == some '('
  | _ => false

def pointerWindow : Nat := 80

def isDeclaredName (before : Text) : Bool :=
  match before.dropWhile fun c => isBlank c || c == '*' with
  | [] => false
  | c :: r =>
      if c = ')' then
        (Bracket.paren.beforeOpen (c :: r)).any fun b => beginsAttribute (wordBefore b)
      else if isWordChar c then
        let word := wordBefore (c :: r)
        !notTypes.contains word && !word.head?.any isDigit
      else false

def callShape (name : Text) : Shape Bool := fun p =>
  if mayBeginName p.before then do
    let rest ← name.isPrefixOf? p.after
    match skipBlanks rest with
    | '(' :: r => some (false, r)
    | ')' :: r =>
        match skipBlanks r with
        | '(' :: r => some (true, r)
        | _ => none
    | _ => none
  else none

theorem length_skipBlanks_le (s : Text) : (skipBlanks s).length ≤ s.length :=
  (List.dropWhile_sublist isBlank).length_le

theorem length_afterAttribute_lt {s r : Text} (h : afterAttribute s = some r) :
    r.length < s.length := by
  have hs := length_skipBlanks_le s
  simp only [afterAttribute] at h
  split at h
  · next ha =>
    obtain rfl := Option.some.inj h
    have hw : ((skipBlanks s).takeWhile isWordChar).length > 2 := by
      simp only [isAttribute, Bool.and_eq_true, decide_eq_true_eq] at ha
      exact ha.2
    have := congrArg List.length
      (List.takeWhile_append_dropWhile (p := isWordChar) (l := skipBlanks s))
    simp only [List.length_append] at this
    omega
  · cases h

theorem Bracket.length_partner_lt {up down : Char} {d : Nat} {s r : Text}
    (h : Bracket.partner up down d s = some r) : r.length < s.length := by
  fun_induction Bracket.partner up down d s <;> simp_all <;> omega

def afterTrailer (s : Text) : Option Text :=
  match ha : afterAttribute s with
  | none =>
      match skipBlanks s with
      | ';' :: r => some r
      | _ => none
  | some r =>
      have := length_afterAttribute_lt ha
      have := length_skipBlanks_le r
      if (skipBlanks r).head? = some '(' then
        match hc : Bracket.paren.afterClose (skipBlanks r) with
        | none => none
        | some r' =>
            have := Bracket.length_partner_lt hc
            afterTrailer r'
      else afterTrailer (skipBlanks r)
termination_by s.length

def declaresFunction (o : Occurrence Bool) : Bool :=
  !inDirective o.place.before &&
    if o.value then opensPointer (o.place.before.take pointerWindow)
    else isDeclaredName o.place.before

def functionExtent? (o : Occurrence Bool) : Option (Nat × Nat) := do
  guard (declaresFunction o)
  let close ← Bracket.paren.afterClose ('(' :: o.rest)
  let rest := (afterTrailer close).getD close
  return (statementStart o.place.before, o.place.offset + o.place.reach rest)

def findFunction (name text : Text) : Option Span :=
  ((Place.start (mask text)).occurrences (callShape name)).findSome? functionExtent?
    |>.map fun (start, stop) => Span.cut text start stop

end HeaderProbe
