import HeaderProbe.Text.Number
import HeaderProbe.Text.Quoted

namespace HeaderProbe.Pattern

inductive Fault where
  | badEscape (escape : Text)
  | danglingEscape
  | incompleteEscape (escape : Text)
  | octalOutOfRange (escape : Text)
  | missing (what : Text)
  | unterminated (terminator what : Text)
  | unknownCharacterName (name : Text)
  | noSuchGroup (number : Nat)
  | openGroup
  | groupInSameLookbehind
  | unterminatedSet
  | badRange (first last : Text)
  | nothingToRepeat
  | multipleRepeat
  | leastAboveMost
  | unexpectedEnd
  | unknownExtension (text : Text)
  | unknownGroupName (name : Text)
  | badGroupName (name : Text)
  | badGroupNumber
  | redefinedGroup (name : Text) (number earlier : Nat)
  | thirdBranch
  | lateGlobalFlags
  | unknownFlag
  | bytesFlag
  | clashingFlags
  | globalFlagTurnedOn
  | typeFlagTurnedOff
  | globalFlagTurnedOff
  | flagOnAndOff
  | unbalancedClose
  | tooFarBehind
  | variableLookbehind
  | templateRepeat (operator : Text)
  | asciiAndUnicode
  | repetitionTooLarge
  | tooManyDigits (n : Nat)
  deriving DecidableEq, Repr

def Fault.message : Fault → Text
  | badEscape e => "bad escape ".toList ++ e
  | danglingEscape => "bad escape (end of pattern)".toList
  | incompleteEscape e => "incomplete escape ".toList ++ e
  | octalOutOfRange e => "octal escape value ".toList ++ e ++ " outside of range 0-0o377".toList
  | missing w => "missing ".toList ++ w
  | unterminated t w => "missing ".toList ++ t ++ ", unterminated ".toList ++ w
  | unknownCharacterName n => "undefined character name ".toList ++ Text.quoted n
  | noSuchGroup n => "invalid group reference ".toList ++ Text.ofNat n
  | openGroup => "cannot refer to an open group".toList
  | groupInSameLookbehind =>
      "cannot refer to group defined in the same lookbehind subpattern".toList
  | unterminatedSet => "unterminated character set".toList
  | badRange a b => "bad character range ".toList ++ a ++ '-' :: b
  | nothingToRepeat => "nothing to repeat".toList
  | multipleRepeat => "multiple repeat".toList
  | leastAboveMost => "min repeat greater than max repeat".toList
  | unexpectedEnd => "unexpected end of pattern".toList
  | unknownExtension t => "unknown extension ".toList ++ t
  | unknownGroupName n => "unknown group name ".toList ++ Text.quoted n
  | badGroupName n => "bad character in group name ".toList ++ Text.quoted n
  | badGroupNumber => "bad group number".toList
  | redefinedGroup n g old =>
      "redefinition of group name ".toList ++ Text.quoted n ++ " as group ".toList ++
        Text.ofNat g ++ "; was group ".toList ++ Text.ofNat old
  | thirdBranch => "conditional backref with more than two branches".toList
  | lateGlobalFlags => "global flags not at the start of the expression".toList
  | unknownFlag => "unknown flag".toList
  | bytesFlag => "bad inline flags: cannot use 'L' flag with a str pattern".toList
  | clashingFlags => "bad inline flags: flags 'a', 'u' and 'L' are incompatible".toList
  | globalFlagTurnedOn => "bad inline flags: cannot turn on global flag".toList
  | typeFlagTurnedOff => "bad inline flags: cannot turn off flags 'a', 'u' and 'L'".toList
  | globalFlagTurnedOff => "bad inline flags: cannot turn off global flag".toList
  | flagOnAndOff => "bad inline flags: flag turned on and off".toList
  | unbalancedClose => "unbalanced parenthesis".toList
  | tooFarBehind => "invalid SRE code".toList
  | variableLookbehind => "look-behind requires fixed-width pattern".toList
  | templateRepeat o => "internal: unsupported template operator ".toList ++ o
  | asciiAndUnicode => "ASCII and UNICODE flags are incompatible".toList
  | repetitionTooLarge => "the repetition number is too large".toList
  | tooManyDigits n =>
      "Exceeds the limit (4300 digits) for integer string conversion: value has ".toList ++
        Text.ofNat n ++
        " digits; use sys.set_int_max_str_digits() to increase the limit".toList

structure Error where
  fault : Fault
  position : Option Nat
  deriving DecidableEq, Repr

inductive ErrorClass where
  | syntactic
  | overflow
  | badValue
  | unusable
  deriving DecidableEq, Repr

def Error.errorClass (e : Error) : ErrorClass :=
  match e.fault with
  | .repetitionTooLarge => .overflow
  | .asciiAndUnicode => .badValue
  | .tooManyDigits _ => .badValue
  | .tooFarBehind => .unusable
  | _ => .syntactic

def Error.message (e : Error) (pattern : Text) : Text :=
  match e.position with
  | none => e.fault.message
  | some n =>
      let before := pattern.take n
      let column := (before.reverse.takeWhile (· ≠ '\n')).length + 1
      e.fault.message ++ " at position ".toList ++ Text.ofNat n ++
        if pattern.contains '\n' then
          " (line ".toList ++ Text.ofNat (before.count '\n' + 1) ++ ", column ".toList ++
            Text.ofNat column ++ [')']
        else []

end HeaderProbe.Pattern
