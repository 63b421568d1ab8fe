import TextGrammar.Text.Bytes

/-!
Decimal integers in text. A number is read into a range: the ends of the range bound the value,
and a minus sign is known only to a range that has negative values. The first fault from the left
is the one reported.
-/

namespace TextGrammar

structure IntegerRange where
  low : Int
  high : Int

namespace IntegerRange

def signed8 : IntegerRange := ⟨-128, 127⟩

def unsigned32 : IntegerRange := ⟨0, 4294967295⟩

def signed64 : IntegerRange := ⟨-9223372036854775808, 9223372036854775807⟩

def contains (range : IntegerRange) (value : Int) : Bool :=
  decide (range.low ≤ value) && decide (value ≤ range.high)

end IntegerRange

inductive IntegerError
  | empty
  | invalidDigit
  | tooLarge
  | tooSmall
  deriving DecidableEq, Repr

def IntegerError.message : IntegerError → String
  | .empty => "cannot parse integer from empty string"
  | .invalidDigit => "invalid digit found in string"
  | .tooLarge => "number too large to fit in target type"
  | .tooSmall => "number too small to fit in target type"

def digitValue? (character : Char) : Option Nat :=
  if character.isDigit then some (character.toNat - '0'.toNat) else none

/-- Digits after a value, upwards; the value must stay at or below `high`. -/
def readUpwards (high : Int) : Int → Text → Except IntegerError Int
  | value, [] => .ok value
  | value, character :: rest =>
      match digitValue? character with
      | none => .error .invalidDigit
      | some digit =>
          let next := value * 10 + digit
          if high < next then .error .tooLarge else readUpwards high next rest

def readDownwards (low : Int) : Int → Text → Except IntegerError Int
  | value, [] => .ok value
  | value, character :: rest =>
      match digitValue? character with
      | none => .error .invalidDigit
      | some digit =>
          let next := value * 10 - digit
          if next < low then .error .tooSmall else readDownwards low next rest

def IntegerRange.read (range : IntegerRange) : Text → Except IntegerError Int
  | [] => .error .empty
  | ['+'] => .error .invalidDigit
  | ['-'] => .error .invalidDigit
  | '+' :: digits => readUpwards range.high 0 digits
  | '-' :: digits =>
      if range.low < 0 then readDownwards range.low 0 digits else .error .invalidDigit
  | digits => readUpwards range.high 0 digits

def decimalDigits (value : Nat) : Text := Nat.toDigits 10 value

def decimal : Int → Text
  | .ofNat value => decimalDigits value
  | .negSucc value => '-' :: decimalDigits (value + 1)

end TextGrammar
