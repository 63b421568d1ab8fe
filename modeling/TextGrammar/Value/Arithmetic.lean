import TextGrammar.Value

/-!
Arithmetic on signed 64-bit integers, for a number followed by pairs of a sign and a number. The
operations apply from left to right, and division drops the fraction. Every result must stay in
range.
-/

namespace TextGrammar

inductive ArithmeticError
  | overflow
  | divisionByZero (dividend : Int)
  | shape
  deriving DecidableEq, Repr

def ArithmeticError.message : ArithmeticError → String
  | .overflow => "overflow"
  | .divisionByZero dividend =>
      "division of " ++ String.ofList (decimal dividend) ++ " by zero"
  | .shape => "not arithmetic"

namespace Arithmetic

def inRange (value : Int) : Except ArithmeticError Int :=
  if IntegerRange.signed64.contains value then .ok value else .error .overflow

/-- Any sign but plus, minus and times is a division. -/
def operate (left : Int) (sign : Text) (right : Int) : Except ArithmeticError Int :=
  if sign = ['+'] then inRange (left + right)
  else if sign = ['-'] then inRange (left - right)
  else if sign = ['*'] then inRange (left * right)
  else if right = 0 then .error (.divisionByZero left)
  else inRange (left.tdiv right)

def fold (start : Int) (operations : List (Text × Int)) : Except ArithmeticError Int :=
  operations.foldlM (fun value (sign, operand) => operate value sign operand) start

def operation? : Value → Option (Text × Int)
  | .pair (.text sign) (.integer operand) => some (sign, operand)
  | _ => none

def operands? : Value → Option (Int × List (Text × Int))
  | .pair (.integer start) (.list items) =>
      (items.mapM operation?).map fun operations => (start, operations)
  | _ => none

end Arithmetic

def Value.arithmetic (value : Value) : Except String Value :=
  match Arithmetic.operands? value with
  | none => .error ArithmeticError.shape.message
  | some (start, operations) =>
      match Arithmetic.fold start operations with
      | .ok result => .ok (.integer result)
      | .error error => .error error.message

end TextGrammar
