/-!
Sets of scalar values given as ascending inclusive ranges, the form in which the Unicode Character
Database lists its properties. A list is written as lines of hexadecimal ranges, `41-5A AA`, and
asked by bisection.
-/

namespace TextGrammar.Unicode

structure Ranges where
  bounds : Array (Nat × Nat)

namespace Ranges

def empty : Ranges := ⟨#[]⟩

def hexDigitValue (digit : Char) : Nat :=
  if digit.isDigit then digit.toNat - '0'.toNat else digit.toNat - 'A'.toNat + 10

def readHex (digits : String) : Nat :=
  digits.toList.foldl (fun value digit => value * 16 + hexDigitValue digit) 0

/-- `41-5A` is a range, and `AA` stands for the range of that value alone. -/
def readRange (word : String) : Nat × Nat :=
  match word.splitOn "-" with
  | [low, high] => (readHex low, readHex high)
  | _ => (readHex word, readHex word)

def ofLines (lines : List String) : Ranges :=
  ⟨(lines.flatMap fun line => (line.splitOn " ").map readRange).toArray⟩

def bisect (bounds : Array (Nat × Nat)) (code : Nat) : Nat → Nat → Nat → Bool
  | 0, _, _ => false
  | steps + 1, low, high =>
      if low < high then
        let middle := (low + high) / 2
        let (first, last) := bounds.getD middle (0, 0)
        if code < first then bisect bounds code steps low middle
        else if last < code then bisect bounds code steps (middle + 1) high
        else true
      else false

def contains (ranges : Ranges) (character : Char) : Bool :=
  bisect ranges.bounds character.toNat (ranges.bounds.size + 1) 0 ranges.bounds.size

end Ranges

end TextGrammar.Unicode
