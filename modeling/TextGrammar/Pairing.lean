import TextGrammar.Description

/-!
Pairs of a text and a number, as the results of a sequence of two parts: their descriptions and
how many of them are different.
-/

namespace TextGrammar.Pairing

open Description

def ofInt (number : Int) : String := String.ofList (decimal number)

def describeParts (first second : String) : String :=
  record "Pair" [("first", first), ("second", second)]

def describe (pair : Text × Int) : String := describeParts (ofText pair.1) (ofInt pair.2)

def describeSwapped (pair : Text × Int) : String := describeParts (ofInt pair.2) (ofText pair.1)

def distinctCount (pairs : List (Text × Int)) : Nat := pairs.eraseDups.length

end TextGrammar.Pairing
