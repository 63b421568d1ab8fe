import TextGrammar.Pattern.Reader.State

/-!
Parts and their repetition. An operator repeats the part right before it; a repetition is a part,
so it can be repeated again. A question mark right after an operator makes it lazy.
-/

namespace TextGrammar

namespace Reader

def largestCount : Nat := 4294967295

def takePart (reader : Reader) : Option (Node × Reader) :=
  match reader.level.parts with
  | node :: parts =>
      if node.repeatable then
        some (node, { reader with level := { reader.level with parts := parts } })
      else none
  | [] => none

def readOperator (reader : Reader) (least : Nat) (most : Option Nat) : Option Reader :=
  reader.takePart.map fun (body, reader) => reader.enter (.greed body least most false)

def pushRepetition (reader : Reader) (body : Node) (least : Nat) (most : Option Nat)
    (greedy : Bool) : Reader :=
  reader.pushNode (body.iterate least most (greedy != reader.flags.swapGreed))

def nextBranch (reader : Reader) : Reader :=
  { reader with level := reader.level.nextBranch }

def readPart (reader : Reader) (character : Char) : Option Reader :=
  let reader := reader.enter .part
  reader.skipSpace character <|
    match character with
    | '(' => some (reader.enter .groupStart)
    | ')' => reader.closeGroup
    | '|' => some reader.nextBranch
    | '[' => some (reader.enter (.bracketStart []))
    | '?' => reader.readOperator 0 (some 1)
    | '*' => reader.readOperator 0 none
    | '+' => reader.readOperator 1 none
    | '\x7b' => reader.takePart.map fun (body, reader) =>
        reader.enter (.countLeast body none false)
    | '\\' => some (reader.enter (.escape .part))
    | '.' => reader.flags.dot?.map reader.pushRegex
    | '^' => some (reader.pushRegex reader.flags.caret)
    | '$' => some (reader.pushRegex reader.flags.dollar)
    | _ => some (reader.pushRegex (reader.flags.literal character))

def readGreed (reader : Reader) (body : Node) (least : Nat) (most : Option Nat)
    (counted : Bool) (character : Char) : Option Reader :=
  let continuation :=
    if character = '?' then some (reader.pushRepetition body least most false)
    else (reader.pushRepetition body least most true).readPart character
  if counted then reader.skipSpace character continuation else continuation

def readGroupStart (reader : Reader) (character : Char) : Option Reader :=
  reader.skipSpace character <|
    if character = '?' then some (reader.enter .groupMark)
    else (reader.openGroup reader.flags).readPart character

def countDigit? (value : Option Nat) (character : Char) : Option Nat :=
  if character.isDigit then
    let next := value.getD 0 * 10 + (character.toNat - '0'.toNat)
    if next ≤ largestCount then some next else none
  else none

/-- Spaces may stand around a number, not inside it. -/
def readCountLeast (reader : Reader) (body : Node) (value : Option Nat) (ended : Bool)
    (character : Char) : Option Reader :=
  let reader := reader.enter (.countLeast body value ended)
  reader.skipSpace character <|
    if Unicode.isWhiteSpace character then
      some (reader.enter (.countLeast body value value.isSome))
    else if character = ',' then
      value.map fun least => reader.enter (.countComma body least)
    else if character = '\x7d' then
      value.map fun least => reader.enter (.greed body least (some least) true)
    else if ended then none
    else (countDigit? value character).map fun next =>
      reader.enter (.countLeast body (some next) false)

def readCountMost (reader : Reader) (body : Node) (least : Nat) (value : Option Nat)
    (ended : Bool) (character : Char) : Option Reader :=
  let reader := reader.enter (.countMost body least value ended)
  reader.skipSpace character <|
    if Unicode.isWhiteSpace character then
      some (reader.enter (.countMost body least value value.isSome))
    else if character = '\x7d' then
      value.bind fun most =>
        if least ≤ most then some (reader.enter (.greed body least (some most) true)) else none
    else if ended then none
    else (countDigit? value character).map fun next =>
      reader.enter (.countMost body least (some next) false)

def readCountComma (reader : Reader) (body : Node) (least : Nat) (character : Char) :
    Option Reader :=
  reader.skipSpace character <|
    if character = '\x7d' then some (reader.enter (.greed body least none true))
    else reader.readCountMost body least none false character

def pushWordBoundary (reader : Reader) : Reader :=
  reader.pushRegex (reader.flags.wordEdge .boundary)

def readWordBoundary (reader : Reader) (character : Char) : Option Reader :=
  if character = '\x7b' then some (reader.enter .wordBoundaryMark)
  else reader.pushWordBoundary.readPart character

def isEdgeNamePart (character : Char) : Bool := character.isAlpha || character == '-'

/-- A brace after a word boundary opens a name if a letter or a hyphen follows, else a count. -/
def readWordBoundaryMark (reader : Reader) (character : Char) : Option Reader :=
  reader.skipSpace character <|
    if isEdgeNamePart character then some (reader.enter (.wordBoundaryName [character]))
    else reader.readCountLeast { regex := reader.flags.wordEdge .boundary } none false character

def edgeNames : List (List Char × WordEdge) :=
  [ (['s', 't', 'a', 'r', 't'], .start),
    (['e', 'n', 'd'], .finish),
    (['s', 't', 'a', 'r', 't', '-', 'h', 'a', 'l', 'f'], .startHalf),
    (['e', 'n', 'd', '-', 'h', 'a', 'l', 'f'], .finishHalf) ]

def readWordBoundaryName (reader : Reader) (name : List Char) (character : Char) :
    Option Reader :=
  reader.skipSpace character <|
    if character = '\x7d' then
      (edgeNames.find? fun entry => entry.1 == name.reverse).map fun entry =>
        reader.pushRegex (reader.flags.wordEdge entry.2)
    else if isEdgeNamePart character then
      some (reader.enter (.wordBoundaryName (character :: name)))
    else none

end Reader

end TextGrammar
