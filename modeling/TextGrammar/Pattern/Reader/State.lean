import TextGrammar.Pattern.Node
import TextGrammar.Pattern.Bracket

/-!
State of reading a pattern from left to right, one character at a time. `Mode` tells what the
characters read so far leave open, such as a count whose comma was read or a bracket that waits for
an item; names and buffers in it hold the last character first. Everything complete is in the
levels. A state is a function of the characters read, so reading two texts one after the other is
reading the second from the state that the first one leaves.
-/

namespace TextGrammar

namespace Reader

/-- Where an escape stands: among the parts, as an item of a bracket, or as the end of a range. -/
inductive Place
  | part
  | item (brackets : OpenBrackets)
  | rangeEnd (brackets : OpenBrackets) (first : SetAtom)

structure FlagLetters where
  flags : Flags
  seen : List Flag := []
  negated : Bool := false
  negationLast : Bool := false

inductive Mode
  | part
  | greed (body : Node) (least : Nat) (most : Option Nat) (counted : Bool)
  | countLeast (body : Node) (value : Option Nat) (ended : Bool)
  | countComma (body : Node) (least : Nat)
  | countMost (body : Node) (least : Nat) (value : Option Nat) (ended : Bool)
  | groupStart
  | groupMark
  | groupNameMark
  | groupName (name : List Char)
  | groupFlags (letters : FlagLetters)
  | escape (place : Place)
  | hexStart (place : Place) (digits : Nat)
  | hexDigits (place : Place) (digits : Nat) (left : Nat) (value : Nat)
  | hexBrace (place : Place) (value : Option Nat)
  | property (place : Place) (negated : Bool)
  | propertyName (place : Place) (negated : Bool) (name : List Char)
  | wordBoundary
  | wordBoundaryMark
  | wordBoundaryName (name : List Char)
  | bracketStart (enclosing : List Bracket)
  | bracketLead (brackets : OpenBrackets)
  | bracketItem (brackets : OpenBrackets)
  | bracketTwin (brackets : OpenBrackets) (character : Char)
  | bracketAtom (brackets : OpenBrackets) (atom : SetAtom)
  | bracketHyphen (brackets : OpenBrackets) (atom : SetAtom) (spaced : Bool)
  | bracketHyphenComment (brackets : OpenBrackets) (atom : SetAtom) (ended : Bool)
  | bracketRange (brackets : OpenBrackets) (first : SetAtom)
  | bracketClass (brackets : OpenBrackets) (buffer : List Char)

structure Frame where
  level : Level
  flags : Flags

end Reader

open Reader in
structure Reader where
  mode : Mode := .part
  comment : Bool := false
  flags : Flags
  level : Level := {}
  outer : List Frame := []
  names : List (List Char) := []

namespace Reader

def enter (reader : Reader) (mode : Mode) : Reader := { reader with mode := mode }

def pushNode (reader : Reader) (node : Node) : Reader :=
  { reader with mode := .part, level := reader.level.push node }

def pushRegex (reader : Reader) (regex : Regex) : Reader :=
  reader.pushNode { regex := regex }

/-- Where spaces do not count, a space or a comment may come before the next character. -/
def skipSpace (reader : Reader) (character : Char) (continuation : Option Reader) :
    Option Reader :=
  if reader.flags.ignoreSpace then
    if Unicode.isWhiteSpace character then some reader
    else if character = '#' then some { reader with comment := true }
    else continuation
  else continuation

def openGroup (reader : Reader) (flags : Flags) : Reader :=
  { reader with
    mode := .part
    flags := flags
    level := {}
    outer := { level := reader.level, flags := reader.flags } :: reader.outer }

def closeGroup (reader : Reader) : Option Reader :=
  match reader.outer with
  | [] => none
  | frame :: outer =>
      some { reader with
        mode := .part
        flags := frame.flags
        level := frame.level.push reader.level.node.group
        outer := outer }

def placeAtom (reader : Reader) (place : Place) (atom : SetAtom) (regex : Regex) :
    Option Reader :=
  match place with
  | .part => some (reader.pushRegex regex)
  | .item brackets => some (reader.enter (.bracketAtom brackets atom))
  | .rangeEnd brackets first =>
      (first.rangeItem? atom reader.flags).map fun item =>
        reader.enter (.bracketItem (brackets.push item))

def placeCharacter (reader : Reader) (place : Place) (character : Char) : Option Reader :=
  reader.placeAtom place (.character character) (reader.flags.literal character)

def placeSet (reader : Reader) (place : Place) (set : CharSet) : Option Reader :=
  reader.placeAtom place (.members set) (.set set)

def placeLook (reader : Reader) (place : Place) (regex : Regex) : Option Reader :=
  match place with
  | .part => some (reader.pushRegex regex)
  | _ => none

end Reader

end TextGrammar
