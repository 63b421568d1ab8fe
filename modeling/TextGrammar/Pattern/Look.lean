import TextGrammar.Pattern.Regex
import TextGrammar.Text.Bytes

/-!
Places in a text. A spot knows the character before it, the text after it and its distance from
the start, which is all that an assertion can ask for.
-/

namespace TextGrammar

structure Spot where
  before : Option Char
  rest : Text
  offset : Nat
  deriving DecidableEq, Repr

namespace Spot

def start (text : Text) : Spot := { before := none, rest := text, offset := 0 }

def next? (spot : Spot) : Option (Char × Spot) :=
  match spot.rest with
  | [] => none
  | character :: rest =>
      some (character, { before := some character, rest := rest,
                         offset := spot.offset + character.utf8Size })

end Spot

def isWordIn (unicode : Bool) (character : Char) : Bool :=
  if unicode then Unicode.isWordCharacter character else CharSet.asciiWord.contains character

def WordEdge.holds (edge : WordEdge) (wordBefore wordAfter : Bool) : Bool :=
  match edge with
  | .boundary => wordBefore != wordAfter
  | .noBoundary => wordBefore == wordAfter
  | .start => !wordBefore && wordAfter
  | .finish => wordBefore && !wordAfter
  | .startHalf => !wordBefore
  | .finishHalf => !wordAfter

def Look.holds (look : Look) (spot : Spot) : Bool :=
  let after := spot.rest.head?
  match look with
  | .textStart => spot.before.isNone
  | .textEnd => spot.rest.isEmpty
  | .lineStart false => spot.before.isNone || spot.before == some '\n'
  | .lineStart true =>
      spot.before.isNone || spot.before == some '\n' ||
        (spot.before == some '\r' && after != some '\n')
  | .lineEnd false => spot.rest.isEmpty || after == some '\n'
  | .lineEnd true =>
      spot.rest.isEmpty || after == some '\r' ||
        (after == some '\n' && spot.before != some '\r')
  | .word edge unicode =>
      edge.holds (spot.before.any (isWordIn unicode)) (after.any (isWordIn unicode))

end TextGrammar
