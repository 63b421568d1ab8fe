import TextGrammar.Pattern.Reader.State

/-!
Escapes: what follows a backslash. A punctuation mark of ASCII stands for itself; letters are
controls, characters by code, classes, properties and assertions; digits and all other letters are
refused, as is a character outside ASCII.
-/

namespace TextGrammar

namespace Reader

def hexValue? (digit : Char) : Option Nat :=
  if digit.isDigit then some (digit.toNat - '0'.toNat)
  else if 'a' ≤ digit ∧ digit ≤ 'f' then some (digit.toNat - 'a'.toNat + 10)
  else if 'A' ≤ digit ∧ digit ≤ 'F' then some (digit.toNat - 'A'.toNat + 10)
  else none

def scalar? (code : Nat) : Option Char :=
  if code.isValidChar then some (Char.ofNat code) else none

def isEscapable (character : Char) : Bool :=
  character.toNat < 128 && !character.isAlphanum && character != '<' && character != '>'

def control? (letter : Char) : Option Char :=
  match letter with
  | 'a' => some '\x07'
  | 'f' => some '\x0c'
  | 't' => some '\t'
  | 'n' => some '\n'
  | 'r' => some '\r'
  | 'v' => some '\x0b'
  | _ => none

def assertion? (flags : Flags) (letter : Char) : Option Regex :=
  match letter with
  | 'A' => some (.look .textStart)
  | 'z' => some (.look .textEnd)
  | 'B' => some (flags.wordEdge .noBoundary)
  | '<' => some (flags.wordEdge .start)
  | '>' => some (flags.wordEdge .finish)
  | _ => none

def hexDigitCount? (letter : Char) : Option Nat :=
  match letter with
  | 'x' => some 2
  | 'u' => some 4
  | 'U' => some 8
  | _ => none

def readEscape (reader : Reader) (place : Place) (character : Char) : Option Reader :=
  match hexDigitCount? character with
  | some digits => some (reader.enter (.hexStart place digits))
  | none =>
      if character = 'p' ∨ character = 'P' then
        some (reader.enter (.property place (character = 'P')))
      else if character = 'b' then
        match place with
        | .part => some (reader.enter .wordBoundary)
        | _ => none
      else if ['d', 's', 'w', 'D', 'S', 'W'].contains character then
        (reader.flags.shorthand? character).bind fun set => reader.placeSet place set
      else if isEscapable character then reader.placeCharacter place character
      else
        match control? character with
        | some control => reader.placeCharacter place control
        | none => (assertion? reader.flags character).bind fun regex =>
            reader.placeLook place regex

/-- A code of two digits names a byte: without Unicode it must be one that is a character. -/
def finishHexDigits (reader : Reader) (place : Place) (digits value : Nat) : Option Reader :=
  if digits = 2 ∧ !reader.flags.unicode ∧ value ≥ 128 then none
  else (scalar? value).bind fun character => reader.placeCharacter place character

def readHexDigit (reader : Reader) (place : Place) (digits left value : Nat)
    (character : Char) : Option Reader :=
  (hexValue? character).bind fun digit =>
    let value := value * 16 + digit
    if left ≤ 1 then reader.finishHexDigits place digits value
    else some (reader.enter (.hexDigits place digits (left - 1) value))

def readHexStart (reader : Reader) (place : Place) (digits : Nat) (character : Char) :
    Option Reader :=
  reader.skipSpace character <|
    if character = '\x7b' then some (reader.enter (.hexBrace place none))
    else reader.readHexDigit place digits digits 0 character

def readHexDigits (reader : Reader) (place : Place) (digits left value : Nat)
    (character : Char) : Option Reader :=
  reader.skipSpace character <| reader.readHexDigit place digits left value character

def readHexBrace (reader : Reader) (place : Place) (value : Option Nat) (character : Char) :
    Option Reader :=
  reader.skipSpace character <|
    if character = '\x7d' then
      (value.bind scalar?).bind fun scalar => reader.placeCharacter place scalar
    else (hexValue? character).bind fun digit =>
      some (reader.enter (.hexBrace place (some (value.getD 0 * 16 + digit))))

def readProperty (reader : Reader) (place : Place) (negated : Bool) (character : Char) :
    Option Reader :=
  reader.skipSpace character <|
    if character = '\x7b' then some (reader.enter (.propertyName place negated []))
    else if character = '\\' then none
    else (reader.flags.property? negated [character]).bind fun set => reader.placeSet place set

def readPropertyName (reader : Reader) (place : Place) (negated : Bool) (name : List Char)
    (character : Char) : Option Reader :=
  reader.skipSpace character <|
    if character = '\x7d' then
      (reader.flags.property? negated name.reverse).bind fun set => reader.placeSet place set
    else some (reader.enter (.propertyName place negated (character :: name)))

end Reader

end TextGrammar
