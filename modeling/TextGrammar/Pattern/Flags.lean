import TextGrammar.Pattern.Regex

/-!
Flags that a pattern is read under. They give a meaning to the parts of a pattern that have more
than one, and refuse those parts that would match half of a character.
-/

namespace TextGrammar

inductive Flag
  | caseInsensitive
  | multiLine
  | dotMatchesNewLine
  | swapGreed
  | unicode
  | crlf
  | ignoreSpace
  deriving DecidableEq, Repr

structure Flags where
  caseInsensitive : Bool := false
  multiLine : Bool := false
  dotMatchesNewLine : Bool := false
  swapGreed : Bool := false
  unicode : Bool := true
  crlf : Bool := false
  ignoreSpace : Bool := false
  deriving DecidableEq, Repr

def Flag.ofLetter? (letter : Char) : Option Flag :=
  match letter with
  | 'i' => some .caseInsensitive
  | 'm' => some .multiLine
  | 's' => some .dotMatchesNewLine
  | 'U' => some .swapGreed
  | 'u' => some .unicode
  | 'R' => some .crlf
  | 'x' => some .ignoreSpace
  | _ => none

namespace Flags

def assign (flags : Flags) (flag : Flag) (value : Bool) : Flags :=
  match flag with
  | .caseInsensitive => { flags with caseInsensitive := value }
  | .multiLine => { flags with multiLine := value }
  | .dotMatchesNewLine => { flags with dotMatchesNewLine := value }
  | .swapGreed => { flags with swapGreed := value }
  | .unicode => { flags with unicode := value }
  | .crlf => { flags with crlf := value }
  | .ignoreSpace => { flags with ignoreSpace := value }

def closeCase (flags : Flags) (set : CharSet) : CharSet :=
  if flags.caseInsensitive then
    if flags.unicode then .caseless set else .asciiCaseless set
  else set

def literal (flags : Flags) (character : Char) : Regex :=
  .set (flags.closeCase (.single character))

/-- Without Unicode the dot would match single bytes, so it is refused. -/
def dot? (flags : Flags) : Option Regex :=
  if !flags.unicode then none
  else if flags.dotMatchesNewLine then some (.set (.complement .none))
  else if flags.crlf then some (.set (.complement (.ofList ['\r', '\n'])))
  else some (.set (.complement (.single '\n')))

def caret (flags : Flags) : Regex :=
  .look (if flags.multiLine then .lineStart flags.crlf else .textStart)

def dollar (flags : Flags) : Regex :=
  .look (if flags.multiLine then .lineEnd flags.crlf else .textEnd)

def wordEdge (flags : Flags) (edge : WordEdge) : Regex :=
  .look (.word edge flags.unicode)

/-- The class of a letter among `d`, `s` and `w`; its capital is the complement, which without
Unicode would hold single bytes and is refused. -/
def shorthand? (flags : Flags) (letter : Char) : Option CharSet :=
  let positive : Option CharSet :=
    match letter.toLower with
    | 'd' => some (if flags.unicode then .property .decimalDigit else .asciiDigit)
    | 's' => some (if flags.unicode then .property .whiteSpace else .asciiSpace)
    | 'w' => some (if flags.unicode then .property .wordCharacter else .asciiWord)
    | _ => none
  if letter.isUpper then
    if flags.unicode then positive.map .complement else none
  else positive

/-- A class by property name; `name=value`, `name:value` and `name!=value` ask for a value. -/
def property? (flags : Flags) (negated : Bool) (text : List Char) : Option CharSet :=
  if !flags.unicode then none
  else
    let (found, excluded) : Option Unicode.Property × Bool :=
      match splitName [] text with
      | some (name, value, excluded) => (Unicode.PropertyName.propertyValue? name value, excluded)
      | none => (Unicode.PropertyName.property? text, false)
    found.map fun property =>
      let set := flags.closeCase (.property property)
      if negated != excluded then .complement set else set
where
  splitAt (separator : Char) (before : List Char) : List Char → Option (List Char × List Char)
    | [] => none
    | character :: rest =>
        if character = separator then some (before.reverse, rest)
        else splitAt separator (character :: before) rest
  splitUnequal (before : List Char) : List Char → Option (List Char × List Char)
    | '!' :: '=' :: rest => some (before.reverse, rest)
    | [] => none
    | character :: rest => splitUnequal (character :: before) rest
  splitName (before text : List Char) : Option (List Char × List Char × Bool) :=
    match splitUnequal before text with
    | some (name, value) => some (name, value, true)
    | none =>
        match splitAt ':' before text <|> splitAt '=' before text with
        | some (name, value) => some (name, value, false)
        | none => none

def asciiClass? (flags : Flags) (negated : Bool) (set : CharSet) : Option CharSet :=
  let closed := flags.closeCase set
  if negated then
    if flags.unicode then some (.complement closed) else none
  else some closed

end Flags

end TextGrammar
