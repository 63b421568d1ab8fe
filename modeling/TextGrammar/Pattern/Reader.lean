import TextGrammar.Pattern.Reader.Escape
import TextGrammar.Pattern.Reader.Class
import TextGrammar.Pattern.Reader.Group
import TextGrammar.Pattern.Reader.Part

/-!
Reading a pattern. `feed` takes one character, `feedAll` a text, and `finish?` gives the part that
a complete pattern is. A pattern is refused as soon as no continuation could make it good, or at
its end if something is left open or the parts are nested too deeply.
-/

namespace TextGrammar

namespace Reader

def start (flags : Flags) : Reader := { flags := flags }

def readMode (reader : Reader) (character : Char) : Option Reader :=
  match reader.mode with
  | .part => reader.readPart character
  | .greed body least most counted => reader.readGreed body least most counted character
  | .countLeast body value ended => reader.readCountLeast body value ended character
  | .countComma body least => reader.readCountComma body least character
  | .countMost body least value ended => reader.readCountMost body least value ended character
  | .groupStart => reader.readGroupStart character
  | .groupMark => reader.readGroupMark character
  | .groupNameMark => reader.readGroupNameMark character
  | .groupName name => reader.readGroupName name character
  | .groupFlags letters => reader.readGroupFlags letters character
  | .escape place => reader.readEscape place character
  | .hexStart place digits => reader.readHexStart place digits character
  | .hexDigits place digits left value =>
      reader.readHexDigits place digits left value character
  | .hexBrace place value => reader.readHexBrace place value character
  | .property place negated => reader.readProperty place negated character
  | .propertyName place negated name => reader.readPropertyName place negated name character
  | .wordBoundary => reader.readWordBoundary character
  | .wordBoundaryMark => reader.readWordBoundaryMark character
  | .wordBoundaryName name => reader.readWordBoundaryName name character
  | .bracketStart enclosing => reader.readBracketStart enclosing character
  | .bracketLead brackets => reader.readBracketLead brackets character
  | .bracketItem brackets => reader.readBracketItem brackets character
  | .bracketTwin brackets first => reader.readBracketTwin brackets first character
  | .bracketAtom brackets atom => reader.readBracketAtom brackets atom character
  | .bracketHyphen brackets atom spaced =>
      reader.readBracketHyphen brackets atom spaced character
  | .bracketHyphenComment brackets atom ended =>
      reader.readBracketHyphenComment brackets atom ended character
  | .bracketRange brackets first => reader.readBracketRange brackets first character
  | .bracketClass brackets buffer => reader.readBracketClass brackets buffer character

def feed (reader : Reader) (character : Char) : Option Reader :=
  if reader.comment then some { reader with comment := character != '\n' }
  else reader.readMode character

def feedAll (reader : Reader) (text : List Char) : Option Reader :=
  text.foldlM feed reader

def largestNesting : Nat := 250

def settle? (reader : Reader) : Option Level :=
  match reader.mode with
  | .part => some reader.level
  | .greed body least most _ => some (reader.pushRepetition body least most true).level
  | .wordBoundary => some reader.pushWordBoundary.level
  | _ => none

def finish? (reader : Reader) : Option Node :=
  if reader.outer.isEmpty then
    reader.settle?.bind fun level =>
      let node := level.node
      if node.nesting ≤ largestNesting then some node else none
  else none

end Reader

def Regex.read? (flags : Flags) (pattern : List Char) : Option Regex :=
  ((Reader.start flags).feedAll pattern).bind fun reader => reader.finish?.map Node.regex

end TextGrammar
