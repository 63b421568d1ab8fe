import TextGrammar.Pattern.Reader.State

/-!
Brackets. A hyphen between two characters makes a range unless a closing bracket or a second
hyphen follows it; `&&`, `--` and `~~` are operators; an opening inside a bracket begins a named
class if it is one, and else a nested bracket.
-/

namespace TextGrammar

namespace Reader

def closeBracket (reader : Reader) (brackets : OpenBrackets) : Option Reader :=
  (brackets.innermost.close? reader.flags).bind fun closed =>
    match brackets.enclosing with
    | [] => some (reader.pushNode { regex := .set closed.set, nesting := closed.nesting })
    | parent :: enclosing =>
        some (reader.enter (.bracketItem
          { innermost := parent.push closed, enclosing := enclosing }))

def readBracketItem (reader : Reader) (brackets : OpenBrackets) (character : Char) :
    Option Reader :=
  let reader := reader.enter (.bracketItem brackets)
  reader.skipSpace character <|
    if character = '[' then some (reader.enter (.bracketClass brackets []))
    else if character = ']' then reader.closeBracket brackets
    else if (SetOperator.ofCharacter? character).isSome then
      some (reader.enter (.bracketTwin brackets character))
    else if character = '\\' then some (reader.enter (.escape (.item brackets)))
    else some (reader.enter (.bracketAtom brackets (.character character)))

def readAfterItem (reader : Reader) (brackets : OpenBrackets) (atom : SetAtom)
    (character : Char) : Option Reader :=
  (atom.item? reader.flags).bind fun item =>
    reader.readBracketItem (brackets.push item) character

def readBracketAtom (reader : Reader) (brackets : OpenBrackets) (atom : SetAtom)
    (character : Char) : Option Reader :=
  let reader := reader.enter (.bracketAtom brackets atom)
  reader.skipSpace character <|
    if character = '-' then some (reader.enter (.bracketHyphen brackets atom false))
    else reader.readAfterItem brackets atom character

def readBracketTwin (reader : Reader) (brackets : OpenBrackets) (first character : Char) :
    Option Reader :=
  if character = first then
    (SetOperator.ofCharacter? first).map fun operator =>
      reader.enter (.bracketItem (brackets.operate operator))
  else reader.readBracketAtom brackets (.character first) character

def readBracketRange (reader : Reader) (brackets : OpenBrackets) (first : SetAtom)
    (character : Char) : Option Reader :=
  let reader := reader.enter (.bracketRange brackets first)
  reader.skipSpace character <|
    if character = '\\' then some (reader.enter (.escape (.rangeEnd brackets first)))
    else reader.placeCharacter (.rangeEnd brackets first) character

def splitHyphen (reader : Reader) (brackets : OpenBrackets) (atom : SetAtom) :
    Option (Reader × OpenBrackets) :=
  (atom.item? reader.flags).map fun item =>
    let brackets := brackets.push item
    (reader.enter (.bracketAtom brackets (.character '-')), brackets)

def readBracketHyphen (reader : Reader) (brackets : OpenBrackets) (atom : SetAtom)
    (spaced : Bool) (character : Char) : Option Reader :=
  if reader.flags.ignoreSpace ∧ Unicode.isWhiteSpace character then
    some (reader.enter (.bracketHyphen brackets atom true))
  else if reader.flags.ignoreSpace ∧ character = '#' then
    some (reader.enter (.bracketHyphenComment brackets atom false))
  else if character = '-' ∧ !spaced then
    (atom.item? reader.flags).map fun item =>
      reader.enter (.bracketItem ((brackets.push item).operate .difference))
  else if character = '-' ∨ character = ']' then
    (reader.splitHyphen brackets atom).bind fun (reader, brackets) =>
      reader.readBracketAtom brackets (.character '-') character
  else reader.readBracketRange brackets atom character

/-- What the hyphen means is settled by the first character after the comment sign that is no
space, be it in the comment or after it. -/
def readBracketHyphenComment (reader : Reader) (brackets : OpenBrackets) (atom : SetAtom)
    (ended : Bool) (character : Char) : Option Reader :=
  if Unicode.isWhiteSpace character then
    some (reader.enter (.bracketHyphenComment brackets atom (ended || character == '\n')))
  else if character = '-' ∨ character = ']' then
    (reader.splitHyphen brackets atom).bind fun (reader, brackets) =>
      if ended then reader.readBracketAtom brackets (.character '-') character
      else some { reader with comment := true }
  else if ended then reader.readBracketRange brackets atom character
  else some { reader.enter (.bracketRange brackets atom) with comment := true }

/-- Hyphens are items before the first other item, and a closing bracket is one if nothing comes
before it, so a bracket is never empty. -/
def readBracketLead (reader : Reader) (brackets : OpenBrackets) (character : Char) :
    Option Reader :=
  let reader := reader.enter (.bracketLead brackets)
  reader.skipSpace character <|
    if character = '-' then
      ((SetAtom.character '-').item? reader.flags).map fun item =>
        reader.enter (.bracketLead (brackets.push item))
    else if character = ']' ∧ brackets.innermost.items.isEmpty then
      ((SetAtom.character ']').item? reader.flags).map fun item =>
        reader.enter (.bracketItem (brackets.push item))
    else reader.readBracketItem brackets character

def readBracketStart (reader : Reader) (enclosing : List Bracket) (character : Char) :
    Option Reader :=
  let reader := reader.enter (.bracketStart enclosing)
  reader.skipSpace character <|
    if character = '^' then
      some (reader.enter (.bracketLead
        { innermost := { negated := true }, enclosing := enclosing }))
    else reader.readBracketLead { innermost := {}, enclosing := enclosing } character

def classTexts : List (List Char × Bool × CharSet) :=
  CharSet.asciiClasses.flatMap fun (name, set) =>
    [ (':' :: name ++ [':', ']'], false, set),
      (':' :: '^' :: name ++ [':', ']'], true, set) ]

/-- The characters of a text that is no class are the first items of a nested bracket. -/
def readNestedBracket (reader : Reader) (brackets : OpenBrackets) (buffer : List Char)
    (character : Char) : Option Reader :=
  match buffer with
  | [] => reader.readBracketStart brackets.toList character
  | last :: earlier =>
      (earlier.reverse.mapM fun value => (SetAtom.character value).item? reader.flags).bind
        fun items =>
          reader.readBracketAtom
            { innermost := { items := items.reverse }, enclosing := brackets.toList }
            (.character last) character

def readBracketClass (reader : Reader) (brackets : OpenBrackets) (buffer : List Char)
    (character : Char) : Option Reader :=
  let text := (character :: buffer).reverse
  match classTexts.find? fun entry => entry.1 == text with
  | some (_, negated, set) =>
      (reader.flags.asciiClass? negated set).map fun closed =>
        reader.enter (.bracketItem (brackets.push { set := closed }))
  | none =>
      if classTexts.any fun entry => text.isPrefixOf entry.1 then
        some (reader.enter (.bracketClass brackets (character :: buffer)))
      else reader.readNestedBracket brackets buffer character

end Reader

end TextGrammar
