import TextGrammar.Unicode.Property
import TextGrammar.Unicode.Script

/-!
Properties that a pattern can ask for by name. Names are matched loosely: case, spaces, hyphens,
underscores and a leading `is` do not count, as Unicode Standard Annex 44 recommends.

General categories and scripts are complete, and of the binary properties there are six. Other
binary properties, among them Emoji, Math, ASCII_Hex_Digit, ID_Start and XID_Continue, are left out,
as are ages, script extensions and the properties for breaks between graphemes, words and sentences:
a pattern that names one of these is refused.
-/

namespace TextGrammar.Unicode

inductive Property
  | any
  | ascii
  | assigned
  | alphabetic
  | lowercase
  | uppercase
  | whiteSpace
  | joinControl
  | graphemeExtend
  | wordCharacter
  | decimalDigit
  | categories (members : List GeneralCategory)
  | script (writing : Script)

def Property.contains (property : Property) (character : Char) : Bool :=
  match property with
  | .any => true
  | .ascii => character.toNat < 128
  | .assigned => !GeneralCategory.unassigned.contains character
  | .alphabetic => isAlphabetic character
  | .lowercase => isLowercase character
  | .uppercase => isUppercase character
  | .whiteSpace => isWhiteSpace character
  | .joinControl => isJoinControl character
  | .graphemeExtend => isGraphemeExtend character
  | .wordCharacter => isWordCharacter character
  | .decimalDigit => isDecimalDigit character
  | .categories members => members.any fun category => category.contains character
  | .script writing => writing.ranges.contains character

/-- About the number of ranges that the property takes to write down; the ranges of one category
fill the gaps in those of another. -/
def Property.rangeCount : Property → Nat
  | .any | .ascii | .assigned | .joinControl => 1
  | .alphabetic | .wordCharacter => 770
  | .lowercase | .uppercase => 670
  | .whiteSpace => 10
  | .graphemeExtend => 380
  | .decimalDigit => GeneralCategory.decimalNumber.ranges.bounds.size
  | .categories members =>
      members.foldl (fun count category => max count category.ranges.bounds.size) 1
  | .script writing => writing.ranges.bounds.size

namespace PropertyName

/-- The letters and digits of a name, in lower case and without a leading `is`. The abbreviation
`isc` would be left with one letter that names a category, so it keeps its first two. -/
def normalize (name : List Char) : List Char :=
  let significant (text : List Char) : List Char :=
    (text.filter fun character =>
      character.toNat < 128 && character != ' ' && character != '_' && character != '-').map
        Char.toLower
  match name with
  | first :: second :: rest =>
      if first.toLower == 'i' && second.toLower == 's' then
        if significant rest == ['c'] then ['i', 's', 'c'] else significant rest
      else significant name
  | _ => significant name

def matchesAny (names : List String) (normalized : List Char) : Bool :=
  names.any fun name => normalize name.toList == normalized

open GeneralCategory in
def categoryNames : List (List String × List GeneralCategory) :=
  let letters := [uppercaseLetter, lowercaseLetter, titlecaseLetter, modifierLetter, otherLetter]
  let marks := [nonspacingMark, spacingMark, enclosingMark]
  let punctuation := [connectorPunctuation, dashPunctuation, openPunctuation, closePunctuation,
    initialPunctuation, finalPunctuation, otherPunctuation]
  [ (["L", "Letter"], letters),
    (["LC", "Cased_Letter"], [uppercaseLetter, lowercaseLetter, titlecaseLetter]),
    (["Lu", "Uppercase_Letter"], [uppercaseLetter]),
    (["Ll", "Lowercase_Letter"], [lowercaseLetter]),
    (["Lt", "Titlecase_Letter"], [titlecaseLetter]),
    (["Lm", "Modifier_Letter"], [modifierLetter]),
    (["Lo", "Other_Letter"], [otherLetter]),
    (["M", "Mark", "Combining_Mark"], marks),
    (["Mn", "Nonspacing_Mark"], [nonspacingMark]),
    (["Mc", "Spacing_Mark"], [spacingMark]),
    (["Me", "Enclosing_Mark"], [enclosingMark]),
    (["N", "Number"], [decimalNumber, letterNumber, otherNumber]),
    (["Nd", "Decimal_Number", "digit"], [decimalNumber]),
    (["Nl", "Letter_Number"], [letterNumber]),
    (["No", "Other_Number"], [otherNumber]),
    (["P", "Punctuation", "punct"], punctuation),
    (["Pc", "Connector_Punctuation"], [connectorPunctuation]),
    (["Pd", "Dash_Punctuation"], [dashPunctuation]),
    (["Ps", "Open_Punctuation"], [openPunctuation]),
    (["Pe", "Close_Punctuation"], [closePunctuation]),
    (["Pi", "Initial_Punctuation"], [initialPunctuation]),
    (["Pf", "Final_Punctuation"], [finalPunctuation]),
    (["Po", "Other_Punctuation"], [otherPunctuation]),
    (["S", "Symbol"], [mathSymbol, currencySymbol, modifierSymbol, otherSymbol]),
    (["Sm", "Math_Symbol"], [mathSymbol]),
    (["Sc", "Currency_Symbol"], [currencySymbol]),
    (["Sk", "Modifier_Symbol"], [modifierSymbol]),
    (["So", "Other_Symbol"], [otherSymbol]),
    (["Z", "Separator"], [spaceSeparator, lineSeparator, paragraphSeparator]),
    (["Zs", "Space_Separator"], [spaceSeparator]),
    (["Zl", "Line_Separator"], [lineSeparator]),
    (["Zp", "Paragraph_Separator"], [paragraphSeparator]),
    (["C", "Other"], [control, format, privateUse, unassigned]),
    (["Cc", "Control", "cntrl"], [control]),
    (["Cf", "Format"], [format]),
    (["Co", "Private_Use"], [privateUse]),
    (["Cn", "Unassigned"], [unassigned]) ]

def binaryNames : List (List String × Property) :=
  [ (["Alphabetic", "Alpha"], .alphabetic),
    (["Lowercase", "Lower"], .lowercase),
    (["Uppercase", "Upper"], .uppercase),
    (["White_Space", "WSpace", "space"], .whiteSpace),
    (["Join_Control", "Join_C"], .joinControl),
    (["Grapheme_Extend", "Gr_Ext"], .graphemeExtend) ]

def category? (normalized : List Char) : Option Property :=
  if matchesAny ["Any"] normalized then some .any
  else if matchesAny ["Assigned"] normalized then some .assigned
  else if matchesAny ["ASCII"] normalized then some .ascii
  else (categoryNames.find? fun entry => matchesAny entry.1 normalized).map fun entry =>
    .categories entry.2

def script? (normalized : List Char) : Option Property :=
  (Script.all.find? fun entry => matchesAny (entry.name :: entry.aliases) normalized).map
    .script

/-- A name alone is a binary property, a general category or a script, looked for in this order. -/
def property? (name : List Char) : Option Property :=
  let normalized := normalize name
  match binaryNames.find? fun entry => matchesAny entry.1 normalized with
  | some entry => some entry.2
  | none => category? normalized <|> script? normalized

def propertyValue? (name value : List Char) : Option Property :=
  let normalized := normalize name
  if matchesAny ["General_Category", "gc"] normalized then category? (normalize value)
  else if matchesAny ["Script", "sc"] normalized then script? (normalize value)
  else none

end PropertyName

end TextGrammar.Unicode
