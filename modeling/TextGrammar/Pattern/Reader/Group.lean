import TextGrammar.Pattern.Reader.State

/-!
Groups: plain, named, with flags for the group alone, and flag settings, which hold from their
place to the end of the group around them.
-/

namespace TextGrammar

namespace Reader

def isNameStart (character : Char) : Bool :=
  character == '_' || Unicode.isAlphabetic character

def isNamePart (character : Char) : Bool :=
  character == '_' || character == '.' || character == '[' || character == ']' ||
    Unicode.isAlphabetic character || Unicode.isNumeric character

/-- A name is not empty and names one group only. -/
def readGroupName (reader : Reader) (name : List Char) (character : Char) : Option Reader :=
  if character = '>' then
    if name.isEmpty || reader.names.contains name then none
    else some ({ reader with names := name :: reader.names }.openGroup reader.flags)
  else if if name.isEmpty then isNameStart character else isNamePart character then
    some (reader.enter (.groupName (character :: name)))
  else none

/-- A flag comes once, a minus sign comes once and before a flag, and a setting is not empty. -/
def readGroupFlags (reader : Reader) (letters : FlagLetters) (character : Char) :
    Option Reader :=
  if character = ':' then
    if letters.negationLast then none else some (reader.openGroup letters.flags)
  else if character = ')' then
    if letters.negationLast || letters.seen.isEmpty then none
    else some ({ reader with flags := letters.flags }.pushNode .flagSetting)
  else if character = '-' then
    if letters.negated then none
    else some (reader.enter (.groupFlags
      { letters with negated := true, negationLast := true }))
  else
    (Flag.ofLetter? character).bind fun flag =>
      if letters.seen.contains flag then none
      else some (reader.enter (.groupFlags
        { flags := letters.flags.assign flag (!letters.negated)
          seen := flag :: letters.seen
          negated := letters.negated
          negationLast := false }))

def readGroupMark (reader : Reader) (character : Char) : Option Reader :=
  if character = 'P' then some (reader.enter .groupNameMark)
  else if character = '<' then some (reader.enter (.groupName []))
  else reader.readGroupFlags { flags := reader.flags } character

def readGroupNameMark (reader : Reader) (character : Char) : Option Reader :=
  if character = '<' then some (reader.enter (.groupName [])) else none

end Reader

end TextGrammar
