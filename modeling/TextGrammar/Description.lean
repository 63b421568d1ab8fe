import TextGrammar.Lexer
import TextGrammar.Parser.Whole

/-!
Descriptions: the structure of a value with the names of its type and fields, for a person who
looks into a program.
-/

namespace TextGrammar

namespace Description

def ofNat (number : Nat) : String := String.ofList (decimalDigits number)

def ofText (text : Text) : String := String.ofList (quoted text)

def ofBool (truth : Bool) : String := if truth then "true" else "false"

def ofOptionNat : Option Nat → String
  | none => "None"
  | some number => "Some(" ++ ofNat number ++ ")"

def record (name : String) (fields : List (String × String)) : String :=
  name ++ " \x7b " ++
    String.intercalate ", " (fields.map fun (field, value) => field ++ ": " ++ value) ++ " \x7d"

end Description

open Description

def Cursor.describe (cursor : Cursor) : String :=
  record "Cursor" [("source", ofText cursor.source), ("offset", ofNat cursor.offset)]

def Location.describe (location : Location) : String :=
  record "Location"
    [("line", ofNat location.line), ("byte_offset", ofNat location.byteOffset)]

def CursorError.describe : CursorError → String
  | .overrun requested available =>
      record "Overrun" [("requested", ofNat requested), ("available", ofNat available)]
  | .notBoundary requested => record "NotCharBoundary" [("requested", ofNat requested)]
  | .notSuffix => "NotASuffix"

def RunError.describe : RunError → String
  | .noMatch location => record "NoMatch" [("location", location.describe)]
  | .trailingInput location => record "TrailingInput" [("location", location.describe)]

def failureDescription : String := "ParseFailure"

def Lexer.describe (lexer : Lexer) : String := "Lex(" ++ ofText lexer.pattern ++ ")"

def PatternOptions.describe (options : PatternOptions) (pattern : Text) : String :=
  record "LexBuilder"
    [ ("pattern", ofText pattern),
      ("case_insensitive", ofBool options.caseInsensitive),
      ("multi_line", ofBool options.multiLine),
      ("dot_matches_new_line", ofBool options.dotMatchesNewLine),
      ("unicode", ofBool options.unicode),
      ("size_limit", ofOptionNat options.sizeLimit) ]

end TextGrammar
