import TextGrammar.Parser.Run

/-!
Running a parser on a text, from a fresh cursor. `parsePrefix` accepts any beginning of the text
and gives the rest, `parseWhole` asks for all of it. Errors carry the location where the failing
parser stopped, or where the text that is left begins.
-/

namespace TextGrammar

inductive RunError
  | noMatch (location : Location)
  | trailingInput (location : Location)
  deriving DecidableEq, Repr

namespace RunError

def location : RunError → Location
  | .noMatch location => location
  | .trailingInput location => location

def message : RunError → String
  | .noMatch location => "no match at " ++ location.display
  | .trailingInput location => "unconsumed input at " ++ location.display

end RunError

inductive Result (α : Type)
  | value (value : α)
  | error (error : RunError)
  | panic (cause : Panic)
  | unfinished
  deriving DecidableEq, Repr

variable {α : Type}

namespace Run

def ofPrefix (run : Run α) : Result (α × Text) :=
  match run.outcome with
  | .success value => .value (value, run.cursor.remaining)
  | .failure => .error (.noMatch run.cursor.location)
  | .panic cause => .panic cause
  | .unfinished => .unfinished

def ofWhole (run : Run α) : Result α :=
  match run.outcome with
  | .success value =>
      if run.cursor.atEnd then .value value else .error (.trailingInput run.cursor.location)
  | .failure => .error (.noMatch run.cursor.location)
  | .panic cause => .panic cause
  | .unfinished => .unfinished

end Run

namespace Parser

def onText (parser : Parser α) (source : Text) : Run α := parser (.start source)

def parsePrefix (parser : Parser α) (source : Text) : Result (α × Text) :=
  (parser.onText source).ofPrefix

def parseWhole (parser : Parser α) (source : Text) : Result α :=
  (parser.onText source).ofWhole

end Parser

end TextGrammar
