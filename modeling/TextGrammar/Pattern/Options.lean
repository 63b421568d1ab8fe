import TextGrammar.Pattern.Reader
import TextGrammar.Text.Integer
import TextGrammar.Text.Quoted

/-!
Options that a pattern is compiled under, and the ways in which compiling fails. A pattern that is
malformed is so whatever its size, so that fault is found first. The engine refuses a text for one
of the two, and its error is kept as the source of the error for the pattern that was given. How the
engine words what is wrong with a malformed text is left to it: `diagnosis` stands for that.
-/

namespace TextGrammar

structure PatternOptions where
  caseInsensitive : Bool := false
  multiLine : Bool := false
  dotMatchesNewLine : Bool := false
  unicode : Bool := true
  sizeLimit : Option Nat := none
  deriving DecidableEq, Repr

namespace PatternOptions

def flags (options : PatternOptions) : Flags :=
  { caseInsensitive := options.caseInsensitive
    multiLine := options.multiLine
    dotMatchesNewLine := options.dotMatchesNewLine
    unicode := options.unicode }

def defaultSizeLimit : Nat := 10 * 1024 * 1024

def largestWeight (options : PatternOptions) : Nat :=
  options.sizeLimit.getD defaultSizeLimit

end PatternOptions

inductive PatternFault
  | malformed
  | tooBig
  deriving DecidableEq, Repr

inductive EngineError
  | malformed (refused : Text)
  | tooBig (limit : Nat)
  deriving DecidableEq, Repr

namespace EngineError

def fault : EngineError → PatternFault
  | .malformed _ => .malformed
  | .tooBig _ => .tooBig

def message (diagnosis : Text → String) : EngineError → String
  | .malformed refused => diagnosis refused
  | .tooBig limit =>
      "Compiled regex exceeds size limit of " ++ String.ofList (decimalDigits limit) ++ " bytes."

end EngineError

structure PatternError where
  pattern : Text
  source : EngineError
  deriving DecidableEq, Repr

namespace PatternError

def fault (error : PatternError) : PatternFault := error.source.fault

/-- The message up to where the engine has its say. -/
def message (error : PatternError) : String :=
  "invalid lex pattern " ++ String.ofList (quoted error.pattern)

def display (diagnosis : Text → String) (error : PatternError) : String :=
  error.message ++ ": " ++ error.source.message diagnosis

end PatternError

def Regex.compile (options : PatternOptions) (pattern : Text) : Except EngineError Regex :=
  match Regex.read? options.flags pattern with
  | none => .error (.malformed pattern)
  | some regex =>
      if regex.weight ≤ options.largestWeight then .ok regex
      else .error (.tooBig options.largestWeight)

end TextGrammar
