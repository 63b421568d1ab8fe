import TextGrammar.Cursor
import TextGrammar.Parser.Event
import TextGrammar.Pattern.Options

/-!
Runs of a parser. A parser goes from a cursor to an outcome, the cursor where it stopped, and the
events on the way. A failure is no result and can be recovered from; a panic is the misuse of a
cursor or a rule that turns out bad when it is built, and nothing recovers from it. A parser that
is given a budget of steps and uses it up is unfinished.
-/

namespace TextGrammar

inductive Panic
  | misuse (error : CursorError)
  | badPattern (error : PatternError)
  | unknownRule (name : Text)
  | endlessRules
  deriving DecidableEq, Repr

def Panic.message : Panic → String
  | .misuse error => "cursor misuse: " ++ error.message
  | .badPattern error => error.message
  | .unknownRule name => "no rule is named " ++ String.ofList (quoted name)
  | .endlessRules => "the rules refer to one another without end"

def failureMessage : String := "no match at current position"

inductive Outcome (α : Type)
  | success (value : α)
  | failure
  | panic (cause : Panic)
  | unfinished
  deriving DecidableEq, Repr

structure Run (α : Type) where
  outcome : Outcome α
  cursor : Cursor
  events : List Event := []
  deriving DecidableEq, Repr

def Parser (α : Type) := Cursor → Run α

variable {α β : Type}

namespace Run

def success (value : α) (cursor : Cursor) : Run α :=
  { outcome := .success value, cursor := cursor }

def failure (cursor : Cursor) : Run α := { outcome := .failure, cursor := cursor }

def panic (cause : Panic) (cursor : Cursor) : Run α :=
  { outcome := .panic cause, cursor := cursor }

def unfinished (cursor : Cursor) : Run α := { outcome := .unfinished, cursor := cursor }

def precededBy (events : List Event) (run : Run α) : Run α :=
  { run with events := events ++ run.events }

/-- Goes on from a success where it stopped; anything else ends the run. -/
def andThen (run : Run α) (continuation : α → Parser β) : Run β :=
  match run.outcome with
  | .success value => (continuation value run.cursor).precededBy run.events
  | .failure => { outcome := .failure, cursor := run.cursor, events := run.events }
  | .panic cause => { outcome := .panic cause, cursor := run.cursor, events := run.events }
  | .unfinished => { outcome := .unfinished, cursor := run.cursor, events := run.events }

def map (run : Run α) (mapping : α → β) : Run β :=
  run.andThen fun value => success (mapping value)

end Run

namespace Parser

def succeed (value : α) : Parser α := fun cursor => .success value cursor

def fail : Parser α := fun cursor => .failure cursor

def counted (name : Text) (parser : Parser α) : Parser α := fun cursor =>
  (parser cursor).precededBy [.called name]

/-- Gives a value in any case but a panic. After a failure the cursor is put back. -/
def attempt (parser : Parser α) : Parser (Option α) := fun start =>
  let run := parser start
  match run.outcome with
  | .success value =>
      { outcome := .success (some value), cursor := run.cursor, events := run.events }
  | .failure =>
      { outcome := .success none
        cursor := start
        events := run.events ++ [.backtracking run.cursor.offset start.offset] }
  | .panic cause => { outcome := .panic cause, cursor := run.cursor, events := run.events }
  | .unfinished => { outcome := .unfinished, cursor := run.cursor, events := run.events }

end Parser

end TextGrammar
