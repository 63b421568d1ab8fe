import TextGrammar.Text.Bytes

/-!
Events of a run, in the order in which they happen. Five kinds tell how the text was read; the
other two count how often a counted rule ran and how often a lazy rule was built.
-/

namespace TextGrammar

inductive Event
  | matched (pattern token : Text)
  | noMatch (pattern : Text) (offset : Nat)
  | backtracking (source target : Nat)
  | rejected (offset : Nat) (reason : String)
  | noProgress (offset : Nat)
  | called (name : Text)
  | built (name : Text)
  deriving DecidableEq, Repr

namespace Event

def calledName? : Event → Option Text
  | .called name => some name
  | _ => none

def builtName? : Event → Option Text
  | .built name => some name
  | _ => none

def isLogged : Event → Bool
  | .called _ => false
  | .built _ => false
  | _ => true

def tally (names : List Text) : List (Text × Nat) :=
  names.eraseDups.map fun name => (name, names.count name)

def calls (events : List Event) : List (Text × Nat) := tally (events.filterMap calledName?)

def builds (events : List Event) : List (Text × Nat) := tally (events.filterMap builtName?)

def log (events : List Event) : List Event := events.filter isLogged

end Event

end TextGrammar
