import TextGrammar.Value
import TextGrammar.Parser.Run

/-!
Custom rules, written as scripts over the operations of a cursor. A script ends on every cursor,
since it is itself finite, and it touches the cursor in no other way than a caller could.
-/

namespace TextGrammar

inductive Script
  | succeed (value : Value)
  | fail
  | advance (count : Nat) (next : Text → Script)
  | tryAdvance (count : Nat) (next : Except CursorError Text → Script)
  | restore (saved : Text) (next : Except CursorError Unit → Script)
  | remaining (next : Text → Script)
  | consumed (next : Text → Script)
  | source (next : Text → Script)
  | offset (next : Nat → Script)
  | location (next : Location → Script)

namespace Script

def run : Script → Parser Value
  | .succeed value, cursor => .success value cursor
  | .fail, cursor => .failure cursor
  | .advance count next, cursor =>
      match cursor.tryAdvance count with
      | .ok (taken, moved) => (next taken).run moved
      | .error error => .panic (.misuse error) cursor
  | .tryAdvance count next, cursor =>
      match cursor.tryAdvance count with
      | .ok (taken, moved) => (next (.ok taken)).run moved
      | .error error => (next (.error error)).run cursor
  | .restore saved next, cursor =>
      match cursor.restore saved with
      | .ok moved => (next (.ok ())).run moved
      | .error error => (next (.error error)).run cursor
  | .remaining next, cursor => (next cursor.remaining).run cursor
  | .consumed next, cursor => (next cursor.consumed).run cursor
  | .source next, cursor => (next cursor.source).run cursor
  | .offset next, cursor => (next cursor.offset).run cursor
  | .location next, cursor => (next cursor.location).run cursor

def firstCharacter : Script :=
  .remaining fun text =>
    match text with
    | [] => .fail
    | character :: _ => .advance character.utf8Size fun taken => .succeed (.text taken)

def take (count : Nat) : Script :=
  .advance count fun taken => .succeed (.text taken)

def tryTake (count : Nat) : Script :=
  .tryAdvance count fun result =>
    match result with
    | .ok taken => .succeed (.text taken)
    | .error _ => .fail

def takeAndFail (count : Nat) : Script := .tryAdvance count fun _ => .fail

def rest : Script :=
  .remaining fun text => .advance (byteLength text) fun taken => .succeed (.text taken)

def currentOffset : Script := .offset fun offset => .succeed (.integer offset)

def currentLocation : Script :=
  .location fun location => .succeed (.text location.display.toList)

def textBefore : Script := .consumed fun text => .succeed (.text text)

def restoreTo (saved : Text) : Script :=
  .restore saved fun result =>
    match result with
    | .ok _ => .succeed .unit
    | .error _ => .fail

def endOfText : Script :=
  .remaining fun text => if text.isEmpty then .succeed .unit else .fail

def textUntil? (sought : Text) : Text → Option Text
  | [] => if sought.isEmpty then some [] else none
  | character :: rest =>
      if sought.isPrefixOf (character :: rest) then some []
      else (textUntil? sought rest).map fun before => character :: before

def takeUntil (sought : Text) : Script :=
  .remaining fun text =>
    match textUntil? sought text with
    | some before => .advance (byteLength before) fun taken => .succeed (.text taken)
    | none => .fail

end Script

end TextGrammar
