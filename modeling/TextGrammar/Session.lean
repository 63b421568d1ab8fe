import TextGrammar.Grammar
import TextGrammar.Description

/-!
Sessions: a cursor that is moved step by step, with copies of cursors and texts kept under names.
A step that is refused leaves everything as it was.
-/

namespace TextGrammar

structure Session where
  cursor : Cursor
  copies : List (Text × Cursor) := []
  kept : List (Text × Text) := []

namespace Session

inductive Step
  | advance (count : Nat)
  | tryAdvance (count : Nat)
  | restore (saved : Text)
  | keep (slot : Text)
  | restoreKept (slot : Text)
  | copy (slot : Text)
  | assign (slot : Text)
  | equals (slot : Text)
  | swap (slot : Text)
  | renew (source : Text)
  | location
  | describe
  | source
  | parse (grammar : Grammar)
  | attempt (grammar : Grammar)

inductive Answer
  | taken (text : Text)
  | done
  | restored
  | refused (error : CursorError)
  | panic (cause : Panic)
  | same (truth : Bool)
  | located (location : Location)
  | described (description : String)
  | sourceText (text : Text)
  | parsed (outcome : Outcome Value)
  | attempted (outcome : Outcome (Option Value))
  | emptySlot (slot : Text)

variable {α : Type}

def put (slot : Text) (value : α) (slots : List (Text × α)) : List (Text × α) :=
  (slot, value) :: slots.filter fun entry => entry.1 != slot

def find? (slot : Text) (slots : List (Text × α)) : Option α :=
  (slots.find? fun entry => entry.1 == slot).map Prod.snd

def restoreCursor (session : Session) (saved : Text) : Answer × Session :=
  match session.cursor.restore saved with
  | .ok cursor => (.restored, { session with cursor := cursor })
  | .error error => (.refused error, session)

def step (rules : Rules) (budget : Nat) (session : Session) :
    Step → Answer × Session × List Event
  | .advance count =>
      match session.cursor.tryAdvance count with
      | .ok (taken, cursor) => (.taken taken, { session with cursor := cursor }, [])
      | .error error => (.panic (.misuse error), session, [])
  | .tryAdvance count =>
      match session.cursor.tryAdvance count with
      | .ok (taken, cursor) => (.taken taken, { session with cursor := cursor }, [])
      | .error error => (.refused error, session, [])
  | .restore saved =>
      let (answer, session) := session.restoreCursor saved
      (answer, session, [])
  | .keep slot =>
      (.done, { session with kept := put slot session.cursor.remaining session.kept }, [])
  | .restoreKept slot =>
      match find? slot session.kept with
      | some saved =>
          let (answer, session) := session.restoreCursor saved
          (answer, session, [])
      | none => (.emptySlot slot, session, [])
  | .copy slot =>
      (.done, { session with copies := put slot session.cursor session.copies }, [])
  | .assign slot =>
      match find? slot session.copies with
      | some cursor => (.same true, { session with cursor := cursor }, [])
      | none => (.emptySlot slot, session, [])
  | .equals slot =>
      match find? slot session.copies with
      | some cursor => (.same (session.cursor == cursor), session, [])
      | none => (.emptySlot slot, session, [])
  | .swap slot =>
      match find? slot session.copies with
      | some cursor =>
          (.same (cursor == session.cursor),
            { session with
              cursor := cursor
              copies := put slot session.cursor session.copies }, [])
      | none => (.emptySlot slot, session, [])
  | .renew source => (.done, { session with cursor := .start source }, [])
  | .location => (.located session.cursor.location, session, [])
  | .describe => (.described session.cursor.describe, session, [])
  | .source => (.sourceText session.cursor.source, session, [])
  | .parse grammar =>
      let run := grammar.parse rules budget session.cursor
      (.parsed run.outcome, { session with cursor := run.cursor }, run.events)
  | .attempt grammar =>
      let run := (grammar.parse rules budget).attempt session.cursor
      (.attempted run.outcome, { session with cursor := run.cursor }, run.events)

def play (rules : Rules) (budget : Nat) :
    Session → List Step → List (Answer × Cursor) × List Event
  | _, [] => ([], [])
  | session, step :: steps =>
      let (answer, session, events) := session.step rules budget step
      let (answers, later) := play rules budget session steps
      ((answer, session.cursor) :: answers, events ++ later)

end Session

end TextGrammar
