import TextGrammar.Location

/-!
Cursors: a text and a position in it, counted in bytes. A cursor moves forward over whole
characters, and back or forward to any remaining text that its source ends in. An operation that
is refused gives the cause and no cursor, so the old one stays as it was.
-/

namespace TextGrammar

inductive CursorError
  | overrun (requested available : Nat)
  | notBoundary (requested : Nat)
  | notSuffix
  deriving DecidableEq, Repr

def CursorError.message : CursorError → String
  | .overrun requested available =>
      "cannot advance " ++ String.ofList (decimalDigits requested) ++ " bytes, only " ++
        String.ofList (decimalDigits available) ++ " remaining"
  | .notBoundary requested =>
      "advancing " ++ String.ofList (decimalDigits requested) ++
        " bytes does not land on a char boundary"
  | .notSuffix => "restored text is not a suffix of the cursor's source"

structure Cursor where
  source : Text
  offset : Nat
  deriving DecidableEq, Repr

namespace Cursor

def start (source : Text) : Cursor := { source := source, offset := 0 }

def remaining (cursor : Cursor) : Text := dropBytes cursor.offset cursor.source

def consumed (cursor : Cursor) : Text := takeBytes cursor.offset cursor.source

def atEnd (cursor : Cursor) : Bool := cursor.offset == byteLength cursor.source

def location (cursor : Cursor) : Location := .after cursor.consumed

/-- The next `count` bytes, if there are so many and they are whole characters; of the two faults
the overrun comes first. -/
def tryAdvance (cursor : Cursor) (count : Nat) : Except CursorError (Text × Cursor) :=
  let remaining := cursor.remaining
  let available := byteLength remaining
  if available < count then .error (.overrun count available)
  else if isBoundary count remaining then
    .ok (takeBytes count remaining, { cursor with offset := cursor.offset + count })
  else .error (.notBoundary count)

def restore (cursor : Cursor) (saved : Text) : Except CursorError Cursor :=
  let size := byteLength cursor.source
  let length := byteLength saved
  if size < length then .error .notSuffix
  else
    let offset := size - length
    if isBoundary offset cursor.source && dropBytes offset cursor.source == saved then
      .ok { cursor with offset := offset }
    else .error .notSuffix

end Cursor

end TextGrammar
