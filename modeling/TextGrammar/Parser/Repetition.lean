import TextGrammar.Parser.Run

/-!
Repetition with a separator. Items and separators are attempts in turn, and the first that fails
ends the repetition; a separator that matched is kept even if no item follows it. An item and a
separator that together leave the position as it was end the repetition too, for another round
would be the same again.
-/

namespace TextGrammar.Parser

variable {α β : Type}

def rounds (item : Parser α) (separator : Parser β) : Nat → Parser (List α)
  | 0 => fun cursor => .unfinished cursor
  | budget + 1 => fun start =>
      (attempt item start).andThen fun result cursor =>
        match result with
        | none => .success [] cursor
        | some value =>
            (attempt separator cursor).andThen fun result cursor =>
              match result with
              | none => .success [value] cursor
              | some _ =>
                  if cursor.offset = start.offset then
                    { outcome := .success [value]
                      cursor := cursor
                      events := [.noProgress start.offset] }
                  else (rounds item separator budget cursor).map fun values => value :: values

/-- The check for at least one item comes after the last round. -/
def repeated (item : Parser α) (separator : Parser β) (atLeastOne : Bool) (budget : Nat) :
    Parser (List α) := fun cursor =>
  (rounds item separator budget cursor).andThen fun values cursor =>
    if atLeastOne && values.isEmpty then .failure cursor else .success values cursor

end TextGrammar.Parser
