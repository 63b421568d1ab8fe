import TextGrammar.Parser.Run

/-!
Sequences. The parts run from left to right on one cursor, and the first that fails ends the
sequence where it stopped; nothing is put back.
-/

namespace TextGrammar.Parser

variable {α β : Type}

def pair (first : Parser α) (second : Parser β) : Parser (α × β) := fun cursor =>
  (first cursor).andThen fun left cursor =>
    (second cursor).map fun right => (left, right)

def skip (content : Parser α) (skipped : Parser β) : Parser α := fun cursor =>
  (content cursor).andThen fun value cursor =>
    (skipped cursor).map fun _ => value

def skipThen (skipped : Parser β) (content : Parser α) : Parser α := fun cursor =>
  (skipped cursor).andThen fun _ => content

def quotedBy (content : Parser α) (quote : Parser β) : Parser α := fun cursor =>
  (quote cursor).andThen fun _ cursor =>
    (content cursor).andThen fun value cursor =>
      (quote cursor).map fun _ => value

def map (parser : Parser α) (mapping : α → β) : Parser β := fun cursor =>
  (parser cursor).map mapping

def tryMap (parser : Parser α) (mapping : α → Except String β) : Parser β := fun cursor =>
  (parser cursor).andThen fun value cursor =>
    match mapping value with
    | .ok mapped => .success mapped cursor
    | .error reason =>
        { outcome := .failure, cursor := cursor, events := [.rejected cursor.offset reason] }

end TextGrammar.Parser
