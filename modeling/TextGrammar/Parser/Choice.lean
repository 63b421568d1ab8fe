import TextGrammar.Parser.Run

/-!
Ordered choice. The first alternative that succeeds wins. All but the last are attempts, so a
choice that fails stays where its last alternative stopped.
-/

namespace TextGrammar.Parser

variable {α : Type}

def orElse (first second : Parser α) : Parser α := fun cursor =>
  (attempt first cursor).andThen fun result cursor =>
    match result with
    | some value => .success value cursor
    | none => second cursor

/-- A choice among no alternatives fails on the spot. -/
def choice : List (Parser α) → Parser α
  | [] => fail
  | [last] => last
  | first :: rest => fun cursor =>
      (attempt first cursor).andThen fun result cursor =>
        match result with
        | some value => .success value cursor
        | none => choice rest cursor

end TextGrammar.Parser
