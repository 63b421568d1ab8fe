import TextGrammar.Lexer
import TextGrammar.Script
import TextGrammar.Parser.Sequence
import TextGrammar.Parser.Choice
import TextGrammar.Parser.Repetition

/-!
Grammars: expressions over parsers whose results are values. A lazy part names a rule of a table
and is built from it each time it runs, so rules can refer to themselves and to one another. A run
has a budget, the depth to which parts may stand one inside another and the number of rounds that
a repetition may take; a run that ends does so in the same way with any larger budget.
-/

namespace TextGrammar

inductive Grammar
  | lexer (token : Lexer)
  | pair (first second : Grammar)
  | orElse (first second : Grammar)
  | skip (content skipped : Grammar)
  | skipThen (skipped content : Grammar)
  | quoted (content quote : Grammar)
  | map (content : Grammar) (mapping : Value → Value)
  | tryMap (content : Grammar) (mapping : Value → Except String Value)
  | repeated (item separator : Grammar) (atLeastOne : Bool)
  | choice (alternatives : List Grammar)
  | empty
  | attempt (content : Grammar)
  | counted (name : Text) (content : Grammar)
  | custom (script : Script)
  | lazy (name : Text)

/-- What building each rule gives: a grammar or a panic. -/
structure Rules where
  entries : List (Text × Except Panic Grammar)

def Rules.build (rules : Rules) (name : Text) : Except Panic Grammar :=
  match rules.entries.find? fun entry => entry.1 == name with
  | some entry => entry.2
  | none => .error (.unknownRule name)

def Grammar.parse (rules : Rules) : Nat → Grammar → Parser Value
  | 0, _ => fun cursor => .unfinished cursor
  | budget + 1, grammar =>
      let inner := Grammar.parse rules budget
      match grammar with
      | .lexer token => Parser.map token.parse .text
      | .pair first second =>
          Parser.map (Parser.pair (inner first) (inner second)) fun (left, right) =>
            .pair left right
      | .orElse first second => Parser.orElse (inner first) (inner second)
      | .skip content skipped => Parser.skip (inner content) (inner skipped)
      | .skipThen skipped content => Parser.skipThen (inner skipped) (inner content)
      | .quoted content quote => Parser.quotedBy (inner content) (inner quote)
      | .map content mapping => Parser.map (inner content) mapping
      | .tryMap content mapping => Parser.tryMap (inner content) mapping
      | .repeated item separator atLeastOne =>
          Parser.map (Parser.repeated (inner item) (inner separator) atLeastOne budget) .list
      | .choice alternatives => Parser.choice (alternatives.map inner)
      | .empty => Parser.succeed .unit
      | .attempt content => Parser.map (Parser.attempt (inner content)) .optional
      | .counted name content => Parser.counted name (inner content)
      | .custom script => script.run
      | .lazy name => fun cursor =>
          match rules.build name with
          | .ok grammar => (inner grammar cursor).precededBy [.built name]
          | .error cause => (Run.panic cause cursor).precededBy [.built name]

end TextGrammar
