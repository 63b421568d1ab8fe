import TextGrammar.Grammar

/-!
Drafts: grammars as they are written, with patterns that are not compiled yet and rules that are
called by name. Building goes through a draft in the order in which it is written and stops at the
first pattern that is bad; a pattern that is asserted to be good makes a panic, one that is only
tried an error. A lazy part is built when it runs, where either is a panic.
-/

namespace TextGrammar

inductive BuildError
  | badPattern (error : PatternError)
  | panic (cause : Panic)
  deriving DecidableEq, Repr

def BuildError.toPanic : BuildError → Panic
  | .badPattern error => .badPattern error
  | .panic cause => cause

inductive Draft
  | lexer (pattern : Text)
  | triedLexer (options : PatternOptions) (pattern : Text)
  | pair (first second : Draft)
  | orElse (first second : Draft)
  | skip (content skipped : Draft)
  | skipThen (first : Draft) (others : List Draft) (content : Draft)
  | quoted (content quote : Draft)
  | trimmed (content : Draft)
  | map (content : Draft) (mapping : Value → Value)
  | tryMap (content : Draft) (mapping : Value → Except String Value)
  | repeated (item separator : Draft) (atLeastOne : Bool)
  | choice (alternatives : List Draft)
  | empty
  | attempt (content : Draft)
  | counted (name : Text) (content : Draft)
  | custom (script : Script)
  | rule (name : Text)
  | lazy (name : Text)

namespace Draft

def horizontalSpacePattern : Text := ['[', ' ', '\t', ']', '*']

def horizontalSpace : Except PatternError Lexer := Lexer.build {} horizontalSpacePattern

def asserted (result : Except PatternError Lexer) : Except BuildError Grammar :=
  match result with
  | .ok token => .ok (.lexer token)
  | .error error => .error (.panic (.badPattern error))

def skippedPairs (first : Grammar) (others : List Grammar) : Grammar :=
  others.foldl .pair first

/-- `depth` bounds how deeply drafts and called rules may stand one inside another. -/
def buildWithin (rules : List (Text × Draft)) : Nat → Draft → Except BuildError Grammar
  | 0, _ => .error (.panic .endlessRules)
  | depth + 1, draft =>
      let inner := buildWithin rules depth
      match draft with
      | .lexer pattern => asserted (Lexer.build {} pattern)
      | .triedLexer options pattern =>
          match Lexer.build options pattern with
          | .ok token => .ok (.lexer token)
          | .error error => .error (.badPattern error)
      | .pair first second => do return .pair (← inner first) (← inner second)
      | .orElse first second => do return .orElse (← inner first) (← inner second)
      | .skip content skipped => do return .skip (← inner content) (← inner skipped)
      | .skipThen first others content => do
          let content ← inner content
          let first ← inner first
          let others ← others.mapM inner
          return .skipThen (skippedPairs first others) content
      | .quoted content quote => do return .quoted (← inner content) (← inner quote)
      | .trimmed content => do return .quoted (← inner content) (← asserted horizontalSpace)
      | .map content mapping => do return .map (← inner content) mapping
      | .tryMap content mapping => do return .tryMap (← inner content) mapping
      | .repeated item separator atLeastOne => do
          return .repeated (← inner item) (← inner separator) atLeastOne
      | .choice alternatives => do return .choice (← alternatives.mapM inner)
      | .empty => .ok .empty
      | .attempt content => do return .attempt (← inner content)
      | .counted name content => do return .counted name (← inner content)
      | .custom script => .ok (.custom script)
      | .rule name =>
          match rules.find? fun entry => entry.1 == name with
          | some entry => inner entry.2
          | none => .error (.panic (.unknownRule name))
      | .lazy name => .ok (.lazy name)

def largestDepth : Nat := 10000

def build (rules : List (Text × Draft)) (draft : Draft) : Except BuildError Grammar :=
  buildWithin rules largestDepth draft

end Draft

def Rules.ofDrafts (drafts : List (Text × Draft)) : Rules where
  entries := drafts.map fun (name, draft) =>
    (name, (Draft.build drafts draft).mapError BuildError.toPanic)

end TextGrammar
