import TextGrammar.Pattern.Flags

/-!
Brackets while they are being read: the items of the innermost open bracket, the operator that
waits for its right side, and the brackets around it. Operators have one precedence and group to
the left, and an operator takes all the items between it and the next one.
-/

namespace TextGrammar

structure SetNode where
  set : CharSet
  nesting : Nat := 0

namespace SetNode

def ofItems : List SetNode → SetNode
  | [] => { set := .none }
  | [only] => only
  | items =>
      { set := items.foldl (fun set item => .union item.set set) .none
        nesting := items.foldl (fun greatest item => max greatest item.nesting) 0 + 1 }

end SetNode

inductive SetOperator
  | intersection
  | difference
  | symmetricDifference
  deriving DecidableEq, Repr

def SetOperator.ofCharacter? (character : Char) : Option SetOperator :=
  match character with
  | '&' => some .intersection
  | '-' => some .difference
  | '~' => some .symmetricDifference
  | _ => none

def SetOperator.apply (operator : SetOperator) (left right : CharSet) : CharSet :=
  match operator with
  | .intersection => .intersection left right
  | .difference => .difference left right
  | .symmetricDifference => .symmetricDifference left right

structure Bracket where
  negated : Bool := false
  pending : Option (SetOperator × SetNode) := none
  items : List SetNode := []

namespace Bracket

def push (bracket : Bracket) (item : SetNode) : Bracket :=
  { bracket with items := item :: bracket.items }

def operand (bracket : Bracket) : SetNode :=
  let right := SetNode.ofItems bracket.items
  match bracket.pending with
  | none => right
  | some (operator, left) =>
      { set := operator.apply left.set right.set
        nesting := max left.nesting right.nesting + 1 }

def operate (bracket : Bracket) (operator : SetOperator) : Bracket :=
  { bracket with pending := some (operator, bracket.operand), items := [] }

/-- Without Unicode a complement would hold single bytes, so a negated bracket is refused. -/
def close? (bracket : Bracket) (flags : Flags) : Option SetNode :=
  let operand := bracket.operand
  if bracket.negated then
    if flags.unicode then
      some { set := .complement operand.set, nesting := operand.nesting + 1 }
    else none
  else some { operand with nesting := operand.nesting + 1 }

end Bracket

structure OpenBrackets where
  innermost : Bracket
  enclosing : List Bracket := []

namespace OpenBrackets

def push (brackets : OpenBrackets) (item : SetNode) : OpenBrackets :=
  { brackets with innermost := brackets.innermost.push item }

def operate (brackets : OpenBrackets) (operator : SetOperator) : OpenBrackets :=
  { brackets with innermost := brackets.innermost.operate operator }

def toList (brackets : OpenBrackets) : List Bracket :=
  brackets.innermost :: brackets.enclosing

end OpenBrackets

inductive SetAtom
  | character (value : Char)
  | members (set : CharSet)

namespace SetAtom

/-- Without Unicode a bracket holds ASCII characters only. -/
def item? (atom : SetAtom) (flags : Flags) : Option SetNode :=
  match atom with
  | .character value =>
      if !flags.unicode && value.toNat ≥ 128 then none
      else some { set := flags.closeCase (.single value) }
  | .members set => some { set := flags.closeCase set }

def rangeItem? (first last : SetAtom) (flags : Flags) : Option SetNode :=
  match first, last with
  | .character low, .character high =>
      if !flags.unicode && (low.toNat ≥ 128 || high.toNat ≥ 128) then none
      else if low ≤ high then some { set := flags.closeCase (.range low high) }
      else none
  | _, _ => none

end SetAtom

end TextGrammar
