import TextGrammar.Pattern.CharSet

/-!
Regular expressions with assertions. Repetition counts stay symbolic, so an expression is as small
as the pattern that it was read from; `weight` is an estimate of the bytes that the expression
would take with every count written out.
-/

namespace TextGrammar

inductive WordEdge
  | boundary
  | noBoundary
  | start
  | finish
  | startHalf
  | finishHalf
  deriving DecidableEq, Repr

/-- Conditions on the place between two characters. A line ends before a line feed, and in `crlf`
mode also before a carriage return, but never between the two of a pair. -/
inductive Look
  | textStart
  | textEnd
  | lineStart (crlf : Bool)
  | lineEnd (crlf : Bool)
  | word (edge : WordEdge) (unicode : Bool)
  deriving DecidableEq, Repr

inductive Regex
  | empty
  | set (members : CharSet)
  | look (condition : Look)
  | seq (first second : Regex)
  | alt (first second : Regex)
  | iterate (body : Regex) (least : Nat) (most : Option Nat) (greedy : Bool)

namespace Regex

def sequence : List Regex → Regex
  | [] => .empty
  | first :: rest => rest.foldl .seq first

def alternatives : List Regex → Regex
  | [] => .set .none
  | [only] => only
  | first :: rest => .alt first (alternatives rest)

def canBeEmpty : Regex → Bool
  | .empty => true
  | .set _ => false
  | .look _ => true
  | .seq first second => first.canBeEmpty && second.canBeEmpty
  | .alt first second => first.canBeEmpty || second.canBeEmpty
  | .iterate body least _ _ => least == 0 || body.canBeEmpty

def baseWeight : Nat := 256

def nodeWeight : Nat := 16

def bodyWeight : Regex → Nat
  | .empty => nodeWeight
  | .set members => nodeWeight * (1 + members.rangeCount)
  | .look _ => nodeWeight
  | .seq first second => first.bodyWeight + second.bodyWeight
  | .alt first second => nodeWeight + first.bodyWeight + second.bodyWeight
  | .iterate body least most _ =>
      nodeWeight + body.bodyWeight * (match most with
        | some bound => max least bound
        | none => max least 1)

def weight (regex : Regex) : Nat := baseWeight + regex.bodyWeight

end Regex

end TextGrammar
