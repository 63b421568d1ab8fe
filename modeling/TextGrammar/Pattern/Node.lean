import TextGrammar.Pattern.Flags

/-!
Parts of a pattern while it is being read. A part carries its nesting: how many groups,
repetitions, brackets, and joins of several parts stand one inside another in it.
-/

namespace TextGrammar

/-- An inline flag setting is a part without a meaning of its own, and cannot be repeated. -/
structure Node where
  regex : Regex
  nesting : Nat := 0
  repeatable : Bool := true

namespace Node

def greatestNesting (nodes : List Node) : Nat :=
  nodes.foldl (fun greatest node => max greatest node.nesting) 0

def sequence : List Node → Node
  | [] => { regex := .empty }
  | [only] => only
  | nodes =>
      { regex := .sequence (nodes.map Node.regex)
        nesting := greatestNesting nodes + 1 }

def alternatives : List Node → Node
  | [only] => only
  | nodes =>
      { regex := .alternatives (nodes.map Node.regex)
        nesting := greatestNesting nodes + 1 }

def group (node : Node) : Node :=
  { regex := node.regex, nesting := node.nesting + 1 }

def iterate (node : Node) (least : Nat) (most : Option Nat) (greedy : Bool) : Node :=
  { regex := .iterate node.regex least most greedy, nesting := node.nesting + 1 }

def flagSetting : Node := { regex := .empty, repeatable := false }

end Node

structure Level where
  branches : List Node := []
  parts : List Node := []

namespace Level

def push (level : Level) (node : Node) : Level :=
  { level with parts := node :: level.parts }

def branch (level : Level) : Node := Node.sequence level.parts.reverse

def nextBranch (level : Level) : Level :=
  { branches := level.branch :: level.branches }

def node (level : Level) : Node :=
  Node.alternatives (level.branch :: level.branches).reverse

end Level

end TextGrammar
