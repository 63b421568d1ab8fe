import Mathlib.Data.List.Forall2
import TextGrammar.Proofs.Script

/-!
The parts that a grammar is made of, and all that a run of it may ever come to: its parts, their
parts and so on, and the rules that lazy parts among them name.
-/

namespace TextGrammar

namespace Grammar

def parts : Grammar → List Grammar
  | .lexer _ => []
  | .pair first second => [first, second]
  | .orElse first second => [first, second]
  | .skip content skipped => [content, skipped]
  | .skipThen skipped content => [skipped, content]
  | .quoted content quote => [content, quote]
  | .map content _ => [content]
  | .tryMap content _ => [content]
  | .repeated item separator _ => [item, separator]
  | .choice alternatives => alternatives
  | .empty => []
  | .attempt content => [content]
  | .counted _ content => [content]
  | .custom _ => []
  | .lazy _ => []

theorem EachScript.each_part {Condition : Script → Prop} {grammar : Grammar}
    (scripts : grammar.EachScript Condition) :
    ∀ part ∈ grammar.parts, part.EachScript Condition := by
  cases scripts with
  | choice each => exact each
  | _ => simp [parts, *]

theorem sizeOf_lt_of_mem_parts {grammar part : Grammar} (member : part ∈ grammar.parts) :
    sizeOf part < sizeOf grammar := by
  cases grammar with
  | choice alternatives =>
      have smaller : sizeOf part < sizeOf alternatives := List.sizeOf_lt_of_mem member
      simp only [choice.sizeOf_spec]
      omega
  | _ => simp [parts] at member <;> grind

/-- The same form of grammar from parts that are related one by one. -/
inductive Likewise (Related : Grammar → Grammar → Prop) : Grammar → Grammar → Prop
  | lexer (token : Lexer) : Likewise Related (.lexer token) (.lexer token)
  | pair {first first' second second' : Grammar} (left : Related first first')
      (right : Related second second') :
      Likewise Related (.pair first second) (.pair first' second')
  | orElse {first first' second second' : Grammar} (preferred : Related first first')
      (other : Related second second') :
      Likewise Related (.orElse first second) (.orElse first' second')
  | skip {content content' skipped skipped' : Grammar} (kept : Related content content')
      (dropped : Related skipped skipped') :
      Likewise Related (.skip content skipped) (.skip content' skipped')
  | skipThen {skipped skipped' content content' : Grammar} (dropped : Related skipped skipped')
      (kept : Related content content') :
      Likewise Related (.skipThen skipped content) (.skipThen skipped' content')
  | quoted {content content' quote quote' : Grammar} (inside : Related content content')
      (around : Related quote quote') :
      Likewise Related (.quoted content quote) (.quoted content' quote')
  | map {content content' : Grammar} (mapping : Value → Value)
      (inside : Related content content') :
      Likewise Related (.map content mapping) (.map content' mapping)
  | tryMap {content content' : Grammar} (mapping : Value → Except String Value)
      (inside : Related content content') :
      Likewise Related (.tryMap content mapping) (.tryMap content' mapping)
  | repeated {item item' separator separator' : Grammar} (atLeastOne : Bool)
      (each : Related item item') (between : Related separator separator') :
      Likewise Related (.repeated item separator atLeastOne)
        (.repeated item' separator' atLeastOne)
  | choice {alternatives alternatives' : List Grammar}
      (each : List.Forall₂ Related alternatives alternatives') :
      Likewise Related (.choice alternatives) (.choice alternatives')
  | empty : Likewise Related .empty .empty
  | attempt {content content' : Grammar} (inside : Related content content') :
      Likewise Related (.attempt content) (.attempt content')
  | counted (name : Text) {content content' : Grammar} (inside : Related content content') :
      Likewise Related (.counted name content) (.counted name content')
  | custom (script : Script) : Likewise Related (.custom script) (.custom script)
  | lazy (name : Text) : Likewise Related (.lazy name) (.lazy name)

theorem Likewise.of_parts {Related : Grammar → Grammar → Prop} {grammar : Grammar}
    (each : ∀ part ∈ grammar.parts, Related part part) : Likewise Related grammar grammar := by
  cases grammar with
  | choice alternatives => exact .choice (List.forall₂_same.mpr each)
  | _ => constructor <;> exact each _ (by simp [parts])

theorem Likewise.mono {Related Wider : Grammar → Grammar → Prop}
    (wider : ∀ grammar other, Related grammar other → Wider grammar other)
    {grammar other : Grammar} (likewise : Likewise Related grammar other) :
    Likewise Wider grammar other := by
  cases likewise with
  | choice each => exact .choice (each.imp wider)
  | _ => constructor <;> apply wider <;> assumption

theorem Likewise.flip {Related : Grammar → Grammar → Prop} {grammar other : Grammar}
    (likewise : Likewise Related grammar other) :
    Likewise (fun grammar other => Related other grammar) other grammar := by
  cases likewise with
  | choice each => exact .choice each.flip
  | _ => constructor <;> assumption

end Grammar

/-- The whole, what it is made of, and what its lazy parts refer to. -/
inductive Rules.Reaches (rules : Rules) (whole : Grammar) : Grammar → Prop
  | whole : Reaches rules whole whole
  | part {grammar part : Grammar} (reached : Reaches rules whole grammar)
      (member : part ∈ grammar.parts) : Reaches rules whole part
  | rule {name : Text} {grammar : Grammar} (reached : Reaches rules whole (.lazy name))
      (found : rules.build name = .ok grammar) : Reaches rules whole grammar

/-- A list that the whole is in, with the parts of all that are in it and all rules, has
everything in it that the whole comes to. -/
theorem Rules.Reaches.mem_of_closed {rules : Rules} {whole : Grammar} {inside : List Grammar}
    (here : whole ∈ inside) (parts : ∀ grammar ∈ inside, ∀ part ∈ grammar.parts, part ∈ inside)
    (found : ∀ entry ∈ rules.entries, ∀ grammar, entry.2 = .ok grammar → grammar ∈ inside)
    {part : Grammar} (reached : rules.Reaches whole part) : part ∈ inside := by
  induction reached with
  | whole => exact here
  | part _ member ih => exact parts _ ih _ member
  | rule _ built _ => exact found _ (Rules.mem_entries_of_build built) _ rfl

theorem Rules.Reaches.eachScript {Condition : Script → Prop} {rules : Rules}
    (rulesEach : rules.EachScript Condition) {whole grammar : Grammar}
    (each : whole.EachScript Condition) (reached : rules.Reaches whole grammar) :
    grammar.EachScript Condition := by
  induction reached with
  | whole => exact each
  | part reached member ih => exact ih.each_part _ member
  | rule reached found ih => exact rulesEach _ _ found

end TextGrammar
