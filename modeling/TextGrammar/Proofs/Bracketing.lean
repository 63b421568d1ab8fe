import TextGrammar.Proofs.Budget
import TextGrammar.Proofs.Equations

/-!
Choices and how they are bracketed. Any way to write a choice with the binary one runs like the
choice among all its alternatives, and both run like a rule that names neither: the alternatives
are tried from left to right, each from the start, until one does not fail.
-/

namespace TextGrammar

open Budgeted

variable {α γ : Type} {start : Cursor}

/-! ## The rule -/

/-- An alternative that does not fail decides, and so does the last one; any other is rolled back
from where it stopped, and the next ones decide. -/
inductive OrderedChoice (ends : γ → Run α → Prop) (start : Cursor) : List γ → Run α → Prop
  | decided {alternative : γ} {run : Run α} (later : List γ) (ended : ends alternative run)
      (held : run.outcome ≠ .failure) : OrderedChoice ends start (alternative :: later) run
  | allFailed {alternative : γ} {run : Run α} (ended : ends alternative run)
      (failed : run.outcome = .failure) : OrderedChoice ends start [alternative] run
  | rolledBack {alternative next : γ} {later : List γ} {tried run : Run α}
      (ended : ends alternative tried) (failed : tried.outcome = .failure)
      (others : OrderedChoice ends start (next :: later) run) :
      OrderedChoice ends start (alternative :: next :: later)
        (run.precededBy
          (tried.events ++ [.backtracking tried.cursor.offset start.offset]))

namespace Parser

theorem choice_cons (first second : Parser α) (rest : List (Parser α)) :
    choice (first :: second :: rest) = orElse first (choice (second :: rest)) :=
  rfl

theorem choice_append {earlier later : List (Parser α)} (before : earlier ≠ [])
    (behind : later ≠ []) :
    choice (earlier ++ later) = orElse (choice earlier) (choice later) := by
  induction earlier with
  | nil => exact absurd rfl before
  | cons first rest ih =>
      cases rest with
      | nil =>
          cases later with
          | nil => exact absurd rfl behind
          | cons second later => rfl
      | cons second rest =>
          -- the bracket around the earlier ones is moved to the right
          rw [choice_cons, orElse_assoc, ← ih (by simp)]
          rfl

theorem choice_eq_iff (parse : γ → Parser α) {alternatives : List γ} (nonempty : alternatives ≠ [])
    (start : Cursor) (run : Run α) :
    choice (alternatives.map parse) start = run ↔
      OrderedChoice (fun alternative run => parse alternative start = run) start alternatives
        run := by
  constructor
  · rintro rfl
    induction alternatives with
    | nil => exact absurd rfl nonempty
    | cons first rest ih =>
        by_cases failed : (parse first start).outcome = .failure
        · cases rest with
          | nil => exact .allFailed rfl failed
          | cons second rest =>
              have others := ih (by simp)
              simp only [List.map_cons, choice_cons, orElse_of_failure failed]
              exact .rolledBack rfl failed others
        · cases rest with
          | nil => exact .decided [] rfl failed
          | cons second rest =>
              simp only [List.map_cons, choice_cons, orElse_of_not_failure failed]
              exact .decided _ rfl failed
  · intro ordered
    induction ordered with
    | decided later ended held =>
        subst ended
        cases later with
        | nil => rfl
        | cons second later => exact orElse_of_not_failure held _
    | allFailed ended failed => exact ended
    | rolledBack ended failed others ih =>
        subst ended
        rw [← ih (by simp)]
        exact orElse_of_failure failed _

end Parser

/-! ## Bracketings -/

/-- A way to put brackets around alternatives, always two by two. -/
inductive Bracketing (γ : Type)
  | single (alternative : γ)
  | either (left right : Bracketing γ)

namespace Bracketing

def alternatives : Bracketing γ → List γ
  | .single alternative => [alternative]
  | .either left right => left.alternatives ++ right.alternatives

theorem alternatives_ne_nil (bracketing : Bracketing γ) : bracketing.alternatives ≠ [] := by
  induction bracketing with
  | single alternative => simp [alternatives]
  | either left right leftSome _ => simp [alternatives, leftSome]

def parser (parse : γ → Parser α) : Bracketing γ → Parser α
  | .single alternative => parse alternative
  | .either left right => Parser.orElse (left.parser parse) (right.parser parse)

def grammar : Bracketing Grammar → Grammar
  | .single alternative => alternative
  | .either left right => .orElse left.grammar right.grammar

def height : Bracketing γ → Nat
  | .single _ => 0
  | .either left right => max left.height right.height + 1

def leftNested (first : γ) (rest : List γ) : Bracketing γ :=
  rest.foldl (fun bracketing alternative => .either bracketing (.single alternative))
    (.single first)

theorem parser_eq_choice (parse : γ → Parser α) (bracketing : Bracketing γ) :
    bracketing.parser parse = Parser.choice (bracketing.alternatives.map parse) := by
  induction bracketing with
  | single alternative => rfl
  | either left right leftSame rightSame =>
      have leftSome : left.alternatives.map parse ≠ [] := by
        simpa using left.alternatives_ne_nil
      have rightSome : right.alternatives.map parse ≠ [] := by
        simpa using right.alternatives_ne_nil
      rw [parser, alternatives, List.map_append, Parser.choice_append leftSome rightSome, leftSame,
        rightSame]

/-! ## Grammars -/

open Lockstep Grammar

variable {rules : Rules} {run : Run Value}

theorem parse_grammar_together (rules : Rules) (bracketing : Bracketing Grammar) {budget larger : Nat}
    (less : budget ≤ larger) :
    completion.Together (parse rules budget bracketing.grammar)
      (bracketing.parser (parse rules larger)) := by
  induction bracketing generalizing budget with
  | single alternative => exact parse_larger rules alternative less
  | either left right leftTogether rightTogether =>
      cases budget with
      | zero => exact fun here there _ finished => absurd rfl finished
      | succ budget => exact orElse (leftTogether (by omega)) (rightTogether (by omega))

theorem parsers_together (rules : Rules) (bracketing : Bracketing Grammar) {budget larger : Nat}
    (enough : budget + bracketing.height ≤ larger) :
    completion.Together (bracketing.parser (parse rules budget))
      (parse rules larger bracketing.grammar) := by
  induction bracketing generalizing larger with
  | single alternative => exact parse_larger rules alternative enough
  | either left right leftTogether rightTogether =>
      simp only [height] at enough
      obtain ⟨larger, rfl⟩ : ∃ previous, larger = previous + 1 := ⟨larger - 1, by omega⟩
      exact orElse (leftTogether (by omega)) (rightTogether (by omega))

theorem alternatives_leftNested (first : γ) (rest : List γ) :
    (leftNested first rest).alternatives = first :: rest := by
  have nested : ∀ bracketing : Bracketing γ,
      (rest.foldl (fun bracketing alternative => .either bracketing (.single alternative))
        bracketing).alternatives = bracketing.alternatives ++ rest := by
    induction rest with
    | nil => simp
    | cons second rest ih => simp [ih, alternatives]
  exact nested (.single first)

theorem grammar_leftNested (first : Grammar) (rest : List Grammar) :
    (leftNested first rest).grammar = rest.foldl .orElse first := by
  have nested : ∀ bracketing : Bracketing Grammar,
      (rest.foldl (fun bracketing alternative => .either bracketing (.single alternative))
        bracketing).grammar = rest.foldl .orElse bracketing.grammar := by
    induction rest with
    | nil => simp
    | cons second rest ih => simp [ih, grammar]
  exact nested (.single first)

theorem endsIn_grammar_iff (bracketing : Bracketing Grammar) :
    EndsIn (budgeted rules bracketing.grammar) start run ↔
      run.outcome ≠ .unfinished ∧
        ∃ budget, bracketing.parser (parse rules budget) start = run :=
  endsIn_iff_of_together
    (fun budget => parse_grammar_together rules bracketing (Nat.le_refl budget))
    fun _ => parsers_together rules bracketing (Nat.le_refl _)

theorem endsIn_choice_iff (alternatives : List Grammar) :
    EndsIn (budgeted rules (.choice alternatives)) start run ↔
      run.outcome ≠ .unfinished ∧
        ∃ budget, Parser.choice (alternatives.map (parse rules budget)) start = run := by
  constructor
  · rintro ⟨finished, budget, rfl⟩
    cases budget with
    | zero => exact absurd rfl finished
    | succ budget => exact ⟨finished, budget, rfl⟩
  · rintro ⟨finished, budget, rfl⟩
    exact ⟨finished, budget + 1, rfl⟩

theorem orderedChoice_of_budget {budget : Nat} {alternatives : List Grammar}
    (finished : run.outcome ≠ .unfinished)
    (ordered : OrderedChoice (fun grammar run => parse rules budget grammar start = run) start
      alternatives run) :
    OrderedChoice (fun grammar run => EndsIn (budgeted rules grammar) start run) start
      alternatives run := by
  induction ordered with
  | decided later ended held => exact .decided later ⟨finished, budget, ended⟩ held
  | allFailed ended failed => exact .allFailed ⟨finished, budget, ended⟩ failed
  | rolledBack ended failed others ih =>
      exact .rolledBack ⟨by simp [failed], budget, ended⟩ failed (ih finished)

theorem budget_of_orderedChoice {alternatives : List Grammar}
    (ordered : OrderedChoice (fun grammar run => EndsIn (budgeted rules grammar) start run) start
      alternatives run) :
    run.outcome ≠ .unfinished ∧ ∃ least, ∀ budget, least ≤ budget →
      OrderedChoice (fun grammar run => parse rules budget grammar start = run) start
        alternatives run := by
  -- each alternative that is tried has a budget of its own, and the largest is enough for all
  induction ordered with
  | decided later ended held =>
      obtain ⟨least, same⟩ := ended.parse_eq
      exact ⟨ended.1, least, fun budget enough => .decided later (same budget enough) held⟩
  | allFailed ended failed =>
      obtain ⟨least, same⟩ := ended.parse_eq
      exact ⟨ended.1, least, fun budget enough => .allFailed (same budget enough) failed⟩
  | rolledBack ended failed others ih =>
      obtain ⟨least, same⟩ := ended.parse_eq
      obtain ⟨finished, leastOthers, othersSame⟩ := ih
      refine ⟨finished, max least leastOthers, fun budget enough => ?_⟩
      exact .rolledBack (same budget (by omega)) failed (othersSame budget (by omega))

theorem choice_endsIn_iff {alternatives : List Grammar} (nonempty : alternatives ≠ []) :
    (run.outcome ≠ .unfinished ∧
        ∃ budget, Parser.choice (alternatives.map (parse rules budget)) start = run) ↔
      OrderedChoice (fun grammar run => EndsIn (budgeted rules grammar) start run) start
        alternatives run := by
  constructor
  · rintro ⟨finished, budget, ended⟩
    exact orderedChoice_of_budget finished
      ((Parser.choice_eq_iff (parse rules budget) nonempty start run).mp ended)
  · intro ordered
    obtain ⟨finished, budget, same⟩ := budget_of_orderedChoice ordered
    exact ⟨finished, budget, (Parser.choice_eq_iff (parse rules budget) nonempty start run).mpr
      (same budget (Nat.le_refl budget))⟩

/-- However its alternatives are bracketed, and also if they are not, a choice ends in the run that
the rule gives: for parsers of any type as the same function, and for grammars with the same
outcome, cursor and events. Brackets to the left are one case of it. -/
theorem ordered_choice :
    (∀ (α : Type) (bracketing : Bracketing (Parser α)) (start : Cursor) (run : Run α),
      bracketing.parser id start = Parser.choice bracketing.alternatives start ∧
      (bracketing.parser id start = run ↔
        OrderedChoice (fun parser run => parser start = run) start bracketing.alternatives
          run)) ∧
    (∀ (rules : Rules) (bracketing : Bracketing Grammar) (start : Cursor) (run : Run Value),
      (EndsIn (budgeted rules bracketing.grammar) start run ↔
        OrderedChoice (fun grammar run => EndsIn (budgeted rules grammar) start run) start
          bracketing.alternatives run) ∧
      (EndsIn (budgeted rules (.choice bracketing.alternatives)) start run ↔
        OrderedChoice (fun grammar run => EndsIn (budgeted rules grammar) start run) start
          bracketing.alternatives run)) ∧
    ∀ (rules : Rules) (first : Grammar) (rest : List Grammar) (start : Cursor) (run : Run Value),
      EndsIn (budgeted rules (rest.foldl .orElse first)) start run ↔
        OrderedChoice (fun grammar run => EndsIn (budgeted rules grammar) start run) start
          (first :: rest) run := by
  have grammars : ∀ (rules : Rules) (bracketing : Bracketing Grammar) (start : Cursor)
      (run : Run Value), EndsIn (budgeted rules bracketing.grammar) start run ↔
        OrderedChoice (fun grammar run => EndsIn (budgeted rules grammar) start run) start
          bracketing.alternatives run := by
    intro rules bracketing start run
    rw [endsIn_grammar_iff, ← choice_endsIn_iff bracketing.alternatives_ne_nil]
    simp only [parser_eq_choice]
  refine ⟨?_, ?_, ?_⟩
  · intro α bracketing start run
    have same : bracketing.parser id = Parser.choice bracketing.alternatives := by
      rw [parser_eq_choice, List.map_id]
    have ordered := Parser.choice_eq_iff id bracketing.alternatives_ne_nil start run
    rw [List.map_id] at ordered
    exact ⟨congrFun same start, same ▸ ordered⟩
  · intro rules bracketing start run
    refine ⟨grammars rules bracketing start run, ?_⟩
    rw [endsIn_choice_iff, choice_endsIn_iff bracketing.alternatives_ne_nil]
  · intro rules first rest start run
    have nested := grammars rules (leftNested first rest) start run
    rwa [grammar_leftNested, alternatives_leftNested] at nested

end Bracketing

end TextGrammar
