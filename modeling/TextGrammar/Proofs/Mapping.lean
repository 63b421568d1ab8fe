import TextGrammar.Proofs.Budget
import TextGrammar.Proofs.Equations

/-!
Mappings move outwards. A parser that maps its values runs as it would without, so it makes no
difference to anything around it whether values are mapped before they are put together or behind:
no other alternative is taken, no loop ends elsewhere, and nothing else is logged. For parsers these
are equations, and grammars on the two sides of one end in the same runs.
-/

namespace TextGrammar

open Budgeted

variable {α β γ δ : Type}

namespace Value

def mapPair (first second : Value → Value) : Value → Value
  | .pair left right => .pair (first left) (second right)
  | other => other

def mapItems (mapping : Value → Value) : Value → Value
  | .list items => .list (items.map mapping)
  | other => other

def mapOptional (mapping : Value → Value) : Value → Value
  | .optional value => .optional (value.map mapping)
  | other => other

end Value

/-! ## Parsers -/

theorem Run.map_map_congr {run : Run α} {first : α → β} {second : β → δ} {other : α → γ}
    {outer : γ → δ} (same : ∀ value, second (first value) = outer (other value)) :
    (run.map first).map second = (run.map other).map outer := by
  rw [map_map, map_map, funext same]

theorem Run.map_andThen_map {run : Run α} {inner : α → γ} {outer : β → δ}
    {mapped : γ → Parser δ} {continuation : α → Parser β}
    (moves : ∀ value cursor, mapped (inner value) cursor = (continuation value cursor).map outer) :
    (run.map inner).andThen mapped = (run.andThen continuation).map outer := by
  rw [map_andThen, andThen_map]
  exact andThen_congr fun value _ => moves value run.cursor

namespace Parser

theorem map_map (parser : Parser α) (first : α → β) (second : β → γ) :
    map (map parser first) second = map parser (second ∘ first) :=
  funext fun start => Run.map_map (parser start) first second

theorem tryMap_map (parser : Parser α) (mapping : α → β) (check : β → Except String γ) :
    tryMap (map parser mapping) check = tryMap parser (check ∘ mapping) :=
  funext fun start => Run.map_andThen (parser start) mapping _

theorem pair_map (first : Parser α) (second : Parser β) (left : α → γ) (right : β → δ) :
    pair (map first left) (map second right) = map (pair first second) (Prod.map left right) := by
  funext start
  apply Run.map_andThen_map
  intro value cursor
  exact Run.map_map_congr fun other => rfl

theorem skip_map (content : Parser α) (skipped : Parser β) (mapping : α → γ) (other : β → δ) :
    skip (map content mapping) (map skipped other) = map (skip content skipped) mapping := by
  funext start
  apply Run.map_andThen_map
  intro value cursor
  exact Run.map_map_congr fun between => rfl

theorem skipThen_map (skipped : Parser α) (content : Parser β) (other : α → γ) (mapping : β → δ) :
    skipThen (map skipped other) (map content mapping) =
      map (skipThen skipped content) mapping := by
  funext start
  apply Run.map_andThen_map
  intro value cursor
  rfl

theorem quotedBy_map (content : Parser α) (quote : Parser β) (mapping : α → γ) (other : β → δ) :
    quotedBy (map content mapping) (map quote other) = map (quotedBy content quote) mapping := by
  have inside := skip_map content quote mapping other
  funext start
  apply Run.map_andThen_map
  intro value cursor
  exact congrFun inside cursor

theorem attempt_map (parser : Parser α) (mapping : α → β) :
    attempt (map parser mapping) = map (attempt parser) (Option.map mapping) := by
  funext start
  -- a failure has no value, so it is rolled back as it would be without the mapping
  cases ended : (parser start).outcome <;>
    simp [attempt, map, Run.map, Run.andThen, Run.success, Run.precededBy, ended]

theorem rounds_map (item : Parser α) (separator : Parser β) (mapping : α → γ) (other : β → δ)
    (budget : Nat) :
    rounds (map item mapping) (map separator other) budget =
      map (rounds item separator budget) (List.map mapping) := by
  induction budget with
  | zero => rfl
  | succ budget ih =>
      funext start
      simp only [rounds, attempt_map, ih]
      apply Run.map_andThen_map
      intro result cursor
      cases result with
      | none => rfl
      | some value =>
          apply Run.map_andThen_map
          intro result next
          cases result with
          | none => rfl
          | some between =>
              by_cases still : next.offset = start.offset
              · simp only [Option.map_some, if_pos still]
                rfl
              · simp only [Option.map_some, if_neg still]
                exact Run.map_map_congr fun values => rfl

theorem repeated_map (item : Parser α) (separator : Parser β) (mapping : α → γ) (other : β → δ)
    (atLeastOne : Bool) (budget : Nat) :
    repeated (map item mapping) (map separator other) atLeastOne budget =
      map (repeated item separator atLeastOne budget) (List.map mapping) := by
  funext start
  simp only [repeated, rounds_map]
  apply Run.map_andThen_map
  intro values cursor
  -- there are as many values as before, so the check answers as before
  by_cases tooFew : (atLeastOne && values.isEmpty) = true
  · simp only [List.isEmpty_map, if_pos tooFew]
    rfl
  · simp only [List.isEmpty_map, if_neg tooFew]
    rfl

end Parser

/-! ## Grammars -/

namespace Grammar

open Lockstep

/-- Both grammars end at the same cursors, and in the same runs. -/
def RunsLike (rules : Rules) (grammar other : Grammar) : Prop :=
  ∀ start run, EndsIn (budgeted rules grammar) start run ↔ EndsIn (budgeted rules other) start run

theorem RunsLike.of_together {rules : Rules} {grammar other : Grammar}
    (there : ∀ budget, ∃ more,
      completion.Together (parse rules budget grammar) (parse rules more other))
    (back : ∀ budget, ∃ more,
      completion.Together (parse rules budget other) (parse rules more grammar)) :
    RunsLike rules grammar other := by
  intro start run
  constructor
  · rintro ⟨finished, budget, rfl⟩
    obtain ⟨more, together⟩ := there budget
    exact .of_together together finished
  · rintro ⟨finished, budget, rfl⟩
    obtain ⟨more, together⟩ := back budget
    exact .of_together together finished

theorem RunsLike.of_parse_eq {rules : Rules} {grammar other : Grammar} (height otherHeight : Nat)
    (same : ∀ budget,
      parse rules (budget + height) grammar = parse rules (budget + otherHeight) other) :
    RunsLike rules grammar other := by
  apply of_together <;> intro budget
  · exact ⟨budget + otherHeight, same budget ▸ parse_larger rules grammar (Nat.le_add_right _ _)⟩
  · exact ⟨budget + height, same budget ▸ parse_larger rules other (Nat.le_add_right _ _)⟩

variable (rules : Rules)

theorem map_map_runsLike (content : Grammar) (first second : Value → Value) :
    RunsLike rules (.map (.map content first) second) (.map content (second ∘ first)) := by
  refine .of_parse_eq 2 1 fun budget => ?_
  exact Parser.map_map (parse rules budget content) first second

theorem tryMap_map_runsLike (content : Grammar) (mapping : Value → Value)
    (check : Value → Except String Value) :
    RunsLike rules (.tryMap (.map content mapping) check)
      (.tryMap content (check ∘ mapping)) := by
  refine .of_parse_eq 2 1 fun budget => ?_
  exact Parser.tryMap_map (parse rules budget content) mapping check

theorem pair_map_runsLike (first second : Grammar) (left right : Value → Value) :
    RunsLike rules (.pair (.map first left) (.map second right))
      (.map (.pair first second) (Value.mapPair left right)) := by
  refine .of_parse_eq 2 2 fun budget => ?_
  have mapped := Parser.pair_map (parse rules budget first) (parse rules budget second) left right
  funext start
  simp only [parse, mapped]
  exact Run.map_map_congr fun value => rfl

theorem skip_map_runsLike (content skipped : Grammar) (mapping other : Value → Value) :
    RunsLike rules (.skip (.map content mapping) (.map skipped other))
      (.map (.skip content skipped) mapping) := by
  refine .of_parse_eq 2 2 fun budget => ?_
  exact Parser.skip_map (parse rules budget content) (parse rules budget skipped) mapping other

theorem skipThen_map_runsLike (skipped content : Grammar) (other mapping : Value → Value) :
    RunsLike rules (.skipThen (.map skipped other) (.map content mapping))
      (.map (.skipThen skipped content) mapping) := by
  refine .of_parse_eq 2 2 fun budget => ?_
  exact Parser.skipThen_map (parse rules budget skipped) (parse rules budget content) other mapping

theorem quoted_map_runsLike (content quote : Grammar) (mapping other : Value → Value) :
    RunsLike rules (.quoted (.map content mapping) (.map quote other))
      (.map (.quoted content quote) mapping) := by
  refine .of_parse_eq 2 2 fun budget => ?_
  exact Parser.quotedBy_map (parse rules budget content) (parse rules budget quote) mapping other

theorem orElse_map_runsLike (first second : Grammar) (mapping : Value → Value) :
    RunsLike rules (.orElse (.map first mapping) (.map second mapping))
      (.map (.orElse first second) mapping) := by
  refine .of_parse_eq 2 2 fun budget => ?_
  exact Parser.orElse_map (parse rules budget first) (parse rules budget second) mapping

theorem choice_map_runsLike (alternatives : List Grammar) (mapping : Value → Value) :
    RunsLike rules (.choice (alternatives.map fun alternative => .map alternative mapping))
      (.map (.choice alternatives) mapping) := by
  refine .of_parse_eq 2 2 fun budget => ?_
  have mapped := Parser.choice_map (alternatives.map (parse rules budget)) mapping
  rw [List.map_map] at mapped
  simp only [parse, List.map_map]
  exact mapped

theorem attempt_map_runsLike (content : Grammar) (mapping : Value → Value) :
    RunsLike rules (.attempt (.map content mapping))
      (.map (.attempt content) (Value.mapOptional mapping)) := by
  refine .of_parse_eq 2 2 fun budget => ?_
  have mapped := Parser.attempt_map (parse rules budget content) mapping
  funext start
  simp only [parse, mapped]
  exact Run.map_map_congr fun value => rfl

/-- The loop on the left may go on for one round more than the one on the right, with the same
budget for the whole. -/
theorem repeated_map_runsLike (item separator : Grammar) (mapping other : Value → Value)
    (atLeastOne : Bool) :
    RunsLike rules (.repeated (.map item mapping) (.map separator other) atLeastOne)
      (.map (.repeated item separator atLeastOne) (Value.mapItems mapping)) := by
  have inside : ∀ budget,
      parse rules (budget + 2) (.repeated (.map item mapping) (.map separator other) atLeastOne) =
        Parser.map (Parser.map (Parser.repeated (parse rules budget item)
          (parse rules budget separator) atLeastOne (budget + 1)) .list)
            (Value.mapItems mapping) := by
    intro budget
    have mapped := Parser.repeated_map (parse rules budget item) (parse rules budget separator)
      mapping other atLeastOne (budget + 1)
    funext start
    simp only [parse, mapped]
    exact Run.map_map_congr fun values => rfl
  have looped {budget more fewer most : Nat} (less : budget ≤ more) (lessToo : fewer ≤ most) :
      completion.Together
        (Parser.map (Parser.map (Parser.repeated (parse rules budget item)
          (parse rules budget separator) atLeastOne fewer) .list) (Value.mapItems mapping))
        (Parser.map (Parser.map (Parser.repeated (parse rules more item)
          (parse rules more separator) atLeastOne most) .list) (Value.mapItems mapping)) :=
    Lockstep.map _ (Lockstep.map _ (Lockstep.repeated
      (rounds_larger (parse_larger rules item less) (parse_larger rules separator less) lessToo)
      atLeastOne))
  apply RunsLike.of_together <;> intro budget
  · refine ⟨budget + 3, completion_trans (parse_larger rules _ (Nat.le_add_right budget 2)) ?_⟩
    rw [inside]
    exact looped (Nat.le_succ budget) (Nat.le_refl _)
  · refine ⟨budget + 2, completion_trans (parse_larger rules _ (Nat.le_add_right budget 2)) ?_⟩
    rw [inside]
    exact looped (Nat.le_refl budget) (Nat.le_succ budget)

/-- A mapping of the parts of a combinator is a mapping of what the combinator gives. For parsers of
any types the two sides are the same function; for grammars, which may call each other through
`rules`, they end in the same runs, or neither of them ends. -/
theorem mapping_moves_outwards :
    (∀ (α β γ δ : Type) (content : Parser α) (other : Parser β) (mapping : α → γ)
        (otherMapping : β → δ),
      Parser.pair (Parser.map content mapping) (Parser.map other otherMapping) =
        Parser.map (Parser.pair content other) (Prod.map mapping otherMapping) ∧
      Parser.skip (Parser.map content mapping) (Parser.map other otherMapping) =
        Parser.map (Parser.skip content other) mapping ∧
      Parser.skipThen (Parser.map content mapping) (Parser.map other otherMapping) =
        Parser.map (Parser.skipThen content other) otherMapping ∧
      Parser.quotedBy (Parser.map content mapping) (Parser.map other otherMapping) =
        Parser.map (Parser.quotedBy content other) mapping ∧
      (∀ atLeastOne budget,
        Parser.repeated (Parser.map content mapping) (Parser.map other otherMapping) atLeastOne
            budget =
          Parser.map (Parser.repeated content other atLeastOne budget) (List.map mapping)) ∧
      Parser.attempt (Parser.map content mapping) =
        Parser.map (Parser.attempt content) (Option.map mapping) ∧
      (∀ next : γ → δ,
        Parser.map (Parser.map content mapping) next = Parser.map content (next ∘ mapping)) ∧
      (∀ check : γ → Except String δ,
        Parser.tryMap (Parser.map content mapping) check =
          Parser.tryMap content (check ∘ mapping))) ∧
    (∀ (α β : Type) (mapping : α → β),
      (∀ first second : Parser α,
        Parser.orElse (Parser.map first mapping) (Parser.map second mapping) =
          Parser.map (Parser.orElse first second) mapping) ∧
      (∀ alternatives : List (Parser α),
        Parser.choice (alternatives.map fun alternative => Parser.map alternative mapping) =
          Parser.map (Parser.choice alternatives) mapping)) ∧
    (∀ (rules : Rules) (content other : Grammar) (mapping otherMapping : Value → Value),
      RunsLike rules (.pair (.map content mapping) (.map other otherMapping))
        (.map (.pair content other) (Value.mapPair mapping otherMapping)) ∧
      RunsLike rules (.skip (.map content mapping) (.map other otherMapping))
        (.map (.skip content other) mapping) ∧
      RunsLike rules (.skipThen (.map content mapping) (.map other otherMapping))
        (.map (.skipThen content other) otherMapping) ∧
      RunsLike rules (.quoted (.map content mapping) (.map other otherMapping))
        (.map (.quoted content other) mapping) ∧
      (∀ atLeastOne,
        RunsLike rules
          (.repeated (.map content mapping) (.map other otherMapping) atLeastOne)
          (.map (.repeated content other atLeastOne) (Value.mapItems mapping))) ∧
      RunsLike rules (.attempt (.map content mapping))
        (.map (.attempt content) (Value.mapOptional mapping)) ∧
      RunsLike rules (.map (.map content mapping) otherMapping)
        (.map content (otherMapping ∘ mapping)) ∧
      (∀ check : Value → Except String Value,
        RunsLike rules (.tryMap (.map content mapping) check)
          (.tryMap content (check ∘ mapping))) ∧
      RunsLike rules (.orElse (.map content mapping) (.map other mapping))
        (.map (.orElse content other) mapping) ∧
      (∀ alternatives : List Grammar,
        RunsLike rules (.choice (alternatives.map fun alternative => .map alternative mapping))
          (.map (.choice alternatives) mapping))) := by
  refine ⟨?parsers, ?alternatives, ?grammars⟩
  case parsers =>
    intro α β γ δ content other mapping otherMapping
    exact ⟨Parser.pair_map content other mapping otherMapping,
      Parser.skip_map content other mapping otherMapping,
      Parser.skipThen_map content other mapping otherMapping,
      Parser.quotedBy_map content other mapping otherMapping,
      Parser.repeated_map content other mapping otherMapping,
      Parser.attempt_map content mapping,
      Parser.map_map content mapping,
      Parser.tryMap_map content mapping⟩
  case alternatives =>
    intro α β mapping
    exact ⟨fun first second => Parser.orElse_map first second mapping,
      fun alternatives => Parser.choice_map alternatives mapping⟩
  case grammars =>
    intro rules content other mapping otherMapping
    exact ⟨pair_map_runsLike rules content other mapping otherMapping,
      skip_map_runsLike rules content other mapping otherMapping,
      skipThen_map_runsLike rules content other mapping otherMapping,
      quoted_map_runsLike rules content other mapping otherMapping,
      repeated_map_runsLike rules content other mapping otherMapping,
      attempt_map_runsLike rules content mapping,
      map_map_runsLike rules content mapping otherMapping,
      tryMap_map_runsLike rules content mapping,
      orElse_map_runsLike rules content other mapping,
      fun alternatives => choice_map_runsLike rules alternatives mapping⟩

end Grammar

end TextGrammar
