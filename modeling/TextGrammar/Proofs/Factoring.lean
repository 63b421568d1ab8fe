import TextGrammar.Proofs.Bracketing
import TextGrammar.Proofs.Failures
import TextGrammar.Proofs.RepetitionRule

/-!
Left factoring. A part and then a choice ends as the choice does among sequences that all begin with
this part: with the same outcome, at the same cursor. The choice among sequences goes back to before
the part and runs it again for each alternative, so what happens in the factored run happens there
too, in the same order, but for the rollbacks, which lead elsewhere.
-/

namespace TextGrammar

open Budgeted

variable {α β : Type} {start : Cursor}

/-- The run ends as the other one does, and on the way nothing is left out but rollbacks. -/
structure Run.Repeats (run other : Run α) : Prop where
  outcome_eq : run.outcome = other.outcome
  cursor_eq : run.cursor = other.cursor
  sublist : (other.events.filter (!·.isRollback)).Sublist (run.events.filter (!·.isRollback))

namespace Run.Repeats

theorem refl (run : Run α) : run.Repeats run := ⟨rfl, rfl, .refl _⟩

theorem trans {run middle other : Run α} (near : run.Repeats middle) (far : middle.Repeats other) :
    run.Repeats other :=
  ⟨near.outcome_eq.trans far.outcome_eq, near.cursor_eq.trans far.cursor_eq,
    far.sublist.trans near.sublist⟩

theorem precededBy {run other : Run α} {events fewer : List Event}
    (sublist : (fewer.filter (!·.isRollback)).Sublist (events.filter (!·.isRollback)))
    (later : run.Repeats other) : (run.precededBy events).Repeats (other.precededBy fewer) := by
  refine ⟨later.outcome_eq, later.cursor_eq, ?_⟩
  simp only [precededBy_events, List.filter_append]
  exact sublist.append later.sublist

theorem map {run other : Run α} (repeats : run.Repeats other) (mapping : α → β) :
    (run.map mapping).Repeats (other.map mapping) := by
  refine ⟨Run.map_outcome_congr repeats.outcome_eq mapping, ?_, ?_⟩
  · simp only [map_cursor, repeats.cursor_eq]
  · simp only [map_events, repeats.sublist]

end Run.Repeats

namespace Parser

theorem orElse_repeats {first second other : Parser α}
    (later : (second start).Repeats (other start)) :
    (orElse first second start).Repeats (orElse first other start) := by
  by_cases failed : (first start).outcome = .failure
  · -- it is rolled back on both sides
    rw [orElse_of_failure failed, orElse_of_failure failed]
    exact .precededBy (.refl _) later
  · rw [orElse_of_not_failure failed, orElse_of_not_failure failed]
    exact .refl _

theorem pair_of_success {first : Parser α} {value : α} (second : Parser β)
    (passed : (first start).outcome = .success value) :
    pair first second start =
      ((second (first start).cursor).map fun right => (value, right)).precededBy
        (first start).events :=
  Run.andThen_of_success passed _

theorem pair_of_held {first : Parser α} (held : ∀ value, (first start).outcome ≠ .success value)
    (second other : Parser β) : pair first second start = pair first other start :=
  Run.andThen_of_held held _ _

theorem orElse_pair_of_held {first : Parser α}
    (held : ∀ value, (first start).outcome ≠ .success value) (second third : Parser β) :
    (orElse (pair first second) (pair first third) start).Repeats
      (pair first (orElse second third) start) := by
  rw [pair_of_held held (orElse second third) third]
  by_cases failed : (pair first second start).outcome = .failure
  · rw [orElse_of_failure failed]
    refine ⟨rfl, rfl, ?_⟩
    simp only [Run.precededBy_events, List.filter_append]
    exact List.sublist_append_right _ _
  · rw [orElse_of_not_failure failed, pair_of_held held second third]
    exact .refl _

theorem orElse_pair_of_success {first : Parser α} {value : α}
    (passed : (first start).outcome = .success value) (second third : Parser β) :
    (orElse (pair first second) (pair first third) start).Repeats
      (pair first (orElse second third) start) := by
  have opened := pair_of_success second passed
  rw [pair_of_success (orElse second third) passed]
  by_cases failed : (second (first start).cursor).outcome = .failure
  · have failedToo : (pair first second start).outcome = .failure := by
      rw [opened]
      exact Run.map_failure.mpr failed
    rw [orElse_of_failure failedToo, orElse_of_failure failed, opened,
      pair_of_success third passed, Run.precededBy_map, Run.precededBy_precededBy,
      Run.precededBy_precededBy]
    refine .precededBy ?_ (.refl _)
    simp [List.filter_append, Event.isRollback]
  · have heldToo : (pair first second start).outcome ≠ .failure := by
      rw [opened]
      exact mt Run.map_failure.mp failed
    rw [orElse_of_not_failure heldToo, orElse_of_not_failure failed, opened]
    exact .refl _

theorem orElse_pair_repeats (first : Parser α) (second third : Parser β) (start : Cursor) :
    (orElse (pair first second) (pair first third) start).Repeats
      (pair first (orElse second third) start) := by
  by_cases passed : ∃ value, (first start).outcome = .success value
  · obtain ⟨value, passed⟩ := passed
    exact orElse_pair_of_success passed second third
  · exact orElse_pair_of_held (fun value succeeded => passed ⟨value, succeeded⟩) second third

theorem choice_pair_repeats (first : Parser α) (alternative : Parser β)
    (others : List (Parser β)) (start : Cursor) :
    (choice ((alternative :: others).map (pair first)) start).Repeats
      (pair first (choice (alternative :: others)) start) := by
  induction others generalizing alternative with
  | nil => exact .refl _
  | cons next others ih =>
      have later : (choice ((alternative :: next :: others).map (pair first)) start).Repeats
          (orElse (pair first alternative) (pair first (choice (next :: others))) start) :=
        orElse_repeats (ih next)
      exact later.trans (orElse_pair_repeats first alternative (choice (next :: others)) start)

theorem choice_pairOf_repeats (first alternative : Parser Value) (others : List (Parser Value))
    (start : Cursor) :
    (choice ((alternative :: others).map (pairOf first)) start).Repeats
      (pairOf first (choice (alternative :: others)) start) := by
  have outside : choice ((alternative :: others).map (pairOf first)) =
      map (choice ((alternative :: others).map (pair first)))
        fun parts => .pair parts.1 parts.2 := by
    rw [← choice_map, List.map_map]
    rfl
  rw [outside]
  exact (choice_pair_repeats first alternative others start).map _

end Parser

/-! ## Grammars -/

namespace Grammar

open Lockstep

variable {rules : Rules} {first : Grammar} {alternatives : List Grammar} {run : Run Value}

theorem endsIn_pair_choice_iff :
    EndsIn (budgeted rules (.pair first (.choice alternatives))) start run ↔
      run.outcome ≠ .unfinished ∧
        ∃ budget, Parser.pairOf (parse rules budget first)
          (Parser.choice (alternatives.map (parse rules budget))) start = run := by
  have closed : ∀ budget, completion.Together
      (Parser.pairOf (parse rules budget first)
        (Parser.choice (alternatives.map (parse rules budget))))
      (parse rules (budget + 2) (.pair first (.choice alternatives))) := by
    intro budget
    have earlier := parse_larger rules first (Nat.le_succ budget)
    exact Lockstep.map _ (Lockstep.pair earlier (completion_refl _))
  refine endsIn_iff_of_together (fun budget => ?_) closed
  have choice := parse_larger rules (.choice alternatives) (Nat.le_succ budget)
  exact completion_trans (parse_larger rules _ (Nat.le_succ budget))
    (Lockstep.map _ (Lockstep.pair (completion_refl _) choice))

theorem endsIn_choice_pair_iff :
    EndsIn (budgeted rules (.choice (alternatives.map (.pair first)))) start run ↔
      run.outcome ≠ .unfinished ∧
        ∃ budget, Parser.choice ((alternatives.map (parse rules budget)).map
          (Parser.pairOf (parse rules budget first))) start = run := by
  have opened : ∀ budget, parse rules (budget + 2) (.choice (alternatives.map (.pair first))) =
      Parser.choice ((alternatives.map (parse rules budget)).map
        (Parser.pairOf (parse rules budget first))) := by
    intro budget
    simp only [parse, List.map_map]
    rfl
  have closed : ∀ budget, completion.Together
      (Parser.choice ((alternatives.map (parse rules budget)).map
        (Parser.pairOf (parse rules budget first))))
      (parse rules (budget + 2) (.choice (alternatives.map (.pair first)))) := by
    intro budget
    rw [opened]
    exact completion_refl _
  refine endsIn_iff_of_together (fun budget => ?_) closed
  rw [← opened]
  exact parse_larger rules _ (Nat.le_add_right budget 2)

/-- The part in front may be taken out of a choice, or put into it: the one ends if the other does,
with the same outcome and at the same cursor, be it a success, a failure or a panic. Only a choice
among nothing is another matter, for it fails without running the part. -/
theorem choice_pair_like_pair_choice :
    (∀ (α β : Type) (first : Parser α) (alternative : Parser β) (others : List (Parser β))
      (start : Cursor),
      (Parser.choice ((alternative :: others).map (Parser.pair first)) start).Repeats
        (Parser.pair first (Parser.choice (alternative :: others)) start)) ∧
    ∀ (rules : Rules) (first alternative : Grammar) (others : List Grammar) (start : Cursor),
      (∀ factored,
        EndsIn (budgeted rules (.pair first (.choice (alternative :: others)))) start factored →
          ∃ spread, EndsIn (budgeted rules (.choice ((alternative :: others).map (.pair first))))
            start spread ∧ spread.Repeats factored) ∧
      ∀ spread,
        EndsIn (budgeted rules (.choice ((alternative :: others).map (.pair first)))) start
            spread →
          ∃ factored, EndsIn (budgeted rules (.pair first (.choice (alternative :: others))))
            start factored ∧ spread.Repeats factored := by
  constructor
  · intro α β first alternative others start
    exact Parser.choice_pair_repeats first alternative others start
  · intro rules first alternative others start
    have repeats := fun budget => Parser.choice_pairOf_repeats (parse rules budget first)
      (parse rules budget alternative) (others.map (parse rules budget)) start
    constructor
    · intro factored ends
      obtain ⟨finished, budget, rfl⟩ := endsIn_pair_choice_iff.mp ends
      have spreadFinished := (repeats budget).outcome_eq ▸ finished
      exact ⟨_, endsIn_choice_pair_iff.mpr ⟨spreadFinished, budget, rfl⟩, repeats budget⟩
    · intro spread ends
      obtain ⟨finished, budget, rfl⟩ := endsIn_choice_pair_iff.mp ends
      have factoredFinished := (repeats budget).outcome_eq ▸ finished
      exact ⟨_, endsIn_pair_choice_iff.mpr ⟨factoredFinished, budget, rfl⟩, repeats budget⟩

/-- Both alternatives fail behind the letter, and the last one has taken a byte before it does. The
letter is run once in the one form and twice in the other. -/
theorem choice_pair_like_pair_choice_failing :
    let rules : Rules := { entries := [] }
    let first : Grammar :=
      .counted ['f'] (.lexer { pattern := ['a'], regex := .set (.single 'a') })
    let alternative : Grammar := .lexer { pattern := ['b'], regex := .set (.single 'b') }
    let other : Grammar := .custom (.takeAndFail 1)
    let start : Cursor := .start ['a', 'c']
    let factored := parse rules 6 (.pair first (.choice [alternative, other])) start
    let spread := parse rules 6 (.choice [.pair first alternative, .pair first other]) start
    EndsIn (budgeted rules (.pair first (.choice [alternative, other]))) start factored ∧
      EndsIn (budgeted rules (.choice [.pair first alternative, .pair first other])) start spread ∧
      factored.outcome = .failure ∧ factored.cursor.offset = 2 ∧
      Event.calls factored.events = [(['f'], 1)] ∧ Event.calls spread.events = [(['f'], 2)] ∧
      spread.Repeats factored := by
  intro rules first alternative other start factored spread
  have failed : factored.outcome = .failure := by
    subst factored spread start other alternative first rules
    rfl
  have failedToo : spread.outcome = .failure := by
    subst factored spread start other alternative first rules
    rfl
  have ends : EndsIn (budgeted rules (.pair first (.choice [alternative, other]))) start
      factored := endsIn_parse failed (by simp)
  have endsToo : EndsIn (budgeted rules
      (.choice [.pair first alternative, .pair first other])) start spread :=
    endsIn_parse failedToo (by simp)
  obtain ⟨-, likewise⟩ := choice_pair_like_pair_choice
  obtain ⟨repeated, endsRepeated, repeats⟩ :=
    (likewise rules first alternative [other] start).1 factored ends
  obtain rfl := endsRepeated.unique endsToo
  exact ⟨ends, endsToo, failed, by decide +kernel, by decide +kernel, by decide +kernel, repeats⟩

end Grammar

end TextGrammar
