import TextGrammar.Proofs.Rounds

/-!
What the last round says about a repetition. The check for at least one item comes behind the loop,
and a loop without values has one round only, which has been put back. A loop without separators
leaves nothing that it could have gone on with: where it stopped the item fails, or it stays there.
-/

namespace TextGrammar

variable {α β : Type} {start : Cursor}

namespace Parser

variable {item : Parser α} {separator : Parser β} {passed : List Round} {run : Run (List α)}
  {budget : Nat}

theorem exists_rounds (finished : (rounds item separator budget start).outcome ≠ .unfinished) :
    ∃ passed, InRounds item separator start passed (rounds item separator budget start) := by
  induction budget generalizing start with
  | zero => exact absurd rfl finished
  | succ budget ih =>
      have whole {round : Round} {run : Run (List α)}
          (inRounds : InRounds item separator start [round] run) :
          ∃ passed, InRounds item separator start passed
            (rounds item separator (budget + 1) start) := by
        have same := inRounds.rounds_eq (Nat.le_add_left 1 budget)
        exact ⟨[round], same ▸ inRounds⟩
      cases took : (item start).outcome with
      | unfinished => simp [rounds, attempt, took, Run.andThen] at finished
      | failure => exact whole (.noItem rfl took)
      | panic cause => exact whole (.itemPanics rfl took)
      | success value =>
          cases passes : (separator (item start).cursor).outcome with
          | unfinished => simp [rounds, attempt, took, passes, Run.andThen] at finished
          | failure => exact whole (.noSeparator rfl took rfl passes)
          | panic cause => exact whole (.separatorPanics rfl took rfl passes)
          | success gap =>
              by_cases still : (separator (item start).cursor).cursor.offset = start.offset
              · exact whole (.noProgress rfl took rfl passes still)
              · rw [rounds_of_goesOn took passes still] at finished ⊢
                obtain ⟨passed, rest⟩ := ih fun unfinished =>
                  finished (Run.map_unfinished.mpr unfinished)
                exact ⟨_, .goesOn rfl took rfl passes still rest⟩

namespace InRounds

theorem cursor_of_nil (inRounds : InRounds item separator start passed run)
    (ended : run.outcome = .success []) : run.cursor = start := by
  cases inRounds with
  | noItem => rfl
  | goesOn =>
      obtain ⟨later, -, impossible, -⟩ := Run.of_map_success ended
      cases impossible
  | _ => cases ended

/-- The last round of a loop that is not ended by a panic: the item fails where the loop stops, or
it gave the last value and the separator behind it fails or leaves the position as it was. -/
theorem exists_last (inRounds : InRounds item separator start passed run) {values : List α}
    (ended : run.outcome = .success values) :
    ∃ last, passed.getLast? = some last ∧
      (last.ending = .noItem ∧ (item run.cursor).outcome = .failure ∨
        ∃ value, values.getLast? = some value ∧ (item last.start).outcome = .success value ∧
          (last.ending = .noSeparator ∧ (item last.start).cursor = run.cursor ∧
              (separator run.cursor).outcome = .failure ∨
            last.ending = .noProgress ∧ run.cursor.offset = last.start.offset ∧
              ∃ gap, (separator (item last.start).cursor).outcome = .success gap ∧
                (separator (item last.start).cursor).cursor = run.cursor)) := by
  induction inRounds generalizing values with
  | noItem ran failed =>
      subst ran
      exact ⟨_, rfl, .inl ⟨rfl, failed⟩⟩
  | noSeparator ran took divides failed =>
      subst ran divides
      cases ended
      exact ⟨_, rfl, .inr ⟨_, rfl, took, .inl ⟨rfl, rfl, failed⟩⟩⟩
  | noProgress ran took divides passes still =>
      subst ran divides
      cases ended
      exact ⟨_, rfl, .inr ⟨_, rfl, took, .inr ⟨rfl, still, _, passes, rfl⟩⟩⟩
  | itemPanics | separatorPanics => cases ended
  | @goesOn _ _ value _ _ _ later _ _ _ _ _ _ ih =>
      obtain ⟨rest, laterEnded, rfl, stopped⟩ := Run.of_map_success ended
      obtain ⟨last, isLast, ending⟩ := ih laterEnded
      refine ⟨last, by simp [List.getLast?_cons, isLast], ?_⟩
      simp only [Run.precededBy_cursor, Run.map_cursor]
      refine ending.imp_right ?_
      rintro ⟨final, isFinal, ending⟩
      exact ⟨final, by simp [List.getLast?_cons, isFinal], ending⟩

end InRounds

end Parser

namespace Grammar

open Budgeted

variable {rules : Rules} {item separator : Grammar} {atLeastOne : Bool} {run : Run Value}

theorem andThen_listed_finished {loop : Run (List Value)} :
    (loop.andThen (listed atLeastOne)).outcome ≠ .unfinished ↔ loop.outcome ≠ .unfinished := by
  refine not_congr ⟨fun unfinished => ?_, fun unfinished => Run.andThen_unfinished unfinished _⟩
  exact (Run.unfinished_of_andThen unfinished).resolve_right fun ⟨values, _, late⟩ =>
    listed_finished atLeastOne values _ late

theorem endsIn_repeated_iff :
    EndsIn (budgeted rules (.repeated item separator atLeastOne)) start run ↔
      ∃ passed loop budget,
        Parser.InRounds (parse rules budget item) (parse rules budget separator) start passed
          loop ∧
        run = loop.andThen (listed atLeastOne) := by
  constructor
  · rintro ⟨finished, budget, rfl⟩
    cases budget with
    | zero => exact absurd rfl finished
    | succ budget =>
        have same : budgeted rules (.repeated item separator atLeastOne) (budget + 1) start = _ :=
          parse_repeated rules budget item separator atLeastOne start
        rw [same] at finished ⊢
        obtain ⟨passed, inRounds⟩ := Parser.exists_rounds (andThen_listed_finished.mp finished)
        exact ⟨passed, _, budget, inRounds, rfl⟩
  · rintro ⟨passed, loop, budget, inRounds, rfl⟩
    refine ⟨andThen_listed_finished.mpr inRounds.finished, max budget passed.length + 1, ?_⟩
    have more := Nat.le_max_left budget passed.length
    have together := Lockstep.rounds_larger (Lockstep.parse_larger rules item more)
      (Lockstep.parse_larger rules separator more) (Nat.le_max_right budget passed.length)
    have loopEq := inRounds.rounds_eq (Nat.le_refl passed.length)
    have loopEqToo := together (Eq.refl start) (loopEq ▸ inRounds.finished)
    exact (parse_repeated _ _ _ _ _ _).trans (by rw [loopEqToo, loopEq])

/-- A repetition that asks for an item ends where the one that does not ask ends: after the same
rounds of the item and the separator, with the same events and at the same cursor, or in the same
panic. The one never fails. The other fails exactly if the list is empty, and then both stand at
the start, wherever the item went before it failed. -/
theorem repeated_checks_after_loop (rules : Rules) (item separator : Grammar) (start : Cursor) :
    ((∃ unchecked, EndsIn (budgeted rules (.repeated item separator false)) start unchecked) ↔
      ∃ checked, EndsIn (budgeted rules (.repeated item separator true)) start checked) ∧
    ∀ unchecked checked, EndsIn (budgeted rules (.repeated item separator false)) start unchecked →
      EndsIn (budgeted rules (.repeated item separator true)) start checked →
      (∃ passed loop budget,
        Parser.InRounds (parse rules budget item) (parse rules budget separator) start passed
          loop ∧
        unchecked = loop.andThen (listed false) ∧ checked = loop.andThen (listed true)) ∧
      checked.events = unchecked.events ∧ checked.cursor = unchecked.cursor ∧
      unchecked.outcome ≠ .failure ∧
      ((∃ cause, unchecked.outcome = .panic cause ∧ checked.outcome = .panic cause) ∨
        ∃ values, unchecked.outcome = .success (.list values) ∧
          (values ≠ [] ∧ checked.outcome = .success (.list values) ∨
            values = [] ∧ checked.outcome = .failure ∧ checked.cursor = start)) := by
  constructor
  · constructor <;> rintro ⟨run, ends⟩ <;>
      obtain ⟨passed, loop, budget, inRounds, -⟩ := endsIn_repeated_iff.mp ends <;>
      exact ⟨_, endsIn_repeated_iff.mpr ⟨passed, loop, budget, inRounds, rfl⟩⟩
  · intro unchecked checked uncheckedEnds checkedEnds
    obtain ⟨passed, loop, budget, inRounds, rfl⟩ := endsIn_repeated_iff.mp checkedEnds
    obtain rfl :=
      uncheckedEnds.unique (endsIn_repeated_iff.mpr ⟨passed, loop, budget, inRounds, rfl⟩)
    refine ⟨⟨passed, loop, budget, inRounds, rfl, rfl⟩, ?_⟩
    by_cases calm : loop.Calm
    · obtain ⟨values, ended⟩ := inRounds.succeeds calm
      rw [Run.andThen_of_success ended, Run.andThen_of_success ended]
      cases values with
      | nil =>
          have stayed := inRounds.cursor_of_nil ended
          exact ⟨rfl, rfl, by simp [listed, Run.success],
            .inr ⟨[], rfl, .inr ⟨rfl, rfl, stayed⟩⟩⟩
      | cons first rest =>
          exact ⟨rfl, rfl, by simp [listed, Run.success],
            .inr ⟨first :: rest, rfl, .inl ⟨by simp, rfl⟩⟩⟩
    · obtain ⟨cause, panicked⟩ : ∃ cause, loop.outcome = .panic cause := by
        simpa [Run.Calm] using calm
      have ended (atLeastOne : Bool) : loop.andThen (listed atLeastOne) =
          { outcome := .panic cause, cursor := loop.cursor, events := loop.events } := by
        simp only [Run.andThen, panicked]
      rw [ended, ended]
      exact ⟨rfl, rfl, by simp, .inl ⟨cause, rfl, rfl⟩⟩

/-- The item takes a letter and only then fails. -/
theorem repeated_checks_after_loop_of_takeAndFail :
    let rules : Rules := { entries := [] }
    let item : Grammar := .custom (.takeAndFail 1)
    let comma : Grammar := .lexer { pattern := [','], regex := .set (.single ',') }
    let start : Cursor := .start ['b', ',', 'c']
    let unchecked := parse rules 4 (.repeated item comma false) start
    let checked := parse rules 4 (.repeated item comma true) start
    EndsIn (budgeted rules (.repeated item comma false)) start unchecked ∧
      EndsIn (budgeted rules (.repeated item comma true)) start checked ∧
      unchecked.outcome = .success (.list []) ∧
      checked.outcome = .failure ∧ checked.cursor = start ∧
      checked.events = unchecked.events ∧ unchecked.events = [.backtracking 1 0] := by
  intro rules item comma start unchecked checked
  have outcome : unchecked.outcome = .success (.list []) := rfl
  have uncheckedEnds : EndsIn (budgeted rules (.repeated item comma false)) start unchecked :=
    endsIn_parse outcome (by simp)
  have checkedFails : checked.outcome = .failure := rfl
  have checkedEnds : EndsIn (budgeted rules (.repeated item comma true)) start checked :=
    endsIn_parse checkedFails (by simp)
  have atEnd := (repeated_checks_after_loop rules item comma start).2
  obtain ⟨-, events, -, -, ending⟩ := atEnd unchecked checked uncheckedEnds checkedEnds
  rcases ending with ⟨cause, panicked, -⟩ | ⟨values, succeeded, ⟨nonempty, -⟩ | ⟨-, failed, stayed⟩⟩
  · rw [outcome] at panicked
    cases panicked
  · rw [outcome] at succeeded
    cases succeeded
    exact absurd rfl nonempty
  · exact ⟨uncheckedEnds, checkedEnds, outcome, failed, stayed, events, by decide +kernel⟩

theorem listed_cursor (atLeastOne : Bool) (values : List Value) (cursor : Cursor) :
    (listed atLeastOne values cursor).cursor = cursor := by
  unfold listed
  split <;> rfl

theorem listed_success {values : List Value} {result : Value}
    (succeeded : (listed atLeastOne values start).outcome = .success result) :
    result = .list values := by
  unfold listed at succeeded
  split at succeeded
  · cases succeeded
  · exact (Outcome.success.inj succeeded).symm

theorem repeated_of_item_failure {taken : Run Value} (separator : Grammar) (atLeastOne : Bool)
    (ends : EndsIn (budgeted rules item) start taken) (failed : taken.outcome = .failure) :
    ∃ again, EndsIn (budgeted rules (.repeated item separator atLeastOne)) start again ∧
      again.cursor = start ∧
      again.outcome = if atLeastOne then .failure else .success (.list []) := by
  obtain ⟨-, budget, ran⟩ := ends
  have loop : Parser.InRounds (parse rules budget item) (parse rules budget separator) start _ _ :=
    .noItem ran failed
  refine ⟨_, endsIn_repeated_iff.mpr ⟨_, _, budget, loop, rfl⟩, ?_, ?_⟩ <;>
    cases atLeastOne <;> rfl

theorem repeated_of_item_still {taken : Run Value} {value : Value} (atLeastOne : Bool)
    (ends : EndsIn (budgeted rules item) start taken) (took : taken.outcome = .success value)
    (still : taken.cursor = start) :
    ∃ again, EndsIn (budgeted rules (.repeated item .empty atLeastOne)) start again ∧
      again.cursor = start ∧ again.outcome = .success (.list [value]) := by
  obtain ⟨-, budget, ran⟩ := ends
  cases budget with
  | zero =>
      subst ran
      cases took
  | succ budget =>
      have loop : Parser.InRounds (parse rules (budget + 1) item) (parse rules (budget + 1) .empty)
          start _ _ := .noProgress ran took rfl rfl (congrArg Cursor.offset still)
      refine ⟨_, endsIn_repeated_iff.mpr ⟨_, _, budget + 1, loop, rfl⟩, ?_, ?_⟩ <;>
        cases atLeastOne <;> first | exact still | rfl

/-- A repetition without separators takes all it can. Where it stopped, a second run stays: the item
fails there, and then there is no value, or the guard stopped the loop, and then the item gives its
last value again and stays there too. -/
theorem repeated_takes_all {result : Value}
    (ends : EndsIn (budgeted rules (.repeated item .empty atLeastOne)) start run)
    (succeeded : run.outcome = .success result) :
    ∃ values passed loop budget last taken again,
      result = .list values ∧
      Parser.InRounds (parse rules budget item) (parse rules budget .empty) start passed loop ∧
      run = loop.andThen (listed atLeastOne) ∧ passed.getLast? = some last ∧
      EndsIn (budgeted rules item) run.cursor taken ∧
      EndsIn (budgeted rules (.repeated item .empty atLeastOne)) run.cursor again ∧
      again.cursor = run.cursor ∧
      (last.ending = .noItem ∧ taken.outcome = .failure ∧
          again.outcome = (if atLeastOne then .failure else .success (.list [])) ∨
        last.ending = .noProgress ∧ ∃ value, values.getLast? = some value ∧
          taken.outcome = .success value ∧ taken.cursor = run.cursor ∧
          again.outcome = .success (.list [value])) := by
  obtain ⟨passed, loop, budget, inRounds, rfl⟩ := endsIn_repeated_iff.mp ends
  obtain ⟨values, ended, isListed, stopped⟩ := Run.of_andThen_success succeeded
  obtain rfl := listed_success isListed
  rw [stopped, listed_cursor]
  obtain ⟨last, isLast, ending⟩ := inRounds.exists_last ended
  rcases ending with ⟨noItem, failed⟩ | ⟨value, isFinal, took, ending⟩
  · have taken := endsIn_parse failed (by simp)
    obtain ⟨again, endsAgain, stayed, outcome⟩ :=
      repeated_of_item_failure .empty atLeastOne taken failed
    exact ⟨values, passed, loop, budget, last, _, again, rfl, inRounds, rfl, isLast, taken,
      endsAgain, stayed, .inl ⟨noItem, failed, outcome⟩⟩
  · cases budget with
    | zero => cases took
    | succ budget =>
        rcases ending with ⟨-, -, failed⟩ | ⟨noProgress, back, -, -, inPlace⟩
        · cases failed
        · -- an empty separator stays, so the item alone came back to where the round began
          have itemStopped : (parse rules (budget + 1) item last.start).cursor = loop.cursor :=
            inPlace
          have sameText := itemStopped ▸ parse_sameText rules (budget + 1) item last.start
          have began := sameText.eq_of_offset back
          rw [← began] at took itemStopped
          have taken := endsIn_parse took (by simp)
          obtain ⟨again, endsAgain, stayed, outcome⟩ :=
            repeated_of_item_still atLeastOne taken took itemStopped
          exact ⟨values, passed, loop, budget + 1, last, _, again, rfl, inRounds, rfl, isLast,
            taken, endsAgain, stayed,
            .inr ⟨noProgress, value, isFinal, took, itemStopped, outcome⟩⟩

/-- The second round matches nothing in front of the letter that is left, and so does a second
run. -/
theorem repeated_takes_all_letters :
    let rules : Rules := { entries := [] }
    let item : Grammar := .lexer
      { pattern := ['a', '*']
        regex := .seq (.look .textStart) (.iterate (.set (.single 'a')) 0 none true) }
    let grammar : Grammar := .repeated item .empty true
    let run := parse rules 4 grammar (.start ['a', 'a', 'b'])
    EndsIn (budgeted rules grammar) (.start ['a', 'a', 'b']) run ∧
      run.outcome = .success (.list [.text ['a', 'a'], .text []]) ∧ run.cursor.offset = 2 ∧
      ∃ again, EndsIn (budgeted rules grammar) run.cursor again ∧ again.cursor = run.cursor ∧
        again.outcome = .success (.list [.text []]) := by
  intro rules item grammar run
  have succeeded : run.outcome = .success (.list [.text ['a', 'a'], .text []]) := by
    subst run grammar item rules
    rfl
  have ends : EndsIn (budgeted rules grammar) (.start ['a', 'a', 'b']) run :=
    endsIn_parse succeeded (by simp)
  have nothing : (parse rules 3 item run.cursor).outcome = .success (.text []) := by
    subst run grammar item rules
    rfl
  obtain ⟨values, passed, loop, budget, last, taken, again, listEq, -, -, -, endsItem, endsAgain,
    stayed, ending⟩ := repeated_takes_all ends succeeded
  have same := endsItem.unique (endsIn_parse nothing (by simp))
  refine ⟨ends, succeeded, by decide +kernel, again, endsAgain, stayed, ?_⟩
  rcases ending with ⟨-, failed, -⟩ | ⟨-, value, -, took, -, outcome⟩
  · rw [same, nothing] at failed
    cases failed
  · rw [same, nothing] at took
    cases took
    exact outcome

end Grammar

end TextGrammar
