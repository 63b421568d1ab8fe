import TextGrammar.Grammar
import TextGrammar.Proofs.Run

/-!
Equations between combinators. Going on is associative with success at its end, ordered choice is
associative, and an alternative that cannot fail behind its first part needs only that part as an
attempt.
-/

namespace TextGrammar

variable {α β γ : Type}

namespace Run

theorem precededBy_precededBy (earlier events : List Event) (run : Run α) :
    (run.precededBy events).precededBy earlier = run.precededBy (earlier ++ events) := by
  simp only [precededBy, List.append_assoc]

theorem precededBy_andThen (events : List Event) (run : Run α) (continuation : α → Parser β) :
    (run.precededBy events).andThen continuation =
      (run.andThen continuation).precededBy events := by
  cases ended : run.outcome with
  | success value => simp [andThen, ended, precededBy_precededBy]
  | _ => simp [andThen, ended, precededBy]

theorem andThen_andThen (run : Run α) (second : α → Parser β) (third : β → Parser γ) :
    (run.andThen second).andThen third =
      run.andThen fun value cursor => (second value cursor).andThen third := by
  cases ended : run.outcome with
  | success value =>
      rw [andThen_of_success ended second, precededBy_andThen]
      exact (andThen_of_success ended fun value cursor => (second value cursor).andThen third).symm
  | _ => simp only [andThen, ended]

@[simp] theorem andThen_success (run : Run α) : run.andThen success = run := by
  obtain ⟨outcome, cursor, events⟩ := run
  cases outcome <;> simp [andThen, success, precededBy]

theorem map_andThen (run : Run α) (mapping : α → β) (continuation : β → Parser γ) :
    (run.map mapping).andThen continuation =
      run.andThen fun value => continuation (mapping value) :=
  andThen_andThen run _ continuation

theorem andThen_map (run : Run α) (continuation : α → Parser β) (mapping : β → γ) :
    (run.andThen continuation).map mapping =
      run.andThen fun value cursor => (continuation value cursor).map mapping :=
  andThen_andThen run continuation _

theorem map_map (run : Run α) (first : α → β) (second : β → γ) :
    (run.map first).map second = run.map fun value => second (first value) :=
  map_andThen run first _

theorem andThen_congr {run : Run α} {continuation otherwise : α → Parser β}
    (same : ∀ value, run.outcome = .success value →
      continuation value run.cursor = otherwise value run.cursor) :
    run.andThen continuation = run.andThen otherwise := by
  cases ended : run.outcome with
  | success value => rw [andThen_of_success ended, andThen_of_success ended, same value ended]
  | _ => simp only [andThen, ended]

theorem andThen_of_held {run : Run α} (held : ∀ value, run.outcome ≠ .success value)
    (continuation otherwise : α → Parser β) :
    run.andThen continuation = run.andThen otherwise :=
  andThen_congr fun value succeeded => absurd succeeded (held value)

theorem andThen_failure {run : Run α} {continuation : α → Parser β}
    (failed : (run.andThen continuation).outcome = .failure) :
    run.outcome = .failure ∨
      ∃ value, run.outcome = .success value ∧
        (continuation value run.cursor).outcome = .failure := by
  cases ended : run.outcome with
  | success value =>
      rw [andThen_of_success ended, precededBy_outcome] at failed
      exact .inr ⟨value, rfl, failed⟩
  | failure => exact .inl rfl
  | _ => simp [andThen, ended] at failed

theorem unfinished_of_andThen {run : Run α} {continuation : α → Parser β}
    (unfinished : (run.andThen continuation).outcome = .unfinished) :
    run.outcome = .unfinished ∨
      ∃ value, run.outcome = .success value ∧
        (continuation value run.cursor).outcome = .unfinished := by
  cases ended : run.outcome with
  | success value =>
      rw [andThen_of_success ended, precededBy_outcome] at unfinished
      exact .inr ⟨value, rfl, unfinished⟩
  | unfinished => exact .inl rfl
  | _ => simp [andThen, ended] at unfinished

theorem of_andThen_success {run : Run α} {continuation : α → Parser β} {value : β}
    (succeeded : (run.andThen continuation).outcome = .success value) :
    ∃ between, run.outcome = .success between ∧
      (continuation between run.cursor).outcome = .success value ∧
      (run.andThen continuation).cursor = (continuation between run.cursor).cursor := by
  cases ended : run.outcome with
  | success between =>
      rw [andThen_of_success ended] at succeeded ⊢
      exact ⟨between, rfl, succeeded, rfl⟩
  | _ => simp [andThen, ended] at succeeded

theorem of_map_success {run : Run α} {mapping : α → β} {value : β}
    (succeeded : (run.map mapping).outcome = .success value) :
    ∃ inner, run.outcome = .success inner ∧ mapping inner = value ∧
      (run.map mapping).cursor = run.cursor := by
  obtain ⟨inner, ended, mapped, stopped⟩ := of_andThen_success succeeded
  exact ⟨inner, ended, Outcome.success.inj mapped, stopped⟩

theorem map_of_success {run : Run α} {value : α} (succeeded : run.outcome = .success value)
    (mapping : α → β) : (run.map mapping).outcome = .success (mapping value) :=
  congrArg Run.outcome (andThen_of_success succeeded _)

theorem map_failure {run : Run α} {mapping : α → β} :
    (run.map mapping).outcome = .failure ↔ run.outcome = .failure := by
  cases ended : run.outcome <;> simp [map, andThen, ended, success]

@[simp] theorem map_cursor (run : Run α) (mapping : α → β) :
    (run.map mapping).cursor = run.cursor := by
  cases ended : run.outcome <;> simp [map, andThen, ended, success]

@[simp] theorem map_events (run : Run α) (mapping : α → β) :
    (run.map mapping).events = run.events := by
  cases ended : run.outcome <;> simp [map, andThen, ended, success]

theorem map_outcome_congr {run other : Run α} (same : run.outcome = other.outcome)
    (mapping : α → β) : (run.map mapping).outcome = (other.map mapping).outcome := by
  cases ended : other.outcome <;> simp [map, andThen, same, ended, success]

theorem precededBy_map (events : List Event) (run : Run α) (mapping : α → β) :
    (run.precededBy events).map mapping = (run.map mapping).precededBy events :=
  precededBy_andThen events run _

theorem map_unfinished {run : Run α} {mapping : α → β} :
    (run.map mapping).outcome = .unfinished ↔ run.outcome = .unfinished := by
  cases ended : run.outcome <;> simp [map, andThen, ended, success]

end Run

namespace Parser

theorem attempt_steady (parser : Parser α) (start : Cursor) :
    (attempt parser start).outcome ≠ .failure := by
  cases ended : (parser start).outcome <;> simp [attempt, ended]

theorem orElse_of_steady {parser : Parser β} {first : Parser α} {continuation : α → Parser β}
    {start : Cursor} (sequence : parser start = (first start).andThen continuation)
    (steady : ∀ value cursor, (continuation value cursor).outcome ≠ .failure)
    (other : Parser β) :
    orElse parser other start =
      (attempt first start).andThen fun result cursor =>
        result.elim (other cursor) fun value => continuation value cursor := by
  cases ended : (first start).outcome with
  | success value =>
      cases later : (continuation value (first start).cursor).outcome with
      | failure => exact absurd later (steady _ _)
      | _ =>
          simp [orElse, attempt, sequence, Run.andThen, ended, later, Run.precededBy, Run.success]
  | _ => simp [orElse, attempt, sequence, Run.andThen, ended]

theorem repeated_of_success {item : Parser α} {separator : Parser β} {budget : Nat}
    {start : Cursor} {values : List α}
    (ended : (rounds item separator budget start).outcome = .success values) (atLeastOne : Bool) :
    repeated item separator atLeastOne budget start =
      (if atLeastOne && values.isEmpty then
        .failure (rounds item separator budget start).cursor
      else .success values (rounds item separator budget start).cursor : Run (List α)).precededBy
        (rounds item separator budget start).events :=
  Run.andThen_of_success ended _

theorem repeated_any (item : Parser α) (separator : Parser β) (budget : Nat) :
    repeated item separator false budget = rounds item separator budget := by
  funext start
  simp only [repeated, Bool.false_and, Bool.false_eq_true, if_false]
  exact Run.andThen_success _

theorem orElse_of_failure {first : Parser α} {start : Cursor}
    (failed : (first start).outcome = .failure) (second : Parser α) :
    orElse first second start =
      (second start).precededBy ((first start).events ++
        [.backtracking (first start).cursor.offset start.offset]) := by
  simp only [orElse, attempt, failed, Run.andThen]

theorem orElse_of_not_failure {first : Parser α} {start : Cursor}
    (held : (first start).outcome ≠ .failure) (second : Parser α) :
    orElse first second start = first start := by
  simp only [orElse, attempt]
  generalize first start = run at held
  obtain ⟨outcome, cursor, events⟩ := run
  cases outcome with
  | failure => exact absurd rfl held
  | _ => simp [Run.andThen, Run.success, Run.precededBy]

theorem orElse_assoc (first second third : Parser α) :
    orElse (orElse first second) third = orElse first (orElse second third) := by
  funext start
  cases firstEnded : (first start).outcome with
  | failure =>
      cases secondEnded : (second start).outcome <;>
        simp [orElse, attempt, Run.andThen, Run.precededBy, Run.success, firstEnded, secondEnded]
  | _ => simp [orElse, attempt, Run.andThen, Run.precededBy, Run.success, firstEnded]

/-! ## Mapping afterwards -/

theorem map_of_failure {parser : Parser α} {start : Cursor}
    (failed : (parser start).outcome = .failure) (mapping : α → β) :
    map parser mapping start =
      { outcome := .failure, cursor := (parser start).cursor, events := (parser start).events } := by
  simp only [map, Run.map, Run.andThen, failed]

theorem orElse_map (first second : Parser α) (mapping : α → β) :
    orElse (map first mapping) (map second mapping) = map (orElse first second) mapping := by
  funext start
  by_cases failed : (first start).outcome = .failure
  · have mapped := map_of_failure failed mapping
    calc orElse (map first mapping) (map second mapping) start
        = ((second start).map mapping).precededBy ((first start).events ++
            [.backtracking (first start).cursor.offset start.offset]) := by
          rw [orElse_of_failure (congrArg Run.outcome mapped), mapped]
          rfl
      _ = ((second start).precededBy ((first start).events ++
            [.backtracking (first start).cursor.offset start.offset])).map mapping :=
          (Run.precededBy_andThen _ _ _).symm
      _ = map (orElse first second) mapping start :=
          congrArg (Run.map · mapping) (orElse_of_failure failed second).symm
  · have held : (map first mapping start).outcome ≠ .failure :=
      fun mapped => failed (Run.map_failure.mp mapped)
    rw [orElse_of_not_failure held]
    exact congrArg (Run.map · mapping) (orElse_of_not_failure failed second).symm

theorem choice_map (alternatives : List (Parser α)) (mapping : α → β) :
    choice (alternatives.map fun alternative => map alternative mapping) =
      map (choice alternatives) mapping := by
  induction alternatives with
  | nil => rfl
  | cons first rest ih =>
      cases rest with
      | nil => rfl
      | cons second rest =>
          exact (congrArg (orElse (map first mapping)) ih).trans (orElse_map first _ mapping)

/-! ## Failures in place -/

/-- A failure leaves the cursor where it was. -/
def FailsInPlace (parser : Parser α) : Prop :=
  ∀ start, (parser start).outcome = .failure → (parser start).cursor = start

theorem FailsInPlace.map {parser : Parser α} (inPlace : parser.FailsInPlace) (mapping : α → β) :
    (map parser mapping).FailsInPlace := by
  intro start failed
  rw [Parser.map, Run.map_cursor]
  exact inPlace start (Run.map_failure.mp failed)

theorem FailsInPlace.orElse {second : Parser α} (inPlace : second.FailsInPlace)
    (first : Parser α) : (orElse first second).FailsInPlace := by
  intro start failed
  by_cases firstFailed : (first start).outcome = .failure
  · rw [orElse_of_failure firstFailed] at failed ⊢
    exact inPlace start failed
  · rw [orElse_of_not_failure firstFailed] at failed
    exact absurd failed firstFailed

end Parser

theorem Grammar.parse_repeated_any (rules : Rules) (budget : Nat) (item separator : Grammar) :
    parse rules (budget + 1) (.repeated item separator false) =
      Parser.map (Parser.rounds (parse rules budget item) (parse rules budget separator) budget)
        .list := by
  rw [← Parser.repeated_any]
  rfl

end TextGrammar
