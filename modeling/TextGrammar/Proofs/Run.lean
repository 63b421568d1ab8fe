import TextGrammar.Parser.Run

/-!
Runs taken apart: how a run goes on after a success and ends after anything else, and what an
attempt makes of a run.
-/

namespace TextGrammar

variable {α β : Type}

namespace Event

theorem log_filter (keeps : Event → Bool) (kept : ∀ event, event.isLogged → keeps event)
    (events : List Event) : log (events.filter keeps) = log events := by
  rw [log, log, List.filter_filter]
  apply List.filter_congr
  intro event _
  cases logged : event.isLogged with
  | true => simp [kept event logged]
  | false => rfl

theorem calls_filter (keeps : Event → Bool) (kept : ∀ name, keeps (.called name))
    (events : List Event) : calls (events.filter keeps) = calls events := by
  have same : (fun event => if keeps event then calledName? event else none) = calledName? := by
    funext event
    cases event with
    | called name => simp [kept name]
    | _ => simp [calledName?]
  rw [calls, calls, List.filterMap_filter, same]

end Event

namespace Run

@[simp] theorem precededBy_outcome (events : List Event) (run : Run α) :
    (run.precededBy events).outcome = run.outcome :=
  rfl

@[simp] theorem precededBy_cursor (events : List Event) (run : Run α) :
    (run.precededBy events).cursor = run.cursor :=
  rfl

@[simp] theorem precededBy_events (events : List Event) (run : Run α) :
    (run.precededBy events).events = events ++ run.events :=
  rfl

theorem andThen_of_success {run : Run α} {value : α} (succeeded : run.outcome = .success value)
    (continuation : α → Parser β) :
    run.andThen continuation = (continuation value run.cursor).precededBy run.events := by
  simp only [andThen, succeeded]

theorem andThen_cases (run : Run α) (continuation : α → Parser β) :
    (∃ value, run.outcome = .success value ∧
      run.andThen continuation = (continuation value run.cursor).precededBy run.events) ∨
    ((∀ value, run.outcome ≠ .success value) ∧
      (run.andThen continuation).cursor = run.cursor ∧
      (run.andThen continuation).events = run.events) := by
  cases ended : run.outcome with
  | success value => exact .inl ⟨value, rfl, andThen_of_success ended continuation⟩
  | failure => simp [andThen, ended]
  | panic cause => simp [andThen, ended]
  | unfinished => simp [andThen, ended]

theorem andThen_stops {Stops : Cursor → Prop} {run : Run α} {continuation : α → Parser β}
    (first : Stops run.cursor) (goesOn : ∀ value, Stops (continuation value run.cursor).cursor) :
    Stops (run.andThen continuation).cursor := by
  rcases run.andThen_cases continuation with ⟨value, -, goes⟩ | ⟨-, stopped, -⟩
  · rw [goes]
    exact goesOn value
  · rw [stopped]
    exact first

theorem andThen_panics {run : Run α} {continuation : α → Parser β} {cause : Panic}
    (panicked : (run.andThen continuation).outcome = .panic cause) :
    run.outcome = .panic cause ∨
      ∃ value, run.outcome = .success value ∧
        (continuation value run.cursor).outcome = .panic cause := by
  cases ended : run.outcome with
  | success value =>
      rw [andThen_of_success ended, precededBy_outcome] at panicked
      exact .inr ⟨value, rfl, panicked⟩
  | failure => simp [andThen, ended] at panicked
  | panic other => simpa [andThen, ended] using panicked
  | unfinished => simp [andThen, ended] at panicked

end Run

namespace Parser

theorem attempt_panics {parser : Parser α} {start : Cursor} {cause : Panic} :
    (attempt parser start).outcome = .panic cause ↔ (parser start).outcome = .panic cause := by
  cases ended : (parser start).outcome <;> simp [attempt, ended]

theorem of_attempt_some {parser : Parser α} {start : Cursor} {value : α}
    (ended : (attempt parser start).outcome = .success (some value)) :
    (parser start).outcome = .success value ∧
      (attempt parser start).cursor = (parser start).cursor := by
  cases outcome : (parser start).outcome <;> simp [attempt, outcome] at ended ⊢
  exact ended

theorem failure_of_attempt_none {parser : Parser α} {start : Cursor}
    (ended : (attempt parser start).outcome = .success none) :
    (parser start).outcome = .failure := by
  cases outcome : (parser start).outcome <;> simp [attempt, outcome] at ended ⊢

theorem attempt_of_failure {parser : Parser α} {start : Cursor}
    (failed : (parser start).outcome = .failure) :
    attempt parser start =
      { outcome := .success none
        cursor := start
        events := (parser start).events ++
          [.backtracking (parser start).cursor.offset start.offset] } := by
  simp only [attempt, failed]

theorem attempt_of_not_failure {parser : Parser α} {start : Cursor}
    (held : (parser start).outcome ≠ .failure) :
    (attempt parser start).cursor = (parser start).cursor ∧
      (attempt parser start).events = (parser start).events := by
  cases ended : (parser start).outcome with
  | success value => simp [attempt, ended]
  | failure => exact absurd ended held
  | panic cause => simp [attempt, ended]
  | unfinished => simp [attempt, ended]

theorem attempt_stops {Stops : Cursor → Prop} {parser : Parser α} {start : Cursor}
    (putBack : Stops start) (kept : Stops (parser start).cursor) :
    Stops (attempt parser start).cursor := by
  by_cases failed : (parser start).outcome = .failure
  · rw [attempt_of_failure failed]
    exact putBack
  · rw [(attempt_of_not_failure failed).1]
    exact kept

end Parser

end TextGrammar
