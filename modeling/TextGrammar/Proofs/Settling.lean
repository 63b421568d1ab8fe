import TextGrammar.Parser.Repetition
import TextGrammar.Parser.Choice
import TextGrammar.Parser.Sequence
import TextGrammar.Proofs.Run

/-!
Parsers with a budget that settle: from some budget on, the run is finished and stays the same.
Each combinator settles if its parts do, at the cursors at which they can be run. A repetition
needs more than that: its rounds must run into a limit.
-/

namespace TextGrammar

variable {α β : Type}

/-- From some budget on the run is the same, and it is finished. -/
def Settles (runs : Nat → Run α) : Prop :=
  ∃ run, run.outcome ≠ .unfinished ∧ ∃ least, ∀ budget, least ≤ budget → runs budget = run

namespace Settles

theorem const {run : Run α} (finished : run.outcome ≠ .unfinished) :
    Settles fun _ => run :=
  ⟨run, finished, 0, fun _ _ => rfl⟩

theorem success (value : α) (cursor : Cursor) : Settles fun _ => Run.success value cursor :=
  const (by simp [Run.success])

theorem failure (cursor : Cursor) : Settles fun _ => (Run.failure cursor : Run α) :=
  const (by simp [Run.failure])

theorem of_succ {runs : Nat → Run α} (settles : Settles fun budget => runs (budget + 1)) :
    Settles runs := by
  obtain ⟨run, finished, least, same⟩ := settles
  refine ⟨run, finished, least + 1, ?_⟩
  intro budget enough
  obtain ⟨previous, rfl⟩ : ∃ previous, budget = previous + 1 := ⟨budget - 1, by omega⟩
  exact same previous (by omega)

theorem reindex {runs : Nat → Run α} (settles : Settles runs) {grow : Nat → Nat}
    (grows : ∀ budget, budget ≤ grow budget) : Settles fun budget => runs (grow budget) := by
  obtain ⟨run, finished, least, same⟩ := settles
  refine ⟨run, finished, least, ?_⟩
  intro budget enough
  exact same (grow budget) (Nat.le_trans enough (grows budget))

theorem precededBy {runs : Nat → Run α} (settles : Settles runs) (events : List Event) :
    Settles fun budget => (runs budget).precededBy events := by
  obtain ⟨run, finished, least, same⟩ := settles
  refine ⟨run.precededBy events, finished, least, ?_⟩
  intro budget enough
  exact congrArg (Run.precededBy events) (same budget enough)

theorem andThen {runs : Nat → Run α} {continuation : Nat → α → Parser β}
    (settles : Settles runs)
    (goesOn : ∀ budget value, (runs budget).outcome = .success value →
      Settles fun later => continuation later value (runs budget).cursor) :
    Settles fun budget => (runs budget).andThen (continuation budget) := by
  obtain ⟨run, finished, least, same⟩ := settles
  have atLeast := goesOn least
  rw [same least (Nat.le_refl least)] at atLeast
  cases ended : run.outcome with
  | success value =>
      obtain ⟨rest, restFinished, restLeast, restSame⟩ := atLeast value ended
      refine ⟨rest.precededBy run.events, restFinished, max least restLeast, ?_⟩
      intro budget enough
      simp only [same budget (by omega), Run.andThen_of_success ended]
      exact congrArg (Run.precededBy run.events) (restSame budget (by omega))
  | failure =>
      refine ⟨run.andThen (continuation 0), by simp [Run.andThen, ended], least, ?_⟩
      intro budget enough
      simp [same budget enough, Run.andThen, ended]
  | panic cause =>
      refine ⟨run.andThen (continuation 0), by simp [Run.andThen, ended], least, ?_⟩
      intro budget enough
      simp [same budget enough, Run.andThen, ended]
  | unfinished => exact absurd ended finished

theorem map {runs : Nat → Run α} (settles : Settles runs) (mapping : α → β) :
    Settles fun budget => (runs budget).map mapping := by
  apply settles.andThen
  intro budget value succeeded
  exact success (mapping value) (runs budget).cursor

end Settles

abbrev Budgeted (α : Type) := Nat → Parser α

namespace Budgeted

def SettlesAt (parser : Budgeted α) (start : Cursor) : Prop :=
  Settles fun budget => parser budget start

def Succeeds (parser : Budgeted α) (start next : Cursor) : Prop :=
  ∃ budget value, (parser budget start).outcome = .success value ∧
    (parser budget start).cursor = next

def Fails (parser : Budgeted α) (start : Cursor) : Prop :=
  ∃ budget, (parser budget start).outcome = .failure

variable {parser : Budgeted α} {start : Cursor}

theorem SettlesAt.reindex (settles : parser.SettlesAt start) {grow : Nat → Nat}
    (grows : ∀ budget, budget ≤ grow budget) :
    SettlesAt (fun budget => parser (grow budget)) start :=
  Settles.reindex settles grows

theorem Succeeds.of_reindex {grow : Nat → Nat} {next : Cursor}
    (succeeds : Succeeds (fun budget => parser (grow budget)) start next) :
    parser.Succeeds start next := by
  obtain ⟨budget, value, succeeded⟩ := succeeds
  exact ⟨grow budget, value, succeeded⟩

theorem settlesAt_andThen {continuation : Nat → α → Parser β}
    (settles : parser.SettlesAt start)
    (goesOn : ∀ value next, parser.Succeeds start next →
      Settles fun budget => continuation budget value next) :
    Settles fun budget => (parser budget start).andThen (continuation budget) := by
  apply Settles.andThen settles
  intro budget value succeeded
  exact goesOn value _ ⟨budget, value, succeeded, rfl⟩

theorem settlesAt_attempt (settles : parser.SettlesAt start) :
    Settles fun budget => Parser.attempt (parser budget) start := by
  obtain ⟨run, finished, least, same⟩ := settles
  refine ⟨Parser.attempt (fun _ => run) start, ?_, least, ?_⟩
  · cases ended : run.outcome with
    | success value => simp [Parser.attempt, ended]
    | failure => simp [Parser.attempt, ended]
    | panic cause => simp [Parser.attempt, ended]
    | unfinished => exact absurd ended finished
  · intro budget enough
    simp only [Parser.attempt, same budget enough]

theorem skip_settles {content : Budgeted α} {skipped : Budgeted β}
    (kept : content.SettlesAt start)
    (dropped : ∀ next, content.Succeeds start next → skipped.SettlesAt next) :
    Settles fun budget => Parser.skip (content budget) (skipped budget) start := by
  apply settlesAt_andThen kept
  intro value next succeeds
  exact (dropped next succeeds).map _

theorem skipThen_settles {skipped : Budgeted β} {content : Budgeted α}
    (dropped : skipped.SettlesAt start)
    (kept : ∀ next, skipped.Succeeds start next → content.SettlesAt next) :
    Settles fun budget => Parser.skipThen (skipped budget) (content budget) start := by
  apply settlesAt_andThen dropped
  intro _ next succeeds
  exact kept next succeeds

theorem pair_settles {first : Budgeted α} {second : Budgeted β} (before : first.SettlesAt start)
    (after : ∀ next, first.Succeeds start next → second.SettlesAt next) :
    Settles fun budget => Parser.pair (first budget) (second budget) start := by
  apply settlesAt_andThen before
  intro left next succeeds
  exact (after next succeeds).map _

theorem quotedBy_settles {content : Budgeted α} {quote : Budgeted β}
    (opening : quote.SettlesAt start)
    (inside : ∀ next, quote.Succeeds start next → content.SettlesAt next)
    (closing : ∀ next last, quote.Succeeds start next → content.Succeeds next last →
      quote.SettlesAt last) :
    Settles fun budget => Parser.quotedBy (content budget) (quote budget) start := by
  apply settlesAt_andThen opening
  intro _ next opened
  apply settlesAt_andThen (inside next opened)
  intro value last filled
  exact (closing next last opened filled).map _

theorem tryMap_settles (mapping : α → Except String β) (inside : parser.SettlesAt start) :
    Settles fun budget => Parser.tryMap (parser budget) mapping start := by
  apply settlesAt_andThen inside
  intro value next _
  cases mapping value with
  | ok mapped => exact .success mapped next
  | error reason => exact .const (by simp)

theorem settlesAt_attempt_andThen {continuation : Nat → Option α → Parser β}
    (settles : parser.SettlesAt start)
    (after : ∀ value next, parser.Succeeds start next →
      Settles fun budget => continuation budget (some value) next)
    (instead : parser.Fails start → Settles fun budget => continuation budget none start) :
    Settles fun budget =>
      (Parser.attempt (parser budget) start).andThen (continuation budget) := by
  apply Settles.andThen (settlesAt_attempt settles)
  intro budget result succeeded
  cases ended : (parser budget start).outcome with
  | success value =>
      simp only [Parser.attempt, ended, Outcome.success.injEq] at succeeded ⊢
      subst succeeded
      exact after value _ ⟨budget, value, ended, rfl⟩
  | failure =>
      simp only [Parser.attempt, ended, Outcome.success.injEq] at succeeded ⊢
      subst succeeded
      exact instead ⟨budget, ended⟩
  | panic cause => simp [Parser.attempt, ended] at succeeded
  | unfinished => simp [Parser.attempt, ended] at succeeded

theorem orElse_settles {first second : Budgeted α} (preferred : first.SettlesAt start)
    (other : first.Fails start → second.SettlesAt start) :
    Settles fun budget => Parser.orElse (first budget) (second budget) start := by
  refine settlesAt_attempt_andThen preferred ?_ other
  intro value next _
  exact .success value next

theorem choice_settles {γ : Type} {alternatives : List γ} {parsers : γ → Budgeted α}
    (each : ∀ earlier alternative later, alternatives = earlier ++ alternative :: later →
      (∀ failed ∈ earlier, (parsers failed).Fails start) →
      (parsers alternative).SettlesAt start) :
    Settles fun budget =>
      Parser.choice (alternatives.map fun alternative => parsers alternative budget) start := by
  induction alternatives with
  | nil => exact .failure start
  | cons first rest ih =>
      have firstSettles := each [] first rest rfl (by simp)
      cases rest with
      | nil => exact firstSettles
      | cons second rest =>
          refine orElse_settles firstSettles ?_
          intro firstFails
          apply ih
          intro earlier alternative later split failed
          apply each (first :: earlier) alternative later (by rw [split]; rfl)
          intro member inside
          rcases List.mem_cons.mp inside with same | inside
          · subst same
            exact firstFails
          · exact failed member inside

inductive RoundStart (item : Budgeted α) (separator : Budgeted β) (start : Cursor) :
    Cursor → Prop
  | first : RoundStart item separator start start
  | next {here between there : Cursor} (began : RoundStart item separator start here)
      (each : item.Succeeds here between) (divided : separator.Succeeds between there)
      (moved : there.offset ≠ here.offset) : RoundStart item separator start there

theorem RoundStart.along {item : Budgeted α} {separator : Budgeted β} {start here : Cursor}
    {Along : Cursor → Cursor → Prop} (stays : ∀ cursor, Along cursor cursor)
    (goesOn : ∀ {first second third}, Along first second → Along second third →
      Along first third)
    (items : ∀ {here there}, item.Succeeds here there → Along here there)
    (separators : ∀ {here there}, separator.Succeeds here there → Along here there)
    (began : RoundStart item separator start here) : Along start here := by
  induction began with
  | first => exact stays start
  | next _ each divided _ ih => exact goesOn (goesOn ih (items each)) (separators divided)

/-- In every round the parts settle, and it neither goes back nor beyond a limit. -/
structure RoundsSettle (item : Budgeted α) (separator : Budgeted β) (start : Cursor)
    (limit : Nat) : Prop where
  items : ∀ {here}, RoundStart item separator start here → item.SettlesAt here
  separators : ∀ {here between}, RoundStart item separator start here →
    item.Succeeds here between → separator.SettlesAt between
  forward : ∀ {here between there}, RoundStart item separator start here →
    item.Succeeds here between → separator.Succeeds between there →
    here.offset ≤ there.offset ∧ there.offset ≤ limit

variable {item : Budgeted α} {separator : Budgeted β} {limit : Nat}

theorem rounds_settles (rounds : RoundsSettle item separator start limit) {here : Cursor}
    (began : RoundStart item separator start here) {grow : Nat → Nat}
    (grows : ∀ budget, budget ≤ grow budget) :
    Settles fun budget =>
      Parser.rounds (item (grow budget)) (separator (grow budget)) budget here := by
  induction left : limit - here.offset using Nat.strongRecOn generalizing here grow with
  | ind left ih =>
      apply Settles.of_succ
      have later : ∀ budget, budget ≤ grow (budget + 1) := fun budget =>
        Nat.le_trans (Nat.le_succ budget) (grows (budget + 1))
      simp only [Parser.rounds]
      refine settlesAt_attempt_andThen ((rounds.items began).reindex later) ?_ ?_
      · intro value between itemSucceeds
        have each := itemSucceeds.of_reindex
        have divides := (rounds.separators began each).reindex later
        refine settlesAt_attempt_andThen divides ?_ ?_
        · intro separated there separatorSucceeds
          have divided := separatorSucceeds.of_reindex
          have bounds := rounds.forward began each divided
          by_cases still : there.offset = here.offset
          · simp only [if_pos still]
            exact .const (by simp)
          · simp only [if_neg still]
            exact (ih (limit - there.offset) (by omega) (.next began each divided still) later
              rfl).map _
        · intro _
          exact .success [value] between
      · intro _
        exact .success [] here

theorem repeated_settles (rounds : RoundsSettle item separator start limit) (atLeastOne : Bool) :
    Settles fun budget =>
      Parser.repeated (item budget) (separator budget) atLeastOne budget start := by
  have loop : Settles fun budget =>
      Parser.rounds (item budget) (separator budget) budget start :=
    rounds_settles rounds .first fun budget => Nat.le_refl budget
  apply Settles.andThen loop
  intro budget values _
  by_cases tooFew : (atLeastOne && values.isEmpty) = true
  · simp only [if_pos tooFew]
    exact .failure _
  · simp only [if_neg tooFew]
    exact .success values _

end Budgeted

end TextGrammar
