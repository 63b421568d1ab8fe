import TextGrammar.Proofs.Lockstep
import TextGrammar.Proofs.Run

/-!
What has been consumed never influences what follows. Putting a text before the source of a cursor
and moving the cursor behind it moves the whole run by as many bytes and changes nothing else, as
long as no script asks where in its source the cursor is.
-/

namespace TextGrammar

def Cursor.shift (before : Text) (cursor : Cursor) : Cursor :=
  { source := before ++ cursor.source, offset := byteLength before + cursor.offset }

def Event.shift (count : Nat) : Event → Event
  | .matched pattern token => .matched pattern token
  | .noMatch pattern offset => .noMatch pattern (count + offset)
  | .backtracking source target => .backtracking (count + source) (count + target)
  | .rejected offset reason => .rejected (count + offset) reason
  | .noProgress offset => .noProgress (count + offset)
  | .called name => .called name
  | .built name => .built name

variable {α β : Type}

def Run.shift (before : Text) (run : Run α) : Run α :=
  { outcome := run.outcome
    cursor := run.cursor.shift before
    events := run.events.map (Event.shift (byteLength before)) }

namespace Cursor

variable (before : Text) (cursor : Cursor)

theorem remaining_shift : (cursor.shift before).remaining = cursor.remaining :=
  dropBytes_append before cursor.source cursor.offset

theorem tryAdvance_shift (count : Nat) :
    (cursor.shift before).tryAdvance count =
      (cursor.tryAdvance count).map fun (token, next) => (token, next.shift before) := by
  simp only [tryAdvance, remaining_shift]
  split
  · rfl
  · split
    · simp [Except.map, shift, Nat.add_assoc]
    · rfl

end Cursor

namespace Event

variable (count : Nat)

theorem shift_of_unlogged {event : Event} (unlogged : event.isLogged = false) :
    event.shift count = event := by
  cases event with
  | called name => rfl
  | built name => rfl
  | _ => cases unlogged

theorem calls_shift (events : List Event) : calls (events.map (shift count)) = calls events := by
  have same : calledName? ∘ shift count = calledName? := by
    funext event
    cases event <;> rfl
  rw [calls, calls, List.filterMap_map, same]

theorem builds_shift (events : List Event) :
    builds (events.map (shift count)) = builds events := by
  have same : builtName? ∘ shift count = builtName? := by
    funext event
    cases event <;> rfl
  rw [builds, builds, List.filterMap_map, same]

theorem log_shift (events : List Event) :
    log (events.map (shift count)) = (log events).map (shift count) := by
  have same : isLogged ∘ shift count = isLogged := by
    funext event
    cases event <;> rfl
  rw [log, log, List.filter_map, same]

end Event

namespace Run

variable (before : Text)

theorem shift_precededBy (events : List Event) (run : Run α) :
    (run.precededBy events).shift before =
      (run.shift before).precededBy (events.map (Event.shift (byteLength before))) := by
  simp [shift, precededBy]

theorem shift_andThen {run : Run α} {continuation otherwise : α → Parser β}
    (goesOn : ∀ value (next : Cursor), otherwise value (next.shift before) =
      (continuation value next).shift before) :
    (run.shift before).andThen otherwise = (run.andThen continuation).shift before := by
  obtain ⟨outcome, cursor, events⟩ := run
  cases outcome with
  | success value =>
      simp only [andThen, shift_precededBy]
      exact congrArg (Run.precededBy _) (goesOn value cursor)
  | failure => rfl
  | panic cause => rfl
  | unfinished => rfl

theorem shift_attempt {parser other : Parser α} {start : Cursor}
    (same : other (start.shift before) = (parser start).shift before) :
    Parser.attempt other (start.shift before) = (Parser.attempt parser start).shift before := by
  simp only [Parser.attempt, same]
  cases ended : (parser start).outcome with
  | success value => simp [shift, ended]
  | failure => simp [shift, ended, Cursor.shift, Event.shift]
  | panic cause => simp [shift, ended]
  | unfinished => simp [shift, ended]

end Run

theorem Lexer.parse_shift (token : Lexer) (before : Text) (cursor : Cursor) :
    token.parse (cursor.shift before) = (token.parse cursor).shift before := by
  simp only [parse, Cursor.remaining_shift, Cursor.tryAdvance_shift]
  cases token.regex.find cursor.remaining with
  | none => rfl
  | some found =>
      cases advanced : cursor.tryAdvance found.last with
      | ok result => simp [Except.map, advanced, Run.shift, Event.shift]
      | error error => simp [Except.map, advanced, Run.shift, Run.panic]

theorem Script.run_shift {script : Script} (relative : script.Avoids absolute) (before : Text)
    (cursor : Cursor) : script.run (cursor.shift before) = (script.run cursor).shift before := by
  induction script generalizing cursor with
  | succeed value => rfl
  | fail => rfl
  | advance count next ih =>
      simp only [run, Cursor.tryAdvance_shift]
      cases cursor.tryAdvance count with
      | ok result => exact ih result.1 (relative.2 _) result.2
      | error error => rfl
  | tryAdvance count next ih =>
      simp only [run, Cursor.tryAdvance_shift]
      cases cursor.tryAdvance count with
      | ok result => exact ih (.ok result.1) (relative.2 _) result.2
      | error error => exact ih (.error error) (relative.2 _) cursor
  | remaining next ih =>
      simp only [run, Cursor.remaining_shift]
      exact ih cursor.remaining (relative.2 _) cursor
  | restore saved next ih => exact absurd (by decide) relative.1
  | consumed next ih => exact absurd (by decide) relative.1
  | source next ih => exact absurd (by decide) relative.1
  | offset next ih => exact absurd (by decide) relative.1
  | location next ih => exact absurd (by decide) relative.1

def Lockstep.translation (before : Text) : Lockstep where
  Paired here there := there = here.shift before
  Agree _ _ run other := other = run.shift before
  sameOffset began paired := by
    subst began paired
    simp [Cursor.shift]
  success _ _ _ paired := by
    subst paired
    rfl
  failure paired := by
    subst paired
    rfl
  unfinished paired := by
    subst paired
    rfl
  noProgress _ _ _ paired := by
    subst paired
    rfl
  rejected _ _ _ paired := by
    subst paired
    rfl
  unlogged unlogged same := by
    subst same
    simp [Run.shift_precededBy, Event.shift_of_unlogged _ unlogged]
  andThen _ same goesOn := by
    subst same
    exact Run.shift_andThen before fun value next => goesOn value rfl
  attempt paired same := by
    subst paired
    exact Run.shift_attempt before same
  lexer token here _ paired := by
    subst paired
    exact token.parse_shift before here

namespace Grammar

variable {rules : Rules} {grammar : Grammar}

theorem parse_shift (rulesRelative : rules.EachScript (Script.Avoids Script.absolute))
    (relative : grammar.EachScript (Script.Avoids Script.absolute)) (budget : Nat)
    (before : Text) (cursor : Cursor) :
    parse rules budget grammar (cursor.shift before) =
      (parse rules budget grammar cursor).shift before := by
  have admits : (Lockstep.translation before).Admits (Script.Avoids Script.absolute) rules := by
    constructor
    · rintro script relative here there rfl
      exact Script.run_shift relative before here
    · rintro name cause found here there rfl
      rfl
    · exact rulesRelative
  exact Lockstep.parse admits budget relative rfl

/-- A grammar run behind a consumed text runs as on the rest alone: the same outcome, as many runs
of each counted rule and builds of each lazy one, and the same log, with every offset moved by the
length of what was consumed. -/
theorem parse_behind_consumed (rulesRelative : rules.EachScript (Script.Avoids Script.absolute))
    (relative : grammar.EachScript (Script.Avoids Script.absolute)) (budget : Nat)
    (consumed rest : Text) :
    let behind := parse rules budget grammar
      { source := consumed ++ rest, offset := byteLength consumed }
    let fresh := parse rules budget grammar (.start rest)
    behind.outcome = fresh.outcome ∧
      behind.cursor.offset = byteLength consumed + fresh.cursor.offset ∧
      Event.calls behind.events = Event.calls fresh.events ∧
      Event.builds behind.events = Event.builds fresh.events ∧
      Event.log behind.events = (Event.log fresh.events).map (Event.shift (byteLength consumed)) := by
  intro behind fresh
  have shifted : behind = fresh.shift consumed :=
    parse_shift rulesRelative relative budget consumed (.start rest)
  rw [shifted]
  exact ⟨rfl, rfl, Event.calls_shift _ _, Event.builds_shift _ _, Event.log_shift _ _⟩

/-- The second letter matches behind the first one too, though its pattern asks for the start of
the text. -/
theorem parse_behind_consumed_anchored :
    let letter : Grammar :=
      .lexer { pattern := ['^', 'b'], regex := .seq (.look .textStart) (.set (.single 'b')) }
    let rules : Rules :=
      { entries := [(['r'], .ok (.repeated (.counted ['c'] letter) .empty false))] }
    let consumed : Text := ['a']
    let rest : Text := ['b', 'b']
    let behind := parse rules 8 (.lazy ['r'])
      { source := consumed ++ rest, offset := byteLength consumed }
    let fresh := parse rules 8 (.lazy ['r']) (.start rest)
    behind.cursor.offset = 3 ∧ Event.calls behind.events = [(['c'], 3)] ∧
      behind.outcome = fresh.outcome ∧
      behind.cursor.offset = byteLength consumed + fresh.cursor.offset ∧
      Event.calls behind.events = Event.calls fresh.events ∧
      Event.builds behind.events = Event.builds fresh.events ∧
      Event.log behind.events = (Event.log fresh.events).map (Event.shift (byteLength consumed)) := by
  intro letter rules consumed rest behind fresh
  have rulesRelative : rules.EachScript (Script.Avoids Script.absolute) := by
    apply Rules.eachScript_of_entries
    intro name grammar member
    obtain ⟨rfl, rfl⟩ : name = ['r'] ∧ _ := by simpa [rules] using member
    exact .repeated false (.counted ['c'] (.lexer _)) .empty
  exact ⟨by decide +kernel, by decide +kernel,
    parse_behind_consumed rulesRelative (.lazy ['r']) 8 consumed rest⟩

end Grammar

end TextGrammar
