import Mathlib.Data.List.Chain
import TextGrammar.Proofs.Equations
import TextGrammar.Proofs.Parts

/-!
How failures travel. A failure is logged where it arises, as a miss of a token or as a rejected
value, and the next event is the one rollback of it, by the attempt around it. So nothing is logged
between a failure and its rollback, and a run that fails has logged its own failure last.
A repetition that asks for an item and finds none fails after the rollback of that item. Failures
that arise in a script, or in a choice among nothing, leave no event at all.
-/

namespace TextGrammar

namespace Event

def missedAt? : Event → Option Nat
  | .noMatch _ offset => some offset
  | .rejected offset _ => some offset
  | _ => none

def isMiss (event : Event) : Bool := event.missedAt?.isSome

def isRollback : Event → Bool
  | .backtracking _ _ => true
  | _ => false

/-- The last event of a failure that stops at `offset`. Only a repetition that asks for an item,
if there is one, fails behind a rollback. -/
def FailsAt (asking : Prop) (event : Event) (offset : Nat) : Prop :=
  event.missedAt? = some offset ∨ asking ∧ ∃ origin, event = .backtracking origin offset

structure LeadsTo (asking : Prop) (event next : Event) : Prop where
  rolledBack : ∀ offset, event.missedAt? = some offset →
    ∃ target, next = .backtracking offset target
  cause : ∀ origin target, next = .backtracking origin target → event.FailsAt asking origin

variable {asking : Prop} {event next : Event}

theorem LeadsTo.of_calm (held : event.missedAt? = none) (fresh : next.isRollback = false) :
    event.LeadsTo asking next := by
  constructor
  · intro offset missed
    rw [held] at missed
    cases missed
  · rintro origin target rfl
    cases fresh

theorem FailsAt.leadsTo {offset : Nat} (fails : event.FailsAt asking offset) (target : Nat) :
    event.LeadsTo asking (.backtracking offset target) := by
  constructor
  · intro missed missedEq
    rcases fails with missedHere | ⟨-, origin, rfl⟩
    · obtain rfl : offset = missed := Option.some.inj (missedHere.symm.trans missedEq)
      exact ⟨target, rfl⟩
    · cases missedEq
  · rintro origin other same
    cases same
    exact fails

theorem log_append (earlier later : List Event) :
    log (earlier ++ later) = log earlier ++ log later :=
  List.filter_append ..

/-- Where no repetition asks for an item, misses and rollbacks come in pairs. -/
theorem countP_miss_eq {events : List Event} (unasked : ¬asking)
    (linked : events.IsChain (LeadsTo asking)) :
    events.countP isMiss + (events.head?.any isRollback).toNat =
      events.countP isRollback + (events.getLast?.any isMiss).toNat := by
  induction linked with
  | nil => rfl
  | singleton event => cases event <;> rfl
  | @cons_cons event next rest leads linked ih =>
      have nextRollback : next.isRollback = event.isMiss := by
        cases missed : event.missedAt? with
        | some offset =>
            obtain ⟨target, rfl⟩ := leads.rolledBack offset missed
            simp [isMiss, missed, isRollback]
        | none =>
            cases next with
            | backtracking origin target =>
                rcases leads.cause origin target rfl with missedHere | ⟨asked, -⟩
                · rw [missed] at missedHere
                  cases missedHere
                · exact absurd asked unasked
            | _ => simp [isMiss, missed, isRollback]
      rw [List.countP_cons, List.countP_cons (p := isRollback), List.getLast?_cons_cons]
      rw [List.head?_cons, Option.any_some, nextRollback] at ih
      cases missed : event.isMiss <;> cases rolled : event.isRollback <;>
        simp [missed, rolled] at ih ⊢ <;> omega

end Event

open Event

variable {α β : Type} {asking : Prop}

/-- All failures but the run's own are rolled back, and that one is the last thing logged. -/
structure Run.Reports (asking : Prop) (run : Run α) : Prop where
  linked : (log run.events).IsChain (LeadsTo asking)
  opening : ∀ event ∈ (log run.events).head?, event.isRollback = false
  closing : ∀ event ∈ (log run.events).getLast?, event.missedAt? ≠ none → run.outcome = .failure
  failure : run.outcome = .failure →
    ∃ event ∈ (log run.events).getLast?, event.FailsAt asking run.cursor.offset

namespace Run.Reports

theorem silent {run : Run α} (events : log run.events = []) (held : run.outcome ≠ .failure) :
    run.Reports asking := by
  constructor
  · simp [events]
  · simp [events]
  · simp [events]
  · exact fun failed => absurd failed held

theorem calm {run : Run α} (event : Event) (events : log run.events = [event])
    (fresh : event.isRollback = false) (passing : event.missedAt? = none)
    (held : run.outcome ≠ .failure) : run.Reports asking := by
  constructor
  · simp [events]
  · simpa [events] using fresh
  · simpa [events] using fun missed => absurd passing missed
  · exact fun failed => absurd failed held

theorem missed {run : Run α} (event : Event) (events : log run.events = [event])
    (missedHere : event.missedAt? = some run.cursor.offset) (failed : run.outcome = .failure) :
    run.Reports asking := by
  constructor
  · simp [events]
  · cases event with
    | backtracking origin target => cases missedHere
    | _ => simp [events, isRollback]
  · exact fun _ _ _ => failed
  · exact fun _ => ⟨event, by simp [events], .inl missedHere⟩

theorem of_log {run : Run α} {other : Run β} (reports : run.Reports asking)
    (sameLog : log other.events = log run.events) (stopped : other.cursor = run.cursor)
    (fails : other.outcome = .failure ↔ run.outcome = .failure) : other.Reports asking := by
  constructor
  · rw [sameLog]
    exact reports.linked
  · rw [sameLog]
    exact reports.opening
  · rw [sameLog]
    exact fun event last missed => fails.mpr (reports.closing event last missed)
  · rw [sameLog, stopped]
    exact fun failed => reports.failure (fails.mp failed)

theorem unlogged {run : Run α} {event : Event} (unlogged : event.isLogged = false)
    (reports : run.Reports asking) : (run.precededBy [event]).Reports asking :=
  reports.of_log (by simp [log, unlogged]) rfl Iff.rfl

theorem andThen {run : Run α} {continuation : α → Parser β} (reports : run.Reports asking)
    (goesOn : ∀ value cursor, (continuation value cursor).Reports asking) :
    (run.andThen continuation).Reports asking := by
  cases ended : run.outcome with
  | success value =>
      have later := goesOn value run.cursor
      -- nothing is left to be rolled back behind a success
      have held : ∀ event ∈ (log run.events).getLast?, event.missedAt? = none := by
        intro event last
        by_contra missed
        have failed := reports.closing event last missed
        rw [ended] at failed
        cases failed
      rw [andThen_of_success ended]
      constructor
      · rw [precededBy_events, log_append]
        refine reports.linked.append later.linked ?_
        intro event last next first
        exact .of_calm (held event last) (later.opening next first)
      · rw [precededBy_events, log_append, List.head?_append]
        intro event first
        cases before : (log run.events).head? with
        | some opening =>
            rw [before] at first
            exact reports.opening event (by rw [before]; exact first)
        | none =>
            rw [before] at first
            exact later.opening event first
      · rw [precededBy_events, log_append, List.getLast?_append]
        intro event last missed
        cases behind : (log (continuation value run.cursor).events).getLast? with
        | some closing =>
            rw [behind] at last
            exact later.closing event (by rw [behind]; exact last) missed
        | none =>
            rw [behind] at last
            exact absurd (held event last) missed
      · intro failed
        obtain ⟨event, last, fails⟩ := later.failure failed
        refine ⟨event, ?_, fails⟩
        rw [precededBy_events, log_append, List.getLast?_append, last]
        rfl
  | _ =>
      exact reports.of_log (by simp [Run.andThen, ended]) (by simp [Run.andThen, ended])
        (by simp [Run.andThen, ended])

theorem map {run : Run α} (reports : run.Reports asking) (mapping : α → β) :
    (run.map mapping).Reports asking :=
  reports.andThen fun _ _ => silent rfl (by simp [success])

variable {run : Run α} {earlier later : List Event} {event : Event}

theorem next_of_miss {offset : Nat} (reports : run.Reports asking)
    (split : log run.events = earlier ++ event :: later) (missed : event.missedAt? = some offset) :
    (later = [] ∧ run.outcome = .failure) ∨
      ∃ target rest, later = .backtracking offset target :: rest := by
  cases later with
  | nil =>
      refine .inl ⟨rfl, reports.closing event ?_ (by simp [missed])⟩
      simp [split]
  | cons next rest =>
      have leads := List.isChain_iff_forall_rel_of_append_cons_cons.mp reports.linked split
      obtain ⟨target, rfl⟩ := leads.rolledBack offset missed
      exact .inr ⟨target, rest, rfl⟩

theorem cause_of_rollback {origin target : Nat} (reports : run.Reports asking)
    (split : log run.events = earlier ++ .backtracking origin target :: later) :
    ∃ before event, earlier = before ++ [event] ∧ event.FailsAt asking origin := by
  rcases earlier.eq_nil_or_concat with rfl | ⟨before, event, rfl⟩
  · have opening := reports.opening (.backtracking origin target) (by simp [split])
    cases opening
  · rw [List.concat_eq_append] at split ⊢
    rw [List.append_assoc] at split
    have leads := List.isChain_iff_forall_rel_of_append_cons_cons.mp reports.linked split
    exact ⟨before, event, rfl, leads.cause origin target rfl⟩

theorem last_of_failure (reports : run.Reports asking) (failed : run.outcome = .failure) :
    ∃ before event, log run.events = before ++ [event] ∧
      event.FailsAt asking run.cursor.offset := by
  obtain ⟨event, last, fails⟩ := reports.failure failed
  obtain ⟨before, split⟩ := List.getLast?_eq_some_iff.mp last
  exact ⟨before, event, split, fails⟩

theorem countP_miss (reports : run.Reports asking) (unasked : ¬asking) :
    (run.outcome = .failure →
      (log run.events).countP isMiss = (log run.events).countP isRollback + 1) ∧
    (run.outcome ≠ .failure →
      (log run.events).countP isMiss = (log run.events).countP isRollback) := by
  have pairs := countP_miss_eq unasked reports.linked
  have opening : (log run.events).head?.any isRollback = false := by
    simpa [Option.any_eq_false] using reports.opening
  rw [opening] at pairs
  constructor
  · intro failed
    obtain ⟨before, event, split, missed | ⟨asked, -⟩⟩ := reports.last_of_failure failed
    · simpa [split, isMiss, missed] using pairs
    · exact absurd asked unasked
  · intro held
    have closing : (log run.events).getLast?.any isMiss = false := by
      rw [Option.any_eq_false]
      intro event last
      by_contra missed
      exact held (reports.closing event last (by simpa [isMiss] using missed))
    simpa [closing] using pairs

end Run.Reports

def Parser.Reports (asking : Prop) (parser : Parser α) : Prop :=
  ∀ start, (parser start).Reports asking

namespace Parser.Reports

theorem succeed (value : α) : Reports asking (succeed value) :=
  fun _ => .silent rfl (by simp [Parser.succeed, Run.success])

theorem lexer (token : Lexer) : Reports asking token.parse := by
  intro start
  simp only [Lexer.parse]
  split
  · exact .missed (.noMatch token.pattern start.offset) rfl rfl rfl
  · split
    · rename_i text next _
      exact .calm (.matched token.pattern text) rfl rfl rfl (by simp)
    · exact .silent rfl (by simp [Run.panic])

theorem pair {first : Parser α} {second : Parser β} (before : Reports asking first)
    (after : Reports asking second) : Reports asking (pair first second) :=
  fun start => (before start).andThen fun _ cursor => (after cursor).map _

theorem skip {content : Parser α} {skipped : Parser β} (kept : Reports asking content)
    (dropped : Reports asking skipped) : Reports asking (skip content skipped) :=
  fun start => (kept start).andThen fun _ cursor => (dropped cursor).map _

theorem skipThen {skipped : Parser β} {content : Parser α} (dropped : Reports asking skipped)
    (kept : Reports asking content) : Reports asking (skipThen skipped content) :=
  fun start => (dropped start).andThen fun _ cursor => kept cursor

theorem quotedBy {content : Parser α} {quote : Parser β} (inside : Reports asking content)
    (around : Reports asking quote) : Reports asking (quotedBy content quote) :=
  fun start => (around start).andThen fun _ cursor =>
    (inside cursor).andThen fun _ cursor => (around cursor).map _

theorem map {parser : Parser α} (inside : Reports asking parser) (mapping : α → β) :
    Reports asking (map parser mapping) :=
  fun start => (inside start).map mapping

theorem tryMap {parser : Parser α} (inside : Reports asking parser)
    (mapping : α → Except String β) : Reports asking (tryMap parser mapping) := by
  intro start
  refine (inside start).andThen ?_
  intro value cursor
  cases mapping value with
  | ok mapped => exact .silent rfl (by simp [Run.success])
  | error reason => exact .missed (.rejected cursor.offset reason) rfl rfl rfl

theorem attempt {parser : Parser α} (inside : Reports asking parser) :
    Reports asking (attempt parser) := by
  intro start
  have reports := inside start
  by_cases failed : (parser start).outcome = .failure
  · obtain ⟨event, last, fails⟩ := reports.failure failed
    rw [attempt_of_failure failed]
    have put : ∀ origin target : Nat, log [Event.backtracking origin target] =
        [.backtracking origin target] := fun _ _ => rfl
    constructor
    · rw [log_append, put]
      refine reports.linked.append (.singleton _) ?_
      intro final finalLast next first
      obtain rfl : event = final := Option.some.inj (last.symm.trans finalLast)
      obtain rfl : _ = next := Option.some.inj first
      exact fails.leadsTo start.offset
    · rw [log_append, List.head?_append]
      intro opening first
      cases before : (log (parser start).events).head? with
      | some _ =>
          rw [before] at first
          exact reports.opening opening (by rw [before]; exact first)
      | none =>
          rw [List.head?_eq_none_iff] at before
          simp [before] at last
    · simp [log_append, put, missedAt?]
    · intro failedToo
      cases failedToo
  · obtain ⟨stopped, events⟩ := attempt_of_not_failure failed
    refine reports.of_log (by rw [events]) stopped ?_
    exact ⟨fun failedToo => absurd failedToo (attempt_steady parser start),
      fun failedToo => absurd failedToo failed⟩

theorem orElse {first second : Parser α} (preferred : Reports asking first)
    (other : Reports asking second) : Reports asking (orElse first second) := by
  intro start
  refine (attempt preferred start).andThen ?_
  intro result cursor
  cases result with
  | some value => exact succeed value cursor
  | none => exact other cursor

theorem choice {alternatives : List (Parser α)} (nonempty : alternatives ≠ [])
    (each : ∀ alternative ∈ alternatives, Reports asking alternative) :
    Reports asking (choice alternatives) := by
  induction alternatives with
  | nil => exact absurd rfl nonempty
  | cons first rest ih =>
      have firstReports := each first List.mem_cons_self
      cases rest with
      | nil => exact firstReports
      | cons second rest =>
          exact orElse firstReports
            (ih (by simp) fun alternative member =>
              each alternative (List.mem_cons_of_mem _ member))

theorem counted (name : Text) {parser : Parser α} (inside : Reports asking parser) :
    Reports asking (counted name parser) :=
  fun start => (inside start).unlogged rfl

variable {item : Parser α} {separator : Parser β}

theorem rounds (each : Reports asking item) (between : Reports asking separator) (budget : Nat) :
    Reports asking (rounds item separator budget) := by
  induction budget with
  | zero => exact fun _ => .silent rfl (by simp [Parser.rounds, Run.unfinished])
  | succ budget ih =>
      intro start
      simp only [Parser.rounds]
      refine (attempt each start).andThen ?_
      intro result cursor
      cases result with
      | none => exact succeed [] cursor
      | some value =>
          refine (attempt between cursor).andThen ?_
          intro result cursor
          cases result with
          | none => exact succeed [value] cursor
          | some divided =>
              simp only
              split
              · exact .calm (.noProgress start.offset) rfl rfl rfl (by simp)
              · exact (ih cursor).map _

theorem rounds_nil {start : Cursor} {budget : Nat}
    (ended : (Parser.rounds item separator budget start).outcome = .success []) :
    ∃ origin, (log (Parser.rounds item separator budget start).events).getLast? =
      some (.backtracking origin (Parser.rounds item separator budget start).cursor.offset) := by
  cases budget with
  | zero => cases ended
  | succ budget =>
      simp only [Parser.rounds] at ended ⊢
      obtain ⟨result, itemEnded, later, -⟩ := Run.of_andThen_success ended
      cases result with
      | none =>
          have failed := failure_of_attempt_none itemEnded
          rw [attempt_of_failure failed]
          refine ⟨(item start).cursor.offset, ?_⟩
          simp [Run.andThen, Run.success, log, isLogged]
      | some value =>
          -- any round with an item gives a list that begins with it
          obtain ⟨divided, -, later, -⟩ := Run.of_andThen_success later
          cases divided with
          | none => cases later
          | some divided =>
              simp only at later
              split at later
              · cases later
              · obtain ⟨values, -, impossible, -⟩ := Run.of_map_success later
                cases impossible

theorem repeated (each : Reports asking item) (between : Reports asking separator) (budget : Nat)
    {atLeastOne : Bool} (asks : atLeastOne = true → asking) :
    Reports asking (repeated item separator atLeastOne budget) := by
  intro start
  have reports := rounds each between budget start
  cases ended : (Parser.rounds item separator budget start).outcome with
  | success values =>
      rw [repeated_of_success ended]
      by_cases tooFew : (atLeastOne && values.isEmpty) = true
      · rw [if_pos tooFew]
        obtain ⟨asked, empty⟩ := by simpa using tooFew
        subst empty
        obtain ⟨origin, last⟩ := rounds_nil ended
        constructor
        · simpa [Run.failure] using reports.linked
        · simpa [Run.failure] using reports.opening
        · exact fun _ _ _ => rfl
        · refine fun _ => ⟨.backtracking origin _, ?_, .inr ⟨asks asked, origin, rfl⟩⟩
          simpa [Run.failure] using last
      · rw [if_neg tooFew]
        exact reports.of_log (by simp [Run.success]) rfl (by simp [Run.success, ended])
  | _ =>
      exact reports.of_log (by simp [Parser.repeated, Run.andThen, ended])
        (by simp [Parser.repeated, Run.andThen, ended])
        (by simp [Parser.repeated, Run.andThen, ended])

end Parser.Reports

namespace Grammar

/-- Failures that arise in this part itself are logged. -/
def Heard : Grammar → Prop
  | .choice alternatives => alternatives ≠ []
  | .custom script => ∀ cursor, (script.run cursor).outcome ≠ .failure
  | _ => True

variable {rules : Rules} {whole grammar : Grammar}

theorem parse_reports (heard : ∀ part, rules.Reaches whole part → part.Heard)
    (asks : ∀ item separator, rules.Reaches whole (.repeated item separator true) → asking)
    (budget : Nat) (reached : rules.Reaches whole grammar) :
    Parser.Reports asking (parse rules budget grammar) := by
  induction budget generalizing grammar with
  | zero => exact fun _ => .silent rfl (by simp [parse, Run.unfinished])
  | succ budget ih =>
      have parts : ∀ part ∈ grammar.parts, Parser.Reports asking (parse rules budget part) :=
        fun part member => ih (reached.part member)
      simp only [Grammar.parts] at parts
      cases grammar with
      | lexer token => exact .map (.lexer token) _
      | pair first second => exact .map (.pair (parts first (by simp)) (parts second (by simp))) _
      | orElse first second => exact .orElse (parts first (by simp)) (parts second (by simp))
      | skip content skipped => exact .skip (parts content (by simp)) (parts skipped (by simp))
      | skipThen skipped content =>
          exact .skipThen (parts skipped (by simp)) (parts content (by simp))
      | quoted content quote => exact .quotedBy (parts content (by simp)) (parts quote (by simp))
      | map content mapping => exact .map (parts content (by simp)) mapping
      | tryMap content mapping => exact .tryMap (parts content (by simp)) mapping
      | repeated item separator atLeastOne =>
          have asked : atLeastOne = true → asking := by
            rintro rfl
            exact asks item separator reached
          exact .map (.repeated (parts item (by simp)) (parts separator (by simp)) budget asked) _
      | choice alternatives =>
          have nonempty : alternatives ≠ [] := heard _ reached
          refine .choice (by simpa using nonempty) ?_
          intro parser member
          obtain ⟨alternative, inside, rfl⟩ := List.mem_map.mp member
          exact parts alternative inside
      | empty => exact .succeed Value.unit
      | attempt content => exact .map (.attempt (parts content (by simp))) _
      | counted name content => exact .counted name (parts content (by simp))
      | custom script =>
          intro start
          exact .silent (by simp [parse, script.run_events start, log]) (heard _ reached start)
      | lazy name =>
          intro start
          simp only [parse]
          cases found : rules.build name with
          | ok rule => exact (ih (reached.rule found) start).unlogged rfl
          | error cause => exact .unlogged rfl (.silent rfl (by simp [Run.panic]))

/-- Every miss is rolled back by the very next event from where it happened, unless the run ends
with it and fails; every rollback follows the failure that it is for; and a run that fails has
logged that last. Only a repetition that asks for an item, wherever the grammar comes to one, fails
once more after a rollback; without one there are as many rollbacks as misses, the last miss of a
run that fails apart. -/
theorem parse_rolls_back_failures
    (heard : ∀ part, rules.Reaches grammar part → part.Heard) (budget : Nat) (start : Cursor) :
    let run := parse rules budget grammar start
    let asking := ∃ item separator, rules.Reaches grammar (.repeated item separator true)
    (∀ earlier event later offset, log run.events = earlier ++ event :: later →
      event.missedAt? = some offset →
        (later = [] ∧ run.outcome = .failure) ∨
          ∃ target rest, later = .backtracking offset target :: rest) ∧
    (∀ earlier origin target later,
      log run.events = earlier ++ .backtracking origin target :: later →
        ∃ before event, earlier = before ++ [event] ∧ event.FailsAt asking origin) ∧
    (run.outcome = .failure → ∃ before event, log run.events = before ++ [event] ∧
      event.FailsAt asking run.cursor.offset) ∧
    (¬asking →
      (run.outcome = .failure →
        (log run.events).countP isMiss = (log run.events).countP isRollback + 1) ∧
      (run.outcome ≠ .failure →
        (log run.events).countP isMiss = (log run.events).countP isRollback)) := by
  intro run asking
  have asks : ∀ item separator, rules.Reaches grammar (.repeated item separator true) → asking :=
    fun item separator reached => ⟨item, separator, reached⟩
  have reports : run.Reports asking := parse_reports heard asks budget .whole start
  refine ⟨?_, ?_, reports.last_of_failure, reports.countP_miss⟩
  · intro earlier event later offset split missed
    exact reports.next_of_miss split missed
  · intro earlier origin target later split
    exact reports.cause_of_rollback split

/-- Some letters `a`, or one letter `b` and then the same again. Each missing `a` is rolled back
twice, first as an item and then as the repetition that asks for one. -/
theorem parse_rolls_back_failures_twice :
    let letter (character : Char) : Grammar :=
      .lexer { pattern := [character], regex := .set (.single character) }
    let rule : Grammar :=
      .orElse (.repeated (letter 'a') .empty true) (.pair (letter 'b') (.lazy ['r']))
    let rules : Rules := { entries := [(['r'], .ok rule)] }
    let run := parse rules 16 (.lazy ['r']) (.start ['b', 'c'])
    log run.events =
      [.noMatch ['a'] 0, .backtracking 0 0, .backtracking 0 0, .matched ['b'] ['b'],
        .noMatch ['a'] 1, .backtracking 1 1, .backtracking 1 1, .noMatch ['b'] 1] ∧
    ∃ before event, log run.events = before ++ [event] ∧
      event.FailsAt (∃ item separator, rules.Reaches (.lazy ['r']) (.repeated item separator true))
        run.cursor.offset := by
  intro letter rule rules run
  have heard : ∀ part, rules.Reaches (.lazy ['r']) part → part.Heard := by
    let inside : List Grammar :=
      [.lazy ['r'], rule, .repeated (letter 'a') .empty true, .pair (letter 'b') (.lazy ['r']),
        letter 'a', letter 'b', .empty]
    have closed : ∀ part, rules.Reaches (.lazy ['r']) part → part ∈ inside := fun _ =>
      Rules.Reaches.mem_of_closed (by simp [inside]) (by simp [inside, parts, rule, letter])
        (by simp [inside, rules])
    have each : ∀ part ∈ inside, part.Heard := by
      simp [inside, Heard, rule, letter]
    exact fun part reached => each part (closed part reached)
  have rolledBack := parse_rolls_back_failures heard 16 (.start ['b', 'c'])
  have logged : log run.events =
      [.noMatch ['a'] 0, .backtracking 0 0, .backtracking 0 0, .matched ['b'] ['b'],
        .noMatch ['a'] 1, .backtracking 1 1, .backtracking 1 1, .noMatch ['b'] 1] := by
    decide +kernel
  have failed : run.outcome = .failure := by
    subst run rules rule letter
    rfl
  exact ⟨logged, rolledBack.2.2.1 failed⟩

/-- A script that fails leaves no event, though it uses no operation of the cursor at all. -/
theorem failing_script_logs_nothing :
    let rules : Rules := { entries := [] }
    let run := parse rules 1 (.custom .fail) (.start [])
    (∀ part, rules.Reaches (.custom .fail) part →
      part ≠ .choice [] ∧
        ∀ script, part = .custom script → ∀ operations, script.Avoids operations) ∧
    run.outcome = .failure ∧ ¬∃ before event, log run.events = before ++ [event] := by
  intro rules run
  refine ⟨?_, rfl, ?_⟩
  · intro part reached
    obtain rfl : part = .custom .fail := by
      have member : part ∈ [.custom .fail] :=
        reached.mem_of_closed List.mem_cons_self (by simp [parts]) (by simp [rules])
      simpa using member
    refine ⟨by simp, ?_⟩
    rintro script same operations
    cases same
    trivial
  · rintro ⟨before, event, split⟩
    have empty : log run.events = [] := rfl
    simp [empty] at split

end Grammar

end TextGrammar
