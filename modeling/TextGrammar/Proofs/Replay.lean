import TextGrammar.Proofs.RunInvariant

/-!
The log accounts for the cursor. Replaying the events of a run from the offset where it began
gives, before each event, the position that the event speaks of, and after the last one the offset
where the run stopped.
-/

namespace TextGrammar

namespace Event

def positionAfter (position : Nat) : Event → Nat
  | .matched _ token => position + byteLength token
  | .backtracking _ target => target
  | _ => position

def replay (position : Nat) (events : List Event) : Nat := events.foldl positionAfter position

/-- The event tells the truth about a source that is read at `position`. -/
def AccordsWith (source : Text) (position : Nat) : Event → Prop
  | .matched _ token =>
      ∃ before after, source = before ++ token ++ after ∧ byteLength before = position
  | .noMatch _ offset => offset = position
  | .backtracking origin target => origin = position ∧ target ≤ origin
  | .rejected offset _ => offset = position
  | .noProgress offset => offset = position
  | .called _ => True
  | .built _ => True

def Accounted (source : Text) : Nat → List Event → Prop
  | _, [] => True
  | position, event :: rest =>
      event.AccordsWith source position ∧ Accounted source (event.positionAfter position) rest

theorem positionAfter_of_unlogged {event : Event} (unlogged : event.isLogged = false)
    (position : Nat) : event.positionAfter position = position := by
  cases event with
  | called name => rfl
  | built name => rfl
  | _ => cases unlogged

theorem accordsWith_of_unlogged {event : Event} (unlogged : event.isLogged = false)
    (source : Text) (position : Nat) : event.AccordsWith source position := by
  cases event with
  | called name => trivial
  | built name => trivial
  | _ => cases unlogged

theorem replay_append (position : Nat) (earlier later : List Event) :
    replay position (earlier ++ later) = replay (replay position earlier) later :=
  List.foldl_append

theorem accounted_append {source : Text} {position : Nat} {earlier later : List Event} :
    Accounted source position (earlier ++ later) ↔
      Accounted source position earlier ∧ Accounted source (replay position earlier) later := by
  induction earlier generalizing position with
  | nil => simp [Accounted, replay]
  | cons event rest ih =>
      have restIff := @ih (event.positionAfter position)
      simp only [List.cons_append, Accounted, restIff, and_assoc]
      rfl

theorem replay_log (position : Nat) (events : List Event) :
    replay position (log events) = replay position events := by
  induction events generalizing position with
  | nil => rfl
  | cons event rest ih =>
      cases logged : event.isLogged with
      | false =>
          have dropped : log (event :: rest) = log rest := by simp [log, logged]
          rw [dropped, ih]
          exact congrArg (replay · rest) (positionAfter_of_unlogged logged position).symm
      | true =>
          have kept : log (event :: rest) = event :: log rest := by simp [log, logged]
          rw [kept]
          exact ih (event.positionAfter position)

theorem accounted_log {source : Text} {position : Nat} {events : List Event}
    (accounted : Accounted source position events) : Accounted source position (log events) := by
  induction events generalizing position with
  | nil => trivial
  | cons event rest ih =>
      obtain ⟨accords, restAccounted⟩ := accounted
      cases logged : event.isLogged with
      | false =>
          have dropped : log (event :: rest) = log rest := by simp [log, logged]
          rw [positionAfter_of_unlogged logged] at restAccounted
          rw [dropped]
          exact ih restAccounted
      | true =>
          have kept : log (event :: rest) = event :: log rest := by simp [log, logged]
          rw [kept]
          exact ⟨accords, ih restAccounted⟩

end Event

open Event

variable {α β : Type}

structure Run.Accounts (start : Cursor) (run : Run α) : Prop where
  leads : start.Leads run.cursor
  accounted : Accounted start.source start.offset run.events
  replayed : replay start.offset run.events = run.cursor.offset

namespace Run.Accounts

theorem single {start : Cursor} {run : Run α} (event : Event)
    (accords : event.AccordsWith start.source start.offset)
    (still : event.positionAfter start.offset = start.offset) (stopped : run.cursor = start)
    (events : run.events = [event]) : run.Accounts start := by
  constructor
  · rw [stopped]
    exact .refl start
  · rw [events]
    exact ⟨accords, trivial⟩
  · rw [events, stopped]
    exact still

theorem silent {start : Cursor} {run : Run α} (stopped : run.cursor = start)
    (events : run.events = []) : run.Accounts start := by
  constructor
  · rw [stopped]
    exact .refl start
  · rw [events]
    trivial
  · rw [events, stopped]
    rfl

theorem of_same {start : Cursor} {run : Run α} {other : Run β} (accounts : run.Accounts start)
    (stopped : other.cursor = run.cursor) (events : other.events = run.events) :
    other.Accounts start := by
  constructor
  · rw [stopped]
    exact accounts.leads
  · rw [events]
    exact accounts.accounted
  · rw [events, stopped]
    exact accounts.replayed

theorem precededBy {start middle : Cursor} {events : List Event} {run : Run α}
    (leads : start.Leads middle) (accounted : Accounted start.source start.offset events)
    (replayed : replay start.offset events = middle.offset) (rest : run.Accounts middle) :
    (run.precededBy events).Accounts start := by
  constructor
  · exact leads.trans rest.leads
  · refine accounted_append.mpr ⟨accounted, ?_⟩
    rw [replayed, ← leads.source_eq]
    exact rest.accounted
  · rw [precededBy_events, replay_append, replayed]
    exact rest.replayed

theorem unlogged {start : Cursor} {event : Event} {run : Run α}
    (unlogged : event.isLogged = false) (accounts : run.Accounts start) :
    (run.precededBy [event]).Accounts start :=
  precededBy (.refl start) ⟨accordsWith_of_unlogged unlogged _ _, trivial⟩
    (positionAfter_of_unlogged unlogged _) accounts

theorem andThen {start : Cursor} {run : Run α} {continuation : α → Parser β}
    (valid : start.Valid) (accounts : run.Accounts start)
    (goesOn : ∀ value {next : Cursor}, next.Valid → (continuation value next).Accounts next) :
    (run.andThen continuation).Accounts start := by
  rcases run.andThen_cases continuation with ⟨value, -, goes⟩ | ⟨-, stopped, events⟩
  · rw [goes]
    exact precededBy accounts.leads accounts.accounted accounts.replayed
      (goesOn value (accounts.leads.valid valid))
  · exact accounts.of_same stopped events

theorem attempt {parser : Parser α} {start : Cursor} (accounts : (parser start).Accounts start) :
    (Parser.attempt parser start).Accounts start := by
  by_cases failed : (parser start).outcome = .failure
  · rw [Parser.attempt_of_failure failed]
    constructor
    · exact .refl start
    · refine accounted_append.mpr ⟨accounts.accounted, ?_⟩
      rw [accounts.replayed]
      exact ⟨⟨rfl, accounts.leads.offset_le⟩, trivial⟩
    · rw [replay_append, accounts.replayed]
      rfl
  · obtain ⟨stopped, events⟩ := Parser.attempt_of_not_failure failed
    exact accounts.of_same stopped events

theorem lexer (token : Lexer) {start : Cursor} (valid : start.Valid) :
    (token.parse start).Accounts start := by
  simp only [Lexer.parse]
  split
  · exact single (.noMatch token.pattern start.offset) rfl rfl rfl rfl
  · split
    · rename_i text next advanced
      obtain ⟨⟨rest, remainingEq⟩, lengthEq, rfl⟩ := Cursor.tryAdvance_eq_ok.mp advanced
      obtain ⟨before, sourceEq, offsetEq⟩ := valid.source_eq
      constructor
      · exact Cursor.tryAdvance_leads advanced
      · refine ⟨⟨before, rest, ?_, offsetEq⟩, trivial⟩
        rw [sourceEq, remainingEq, List.append_assoc]
      · exact congrArg (start.offset + ·) lengthEq
    · exact silent rfl rfl

end Run.Accounts

def RunInvariant.accounting : RunInvariant where
  Starts start := start.Valid
  Holds start run := run.Accounts start
  success _ _ _ := .silent rfl rfl
  failure _ := .silent rfl rfl
  unfinished _ := .silent rfl rfl
  noProgress _ start _ := .single (.noProgress start.offset) rfl rfl rfl rfl
  rejected reason start _ := .single (.rejected start.offset reason) rfl rfl rfl rfl
  unlogged unlogged accounts := accounts.unlogged unlogged
  andThen valid accounts goesOn := accounts.andThen valid goesOn
  attempt _ accounts := accounts.attempt
  lexer token _ valid := .lexer token valid

namespace Grammar

variable {rules : Rules} {grammar : Grammar}

theorem parse_accounts (rulesStill : rules.EachScript (Script.Avoids Script.moves))
    (still : grammar.EachScript (Script.Avoids Script.moves)) (budget : Nat) {start : Cursor}
    (valid : start.Valid) : (parse rules budget grammar start).Accounts start := by
  have admits : RunInvariant.accounting.Admits (Script.Avoids Script.moves) rules := by
    constructor
    · intro script still start valid
      exact .silent (Script.run_cursor_of_avoids_moves still start) (script.run_events start)
    · intro name cause found start valid
      exact .silent rfl rfl
    · exact rulesStill
  exact RunInvariant.parse admits budget still valid

/-- Every logged event accords with the position that the log before it replays to, and the whole
log replays to where the run stopped, however the run ended. -/
theorem parse_log_replays (rulesStill : rules.EachScript (Script.Avoids Script.moves))
    (still : grammar.EachScript (Script.Avoids Script.moves)) (budget : Nat) {start : Cursor}
    (valid : start.Valid) :
    (∀ earlier event later,
      log (parse rules budget grammar start).events = earlier ++ event :: later →
      event.AccordsWith start.source (replay start.offset earlier)) ∧
    replay start.offset (log (parse rules budget grammar start).events) =
      (parse rules budget grammar start).cursor.offset := by
  have accounts := parse_accounts rulesStill still budget valid
  constructor
  · intro earlier event later split
    have accounted := accounted_log accounts.accounted
    rw [split] at accounted
    exact (accounted_append.mp accounted).2.1
  · rw [replay_log]
    exact accounts.replayed

/-- Letters `a` before as many letters `b`. On one `b` too few, the inner level succeeds and the
outer one is put back from behind it. -/
theorem parse_log_replays_nested :
    let letter (character : Char) : Grammar :=
      .lexer { pattern := [character], regex := .set (.single character) }
    let rules : Rules :=
      { entries := [(['r'], .ok (.orElse (.pair (letter 'a') (.pair (.lazy ['r']) (letter 'b')))
          .empty))] }
    let run := parse rules 16 (.lazy ['r']) (.start ['a', 'a', 'b'])
    log run.events =
      [.matched ['a'] ['a'], .matched ['a'] ['a'], .noMatch ['a'] 2, .backtracking 2 2,
        .matched ['b'] ['b'], .noMatch ['b'] 3, .backtracking 3 0] ∧
    (∀ earlier event later, log run.events = earlier ++ event :: later →
      event.AccordsWith ['a', 'a', 'b'] (replay 0 earlier)) ∧
    replay 0 (log run.events) = run.cursor.offset := by
  intro letter rules run
  have rulesStill : rules.EachScript (Script.Avoids Script.moves) := by
    apply Rules.eachScript_of_entries
    intro name grammar member
    obtain ⟨rfl, rfl⟩ : name = ['r'] ∧ _ := by simpa [rules] using member
    exact .orElse (.pair (.lexer _) (.pair (.lazy _) (.lexer _))) .empty
  have replays := parse_log_replays rulesStill (.lazy ['r']) 16 (Cursor.start_valid ['a', 'a', 'b'])
  exact ⟨by decide +kernel, replays⟩

end Grammar

end TextGrammar
