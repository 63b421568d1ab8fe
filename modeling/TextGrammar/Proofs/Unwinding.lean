import TextGrammar.Proofs.Bracketing
import TextGrammar.Proofs.Messages
import TextGrammar.Proofs.Moves
import TextGrammar.Proofs.Rounds
import TextGrammar.Proofs.Sequencing

/-!
Panics on their way out. A panic begins in a script or at a lazy part, at some cursor and after some
events, and every part around it ends there and then: it puts nothing back, notes nothing more and
runs nothing that it has behind the part. So a run that panics is known from how it came to where
the panic began.
-/

namespace TextGrammar

open Budgeted Filter

variable {α β : Type} {start here there : Cursor} {cause : Panic} {noted : List Event}

@[mk_iff] structure Run.Panics (run : Run α) (cause : Panic) (there : Cursor)
    (noted : List Event) : Prop where
  outcome_eq : run.outcome = .panic cause
  cursor_eq : run.cursor = there
  events_eq : run.events = noted

namespace Run

@[simp] theorem success_panics (value : α) : ¬(success value start).Panics cause there noted :=
  fun panics => by cases panics.outcome_eq

theorem precededBy_panics {run : Run α} {events : List Event} :
    (run.precededBy events).Panics cause there noted ↔
      ∃ later, run.Panics cause there later ∧ noted = events ++ later := by
  simp [panics_iff, eq_comm, and_assoc]

theorem andThen_panics_iff {run : Run α} {continuation : α → Parser β} :
    (run.andThen continuation).Panics cause there noted ↔
      run.Panics cause there noted ∨
        ∃ value later, run.outcome = .success value ∧
          (continuation value run.cursor).Panics cause there later ∧
          noted = run.events ++ later := by
  cases ended : run.outcome with
  | success value =>
      rw [andThen_of_success ended, precededBy_panics]
      simp [panics_iff, ended]
  | _ => simp [andThen, panics_iff, ended]

@[simp] theorem map_panics {run : Run α} {mapping : α → β} :
    (run.map mapping).Panics cause there noted ↔ run.Panics cause there noted := by
  refine andThen_panics_iff.trans (or_iff_left ?_)
  rintro ⟨value, later, -, panics, -⟩
  exact success_panics _ panics

end Run

namespace Parser

variable {parser : Parser α}

@[simp] theorem attempt_panics_iff :
    (attempt parser start).Panics cause there noted ↔ (parser start).Panics cause there noted := by
  cases ended : (parser start).outcome <;> simp [attempt, Run.panics_iff, ended]

@[simp] theorem tryMap_panics {mapping : α → Except String β} :
    (tryMap parser mapping start).Panics cause there noted ↔
      (parser start).Panics cause there noted := by
  refine Run.andThen_panics_iff.trans (or_iff_left ?_)
  rintro ⟨value, later, -, inMapping, -⟩
  have outcome := inMapping.outcome_eq
  split at outcome <;> cases outcome

theorem attempt_andThen_panics {continuation : Option α → Parser β} :
    ((attempt parser start).andThen continuation).Panics cause there noted ↔
      (parser start).Panics cause there noted ∨
        (∃ value later, (parser start).outcome = .success value ∧
          (continuation (some value) (parser start).cursor).Panics cause there later ∧
          noted = (parser start).events ++ later) ∨
        ∃ later, (parser start).outcome = .failure ∧
          (continuation none start).Panics cause there later ∧
          noted = (parser start).events ++
            .backtracking (parser start).cursor.offset start.offset :: later := by
  rw [Run.andThen_panics_iff, attempt_panics_iff]
  cases ended : (parser start).outcome <;> simp [attempt, ended]

theorem orElse_panics_iff {second : Parser α} :
    (orElse parser second start).Panics cause there noted ↔
      (parser start).Panics cause there noted ∨
        ∃ later, (parser start).outcome = .failure ∧ (second start).Panics cause there later ∧
          noted = (parser start).events ++
            .backtracking (parser start).cursor.offset start.offset :: later := by
  refine attempt_andThen_panics.trans (or_congr_right (or_iff_right ?_))
  rintro ⟨value, later, -, panics, -⟩
  exact Run.success_panics value panics

theorem rounds_panics_iff {item : Parser α} {separator : Parser β} {count : Nat} :
    (rounds item separator (count + 1) start).Panics cause there noted ↔
      (item start).Panics cause there noted ∨
        ∃ value later, (item start).outcome = .success value ∧
          ((separator (item start).cursor).Panics cause there later ∨
            ∃ gap rest, (separator (item start).cursor).outcome = .success gap ∧
              (separator (item start).cursor).cursor.offset ≠ start.offset ∧
              (rounds item separator count (separator (item start).cursor).cursor).Panics cause
                there rest ∧
              later = (separator (item start).cursor).events ++ rest) ∧
          noted = (item start).events ++ later := by
  simp only [rounds]
  refine attempt_andThen_panics.trans (or_congr_right ?_)
  constructor
  · rintro (⟨value, later, took, inRest, notedEq⟩ | ⟨_, -, inEnd, -⟩)
    · refine ⟨value, later, took, ?_, notedEq⟩
      rcases attempt_andThen_panics.mp inRest with inSeparator |
        ⟨gap, rest, passes, inGuard, laterEq⟩ | ⟨_, -, inEnd, -⟩
      · exact .inl inSeparator
      · by_cases still : (separator (item start).cursor).cursor.offset = start.offset
        · simp only [if_pos still] at inGuard
          cases inGuard.outcome_eq
        · simp only [if_neg still, Run.map_panics] at inGuard
          exact .inr ⟨gap, rest, passes, still, inGuard, laterEq⟩
      · exact absurd inEnd (Run.success_panics _)
    · exact absurd inEnd (Run.success_panics _)
  · rintro ⟨value, later, took, inRest, notedEq⟩
    refine .inl ⟨value, later, took, attempt_andThen_panics.mpr ?_, notedEq⟩
    refine inRest.imp_right ?_
    rintro ⟨gap, rest, passes, moved, inLater, laterEq⟩
    refine .inl ⟨gap, rest, passes, ?_, laterEq⟩
    simp only [if_neg moved, Run.map_panics]
    exact inLater

end Parser

/-! ## How a run comes to its parts -/

namespace Grammar

/-- The parts that run one after the other, each behind the success of the one before. -/
def stages : Grammar → List Grammar
  | .pair first second => [first, second]
  | .skip content skipped => [content, skipped]
  | .skipThen skipped content => [skipped, content]
  | .quoted content quote => [quote, content, quote]
  | .map content _ => [content]
  | .tryMap content _ => [content]
  | .attempt content => [content]
  | _ => []

/-- The parts that run one instead of the other, each after the failure of the one before. -/
def alternatives : Grammar → List Grammar
  | .orElse first second => [first, second]
  | .choice alternatives => alternatives
  | _ => []

variable {rules : Rules} {grammar part inner item separator : Grammar} {parts : List Grammar}
  {before later : List Event} {budget : Nat}

inductive Passes (rules : Rules) : List Grammar → Cursor → List Event → Cursor → Prop
  | none (start : Cursor) : Passes rules [] start [] start
  | next {part : Grammar} {parts : List Grammar} {start there : Cursor} {run : Run Value}
      {value : Value} {later : List Event} (ends : EndsIn (budgeted rules part) start run)
      (succeeded : run.outcome = .success value)
      (others : Passes rules parts run.cursor later there) :
      Passes rules (part :: parts) start (run.events ++ later) there

inductive RollsBack (rules : Rules) (start : Cursor) : List Grammar → List Event → Prop
  | none : RollsBack rules start [] []
  | next {part : Grammar} {parts : List Grammar} {run : Run Value} {later : List Event}
      (ends : EndsIn (budgeted rules part) start run) (failed : run.outcome = .failure)
      (others : RollsBack rules start parts later) :
      RollsBack rules start (part :: parts)
        (run.events ++ .backtracking run.cursor.offset start.offset :: later)

inductive ComesToRound (rules : Rules) (item separator : Grammar) :
    Cursor → List Event → Cursor → Prop
  | first (start : Cursor) : ComesToRound rules item separator start [] start
  | next {start there : Cursor} {taken divided : Run Value} {value gap : Value}
      {later : List Event} (takes : EndsIn (budgeted rules item) start taken)
      (took : taken.outcome = .success value)
      (divides : EndsIn (budgeted rules separator) taken.cursor divided)
      (passes : divided.outcome = .success gap) (moved : divided.cursor.offset ≠ start.offset)
      (others : ComesToRound rules item separator divided.cursor later there) :
      ComesToRound rules item separator start (taken.events ++ (divided.events ++ later)) there

/-- A run of the grammar from the start runs this part of it from here, with these events before.
What the grammar has behind the part plays no role. -/
inductive RunsPart (rules : Rules) : Grammar → Cursor → List Event → Grammar → Cursor → Prop
  | stage {grammar part : Grammar} {earlier behind : List Grammar} {start here : Cursor}
      {before : List Event} (split : grammar.stages = earlier ++ part :: behind)
      (passes : Passes rules earlier start before here) :
      RunsPart rules grammar start before part here
  | alternative {grammar part : Grammar} {earlier behind : List Grammar} {start : Cursor}
      {before : List Event} (split : grammar.alternatives = earlier ++ part :: behind)
      (rollsBack : RollsBack rules start earlier before) :
      RunsPart rules grammar start before part start
  | item {item separator : Grammar} (atLeastOne : Bool) {start here : Cursor}
      {before : List Event} (comes : ComesToRound rules item separator start before here) :
      RunsPart rules (.repeated item separator atLeastOne) start before item here
  | separator {item separator : Grammar} (atLeastOne : Bool) {start here : Cursor}
      {before : List Event} {taken : Run Value} {value : Value}
      (comes : ComesToRound rules item separator start before here)
      (takes : EndsIn (budgeted rules item) here taken) (took : taken.outcome = .success value) :
      RunsPart rules (.repeated item separator atLeastOne) start (before ++ taken.events) separator
        taken.cursor
  | counted (name : Text) (content : Grammar) (start : Cursor) :
      RunsPart rules (.counted name content) start [.called name] content start
  | rule {name : Text} {grammar : Grammar} (start : Cursor)
      (found : rules.build name = .ok grammar) :
      RunsPart rules (.lazy name) start [.built name] grammar start

inductive ComesTo (rules : Rules) : Grammar → Cursor → List Event → Grammar → Cursor → Prop
  | whole (grammar : Grammar) (start : Cursor) : ComesTo rules grammar start [] grammar start
  | part {grammar part inner : Grammar} {start here there : Cursor} {before later : List Event}
      (runs : RunsPart rules grammar start before part here)
      (comes : ComesTo rules part here later inner there) :
      ComesTo rules grammar start (before ++ later) inner there

/-! ## Inwards -/

theorem exists_stage
    (panics : (Parser.inOrder (parts.map (parse rules budget)) start).Panics cause there noted) :
    ∃ earlier part behind here before later, parts = earlier ++ part :: behind ∧
      Passes rules earlier start before here ∧
      (parse rules budget part here).Panics cause there later ∧ noted = before ++ later := by
  induction parts generalizing start noted with
  | nil => exact absurd panics (Run.success_panics _)
  | cons first rest ih =>
      rw [List.map_cons, Parser.inOrder_cons, Run.andThen_panics_iff] at panics
      rcases panics with panics | ⟨value, others, succeeded, panics, rfl⟩
      · exact ⟨[], first, rest, start, [], noted, rfl, .none start, panics, rfl⟩
      · obtain ⟨earlier, part, behind, here, before, later, split, passes, inside, rfl⟩ :=
          ih (Run.map_panics.mp panics)
        have ends := endsIn_parse succeeded (by simp)
        exact ⟨first :: earlier, part, behind, here, _, later, congrArg (first :: ·) split,
          .next ends succeeded passes, inside, (List.append_assoc _ _ _).symm⟩

theorem exists_alternative
    (panics : (Parser.choice (parts.map (parse rules budget)) start).Panics cause there noted) :
    ∃ earlier part behind before later, parts = earlier ++ part :: behind ∧
      RollsBack rules start earlier before ∧
      (parse rules budget part start).Panics cause there later ∧ noted = before ++ later := by
  induction parts generalizing noted with
  | nil => cases panics.outcome_eq
  | cons first rest ih =>
      cases rest with
      | nil => exact ⟨[], first, [], [], noted, rfl, .none, panics, rfl⟩
      | cons second rest =>
          rw [List.map_cons, List.map_cons, Parser.choice_cons, Parser.orElse_panics_iff] at panics
          rcases panics with panics | ⟨others, failed, panics, rfl⟩
          · exact ⟨[], first, second :: rest, [], noted, rfl, .none, panics, rfl⟩
          · obtain ⟨earlier, part, behind, before, later, split, rollsBack, inside, rfl⟩ :=
              ih panics
            have ends := endsIn_parse failed (by simp)
            exact ⟨first :: earlier, part, behind, _, later, congrArg (first :: ·) split,
              .next ends failed rollsBack, inside, by simp⟩

theorem exists_round {count : Nat}
    (panics : (Parser.rounds (parse rules budget item) (parse rules budget separator) count
      start).Panics cause there noted) :
    ∃ here before later, ComesToRound rules item separator start before here ∧
      ((parse rules budget item here).Panics cause there later ∧ noted = before ++ later ∨
        ∃ value, (parse rules budget item here).outcome = .success value ∧
          (parse rules budget separator (parse rules budget item here).cursor).Panics cause there
            later ∧
          noted = before ++ (parse rules budget item here).events ++ later) := by
  induction count generalizing start noted with
  | zero => cases panics.outcome_eq
  | succ count ih =>
      rcases Parser.rounds_panics_iff.mp panics with inItem | ⟨value, others, took, inRest, rfl⟩
      · exact ⟨start, [], noted, .first start, .inl ⟨inItem, rfl⟩⟩
      · rcases inRest with inSeparator | ⟨gap, rest, passes, moved, inLater, rfl⟩
        · exact ⟨start, [], others, .first start, .inr ⟨value, took, inSeparator, rfl⟩⟩
        · obtain ⟨here, before, later, comes, inside⟩ := ih inLater
          have round := ComesToRound.next (endsIn_parse took (by simp)) took
            (endsIn_parse passes (by simp)) passes moved comes
          refine ⟨here, _, later, round, ?_⟩
          rcases inside with ⟨inside, rfl⟩ | ⟨last, tookLast, inside, rfl⟩
          · exact .inl ⟨inside, by simp⟩
          · exact .inr ⟨last, tookLast, inside, by simp⟩

theorem listed_calm (atLeastOne : Bool) (values : List Value) (cursor : Cursor) :
    (listed atLeastOne values cursor).Calm := by
  intro cause
  unfold listed
  split <;> simp [Run.failure, Run.success]

theorem parse_alternatives (several : grammar.alternatives ≠ []) :
    parse rules (budget + 1) grammar =
      Parser.choice (grammar.alternatives.map (parse rules budget)) := by
  cases grammar with
  | orElse first second => rfl
  | choice parts => rfl
  | _ => exact absurd rfl several

theorem parse_stages_panics (staged : grammar.stages ≠ []) :
    (parse rules (budget + 1) grammar start).Panics cause there noted ↔
      (Parser.inOrder (grammar.stages.map (parse rules budget)) start).Panics cause there
        noted := by
  -- a single part is a sequence too, and its value is looked at when it is there
  have alone (content : Grammar) :
      (Parser.inOrder ([content].map (parse rules budget)) start).Panics cause there noted ↔
        (parse rules budget content start).Panics cause there noted := Run.map_panics
  have flat (sequencing : Sequencing Grammar) :
      (sequencing.parser (parse rules budget) start).Panics cause there noted ↔
        (Parser.inOrder (sequencing.parts.map (parse rules budget)) start).Panics cause there
          noted := by
    rw [sequencing.flat, Run.map_panics]
  cases grammar with
  | pair first second => exact flat (.pair (.single first) (.single second))
  | skip content skipped => exact flat (.skip (.single content) (.single skipped))
  | skipThen skipped content => exact flat (.skipThen (.single skipped) (.single content))
  | quoted content quote => exact flat (.quoted (.single content) (.single quote))
  | map content mapping => exact Run.map_panics.trans (alone content).symm
  | tryMap content mapping => exact Parser.tryMap_panics.trans (alone content).symm
  | attempt content =>
      exact (Run.map_panics.trans Parser.attempt_panics_iff).trans (alone content).symm
  | _ => exact absurd rfl staged

theorem panics_cases (panics : (parse rules (budget + 1) grammar start).Panics cause there noted) :
    (∃ script, grammar = .custom script ∧ (script.run start).Panics cause there noted) ∨
      (∃ name, grammar = .lazy name ∧ rules.build name = .error cause ∧ there = start ∧
        noted = [.built name]) ∨
      ∃ part here before later, RunsPart rules grammar start before part here ∧
        (parse rules budget part here).Panics cause there later ∧ noted = before ++ later := by
  have inStages : grammar.stages ≠ [] → ∃ part here before later,
      RunsPart rules grammar start before part here ∧
        (parse rules budget part here).Panics cause there later ∧ noted = before ++ later := by
    intro staged
    obtain ⟨earlier, part, behind, here, before, later, split, passes, inside, notedEq⟩ :=
      exists_stage ((parse_stages_panics staged).mp panics)
    exact ⟨part, here, before, later, .stage split passes, inside, notedEq⟩
  have inAlternatives : grammar.alternatives ≠ [] → ∃ part here before later,
      RunsPart rules grammar start before part here ∧
        (parse rules budget part here).Panics cause there later ∧ noted = before ++ later := by
    intro several
    rw [parse_alternatives several] at panics
    obtain ⟨earlier, part, behind, before, later, split, rollsBack, inside, notedEq⟩ :=
      exists_alternative panics
    exact ⟨part, start, before, later, .alternative split rollsBack, inside, notedEq⟩
  cases grammar with
  | pair | skip | skipThen | quoted | map | tryMap | attempt =>
      exact .inr (.inr (inStages (by simp [stages])))
  | orElse first second => exact .inr (.inr (inAlternatives (by simp [alternatives])))
  | choice parts =>
      cases parts with
      | nil => cases panics.outcome_eq
      | cons first rest => exact .inr (.inr (inAlternatives (by simp [alternatives])))
  | repeated item separator atLeastOne =>
      rw [parse_repeated] at panics
      obtain ⟨here, before, later, comes, inside⟩ := exists_round ((Run.andThen_panics_iff.trans
        (or_iff_left fun ⟨_, _, _, inEnd, _⟩ => listed_calm _ _ _ _ inEnd.outcome_eq)).mp panics)
      rcases inside with ⟨inside, notedEq⟩ | ⟨value, took, inside, notedEq⟩
      · exact .inr (.inr ⟨item, here, before, later, .item atLeastOne comes, inside, notedEq⟩)
      · exact .inr (.inr ⟨separator, _, _, later,
          .separator atLeastOne comes (endsIn_parse took (by simp)) took, inside, notedEq⟩)
  | lexer token => exact absurd (Run.map_panics.mp panics).outcome_eq (token.parse_calm start cause)
  | empty => cases panics.outcome_eq
  | counted name content =>
      obtain ⟨later, inside, notedEq⟩ := Run.precededBy_panics.mp panics
      exact .inr (.inr ⟨content, start, _, later, .counted name content start, inside, notedEq⟩)
  | custom script => exact .inl ⟨script, rfl, panics⟩
  | lazy name =>
      simp only [parse] at panics
      cases found : rules.build name with
      | ok rule =>
          rw [found] at panics
          obtain ⟨later, inside, notedEq⟩ := Run.precededBy_panics.mp panics
          exact .inr (.inr ⟨rule, start, _, later, .rule start found, inside, notedEq⟩)
      | error other =>
          rw [found] at panics
          obtain ⟨outcome, rfl, rfl⟩ := panics
          obtain rfl := Outcome.panic.inj outcome
          exact .inr (.inl ⟨name, rfl, found, rfl, rfl⟩)

/-! ## Outwards -/

def PanicsIn (rules : Rules) (grammar : Grammar) (start : Cursor) (cause : Panic) (there : Cursor)
    (noted : List Event) : Prop :=
  ∀ᶠ budget in atTop, (parse rules budget grammar start).Panics cause there noted

theorem eventually_parse_eq {run : Run Value} (ends : EndsIn (budgeted rules part) start run) :
    ∀ᶠ budget in atTop, parse rules budget part start = run :=
  eventually_atTop.mpr ends.parse_eq

theorem PanicsIn.of_parse (panics : (parse rules budget grammar start).Panics cause there noted) :
    PanicsIn rules grammar start cause there noted := by
  filter_upwards [eventually_parse_eq (endsIn_parse panics.outcome_eq (by simp))] with larger same
  rwa [same]

theorem PanicsIn.of_succ (panics : ∀ᶠ budget in atTop,
    (parse rules (budget + 1) grammar start).Panics cause there noted) :
    PanicsIn rules grammar start cause there noted :=
  let ⟨_, panicsThere⟩ := panics.exists
  .of_parse panicsThere

theorem Passes.panics (passes : Passes rules parts start before here)
    (inside : PanicsIn rules part here cause there later) (behind : List Grammar) :
    ∀ᶠ budget in atTop,
      (Parser.inOrder ((parts ++ part :: behind).map (parse rules budget)) start).Panics cause there
        (before ++ later) := by
  induction passes with
  | none start =>
      filter_upwards [inside] with budget panics
      exact Run.andThen_panics_iff.mpr (.inl panics)
  | next ends succeeded others ih =>
      filter_upwards [eventually_parse_eq ends, ih inside] with budget same panics
      subst same
      exact Run.andThen_panics_iff.mpr
        (.inr ⟨_, _, succeeded, Run.map_panics.mpr panics, List.append_assoc _ _ _⟩)

theorem RollsBack.panics (rollsBack : RollsBack rules start parts before)
    (inside : PanicsIn rules part start cause there later) (behind : List Grammar) :
    ∀ᶠ budget in atTop,
      (Parser.choice ((parts ++ part :: behind).map (parse rules budget)) start).Panics cause there
        (before ++ later) := by
  induction rollsBack with
  | none =>
      filter_upwards [inside] with budget panics
      cases behind with
      | nil => exact panics
      | cons second rest => exact Parser.orElse_panics_iff.mpr (.inl panics)
  | @next first parts run noted ends failed others ih =>
      filter_upwards [eventually_parse_eq ends, ih] with budget same panics
      have more : (parts ++ part :: behind).map (parse rules budget) ≠ [] := by simp
      obtain ⟨second, rest, split⟩ := List.exists_cons_of_ne_nil more
      rw [split] at panics
      rw [List.cons_append, List.map_cons, split, Parser.choice_cons, Parser.orElse_panics_iff,
        same]
      exact .inr ⟨_, failed, panics, by simp⟩

theorem ComesToRound.panics (comes : ComesToRound rules item separator start before here)
    (inside : ∀ᶠ budget in atTop, ∀ count,
      (Parser.rounds (parse rules budget item) (parse rules budget separator) (count + 1)
        here).Panics cause there later) :
    ∃ enough, ∀ᶠ budget in atTop, ∀ count, enough ≤ count →
      (Parser.rounds (parse rules budget item) (parse rules budget separator) (count + 1)
        start).Panics cause there (before ++ later) := by
  induction comes with
  | first start => exact ⟨0, inside.mono fun budget panics count _ => panics count⟩
  | next takes took divides passes moved others ih =>
      obtain ⟨enough, panics⟩ := ih inside
      refine ⟨enough + 1, ?_⟩
      filter_upwards [eventually_parse_eq takes, eventually_parse_eq divides, panics]
        with budget same sameToo panics count more
      obtain ⟨count, rfl⟩ : ∃ previous, count = previous + 1 := ⟨count - 1, by omega⟩
      subst same sameToo
      have inLater := panics count (by omega)
      exact Parser.rounds_panics_iff.mpr
        (.inr ⟨_, _, took, .inr ⟨_, _, passes, moved, inLater, rfl⟩, by simp⟩)

theorem ComesToRound.panicsIn (comes : ComesToRound rules item separator start before here)
    (atLeastOne : Bool)
    (inside : ∀ᶠ budget in atTop, ∀ count,
      (Parser.rounds (parse rules budget item) (parse rules budget separator) (count + 1)
        here).Panics cause there later) :
    PanicsIn rules (.repeated item separator atLeastOne) start cause there (before ++ later) := by
  obtain ⟨enough, panics⟩ := comes.panics inside
  apply PanicsIn.of_succ
  filter_upwards [panics, eventually_gt_atTop enough] with budget panics more
  obtain ⟨previous, rfl⟩ : ∃ previous, budget = previous + 1 := ⟨budget - 1, by omega⟩
  rw [parse_repeated]
  exact Run.andThen_panics_iff.mpr (.inl (panics previous (by omega)))

theorem RunsPart.panicsIn (runs : RunsPart rules grammar start before part here)
    (inside : PanicsIn rules part here cause there later) :
    PanicsIn rules grammar start cause there (before ++ later) := by
  cases runs with
  | @stage _ _ earlier behind _ _ _ split passes =>
      refine .of_succ ((passes.panics inside behind).mono fun budget panics => ?_)
      rw [parse_stages_panics (by simp [split]), split]
      exact panics
  | @alternative _ _ earlier behind _ _ split rollsBack =>
      refine .of_succ ((rollsBack.panics inside behind).mono fun budget panics => ?_)
      rw [parse_alternatives (by simp [split]), split]
      exact panics
  | item atLeastOne comes =>
      refine comes.panicsIn atLeastOne (inside.mono fun budget panics count => ?_)
      exact Parser.rounds_panics_iff.mpr (.inl panics)
  | separator atLeastOne comes takes took =>
      rw [List.append_assoc]
      refine comes.panicsIn atLeastOne ?_
      filter_upwards [eventually_parse_eq takes, inside] with budget same panics count
      subst same
      exact Parser.rounds_panics_iff.mpr (.inr ⟨_, _, took, .inl panics, rfl⟩)
  | counted name content start =>
      exact .of_succ (inside.mono fun budget panics =>
        Run.precededBy_panics.mpr ⟨later, panics, rfl⟩)
  | rule start found =>
      refine .of_succ (inside.mono fun budget panics => ?_)
      simp only [parse, found]
      exact Run.precededBy_panics.mpr ⟨later, panics, rfl⟩

theorem ComesTo.panicsIn (comes : ComesTo rules grammar start before inner here)
    (inside : PanicsIn rules inner here cause there later) :
    PanicsIn rules grammar start cause there (before ++ later) := by
  induction comes with
  | whole grammar start => exact inside
  | part runs _ ih =>
      rw [List.append_assoc]
      exact runs.panicsIn (ih inside)

/-! ## Where panics begin -/

/-- A panic begins in a script or at a lazy part whose rule cannot be built, and it ends the run
there: no event comes behind those that were noted on the way in. -/
theorem panicsIn_iff :
    PanicsIn rules grammar start cause there noted ↔
      (∃ script here, ComesTo rules grammar start noted (.custom script) here ∧
        (script.run here).outcome = .panic cause ∧ (script.run here).cursor = there) ∨
      ∃ name before, ComesTo rules grammar start before (.lazy name) there ∧
        rules.build name = .error cause ∧ noted = before ++ [.built name] := by
  constructor
  · intro panicsIn
    -- a part runs with less budget, so one run that panics is enough to go inwards
    obtain ⟨budget, panics⟩ := panicsIn.exists
    clear panicsIn
    induction budget generalizing grammar start noted with
    | zero => cases panics.outcome_eq
    | succ budget ih =>
        rcases panics_cases panics with ⟨script, rfl, inScript⟩ | ⟨name, rfl, unbuilt, rfl, rfl⟩ |
          ⟨part, here, before, later, runs, inPart, rfl⟩
        · have none : noted = [] := inScript.events_eq.symm.trans (script.run_events start)
          subst none
          exact .inl ⟨script, start, .whole _ start, inScript.outcome_eq, inScript.cursor_eq⟩
        · exact .inr ⟨name, [], .whole _ there, unbuilt, rfl⟩
        · rcases ih inPart with ⟨script, inner, comes, inScript⟩ |
            ⟨name, earlier, comes, unbuilt, rfl⟩
          · exact .inl ⟨script, inner, .part runs comes, inScript⟩
          · exact .inr ⟨name, before ++ earlier, .part runs comes, unbuilt,
              (List.append_assoc _ _ _).symm⟩
  · rintro (⟨script, here, comes, panicked, stopped⟩ | ⟨name, before, comes, unbuilt, rfl⟩)
    · have inside : PanicsIn rules (.custom script) here cause there [] :=
        .of_succ (.of_forall fun _ => ⟨panicked, stopped, script.run_events here⟩)
      have outside := comes.panicsIn inside
      rwa [List.append_nil] at outside
    · refine comes.panicsIn (.of_succ (.of_forall fun _ => ?_))
      simp only [parse, unbuilt]
      exact ⟨rfl, rfl, rfl⟩

theorem stages_subset_parts (grammar : Grammar) : grammar.stages ⊆ grammar.parts := by
  cases grammar <;> simp [stages, Grammar.parts]

theorem alternatives_subset_parts (grammar : Grammar) :
    grammar.alternatives ⊆ grammar.parts := by
  cases grammar <;> simp [alternatives, Grammar.parts]

theorem RunsPart.reaches {whole : Grammar} (runs : RunsPart rules grammar start before part here)
    (reached : rules.Reaches whole grammar) : rules.Reaches whole part := by
  cases runs with
  | stage split _ => exact reached.part (grammar.stages_subset_parts (by simp [split]))
  | alternative split _ => exact reached.part (grammar.alternatives_subset_parts (by simp [split]))
  | item atLeastOne _ => exact reached.part List.mem_cons_self
  | separator atLeastOne _ _ _ => exact reached.part (List.mem_cons_of_mem _ List.mem_cons_self)
  | counted name content start => exact reached.part List.mem_cons_self
  | rule start found => exact reached.rule found

theorem ComesTo.reaches {whole : Grammar} (comes : ComesTo rules grammar start before inner here)
    (reached : rules.Reaches whole grammar) : rules.Reaches whole inner := by
  induction comes with
  | whole grammar start => exact reached
  | part runs _ ih => exact ih (runs.reaches reached)

theorem Passes.sameText (passes : Passes rules parts start before here) : start.SameText here := by
  induction passes with
  | none start => exact .refl start
  | next ends _ _ ih => exact ends.sameText.trans ih

theorem ComesToRound.sameText (comes : ComesToRound rules item separator start before here) :
    start.SameText here := by
  induction comes with
  | first start => exact .refl start
  | next takes _ divides _ _ _ ih =>
      exact (takes.sameText.trans divides.sameText).trans ih

theorem RunsPart.sameText (runs : RunsPart rules grammar start before part here) :
    start.SameText here := by
  cases runs with
  | stage _ passes => exact passes.sameText
  | item _ comes => exact comes.sameText
  | separator _ comes takes _ => exact comes.sameText.trans takes.sameText
  | _ => exact .refl start

theorem ComesTo.sameText (comes : ComesTo rules grammar start before inner here) :
    start.SameText here := by
  induction comes with
  | whole grammar start => exact .refl start
  | part runs _ ih => exact runs.sameText.trans ih

end Grammar

/-! ## Panics in scripts -/

namespace Script

variable {script : Script} {count : Nat}

inductive AdvancesAt : Script → Cursor → Nat → Cursor → Prop
  | first (count : Nat) (next : Text → Script) (cursor : Cursor) :
      AdvancesAt (.advance count next) cursor count cursor
  | later {script rest : Script} {cursor moved there : Cursor} {count : Nat}
      (goesOn : script.next? cursor = some (rest, moved))
      (advances : AdvancesAt rest moved count there) : AdvancesAt script cursor count there

/-- A script panics at an advance that is refused, and stays there. -/
theorem run_panics_iff :
    (script.run start).Panics cause there noted ↔
      noted = [] ∧ ∃ count error, script.AdvancesAt start count there ∧
        there.tryAdvance count = .error error ∧ cause = .misuse error := by
  constructor
  · intro panics
    refine ⟨panics.events_eq.symm.trans (script.run_events start), ?_⟩
    induction script, start using operation_induction with
    | step script cursor ih =>
        cases goesOn : script.next? cursor with
        | some left =>
            rw [run_of_next? goesOn] at panics
            obtain ⟨count, error, advances, refused⟩ := ih _ _ goesOn panics
            exact ⟨count, error, .later goesOn advances, refused⟩
        | none =>
            rcases run_of_ended goesOn with ⟨value, ended⟩ | ended |
              ⟨count, next, error, rfl, refused, ended⟩ <;> rw [ended] at panics
            · cases panics.outcome_eq
            · cases panics.outcome_eq
            · obtain ⟨outcome, rfl, -⟩ := panics
              obtain rfl := Outcome.panic.inj outcome
              exact ⟨count, error, .first count next cursor, refused, rfl⟩
  · rintro ⟨rfl, count, error, advances, refused, rfl⟩
    induction advances with
    | first count next cursor =>
        simp only [run, refused]
        exact ⟨rfl, rfl, rfl⟩
    | later goesOn _ ih =>
        rw [run_of_next? goesOn]
        exact ih refused

theorem take_advancesAt {requested : Nat} :
    (take count).AdvancesAt start requested there ↔ count = requested ∧ start = there := by
  constructor
  · intro advances
    cases advances with
    | first => exact ⟨rfl, rfl⟩
    | later goesOn advances =>
        simp only [take, next?] at goesOn
        split at goesOn <;> cases goesOn
        cases advances with
        | later goesOn _ => cases goesOn
  · rintro ⟨rfl, rfl⟩
    exact .first count _ start

end Script

/-- All scripts that the grammar can come to are takes, but for those that never panic. -/
def Rules.OnlyTakesPanic (rules : Rules) (grammar : Grammar) : Prop :=
  ∀ script, rules.Reaches grammar (.custom script) →
    (∃ count, script = .take count) ∨
      ∀ cursor : Cursor, cursor.Valid → (script.run cursor).Calm

namespace Grammar

variable {rules : Rules} {grammar : Grammar} {budget : Nat}

/-- If every rule that can be needed is built, a panic comes from an advance that is refused in a
custom rule. Parse and attempt both end there, with the cursor where that rule left it, and the
message tells what the rule asked for and what remained. Nothing was noted behind the advance, and
what a grammar has behind it cannot change how it ends. -/
theorem panic_passes_through
    (builds : ∀ name, rules.Reaches grammar (.lazy name) → ∃ built, rules.build name = .ok built)
    (valid : start.Valid)
    (panics : (parse rules budget grammar start).Panics cause there noted ∨
      (Parser.attempt (parse rules budget grammar) start).Panics cause there noted) :
    (parse rules budget grammar start).Panics cause there noted ∧
    (Parser.attempt (parse rules budget grammar) start).Panics cause there noted ∧
    ∃ script here requested error,
      rules.Reaches grammar (.custom script) ∧
      ComesTo rules grammar start noted (.custom script) here ∧
      script.AdvancesAt here requested there ∧
      there.tryAdvance requested = .error error ∧
      cause = .misuse error ∧
      (∀ count available, cause.message = (Panic.misuse (.overrun count available)).message →
        count = requested ∧ byteLength there.remaining = available ∧ available < count) ∧
      (∀ count, cause.message = (Panic.misuse (.notBoundary count)).message →
        count = requested ∧ count ≤ byteLength there.remaining ∧
          isBoundary count there.remaining = false) ∧
      (rules.OnlyTakesPanic grammar → script = .take requested ∧ here = there) ∧
      ∀ other, ComesTo rules other start noted (.custom script) here →
        PanicsIn rules other start cause there noted := by
  rw [Parser.attempt_panics_iff, or_self] at panics
  refine ⟨panics, Parser.attempt_panics_iff.mpr panics, ?_⟩
  rcases panicsIn_iff.mp (.of_parse panics) with ⟨script, here, comes, panicked, stopped⟩ |
    ⟨name, before, comes, unbuilt, -⟩
  · have reached := comes.reaches .whole
    obtain ⟨-, requested, error, advances, refused, rfl⟩ :=
      Script.run_panics_iff.mp ⟨panicked, stopped, script.run_events here⟩
    refine ⟨script, here, requested, error, reached, comes, advances, refused, rfl, ?_, ?_, ?_, ?_⟩
    · intro count available told
      obtain rfl := Panic.misuse_message_inj told
      obtain ⟨tooFar, rfl, rfl⟩ := Cursor.tryAdvance_eq_overrun.mp refused
      exact ⟨rfl, rfl, tooFar⟩
    · intro count told
      obtain rfl := Panic.misuse_message_inj told
      obtain ⟨enough, rfl, inside⟩ := Cursor.tryAdvance_eq_notBoundary.mp refused
      refine ⟨rfl, enough, Bool.eq_false_iff.mpr fun boundary => ?_⟩
      obtain ⟨leading, leads, length⟩ := isBoundary_iff_leading.mp boundary
      exact inside leading leads length
    · intro onlyTakes
      rcases onlyTakes script reached with ⟨count, rfl⟩ | calm
      · obtain ⟨rfl, rfl⟩ := Script.take_advancesAt.mp advances
        exact ⟨rfl, rfl⟩
      · exact absurd panicked (calm here (comes.sameText.valid valid) _)
    · intro other comesToo
      exact panicsIn_iff.mpr (.inl ⟨script, here, comesToo, panicked, stopped⟩)
  · obtain ⟨built, ok⟩ := builds name (comes.reaches .whole)
    rw [ok] at unbuilt
    cases unbuilt

/-- Letters of two bytes each, separated by a comma, until there is a shorter one. -/
theorem panic_passes_through_rounds :
    let comma : Grammar := .lexer { pattern := [','], regex := .set (.single ',') }
    let letter : Grammar := .orElse (.custom .fail) (.custom (.take 2))
    let letters : Grammar := .repeated (.lazy ['l']) comma false
    let grammar : Grammar := .attempt (.choice [letters, .empty])
    let rules : Rules := { entries := [(['l'], .ok letter)] }
    let text : Text := ['é', ',', 'ñ', ',', 'a']
    let there : Cursor := { source := text, offset := 6 }
    let noted : List Event :=
      [.built ['l'], .backtracking 0 0, .matched [','] [','],
        .built ['l'], .backtracking 3 3, .matched [','] [','],
        .built ['l'], .backtracking 6 6]
    let cause : Panic := .misuse (.overrun 2 1)
    (Parser.attempt (parse rules 16 grammar) (.start text)).Panics cause there noted ∧
      rules.Reaches grammar (.custom (.take 2)) ∧
      ComesTo rules grammar (.start text) noted (.custom (.take 2)) there := by
  intro comma letter letters grammar rules text there noted cause
  have inside : ∀ inner, rules.Reaches grammar inner →
      inner ∈ [grammar, .choice [letters, .empty], letters, .empty, .lazy ['l'], comma, letter,
        .custom .fail, .custom (.take 2)] := by
    intro inner reached
    refine reached.mem_of_closed List.mem_cons_self ?_ ?_
    · simp [grammar, letters, letter, comma, Grammar.parts]
    · simp [rules]
  have builds : ∀ name, rules.Reaches grammar (.lazy name) →
      ∃ built, rules.build name = .ok built := by
    intro name reached
    obtain rfl : name = ['l'] := by
      simpa [grammar, letters, letter, comma] using inside _ reached
    exact ⟨letter, rfl⟩
  have onlyTakes : rules.OnlyTakesPanic grammar := by
    intro script reached
    obtain rfl | rfl : script = .fail ∨ script = .take 2 := by
      simpa [grammar, letters, letter, comma] using inside _ reached
    · exact .inr fun cursor _ cause ended => by cases ended
    · exact .inl ⟨2, rfl⟩
  have outcome :
      (Parser.attempt (parse rules 16 grammar) (.start text)).outcome = .panic cause := by
    subst cause noted there text rules grammar letters letter comma
    rfl
  have panics : (Parser.attempt (parse rules 16 grammar) (.start text)).Panics cause there noted :=
    ⟨outcome, by decide +kernel, by decide +kernel⟩
  obtain ⟨-, panicsToo, script, here, requested, error, reached, comes, -, -, -, told, -, takes,
    -⟩ := panic_passes_through builds (Cursor.start_valid text) (.inr panics)
  obtain ⟨rfl, rfl⟩ := takes onlyTakes
  obtain ⟨rfl, -, -⟩ := told 2 1 rfl
  exact ⟨panicsToo, reached, comes⟩

end Grammar

end TextGrammar
