import TextGrammar.Grammar.Draft
import TextGrammar.Proofs.Budget
import TextGrammar.Proofs.Equations

/-!
Sequences and how they are written. Pairs, skipped parts and quotes, nested in any way, run like
the list of all their parts from left to right on one cursor: up to the first part that does not
succeed, which ends the whole where it stopped, or to the end, with the values that are not skipped
paired as the nesting says. What is written in two ways with the same parts differs in values only.
-/

namespace TextGrammar

open Budgeted

variable {α β γ : Type} {start : Cursor}

/-! ## The rule -/

/-- Each part runs where the one before it stopped. The first that does not succeed ends the whole
as it ended itself, and no later one is run. -/
inductive RunsInOrder (ends : γ → Cursor → Run α → Prop) : List γ → Cursor → Run (List α) → Prop
  | done (cursor : Cursor) : RunsInOrder ends [] cursor (.success [] cursor)
  | passed {part : γ} {later : List γ} {cursor : Cursor} {run : Run α} {value : α}
      {others : Run (List α)} (ended : ends part cursor run)
      (succeeded : run.outcome = .success value)
      (goesOn : RunsInOrder ends later run.cursor others) :
      RunsInOrder ends (part :: later) cursor
        ((others.map fun values => value :: values).precededBy run.events)
  | stopped {part : γ} (later : List γ) {cursor : Cursor} {run : Run α}
      (ended : ends part cursor run) (held : ∀ value, run.outcome ≠ .success value) :
      RunsInOrder ends (part :: later) cursor (run.map fun value => [value])

theorem RunsInOrder.length_eq {ends : γ → Cursor → Run α → Prop} {parts : List γ}
    {run : Run (List α)} (runs : RunsInOrder ends parts start run) {values : List α}
    (succeeded : run.outcome = .success values) : values.length = parts.length := by
  induction runs generalizing values with
  | done cursor =>
      cases succeeded
      rfl
  | passed ended _ goesOn ih =>
      obtain ⟨others, othersSucceeded, rfl, -⟩ := Run.of_map_success succeeded
      simp [ih othersSucceeded]
  | stopped later ended held =>
      obtain ⟨value, valueSucceeded, -⟩ := Run.of_map_success succeeded
      exact absurd valueSucceeded (held value)

theorem RunsInOrder.map_congr {ends : γ → Cursor → Run α → Prop} {parts : List γ}
    {run : Run (List α)} (runs : RunsInOrder ends parts start run) {first second : List α → β}
    (same : ∀ values, values.length = parts.length → first values = second values) :
    run.map first = run.map second := by
  apply Run.andThen_congr
  intro values succeeded
  rw [same values (runs.length_eq succeeded)]

namespace Parser

def inOrder : List (Parser α) → Parser (List α)
  | [] => succeed []
  | first :: rest => fun cursor =>
      (first cursor).andThen fun value => map (inOrder rest) fun values => value :: values

theorem inOrder_cons (first : Parser α) (rest : List (Parser α)) (start : Cursor) :
    inOrder (first :: rest) start =
      (first start).andThen fun value => map (inOrder rest) fun values => value :: values :=
  rfl

theorem inOrder_eq_iff (parse : γ → Parser α) (parts : List γ) (start : Cursor)
    (run : Run (List α)) :
    inOrder (parts.map parse) start = run ↔
      RunsInOrder (fun part cursor run => parse part cursor = run) parts start run := by
  constructor
  · rintro rfl
    induction parts generalizing start with
    | nil => exact .done start
    | cons first rest ih =>
        rw [List.map_cons, inOrder_cons]
        by_cases passed : ∃ value, (parse first start).outcome = .success value
        · obtain ⟨value, succeeded⟩ := passed
          rw [Run.andThen_of_success succeeded]
          exact .passed rfl succeeded (ih _)
        · have held : ∀ value, (parse first start).outcome ≠ .success value :=
            fun value succeeded => passed ⟨value, succeeded⟩
          rw [Run.andThen_of_held held _ fun value => Run.success [value]]
          exact .stopped rest rfl held
  · intro runs
    induction runs with
    | done cursor => rfl
    | passed ended succeeded goesOn ih =>
        subst ended ih
        rw [List.map_cons, inOrder_cons, Run.andThen_of_success succeeded]
        rfl
    | stopped later ended held =>
        subst ended
        rw [List.map_cons, inOrder_cons]
        exact Run.andThen_of_held held _ _

theorem inOrder_length {parts : List (Parser α)} {values : List α}
    (succeeded : (inOrder parts start).outcome = .success values) :
    values.length = parts.length := by
  have runs := (inOrder_eq_iff id parts start (inOrder parts start)).mp (by rw [List.map_id])
  exact runs.length_eq succeeded

theorem inOrder_append (earlier later : List (Parser α)) (start : Cursor) :
    inOrder (earlier ++ later) start =
      (inOrder earlier start).andThen fun values =>
        map (inOrder later) fun others => values ++ others := by
  induction earlier generalizing start with
  | nil => exact (Run.andThen_success _).symm
  | cons first rest ih =>
      let joined (values : List α) : Parser (List α) :=
        map (inOrder later) fun others => values ++ others
      have goesOn : ∀ value cursor,
          (inOrder (rest ++ later) cursor).map (fun values => value :: values) =
            ((inOrder rest cursor).map fun values => value :: values).andThen joined := by
        intro value cursor
        rw [ih, Run.map_andThen]
        refine (Run.andThen_map _ _ _).trans (congrArg (inOrder rest cursor).andThen ?_)
        exact funext fun values => funext fun next => Run.map_map _ _ _
      calc inOrder (first :: rest ++ later) start
          = (first start).andThen fun value cursor =>
              ((inOrder rest cursor).map fun values => value :: values).andThen joined :=
            congrArg (first start).andThen (funext fun value => funext (goesOn value))
        _ = (inOrder (first :: rest) start).andThen joined := (Run.andThen_andThen _ _ _).symm

theorem inOrder_join {first : Parser α} {second : Parser β} {earlier later : List (Parser Value)}
    {left : List Value → α} {right : List Value → β} (combine : List Value → γ)
    (join : α → β → γ)
    (firstEq : ∀ cursor, first cursor = (inOrder earlier cursor).map left)
    (secondEq : ∀ cursor, second cursor = (inOrder later cursor).map right)
    (joins : ∀ values others, values.length = earlier.length →
      combine (values ++ others) = join (left values) (right others)) (start : Cursor) :
    ((first start).andThen fun value => map second fun other => join value other) =
      (inOrder (earlier ++ later) start).map combine := by
  rw [firstEq, inOrder_append, Run.map_andThen]
  refine .trans ?_ (Run.andThen_map _ _ _).symm
  apply Run.andThen_congr
  intro values succeeded
  simp only [map, secondEq, Run.map_map, joins values _ (inOrder_length succeeded)]

end Parser

/-! ## Ways to write a sequence -/

/-- A way to write parts one after the other: two by two, with one of the two left out of the
value, or between two runs of a quote. -/
inductive Sequencing (γ : Type)
  | single (part : γ)
  | pair (first second : Sequencing γ)
  | skip (content skipped : Sequencing γ)
  | skipThen (skipped content : Sequencing γ)
  | quoted (content quote : Sequencing γ)

namespace Sequencing

def parts : Sequencing γ → List γ
  | .single part => [part]
  | .pair first second => first.parts ++ second.parts
  | .skip content skipped => content.parts ++ skipped.parts
  | .skipThen skipped content => skipped.parts ++ content.parts
  | .quoted content quote => quote.parts ++ (content.parts ++ quote.parts)

def value : Sequencing γ → List Value → Value
  | .single _, values => values.headD .unit
  | .pair first second, values =>
      .pair (first.value (values.take first.parts.length))
        (second.value (values.drop first.parts.length))
  | .skip content _, values => content.value (values.take content.parts.length)
  | .skipThen skipped content, values => content.value (values.drop skipped.parts.length)
  | .quoted content quote, values =>
      content.value ((values.drop quote.parts.length).take content.parts.length)

def parser (parse : γ → Parser Value) : Sequencing γ → Parser Value
  | .single part => parse part
  | .pair first second =>
      Parser.map (Parser.pair (first.parser parse) (second.parser parse)) fun (left, right) =>
        .pair left right
  | .skip content skipped => Parser.skip (content.parser parse) (skipped.parser parse)
  | .skipThen skipped content => Parser.skipThen (skipped.parser parse) (content.parser parse)
  | .quoted content quote => Parser.quotedBy (content.parser parse) (quote.parser parse)

def grammar : Sequencing Grammar → Grammar
  | .single part => part
  | .pair first second => .pair first.grammar second.grammar
  | .skip content skipped => .skip content.grammar skipped.grammar
  | .skipThen skipped content => .skipThen skipped.grammar content.grammar
  | .quoted content quote => .quoted content.grammar quote.grammar

def height : Sequencing γ → Nat
  | .single _ => 0
  | .pair first second => max first.height second.height + 1
  | .skip content skipped => max content.height skipped.height + 1
  | .skipThen skipped content => max skipped.height content.height + 1
  | .quoted content quote => max content.height quote.height + 1

section Forms

variable {parse : γ → Parser Value} {first second content other : Sequencing γ}

def Flat (parse : γ → Parser Value) (sequencing : Sequencing γ) : Prop :=
  ∀ start, sequencing.parser parse start =
    (Parser.inOrder (sequencing.parts.map parse) start).map sequencing.value

theorem flat_single (parse : γ → Parser Value) (part : γ) : Flat parse (single part) := by
  intro start
  refine .trans ?_ (Run.andThen_map (parse part start) _ _).symm
  exact (Run.andThen_success _).symm

theorem flat_pair (firstFlat : Flat parse first) (secondFlat : Flat parse second) :
    Flat parse (pair first second) := by
  intro start
  have joined := Parser.inOrder_join (pair first second).value Value.pair firstFlat secondFlat
    (by intro values others length; simp_all [value]) start
  rw [parts, List.map_append, ← joined]
  refine (Run.andThen_map _ _ _).trans (congrArg (first.parser parse start).andThen ?_)
  exact funext fun left => funext fun cursor => Run.map_map _ _ _

theorem flat_skip (contentFlat : Flat parse content) (skippedFlat : Flat parse other) :
    Flat parse (skip content other) := by
  intro start
  rw [parts, List.map_append]
  exact Parser.inOrder_join _ (fun value _ => value) contentFlat skippedFlat
    (by intro values others length; simp_all [value]) start

theorem flat_skipThen (skippedFlat : Flat parse other) (contentFlat : Flat parse content) :
    Flat parse (skipThen other content) := by
  intro start
  have joined := Parser.inOrder_join (skipThen other content).value (fun _ value => value)
    skippedFlat contentFlat (by intro values others length; simp_all [value]) start
  rw [parts, List.map_append, ← joined]
  exact congrArg (other.parser parse start).andThen
    (funext fun _ => funext fun cursor => (Run.andThen_success _).symm)

theorem flat_quoted (contentFlat : Flat parse content) (quoteFlat : Flat parse other) :
    Flat parse (quoted content other) :=
  flat_skipThen quoteFlat (flat_skip contentFlat quoteFlat)

end Forms

theorem flat (parse : γ → Parser Value) (sequencing : Sequencing γ) : Flat parse sequencing := by
  induction sequencing with
  | single part => exact flat_single parse part
  | pair first second firstFlat secondFlat => exact flat_pair firstFlat secondFlat
  | skip content skipped contentFlat skippedFlat => exact flat_skip contentFlat skippedFlat
  | skipThen skipped content skippedFlat contentFlat => exact flat_skipThen skippedFlat contentFlat
  | quoted content quote contentFlat quoteFlat => exact flat_quoted contentFlat quoteFlat

/-! ## Grammars -/

open Lockstep Grammar

variable {rules : Rules} {run : Run Value}

theorem sequencing_opened (rules : Rules) (sequencing : Sequencing Grammar) (budget : Nat) :
    completion.Together (parse rules budget sequencing.grammar)
      (sequencing.parser (parse rules budget)) := by
  induction sequencing with
  | single part => exact completion_refl _
  | pair first second firstOpened secondOpened =>
      exact completion_trans (parse_larger rules _ (Nat.le_succ budget))
        (map _ (Lockstep.pair firstOpened secondOpened))
  | skip content skipped contentOpened skippedOpened =>
      exact completion_trans (parse_larger rules _ (Nat.le_succ budget))
        (Lockstep.skip contentOpened skippedOpened)
  | skipThen skipped content skippedOpened contentOpened =>
      exact completion_trans (parse_larger rules _ (Nat.le_succ budget))
        (Lockstep.skipThen skippedOpened contentOpened)
  | quoted content quote contentOpened quoteOpened =>
      exact completion_trans (parse_larger rules _ (Nat.le_succ budget))
        (quotedBy contentOpened quoteOpened)

theorem sequencing_closed (rules : Rules) (sequencing : Sequencing Grammar) (budget : Nat) :
    completion.Together (sequencing.parser (parse rules budget))
      (parse rules (budget + sequencing.height) sequencing.grammar) := by
  have raised : ∀ {part : Sequencing Grammar} {height : Nat}, part.height ≤ height →
      completion.Together (part.parser (parse rules budget))
        (parse rules (budget + part.height) part.grammar) →
      completion.Together (part.parser (parse rules budget))
        (parse rules (budget + height) part.grammar) :=
    fun less closed => completion_trans closed (parse_larger rules _ (by omega))
  induction sequencing with
  | single part => exact completion_refl _
  | pair first second firstClosed secondClosed =>
      exact map _ (Lockstep.pair (raised (Nat.le_max_left _ _) firstClosed)
        (raised (Nat.le_max_right _ _) secondClosed))
  | skip content skipped contentClosed skippedClosed =>
      exact Lockstep.skip (raised (Nat.le_max_left _ _) contentClosed)
        (raised (Nat.le_max_right _ _) skippedClosed)
  | skipThen skipped content skippedClosed contentClosed =>
      exact Lockstep.skipThen (raised (Nat.le_max_left _ _) skippedClosed)
        (raised (Nat.le_max_right _ _) contentClosed)
  | quoted content quote contentClosed quoteClosed =>
      exact quotedBy (raised (Nat.le_max_left _ _) contentClosed)
        (raised (Nat.le_max_right _ _) quoteClosed)

theorem endsIn_parser_iff (sequencing : Sequencing Grammar) :
    EndsIn (budgeted rules sequencing.grammar) start run ↔
      run.outcome ≠ .unfinished ∧
        ∃ budget, sequencing.parser (parse rules budget) start = run :=
  endsIn_iff_of_together (sequencing_opened rules sequencing) (sequencing_closed rules sequencing)

theorem runsInOrder_of_budget {budget : Nat} {parts : List Grammar} {flat : Run (List Value)}
    (finished : flat.outcome ≠ .unfinished)
    (runs : RunsInOrder (fun part cursor run => parse rules budget part cursor = run) parts start
      flat) :
    RunsInOrder (fun part => EndsIn (budgeted rules part)) parts start flat := by
  induction runs with
  | done cursor => exact .done cursor
  | passed ended succeeded goesOn ih =>
      have later := ih fun unfinished => finished (Run.andThen_unfinished unfinished _)
      exact .passed ⟨by simp [succeeded], budget, ended⟩ succeeded later
  | stopped later ended held =>
      have partFinished := fun unfinished => finished (Run.andThen_unfinished unfinished _)
      exact .stopped later ⟨partFinished, budget, ended⟩ held

theorem budget_of_runsInOrder {parts : List Grammar} {flat : Run (List Value)}
    (runs : RunsInOrder (fun part => EndsIn (budgeted rules part)) parts start flat) :
    flat.outcome ≠ .unfinished ∧ ∃ least, ∀ budget, least ≤ budget →
      RunsInOrder (fun part cursor run => parse rules budget part cursor = run) parts start
        flat := by
  -- each part that is run has a budget of its own, and the largest is enough for all
  induction runs with
  | done cursor => exact ⟨by simp [Run.success], 0, fun budget _ => .done cursor⟩
  | passed ended succeeded goesOn ih =>
      obtain ⟨least, same⟩ := ended.parse_eq
      obtain ⟨finished, leastLater, laterSame⟩ := ih
      refine ⟨mt Run.map_unfinished.mp finished, max least leastLater, fun budget enough => ?_⟩
      exact .passed (same budget (by omega)) succeeded (laterSame budget (by omega))
  | stopped later ended held =>
      obtain ⟨least, same⟩ := ended.parse_eq
      exact ⟨mt Run.map_unfinished.mp ended.1, least,
        fun budget enough => .stopped later (same budget enough) held⟩

theorem endsIn_iff (sequencing : Sequencing Grammar) :
    EndsIn (budgeted rules sequencing.grammar) start run ↔
      ∃ flat, RunsInOrder (fun part => EndsIn (budgeted rules part)) sequencing.parts start flat ∧
        run = flat.map sequencing.value := by
  rw [endsIn_parser_iff]
  constructor
  · rintro ⟨finished, budget, rfl⟩
    rw [sequencing.flat] at finished ⊢
    have runs := (Parser.inOrder_eq_iff (parse rules budget) sequencing.parts start _).mp rfl
    exact ⟨_, runsInOrder_of_budget (mt Run.map_unfinished.mpr finished) runs, rfl⟩
  · rintro ⟨flat, runs, rfl⟩
    obtain ⟨finished, budget, same⟩ := budget_of_runsInOrder runs
    refine ⟨mt Run.map_unfinished.mp finished, budget, ?_⟩
    have ended := (Parser.inOrder_eq_iff (parse rules budget) sequencing.parts start flat).mpr
      (same budget (Nat.le_refl budget))
    rw [sequencing.flat, ended]

theorem endsIn_iff_of_value {sequencing : Sequencing Grammar} {combine : List Value → Value}
    (same : ∀ values, values.length = sequencing.parts.length →
      sequencing.value values = combine values) :
    EndsIn (budgeted rules sequencing.grammar) start run ↔
      ∃ flat, RunsInOrder (fun part => EndsIn (budgeted rules part)) sequencing.parts start flat ∧
        run = flat.map combine := by
  rw [endsIn_iff]
  constructor
  · rintro ⟨flat, runs, rfl⟩
    exact ⟨flat, runs, runs.map_congr same⟩
  · rintro ⟨flat, runs, rfl⟩
    exact ⟨flat, runs, (runs.map_congr same).symm⟩

/-- Two ways to write the same parts run alike, and if the value of the one is known from the value
of the other, so is the whole run. -/
theorem endsIn_iff_of_parts {sequencing other : Sequencing Grammar}
    (sameParts : other.parts = sequencing.parts) (rewrite : Value → Value)
    (same : ∀ values, values.length = sequencing.parts.length →
      other.value values = rewrite (sequencing.value values)) :
    EndsIn (budgeted rules other.grammar) start run ↔
      ∃ known, EndsIn (budgeted rules sequencing.grammar) start known ∧
        run = known.map rewrite := by
  rw [endsIn_iff_of_value (sameParts ▸ same), sameParts]
  simp only [endsIn_iff]
  constructor
  · rintro ⟨flat, runs, rfl⟩
    exact ⟨_, ⟨flat, runs, rfl⟩, (Run.map_map _ _ _).symm⟩
  · rintro ⟨_, ⟨flat, runs, rfl⟩, rfl⟩
    exact ⟨flat, runs, Run.map_map _ _ _⟩

/-! ## Particular ways of writing -/

def leftNested (first : γ) (rest : List γ) : Sequencing γ :=
  rest.foldl (fun sequencing part => .pair sequencing (.single part)) (.single first)

def nestedValue : List Value → Value
  | [] => .unit
  | first :: rest => rest.foldl .pair first

theorem parts_leftNested (first : γ) (rest : List γ) :
    (leftNested first rest).parts = first :: rest := by
  have nested : ∀ sequencing : Sequencing γ,
      (rest.foldl (fun sequencing part => .pair sequencing (.single part)) sequencing).parts =
        sequencing.parts ++ rest := by
    induction rest with
    | nil => simp
    | cons second rest ih => simp [ih, parts]
  exact nested (.single first)

theorem grammar_leftNested (first : Grammar) (rest : List Grammar) :
    (leftNested first rest).grammar = rest.foldl .pair first := by
  have nested : ∀ sequencing : Sequencing Grammar,
      (rest.foldl (fun sequencing part => .pair sequencing (.single part)) sequencing).grammar =
        rest.foldl .pair sequencing.grammar := by
    induction rest with
    | nil => simp
    | cons second rest ih => simp [ih, grammar]
  exact nested (.single first)

theorem value_foldl (rest : List γ) (sequencing : Sequencing γ) (before : List Value)
    {others : List Value}
    (known : before.length = sequencing.parts.length) (length : others.length = rest.length) :
    (rest.foldl (fun sequencing part => .pair sequencing (.single part)) sequencing).value
      (before ++ others) = others.foldl .pair (sequencing.value before) := by
  induction rest generalizing sequencing before others with
  | nil => simp [List.eq_nil_of_length_eq_zero length]
  | cons second rest ih =>
      obtain ⟨next, others, rfl⟩ := List.exists_cons_of_length_eq_add_one length
      have opened : (pair sequencing (single second)).value (before ++ [next]) =
          .pair (sequencing.value before) next := by
        simp [value, ← known]
      have later := ih (pair sequencing (single second)) (before ++ [next]) (by simp [parts, known])
        (by simpa using length)
      simpa [opened] using later

theorem value_leftNested (first : γ) (rest : List γ) {values : List Value}
    (length : values.length = rest.length + 1) :
    (leftNested first rest).value values = nestedValue values := by
  obtain ⟨head, others, rfl⟩ := List.exists_cons_of_length_eq_add_one length
  exact value_foldl rest (single first) [head] rfl (by simpa using length)

def skipping (first : γ) (others : List γ) (content : γ) : Sequencing γ :=
  .skipThen (leftNested first others) (.single content)

theorem parts_skipping (first : γ) (others : List γ) (content : γ) :
    (skipping first others content).parts = first :: others ++ [content] := by
  simp [skipping, parts, parts_leftNested]

theorem grammar_skipping (first : Grammar) (others : List Grammar) (content : Grammar) :
    (skipping first others content).grammar =
      .skipThen (Draft.skippedPairs first others) content := by
  simp [skipping, grammar, grammar_leftNested, Draft.skippedPairs]

theorem value_skipping (first : γ) (others : List γ) (content : γ) {values : List Value}
    (length : values.length = others.length + 2) :
    (skipping first others content).value values = values.getLastD .unit := by
  obtain rfl | ⟨before, last, rfl⟩ := List.eq_nil_or_concat values
  · simp at length
  · have known : before.length = others.length + 1 := by simpa using length
    simp [skipping, value, parts_leftNested, ← known]

def nestRight : Value → Value
  | .pair (.pair first second) third => .pair first (.pair second third)
  | value => value

theorem endsIn_all_iff (first : Grammar) (rest : List Grammar) :
    EndsIn (budgeted rules (rest.foldl .pair first)) start run ↔
      ∃ flat, RunsInOrder (fun part => EndsIn (budgeted rules part)) (first :: rest) start flat ∧
        run = flat.map nestedValue := by
  rw [← grammar_leftNested, ← parts_leftNested]
  exact endsIn_iff_of_value fun values length =>
    value_leftNested first rest (by simpa [parts_leftNested] using length)

theorem endsIn_skipping_iff (first : Grammar) (others : List Grammar) (content : Grammar) :
    EndsIn (budgeted rules (.skipThen (Draft.skippedPairs first others) content)) start run ↔
      ∃ flat, RunsInOrder (fun part => EndsIn (budgeted rules part)) (first :: others ++ [content])
          start flat ∧
        run = flat.map fun values => values.getLastD .unit := by
  rw [← grammar_skipping, ← parts_skipping]
  exact endsIn_iff_of_value fun values length =>
    value_skipping first others content (by simpa [parts_skipping] using length)

theorem ends_alike_of_parts {sequencing other : Sequencing Grammar}
    (sameParts : sequencing.parts = other.parts)
    (ended : EndsIn (budgeted rules sequencing.grammar) start run) :
    ∃ otherRun, EndsIn (budgeted rules other.grammar) start otherRun ∧
      otherRun.map (fun _ => ()) = run.map fun _ => () := by
  obtain ⟨flat, runs, rfl⟩ := sequencing.endsIn_iff.mp ended
  refine ⟨flat.map other.value, other.endsIn_iff.mpr ⟨flat, sameParts ▸ runs, rfl⟩, ?_⟩
  simp only [Run.map_map]

theorem endsIn_quoted_iff (content quote : Sequencing Grammar) :
    EndsIn (budgeted rules (quoted content quote).grammar) start run ↔
      EndsIn (budgeted rules (skip (skipThen quote content) quote).grammar) start run := by
  have sameParts : (quoted content quote).parts = (skip (skipThen quote content) quote).parts := by
    simp [parts]
  rw [endsIn_iff_of_parts sameParts id]
  · have unchanged (known : Run Value) : known.map id = known := Run.andThen_success known
    simp [unchanged]
  · intro values length
    simp [value, parts, List.take_drop, Nat.add_comm]

theorem endsIn_pair_iff (first second third : Sequencing Grammar) :
    EndsIn (budgeted rules (pair first (pair second third)).grammar) start run ↔
      ∃ left, EndsIn (budgeted rules (pair (pair first second) third).grammar) start left ∧
        run = left.map nestRight := by
  refine endsIn_iff_of_parts (by simp [parts]) nestRight fun values length => ?_
  simp [value, parts, nestRight, List.take_take, List.drop_take, List.drop_drop]

/-- Only the parts, and not how they are written, decide how a sequence runs; the writing decides
what is made of their values. -/
theorem parse_runs_parts_in_order :
    (∀ (rules : Rules) (sequencing : Sequencing Grammar) (start : Cursor) (run : Run Value),
      EndsIn (budgeted rules sequencing.grammar) start run ↔
        ∃ flat, RunsInOrder (fun part => EndsIn (budgeted rules part)) sequencing.parts start
          flat ∧ run = flat.map sequencing.value) ∧
    (∀ (rules : Rules) (first : Grammar) (rest : List Grammar) (start : Cursor) (run : Run Value),
      EndsIn (budgeted rules (rest.foldl .pair first)) start run ↔
        ∃ flat, RunsInOrder (fun part => EndsIn (budgeted rules part)) (first :: rest) start
          flat ∧ run = flat.map nestedValue) ∧
    (∀ (rules : Rules) (first : Grammar) (others : List Grammar) (content : Grammar)
      (start : Cursor) (run : Run Value),
      EndsIn (budgeted rules (.skipThen (Draft.skippedPairs first others) content)) start run ↔
        ∃ flat, RunsInOrder (fun part => EndsIn (budgeted rules part))
          (first :: others ++ [content]) start flat ∧
          run = flat.map fun values => values.getLastD .unit) ∧
    (∀ (rules : Rules) (sequencing other : Sequencing Grammar) (start : Cursor) (run : Run Value),
      sequencing.parts = other.parts → EndsIn (budgeted rules sequencing.grammar) start run →
        ∃ otherRun, EndsIn (budgeted rules other.grammar) start otherRun ∧
          otherRun.map (fun _ => ()) = run.map fun _ => ()) ∧
    (∀ (rules : Rules) (content quote : Grammar) (start : Cursor) (run : Run Value),
      EndsIn (budgeted rules (.quoted content quote)) start run ↔
        EndsIn (budgeted rules (.skip (.skipThen quote content) quote)) start run) ∧
    (∀ (rules : Rules) (first second third : Grammar) (start : Cursor) (run : Run Value),
      EndsIn (budgeted rules (.pair first (.pair second third))) start run ↔
        ∃ left, EndsIn (budgeted rules (.pair (.pair first second) third)) start left ∧
          run = left.map nestRight) := by
  refine ⟨?_, ?_, ?_, ?_, ?_, ?_⟩
  · intro rules sequencing start run
    exact sequencing.endsIn_iff
  · intro rules first rest start run
    exact endsIn_all_iff first rest
  · intro rules first others content start run
    exact endsIn_skipping_iff first others content
  · intro rules sequencing other start run sameParts ended
    exact ends_alike_of_parts sameParts ended
  · intro rules content quote start run
    exact endsIn_quoted_iff (single content) (single quote)
  · intro rules first second third start run
    exact endsIn_pair_iff (single first) (single second) (single third)

/-- A content that takes a byte and fails leaves the cursor behind it, and the second quote is not
run, also where content and quote are a pair behind a quote. -/
theorem parse_runs_parts_in_order_failing :
    let quote : Grammar := .counted ['q'] (.custom (.tryTake 1))
    let content : Grammar := .counted ['c'] (.custom (.takeAndFail 1))
    let written : Sequencing Grammar := .quoted (.single content) (.single quote)
    let other : Sequencing Grammar :=
      .skipThen (.single quote) (.pair (.single content) (.single quote))
    let rules : Rules := { entries := [] }
    let start : Cursor := .start ['|', 'x', '|']
    let run := parse rules 3 written.grammar start
    written.parts = other.parts ∧ EndsIn (budgeted rules written.grammar) start run ∧
      run.outcome = .failure ∧ run.cursor.offset = 2 ∧
      Event.calls run.events = [(['q'], 1), (['c'], 1)] ∧
      ∃ otherRun, EndsIn (budgeted rules other.grammar) start otherRun ∧
        otherRun.map (fun _ => ()) = run.map fun _ => () := by
  intro quote content written other rules start run
  have failed : run.outcome = .failure := by
    subst run start rules written content quote
    rfl
  have offset : run.cursor.offset = 2 := by decide +kernel
  have calls : Event.calls run.events = [(['q'], 1), (['c'], 1)] := by decide +kernel
  have ended : EndsIn (budgeted rules written.grammar) start run := ⟨by simp [failed], 3, rfl⟩
  have sameParts : written.parts = other.parts := rfl
  obtain ⟨-, -, -, sameRun, -⟩ := parse_runs_parts_in_order
  exact ⟨sameParts, ended, failed, offset, calls,
    sameRun rules written other start run sameParts ended⟩

end Sequencing

end TextGrammar
