import TextGrammar.Proofs.Budget
import TextGrammar.Proofs.Equations
import TextGrammar.Value.Mapping

/-!
Repetition as a recursive rule. An item and then, behind a separator, the rule itself; or nothing.
Where an item and a separator together always go forward, the loop of a repetition runs like this
rule, except that the rule is built once in every round.
-/

namespace TextGrammar

open Budgeted

def Value.cons : Value → Value
  | .pair first (.list rest) => .list (first :: rest)
  | other => other

namespace Grammar

def noItems : Grammar := .map .empty fun _ => .list []

def recursiveRule (name : Text) (item separator : Grammar) : Grammar :=
  .orElse
    (.map (.pair item (.orElse (.map (.pair separator (.lazy name)) Value.second) noItems))
      Value.cons)
    noItems

def unrolled (item : Grammar) : Grammar :=
  .orElse (.map (.pair item (.repeated item .empty false)) Value.cons) noItems

/-- Whenever the item succeeds and then the separator does, the cursor has gone forward by at least
one byte. -/
def Advances (rules : Rules) (item separator : Grammar) : Prop :=
  ∀ start between there : Cursor, start.Valid → Succeeds (budgeted rules item) start between →
    Succeeds (budgeted rules separator) between there → start.offset < there.offset

end Grammar

structure Run.Alike {α : Type} (name : Text) (run other : Run α) : Prop where
  outcome_eq : run.outcome = other.outcome
  cursor_eq : run.cursor = other.cursor
  events_eq : run.events.filter (· != .built name) = other.events.filter (· != .built name)

namespace Run.Alike

variable {α β : Type} {name : Text} {run other : Run α}

theorem refl (run : Run α) : run.Alike name run := ⟨rfl, rfl, rfl⟩

theorem built (alike : run.Alike name other) :
    run.Alike name (other.precededBy [.built name]) := by
  obtain ⟨outcomeEq, cursorEq, eventsEq⟩ := alike
  exact ⟨outcomeEq, cursorEq, by simpa using eventsEq⟩

theorem andThen {continuation otherwise : α → Parser β} (alike : run.Alike name other)
    (goesOn : ∀ value, run.outcome = .success value →
      (continuation value run.cursor).Alike name (otherwise value run.cursor)) :
    (run.andThen continuation).Alike name (other.andThen otherwise) := by
  obtain ⟨outcomeEq, cursorEq, eventsEq⟩ := alike
  cases ended : run.outcome with
  | success value =>
      obtain ⟨outcomeLater, cursorLater, eventsLater⟩ := goesOn value ended
      rw [andThen_of_success ended, andThen_of_success (outcomeEq.symm.trans ended), ← cursorEq]
      refine ⟨outcomeLater, cursorLater, ?_⟩
      simp only [precededBy_events, List.filter_append, eventsEq, eventsLater]
  | _ =>
      have endedToo := outcomeEq.symm.trans ended
      simp only [Run.andThen, ended, endedToo]
      exact ⟨rfl, cursorEq, eventsEq⟩

theorem map (alike : run.Alike name other) (mapping : α → β) :
    (run.map mapping).Alike name (other.map mapping) :=
  alike.andThen fun value _ => refl (.success (mapping value) run.cursor)

theorem log_eq (alike : run.Alike name other) : Event.log run.events = Event.log other.events := by
  have kept : ∀ event : Event, event.isLogged → event != .built name := by
    intro event logged
    cases event <;> simp_all [Event.isLogged]
  rw [← Event.log_filter _ kept, alike.events_eq, Event.log_filter _ kept]

theorem calls_eq (alike : run.Alike name other) :
    Event.calls run.events = Event.calls other.events := by
  have kept : ∀ called, Event.called called != .built name := by simp
  rw [← Event.calls_filter (· != .built name) kept, alike.events_eq, Event.calls_filter _ kept]

end Run.Alike

/-! ## The loop and the recursion as parsers

A round of the loop and a level of the recursion are brought to the same shape, an attempt for an
item and then one for a separator. They differ in the guard of the loop and in what goes on behind
the separator.
-/

namespace Parser

def pairOf (first second : Parser Value) : Parser Value :=
  Parser.map (Parser.pair first second) fun (left, right) => .pair left right

def itemThen (item rest : Parser Value) : Parser Value :=
  orElse (Parser.map (pairOf item rest) Value.cons) (succeed (.list []))

def separated (separator again : Parser Value) : Parser Value :=
  orElse (Parser.map (pairOf separator again) Value.second) (succeed (.list []))

def built (name : Text) (parser : Parser Value) : Parser Value := fun cursor =>
  (parser cursor).precededBy [.built name]

def recursion (name : Text) (item separator : Parser Value) : Nat → Parser Value
  | 0 => fun cursor => .unfinished cursor
  | depth + 1 =>
      itemThen item (separated separator (built name (recursion name item separator depth)))

def RoundAdvances (item separator : Parser Value) : Prop :=
  ∀ ⦃start : Cursor⦄, start.Valid → ∀ ⦃value between⦄, (item start).outcome = .success value →
    (separator (item start).cursor).outcome = .success between →
    (separator (item start).cursor).cursor.Valid ∧
      start.offset < (separator (item start).cursor).cursor.offset

variable {item separator : Parser Value} {start : Cursor}

theorem pairOf_map (first second : Parser Value) (mapping : Value → Value) (start : Cursor) :
    Parser.map (pairOf first second) mapping start =
      (first start).andThen fun left cursor =>
        (second cursor).map fun right => mapping (.pair left right) := by
  calc Parser.map (pairOf first second) mapping start
      = (Parser.pair first second start).map fun both => mapping (.pair both.1 both.2) :=
        Run.map_map _ _ _
    _ = (first start).andThen fun left cursor =>
          ((second cursor).map fun right => (left, right)).map
            fun both => mapping (.pair both.1 both.2) := Run.andThen_map _ _ _
    _ = _ := by simp only [Run.map_map]

theorem orElse_succeed_steady (parser : Parser Value) (value : Value) (start : Cursor) :
    (orElse parser (succeed value) start).outcome ≠ .failure := by
  cases ended : (parser start).outcome <;>
    simp [orElse, attempt, Run.andThen, ended, succeed, Run.success]

theorem itemThen_eq (item rest : Parser Value)
    (steady : ∀ cursor, (rest cursor).outcome ≠ .failure) (start : Cursor) :
    itemThen item rest start =
      (attempt item start).andThen fun result cursor =>
        result.elim (.success (.list []) cursor) fun value =>
          (rest cursor).map fun values => Value.cons (.pair value values) := by
  refine orElse_of_steady (pairOf_map item rest Value.cons start) ?_ (succeed (.list []))
  intro value cursor failed
  exact steady cursor (Run.map_failure.mp failed)

theorem separated_eq (separator again : Parser Value)
    (steady : ∀ cursor, (again cursor).outcome ≠ .failure) (start : Cursor) :
    separated separator again start =
      (attempt separator start).andThen fun result cursor =>
        result.elim (.success (.list []) cursor) fun _ => again cursor := by
  have sequence : Parser.map (pairOf separator again) Value.second start =
      (separator start).andThen fun _ => again := by
    rw [pairOf_map]
    exact congrArg (separator start).andThen
      (funext fun _ => funext fun cursor => Run.andThen_success (again cursor))
  exact orElse_of_steady sequence (fun _ => steady) (succeed (.list []))

theorem recursion_steady (name : Text) (item separator : Parser Value) (depth : Nat)
    (start : Cursor) : (recursion name item separator depth start).outcome ≠ .failure := by
  cases depth with
  | zero => simp [recursion, Run.unfinished]
  | succ depth => exact orElse_succeed_steady _ _ start

theorem recursion_succ (name : Text) (item separator : Parser Value) (depth : Nat)
    (start : Cursor) :
    recursion name item separator (depth + 1) start =
      (attempt item start).andThen fun result cursor =>
        result.elim (.success (.list []) cursor) fun value =>
          ((attempt separator cursor).andThen fun result cursor =>
            result.elim (.success (.list []) cursor) fun _ =>
              built name (recursion name item separator depth) cursor).map
            fun values => Value.cons (.pair value values) := by
  let again : Parser Value := built name (recursion name item separator depth)
  have outer := itemThen_eq item (separated separator again)
    (fun cursor => orElse_succeed_steady _ _ cursor) start
  refine outer.trans
    (congrArg (attempt item start).andThen (funext fun result => funext fun cursor => ?_))
  cases result with
  | none => rfl
  | some value =>
      have inner := separated_eq separator again (recursion_steady name item separator depth) cursor
      simp only [Option.elim_some, inner, again]

theorem rounds_succ_map (item separator : Parser Value) (budget : Nat) (start : Cursor) :
    (rounds item separator (budget + 1) start).map Value.list =
      (attempt item start).andThen fun result cursor =>
        result.elim (.success (.list []) cursor) fun value =>
          ((attempt separator cursor).andThen fun result cursor =>
            result.elim (.success (.list []) cursor) fun _ =>
              if cursor.offset = start.offset then
                { outcome := .success (.list [])
                  cursor := cursor
                  events := [.noProgress start.offset] }
              else (rounds item separator budget cursor).map Value.list).map
            fun values => Value.cons (.pair value values) := by
  refine (Run.andThen_map _ _ _).trans
    (congrArg (attempt item start).andThen (funext fun result => funext fun cursor => ?_))
  cases result with
  | none => rfl
  | some value =>
      refine (Run.andThen_map _ _ _).trans (.trans
        (congrArg (attempt separator cursor).andThen (funext fun result => funext fun next => ?_))
        (Run.andThen_map _ _ _).symm)
      cases result with
      | none => rfl
      | some between =>
          by_cases still : next.offset = start.offset
          · simp only [if_pos still, Option.elim_some]
            rfl
          · simp only [if_neg still, Option.elim_some, Run.map_map]
            rfl

theorem rounds_alike (name : Text) (advance : RoundAdvances item separator) (budget : Nat)
    (valid : start.Valid) :
    ((rounds item separator budget start).map .list).Alike name
      (recursion name item separator budget start) := by
  -- by induction on the rounds: as each of them goes forward, the guard never ends the loop
  induction budget generalizing start with
  | zero => exact .refl (.unfinished start)
  | succ budget ih =>
      rw [rounds_succ_map, recursion_succ]
      refine Run.Alike.andThen (.refl _) ?_
      intro result itemEnded
      cases result with
      | none => exact .refl (Run.success (Value.list []) _)
      | some value =>
          obtain ⟨itemSucceeded, between⟩ := of_attempt_some itemEnded
          refine Run.Alike.map (Run.Alike.andThen (.refl _) ?_) _
          intro result separatorEnded
          cases result with
          | none => exact .refl (Run.success (Value.list []) _)
          | some divided =>
              obtain ⟨separatorSucceeded, there⟩ := of_attempt_some separatorEnded
              rw [between] at separatorSucceeded there ⊢
              obtain ⟨validThere, further⟩ := advance valid itemSucceeded separatorSucceeded
              rw [there]
              have moved : ¬(separator (item start).cursor).cursor.offset = start.offset := by omega
              simp only [Option.elim_some, if_neg moved]
              exact (ih validThere).built

theorem rounds_steady {α β : Type} (item : Parser α) (separator : Parser β) (budget : Nat)
    (start : Cursor) : (rounds item separator budget start).outcome ≠ .failure := by
  induction budget generalizing start with
  | zero => simp [rounds, Run.unfinished]
  | succ budget ih =>
      intro failed
      rcases Run.andThen_failure failed with itemFailed | ⟨result, -, failed⟩
      · exact attempt_steady item start itemFailed
      · cases result with
        | none => cases failed
        | some value =>
            rcases Run.andThen_failure failed with separatorFailed | ⟨result, -, failed⟩
            · exact attempt_steady separator _ separatorFailed
            · cases result with
              | none => cases failed
              | some between =>
                  simp only at failed
                  split at failed
                  · cases failed
                  · exact ih _ (Run.map_failure.mp failed)

theorem rounds_unrolled (advance : RoundAdvances item (succeed .unit)) (budget : Nat)
    (valid : start.Valid) :
    (rounds item (succeed Value.unit) (budget + 1) start).map Value.list =
      itemThen item
        (Parser.map (rounds item (succeed Value.unit) budget) Value.list) start := by
  have steady : ∀ cursor, (Parser.map (rounds item (succeed Value.unit) budget) Value.list
      cursor).outcome ≠ .failure := fun cursor failed =>
    rounds_steady item (succeed Value.unit) budget cursor (Run.map_failure.mp failed)
  rw [rounds_succ_map, itemThen_eq item _ steady]
  apply Run.andThen_congr
  intro result ended
  cases result with
  | none => rfl
  | some value =>
      obtain ⟨succeeded, between⟩ := of_attempt_some ended
      have further := (advance valid succeeded rfl).2
      have moved : ¬(item start).cursor.offset = start.offset := by
        simp only [succeed, Run.success] at further
        omega
      rw [between]
      exact congrArg (Run.map · fun values => Value.cons (.pair value values)) (if_neg moved)

end Parser

/-! ## The repetition and the rule as grammars -/

namespace Lockstep

open TextGrammar.Parser

variable {lockstep : Lockstep} {item item' separator separator' rest rest' : Parser Value}

theorem itemThen (each : lockstep.Together item item') (later : lockstep.Together rest rest') :
    lockstep.Together (itemThen item rest) (itemThen item' rest') :=
  orElse (map _ (map _ (pair each later))) fun _ _ paired => lockstep.success _ paired

theorem built (name : Text) (inside : lockstep.Together item item') :
    lockstep.Together (built name item) (built name item') :=
  fun _ _ paired => lockstep.unlogged rfl (inside paired)

theorem separated (between : lockstep.Together separator separator')
    (later : lockstep.Together rest rest') :
    lockstep.Together (separated separator rest) (separated separator' rest') :=
  orElse (map _ (map _ (pair between later))) fun _ _ paired => lockstep.success _ paired

end Lockstep

namespace Grammar

open Lockstep

variable {rules : Rules} {name : Text} {item separator : Grammar} {start : Cursor}

theorem rounds_to_repeated (rules : Rules) (item separator : Grammar) {depth budget : Nat}
    (enough : depth ≤ budget) :
    completion.Together
      (Parser.map (Parser.rounds (parse rules budget item) (parse rules budget separator) depth)
        Value.list) (parse rules (budget + 1) (.repeated item separator false)) := by
  rw [parse_repeated_any]
  exact Lockstep.map Value.list
    (rounds_larger (completion_refl _) (completion_refl _) enough)

theorem parse_recursiveRule (rules : Rules) (budget : Nat) (name : Text)
    (item separator : Grammar) :
    parse rules (budget + 6) (recursiveRule name item separator) =
      Parser.itemThen (parse rules (budget + 3) item)
        (Parser.separated (parse rules budget separator) (parse rules budget (.lazy name))) :=
  rfl

theorem parse_unrolled (rules : Rules) (budget : Nat) (item : Grammar) :
    parse rules (budget + 4) (unrolled item) =
      Parser.itemThen (parse rules (budget + 1) item)
        (parse rules (budget + 1) (.repeated item .empty false)) :=
  rfl

theorem parse_lazy_of_build (found : rules.build name = .ok item) (budget : Nat) :
    parse rules (budget + 1) (.lazy name) = Parser.built name (parse rules budget item) := by
  funext cursor
  simp only [parse, found, Parser.built]

theorem parse_to_recursion (found : rules.build name = .ok (recursiveRule name item separator))
    {depth budget : Nat} (enough : depth + 3 ≤ budget) :
    completion.Together (parse rules depth (recursiveRule name item separator))
      (Parser.recursion name (parse rules budget item) (parse rules budget separator) depth) := by
  -- each level takes at least one unit of the budget, for the lazy part
  induction depth with
  | zero => exact fun here there _ finished => absurd rfl finished
  | succ depth ih =>
      have first := parse_larger rules item enough
      have between := parse_larger rules separator (show depth + 1 ≤ budget by omega)
      have again := built name (ih (by omega))
      refine completion_trans (parse_larger rules _ (Nat.le_add_right (depth + 1) 6)) ?_
      rw [parse_recursiveRule, parse_lazy_of_build found]
      exact itemThen first (separated between again)

theorem recursion_to_parse (found : rules.build name = .ok (recursiveRule name item separator))
    (budget depth : Nat) :
    completion.Together
      (Parser.recursion name (parse rules budget item) (parse rules budget separator) depth)
      (parse rules (budget + 7 * depth) (recursiveRule name item separator)) := by
  induction depth with
  | zero => exact fun here there _ finished => absurd rfl finished
  | succ depth ih =>
      have first := parse_larger rules item (show budget ≤ budget + 7 * depth + 1 + 3 by omega)
      have between := parse_larger rules separator
        (show budget ≤ budget + 7 * depth + 1 by omega)
      have again := built name ih
      have deeper : budget + 7 * (depth + 1) = budget + 7 * depth + 1 + 6 := by omega
      rw [deeper, parse_recursiveRule, parse_lazy_of_build found]
      exact itemThen first (separated between again)

theorem roundAdvances_of_advances (advances : Advances rules item separator) (budget : Nat) :
    Parser.RoundAdvances (parse rules budget item) (parse rules budget separator) := by
  intro start valid value between itemSucceeds separatorSucceeds
  have toBetween := item.parse_sameText rules budget start
  have toThere := separator.parse_sameText rules budget (parse rules budget item start).cursor
  refine ⟨(toBetween.trans toThere).valid valid, ?_⟩
  exact advances start _ _ valid ⟨budget, value, itemSucceeds, rfl⟩
    ⟨budget, between, separatorSucceeds, rfl⟩

theorem repeated_to_rule (advances : Advances rules item separator) (valid : start.Valid)
    (found : rules.build name = .ok (recursiveRule name item separator)) {run : Run Value}
    (ends : EndsIn (budgeted rules (.repeated item separator false)) start run) :
    ∃ other, EndsIn (budgeted rules (recursiveRule name item separator)) start other ∧
      run.Alike name other := by
  obtain ⟨finished, budget, rfl⟩ := ends
  cases budget with
  | zero => exact absurd rfl finished
  | succ budget =>
      simp only [budgeted, parse_repeated_any] at finished ⊢
      have alike := Parser.rounds_alike name (roundAdvances_of_advances advances budget) budget valid
      have finishedToo := alike.outcome_eq ▸ finished
      exact ⟨_, .of_together (recursion_to_parse found budget budget) finishedToo, alike⟩

theorem rule_to_repeated (advances : Advances rules item separator) (valid : start.Valid)
    (found : rules.build name = .ok (recursiveRule name item separator)) {other : Run Value}
    (ends : EndsIn (budgeted rules (recursiveRule name item separator)) start other) :
    ∃ run, EndsIn (budgeted rules (.repeated item separator false)) start run ∧
      run.Alike name other := by
  obtain ⟨finished, depth, rfl⟩ := ends
  let budget := depth + 3
  have same := parse_to_recursion found (Nat.le_refl budget) rfl finished
  have alike := Parser.rounds_alike name (roundAdvances_of_advances advances budget) depth valid
  rw [same] at alike
  have finishedToo := alike.outcome_eq ▸ finished
  have within := rounds_to_repeated rules item separator (Nat.le_add_right depth 3)
  exact ⟨_, .of_together within finishedToo, alike⟩

def opened (rules : Rules) (item : Grammar) (budget : Nat) : Parser Value :=
  Parser.itemThen (parse rules (budget + 1) item)
    (Parser.map (Parser.rounds (parse rules (budget + 1) item) (Parser.succeed Value.unit) budget)
      .list)

theorem opened_eq (advances : Advances rules item .empty) (valid : start.Valid) (budget : Nat) :
    opened rules item budget start =
      parse rules (budget + 2) (.repeated item .empty false) start := by
  have advance := roundAdvances_of_advances advances (budget + 1)
  rw [parse_repeated_any]
  exact (Parser.rounds_unrolled advance budget valid).symm

theorem opened_to_unrolled (rules : Rules) (item : Grammar) (budget : Nat) :
    completion.Together (opened rules item budget) (parse rules (budget + 5) (unrolled item)) := by
  have first := parse_larger rules item (Nat.le_succ (budget + 1))
  have others := rounds_to_repeated rules item .empty (Nat.le_succ budget)
  exact itemThen first others

theorem unrolled_to_opened (rules : Rules) (item : Grammar) (budget : Nat) :
    completion.Together (parse rules budget (unrolled item)) (opened rules item budget) := by
  have each : completion.Together (parse rules budget item) (parse rules (budget + 1) item) :=
    parse_larger rules item (Nat.le_succ budget)
  have between : completion.Together (parse rules budget .empty) (Parser.succeed .unit) :=
    parse_larger rules .empty (Nat.le_succ budget)
  refine completion_trans (parse_larger rules (unrolled item) (Nat.le_add_right budget 4)) ?_
  rw [parse_unrolled, parse_repeated_any]
  exact itemThen (completion_refl _) (Lockstep.map Value.list (rounds each between budget))

theorem repeated_iff_unrolled (advances : Advances rules item .empty) (valid : start.Valid)
    (run : Run Value) :
    EndsIn (budgeted rules (.repeated item .empty false)) start run ↔
      EndsIn (budgeted rules (unrolled item)) start run := by
  constructor
  · rintro ⟨finished, budget, rfl⟩
    have same := parse_larger rules _ (Nat.le_add_right budget 2) rfl finished
    rw [← opened_eq advances valid] at same
    have within := opened_to_unrolled rules item budget
    exact ⟨finished, budget + 5, (within rfl (same ▸ finished)).trans same⟩
  · rintro ⟨finished, budget, rfl⟩
    have same := unrolled_to_opened rules item budget rfl finished
    rw [opened_eq advances valid] at same
    exact ⟨finished, budget + 2, same⟩

/-- Where an item and a separator together always go forward, a repetition ends if and only if the
recursive rule does, and in the same way: with the same values in the same order, at the same
cursor, with the same log and as many runs of every counted part. Without separators the repetition
is an item and itself again, or nothing. -/
theorem repeated_like_recursive_rule (advances : Advances rules item separator)
    (valid : start.Valid) :
    (∀ name, rules.build name = .ok (recursiveRule name item separator) →
      ((∃ run, EndsIn (budgeted rules (.repeated item separator false)) start run) ↔
        ∃ other, EndsIn (budgeted rules (recursiveRule name item separator)) start other) ∧
      ∀ run other, EndsIn (budgeted rules (.repeated item separator false)) start run →
        EndsIn (budgeted rules (recursiveRule name item separator)) start other →
        run.Alike name other ∧ Event.log run.events = Event.log other.events ∧
          Event.calls run.events = Event.calls other.events) ∧
    (separator = .empty → ∀ run, EndsIn (budgeted rules (.repeated item .empty false)) start run ↔
      EndsIn (budgeted rules (unrolled item)) start run) := by
  refine ⟨fun name found => ⟨⟨?_, ?_⟩, ?_⟩, ?_⟩
  · rintro ⟨run, ends⟩
    obtain ⟨other, endsToo, -⟩ := repeated_to_rule advances valid found ends
    exact ⟨other, endsToo⟩
  · rintro ⟨other, ends⟩
    obtain ⟨run, endsToo, -⟩ := rule_to_repeated advances valid found ends
    exact ⟨run, endsToo⟩
  · intro run other ends endsToo
    obtain ⟨same, sameEnds, alike⟩ := repeated_to_rule advances valid found ends
    rw [sameEnds.unique endsToo] at alike
    exact ⟨alike, alike.log_eq, alike.calls_eq⟩
  · rintro rfl run
    exact repeated_iff_unrolled advances valid run

/-- Items and separators of one byte each: the last separator is kept though no item follows it.
Without separators every byte is an item. -/
theorem repeated_like_recursive_rule_dangling :
    let item : Grammar := .counted ['i'] (.custom (.tryTake 1))
    let separator : Grammar := .counted ['s'] (.custom (.tryTake 1))
    let rule := recursiveRule ['r'] item separator
    let rules : Rules := { entries := [(['r'], .ok rule)] }
    let start : Cursor := .start ['a', ',', 'b', ',']
    let run := parse rules 6 (.repeated item separator false) start
    let plain := parse rules 6 (.repeated item .empty false) start
    run.outcome = .success (.list [.text ['a'], .text ['b']]) ∧ run.cursor.offset = 4 ∧
      Event.calls run.events = [(['i'], 3), (['s'], 2)] ∧
      (∃ other, EndsIn (budgeted rules rule) start other ∧ run.Alike ['r'] other ∧
        Event.log run.events = Event.log other.events ∧
        Event.calls run.events = Event.calls other.events) ∧
      Event.calls plain.events = [(['i'], 5)] ∧
      EndsIn (budgeted rules (unrolled item)) start plain := by
  intro item separator rule rules start run plain
  have valid : start.Valid := Cursor.start_valid _
  have consumes : ∀ start between : Cursor, Succeeds (budgeted rules item) start between →
      between.offset = start.offset + 1 := fun start between succeeds =>
    succeeds_tryTake (succeeds_counted succeeds)
  have separated : Advances rules item separator := by
    intro start between there _ itemSucceeds separatorSucceeds
    have near := consumes start between itemSucceeds
    have far := succeeds_tryTake (succeeds_counted separatorSucceeds)
    omega
  have unseparated : Advances rules item .empty := by
    intro start between there _ itemSucceeds emptySucceeds
    have near := consumes start between itemSucceeds
    rw [succeeds_empty emptySucceeds]
    omega
  have outcome : run.outcome = .success (.list [.text ['a'], .text ['b']]) := by
    subst run plain start rules rule separator item
    rfl
  have plainOutcome : plain.outcome =
      .success (.list [.text ['a'], .text [','], .text ['b'], .text [',']]) := by
    subst run plain start rules rule separator item
    rfl
  have offset : run.cursor.offset = 4 := by decide +kernel
  have calls : Event.calls run.events = [(['i'], 3), (['s'], 2)] := by decide +kernel
  have plainCalls : Event.calls plain.events = [(['i'], 5)] := by decide +kernel
  have ends : EndsIn (budgeted rules (.repeated item separator false)) start run :=
    ⟨by simp [outcome], 6, rfl⟩
  have plainEnds : EndsIn (budgeted rules (.repeated item .empty false)) start plain :=
    ⟨by simp [plainOutcome], 6, rfl⟩
  have found : rules.build ['r'] = .ok rule := rfl
  have likeRule := (repeated_like_recursive_rule separated valid).1 ['r'] found
  have likeUnrolled := (repeated_like_recursive_rule unseparated valid).2 rfl plain
  obtain ⟨other, endsToo⟩ := likeRule.1.mp ⟨run, ends⟩
  exact ⟨outcome, offset, calls, ⟨other, endsToo, likeRule.2 run other ends endsToo⟩, plainCalls,
    likeUnrolled.mp plainEnds⟩

end Grammar

end TextGrammar
