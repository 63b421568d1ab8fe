import Mathlib.Order.Filter.AtTopBot.Basic
import Mathlib.Order.Filter.Finite
import TextGrammar.Proofs.Budget
import TextGrammar.Proofs.Equations
import TextGrammar.Proofs.PanicFreedom
import TextGrammar.Proofs.Termination

/-!
Repetitions round by round. A round is an attempt of the item and, behind it, one of the separator;
the last round is the first that fails, panics or has not moved. If the parts never go back, every
round but the last moves forward, so there are at most as many rounds as bytes left and one more.
-/

namespace TextGrammar

variable {α β : Type}

inductive RoundEnd
  | noItem
  | noSeparator
  | noProgress
  | panicked
  | goesOn
  deriving DecidableEq, Repr

structure Round where
  start : Cursor
  stop : Cursor
  ending : RoundEnd
  deriving DecidableEq, Repr

def Progresses (passed : List Round) : Prop :=
  ∃ earlier last, passed = earlier ++ [last] ∧
    ∀ round ∈ earlier, round.ending = .goesOn ∧ round.start.offset < round.stop.offset

theorem Progresses.single (round : Round) : Progresses [round] := ⟨[], round, rfl, by simp⟩

theorem Progresses.cons {first : Round} {passed : List Round} (progresses : Progresses passed)
    (goesOn : first.ending = .goesOn) (moves : first.start.offset < first.stop.offset) :
    Progresses (first :: passed) := by
  obtain ⟨earlier, last, rfl, each⟩ := progresses
  refine ⟨first :: earlier, last, rfl, ?_⟩
  intro round member
  rcases List.mem_cons.mp member with rfl | member
  · exact ⟨goesOn, moves⟩
  · exact each round member

namespace Parser

theorem rounds_of_goesOn {item : Parser α} {separator : Parser β} {start : Cursor} {budget : Nat}
    {value : α} {gap : β} (took : (item start).outcome = .success value)
    (passes : (separator (item start).cursor).outcome = .success gap)
    (moved : (separator (item start).cursor).cursor.offset ≠ start.offset) :
    rounds item separator (budget + 1) start =
      (((rounds item separator budget (separator (item start).cursor).cursor).map fun values =>
        value :: values).precededBy (separator (item start).cursor).events).precededBy
          (item start).events := by
  simp only [rounds, attempt, took, passes, Run.andThen, if_neg moved]

/-- The loop passes these rounds from the start and comes to this run. -/
inductive InRounds (item : Parser α) (separator : Parser β) :
    Cursor → List Round → Run (List α) → Prop
  | noItem {start : Cursor} {taken : Run α} (ran : item start = taken)
      (failed : taken.outcome = .failure) :
      InRounds item separator start [⟨start, start, .noItem⟩]
        { outcome := .success []
          cursor := start
          events := taken.events ++ [.backtracking taken.cursor.offset start.offset] }
  | itemPanics {start : Cursor} {taken : Run α} {cause : Panic} (ran : item start = taken)
      (panicked : taken.outcome = .panic cause) :
      InRounds item separator start [⟨start, taken.cursor, .panicked⟩]
        { outcome := .panic cause, cursor := taken.cursor, events := taken.events }
  | noSeparator {start : Cursor} {taken : Run α} {value : α} {divided : Run β}
      (ran : item start = taken) (took : taken.outcome = .success value)
      (divides : separator taken.cursor = divided) (failed : divided.outcome = .failure) :
      InRounds item separator start [⟨start, taken.cursor, .noSeparator⟩]
        { outcome := .success [value]
          cursor := taken.cursor
          events := taken.events ++
            (divided.events ++ [.backtracking divided.cursor.offset taken.cursor.offset]) }
  | separatorPanics {start : Cursor} {taken : Run α} {value : α} {divided : Run β}
      {cause : Panic} (ran : item start = taken) (took : taken.outcome = .success value)
      (divides : separator taken.cursor = divided) (panicked : divided.outcome = .panic cause) :
      InRounds item separator start [⟨start, divided.cursor, .panicked⟩]
        { outcome := .panic cause
          cursor := divided.cursor
          events := taken.events ++ divided.events }
  | noProgress {start : Cursor} {taken : Run α} {value : α} {divided : Run β} {gap : β}
      (ran : item start = taken) (took : taken.outcome = .success value)
      (divides : separator taken.cursor = divided) (passes : divided.outcome = .success gap)
      (still : divided.cursor.offset = start.offset) :
      InRounds item separator start [⟨start, divided.cursor, .noProgress⟩]
        { outcome := .success [value]
          cursor := divided.cursor
          events := taken.events ++ (divided.events ++ [.noProgress start.offset]) }
  | goesOn {start : Cursor} {taken : Run α} {value : α} {divided : Run β} {gap : β}
      {passed : List Round} {later : Run (List α)} (ran : item start = taken)
      (took : taken.outcome = .success value) (divides : separator taken.cursor = divided)
      (passes : divided.outcome = .success gap) (moved : divided.cursor.offset ≠ start.offset)
      (rest : InRounds item separator divided.cursor passed later) :
      InRounds item separator start (⟨start, divided.cursor, .goesOn⟩ :: passed)
        (((later.map fun values => value :: values).precededBy divided.events).precededBy
          taken.events)

namespace InRounds

variable {item : Parser α} {separator : Parser β} {start : Cursor} {passed : List Round}
  {run : Run (List α)}

/-- A budget of one for each round is enough for the loop, and any larger one changes nothing. -/
theorem rounds_eq (inRounds : InRounds item separator start passed run) {budget : Nat}
    (enough : passed.length ≤ budget) : rounds item separator budget start = run := by
  induction inRounds generalizing budget with
  | goesOn ran took divides passes moved _ ih =>
      cases budget with
      | zero => simp at enough
      | succ budget =>
          subst ran divides
          rw [rounds_of_goesOn took passes moved, ih (Nat.le_of_succ_le_succ enough)]
  | _ =>
      cases budget with
      | zero => simp at enough
      | succ budget => simp [rounds, attempt, *, Run.andThen, Run.success, Run.precededBy]

theorem finished (inRounds : InRounds item separator start passed run) :
    run.outcome ≠ .unfinished := by
  induction inRounds with
  | goesOn _ _ _ _ _ _ ih => exact fun unfinished => ih (Run.map_unfinished.mp unfinished)
  | _ => simp

theorem values_length_le (inRounds : InRounds item separator start passed run) {values : List α}
    (ended : run.outcome = .success values) : values.length ≤ passed.length := by
  induction inRounds generalizing values with
  | goesOn _ _ _ _ _ _ ih =>
      obtain ⟨later, laterEnded, rfl, -⟩ := Run.of_map_success ended
      exact Nat.succ_le_succ (ih laterEnded)
  | itemPanics | separatorPanics => cases ended
  | _ => cases ended; simp

theorem calm (inRounds : InRounds item separator start passed run)
    (items : ∀ cursor, (item cursor).Calm) (separators : ∀ cursor, (separator cursor).Calm) :
    run.Calm := by
  induction inRounds with
  | goesOn _ _ _ _ _ _ ih => exact Run.andThen_calm ih fun value => by simp [Run.Calm, Run.success]
  | itemPanics ran panicked => exact absurd (ran ▸ panicked) (items _ _)
  | separatorPanics _ _ divides panicked => exact absurd (divides ▸ panicked) (separators _ _)
  | _ => simp [Run.Calm]

theorem succeeds (inRounds : InRounds item separator start passed run) (calm : run.Calm) :
    ∃ values, run.outcome = .success values := by
  induction inRounds with
  | @goesOn _ _ _ _ _ _ later _ _ _ _ _ _ ih =>
      obtain ⟨values, ended⟩ := ih fun cause panicked => calm cause (by
        simp [Run.map, Run.andThen, panicked])
      exact ⟨_, Run.map_of_success ended _⟩
  | itemPanics | separatorPanics => exact absurd rfl (calm _)
  | _ => exact ⟨_, rfl⟩

theorem forall_values {Gives : α → Prop} (inRounds : InRounds item separator start passed run)
    (gives : ∀ cursor value, (item cursor).outcome = .success value → Gives value)
    {values : List α} (ended : run.outcome = .success values) :
    ∀ value ∈ values, Gives value := by
  induction inRounds generalizing values with
  | goesOn ran took _ _ _ _ ih =>
      obtain ⟨later, laterEnded, rfl, -⟩ := Run.of_map_success ended
      exact List.forall_mem_cons.mpr ⟨gives _ _ (ran ▸ took), ih laterEnded⟩
  | itemPanics | separatorPanics => cases ended
  | noItem => cases ended; simp
  | noSeparator ran took | noProgress ran took => cases ended; simpa using gives _ _ (ran ▸ took)

theorem forall_dropLast {Moves : α → Prop} (inRounds : InRounds item separator start passed run)
    (moves : ∀ cursor value gap, (item cursor).outcome = .success value →
      (separator (item cursor).cursor).outcome = .success gap →
      (separator (item cursor).cursor).cursor.offset ≠ cursor.offset → Moves value)
    {values : List α} (ended : run.outcome = .success values) :
    ∀ value ∈ values.dropLast, Moves value := by
  induction inRounds generalizing values with
  | goesOn ran took divides passes moved _ ih =>
      obtain ⟨later, laterEnded, rfl, -⟩ := Run.of_map_success ended
      subst ran divides
      cases later with
      | nil => simp
      | cons next rest =>
          exact List.forall_mem_cons.mpr ⟨moves _ _ _ took passes moved, ih laterEnded⟩
  | itemPanics | separatorPanics => cases ended
  | _ => cases ended; simp

end InRounds

/-! ## Progress -/

structure Onward (parser : Parser α) (source : Text) : Prop where
  finished : ∀ {cursor : Cursor}, cursor.Valid → cursor.source = source →
    (parser cursor).outcome ≠ .unfinished
  leads : ∀ {cursor : Cursor} {value : α}, cursor.Valid → cursor.source = source →
    (parser cursor).outcome = .success value → cursor.Leads (parser cursor).cursor

variable {item : Parser α} {separator : Parser β} {source : Text} {start : Cursor}

section

variable (items : item.Onward source) (separators : separator.Onward source)
include items separators

theorem Onward.round_leads {value : α} {gap : β} (valid : start.Valid)
    (inSource : start.source = source) (took : (item start).outcome = .success value)
    (passes : (separator (item start).cursor).outcome = .success gap) :
    start.Leads (separator (item start).cursor).cursor := by
  have near := items.leads valid inSource took
  have far := separators.leads (near.valid valid) (near.source_eq.trans inSource) passes
  exact near.trans far

theorem exists_inRounds (valid : start.Valid) (inSource : start.source = source) :
    ∃ passed run, InRounds item separator start passed run := by
  induction left : byteLength start.remaining using Nat.strongRecOn generalizing start with
  | ind left ih =>
      cases took : (item start).outcome with
      | unfinished => exact absurd took (items.finished valid inSource)
      | failure => exact ⟨_, _, .noItem rfl took⟩
      | panic cause => exact ⟨_, _, .itemPanics rfl took⟩
      | success value =>
          have near := items.leads valid inSource took
          cases passes : (separator (item start).cursor).outcome with
          | unfinished =>
              exact absurd passes
                (separators.finished (near.valid valid) (near.source_eq.trans inSource))
          | failure => exact ⟨_, _, .noSeparator rfl took rfl passes⟩
          | panic cause => exact ⟨_, _, .separatorPanics rfl took rfl passes⟩
          | success gap =>
              have leads := items.round_leads separators valid inSource took passes
              by_cases still : (separator (item start).cursor).cursor.offset = start.offset
              · exact ⟨_, _, .noProgress rfl took rfl passes still⟩
              · have fewer := leads.remaining_lt valid still
                obtain ⟨passed, later, rest⟩ := ih _ (left ▸ fewer) (leads.valid valid)
                  (leads.source_eq.trans inSource) rfl
                exact ⟨_, _, .goesOn rfl took rfl passes still rest⟩

variable {passed : List Round} {run : Run (List α)}

theorem InRounds.progresses (inRounds : InRounds item separator start passed run)
    (valid : start.Valid) (inSource : start.source = source) : Progresses passed := by
  induction inRounds with
  | goesOn ran took divides passes moved _ ih =>
      subst ran divides
      have leads := items.round_leads separators valid inSource took passes
      have later := ih (leads.valid valid) (leads.source_eq.trans inSource)
      exact later.cons rfl (Nat.lt_of_le_of_ne leads.offset_le moved.symm)
  | _ => exact .single _

theorem InRounds.length_le (inRounds : InRounds item separator start passed run)
    (valid : start.Valid) (inSource : start.source = source) :
    passed.length ≤ byteLength start.remaining + 1 := by
  induction inRounds with
  | goesOn ran took divides passes moved _ ih =>
      subst ran divides
      have leads := items.round_leads separators valid inSource took passes
      have later := ih (leads.valid valid) (leads.source_eq.trans inSource)
      have fewer := leads.remaining_lt valid moved
      simp only [List.length_cons]
      omega
  | _ => simp

end

end Parser

/-! ## Grammars -/

namespace Grammar

open Budgeted Filter

/-- The grammar ends at every cursor, and it does not go back where it succeeds. -/
structure EndsForward (rules : Rules) (grammar : Grammar) : Prop where
  settles : ∀ cursor : Cursor, cursor.Valid → SettlesAt (budgeted rules grammar) cursor
  forward : ∀ here there : Cursor, here.Valid → Succeeds (budgeted rules grammar) here there →
    here.offset ≤ there.offset

variable {rules : Rules} {grammar item separator : Grammar} {start : Cursor}

/-- A text has finitely many places, so one budget is enough for all of them. -/
theorem EndsForward.onward (ends : EndsForward rules grammar) (source : Text) :
    ∀ᶠ budget in atTop, Parser.Onward (parse rules budget grammar) source := by
  have eachPlace : ∀ offset, ∀ᶠ budget in atTop, Cursor.Valid ⟨source, offset⟩ →
      (parse rules budget grammar ⟨source, offset⟩).outcome ≠ .unfinished := by
    intro offset
    by_cases valid : Cursor.Valid ⟨source, offset⟩
    · obtain ⟨run, finished, least, same⟩ := ends.settles _ valid
      filter_upwards [eventually_ge_atTop least] with budget enough _
      have ended : parse rules budget grammar ⟨source, offset⟩ = run := same budget enough
      rwa [ended]
    · exact .of_forall fun budget inside => absurd inside valid
  have allPlaces := (Finset.range (byteLength source + 1)).eventually_all.mpr
    fun offset _ => eachPlace offset
  filter_upwards [allPlaces] with budget finished
  constructor
  · rintro ⟨_, offset⟩ valid rfl
    exact finished offset (Finset.mem_range.mpr (Nat.lt_succ_of_le valid.offset_le)) valid
  · intro cursor value valid _ succeeded
    have same := parse_sameText rules budget grammar cursor
    exact ⟨same.source_eq, ends.forward _ _ valid ⟨budget, value, succeeded, rfl⟩, same.valid⟩

theorem parse_lexer_success {token : Lexer} {budget : Nat} {cursor : Cursor} {value : Value}
    (succeeded : (parse rules budget (.lexer token) cursor).outcome = .success value) :
    ∃ text, value = .text text ∧
      (parse rules budget (.lexer token) cursor).cursor.offset =
        cursor.offset + byteLength text := by
  cases budget with
  | zero => cases succeeded
  | succ budget =>
      obtain ⟨text, took, rfl, stopped⟩ := Run.of_map_success succeeded
      exact ⟨text, rfl, (congrArg Cursor.offset stopped).trans (Lexer.parse_offset took)⟩

theorem EndsForward.lexer (rules : Rules) (token : Lexer) : EndsForward rules (.lexer token) := by
  constructor
  · intro cursor _
    have settled : Settles fun _ => token.parse cursor := .const (token.parse_finished cursor)
    exact .of_succ (settled.map _)
  · rintro here _ _ ⟨budget, value, succeeded, rfl⟩
    obtain ⟨text, -, goesOn⟩ := parse_lexer_success succeeded
    exact (Nat.le_add_right here.offset (byteLength text)).trans_eq goesOn.symm

theorem EndsForward.empty (rules : Rules) : EndsForward rules .empty := by
  constructor
  · intro cursor _
    exact .of_succ (.success Value.unit cursor)
  · intro here there _ succeeds
    rw [succeeds_empty succeeds]

theorem parse_lexer_calm (token : Lexer) (budget : Nat) (cursor : Cursor) :
    (parse rules budget (.lexer token) cursor).Calm := by
  cases budget with
  | zero => simp [Run.Calm, parse, Run.unfinished]
  | succ budget =>
      exact Run.andThen_calm (token.parse_calm cursor) fun _ => by simp [Run.Calm, Run.success]

def listed (atLeastOne : Bool) (values : List Value) : Parser Value := fun cursor =>
  if atLeastOne && values.isEmpty then .failure cursor else .success (.list values) cursor

theorem listed_finished (atLeastOne : Bool) (values : List Value) (cursor : Cursor) :
    (listed atLeastOne values cursor).outcome ≠ .unfinished := by
  unfold listed
  split <;> simp [Run.failure, Run.success]

theorem parse_repeated (rules : Rules) (budget : Nat) (item separator : Grammar)
    (atLeastOne : Bool) (start : Cursor) :
    parse rules (budget + 1) (.repeated item separator atLeastOne) start =
      (Parser.rounds (parse rules budget item) (parse rules budget separator) budget
        start).andThen (listed atLeastOne) := by
  refine (Run.andThen_map _ _ _).trans (Run.andThen_congr fun values _ => ?_)
  unfold listed
  split <;> rfl

theorem exists_inRounds (items : EndsForward rules item) (separators : EndsForward rules separator)
    (valid : start.Valid) :
    ∃ passed loop least,
      Parser.InRounds (parse rules least item) (parse rules least separator) start passed loop ∧
      (∀ atLeastOne budget, least < budget →
        parse rules budget (.repeated item separator atLeastOne) start =
          loop.andThen (listed atLeastOne)) ∧
      Progresses passed ∧ passed.length ≤ byteLength start.remaining + 1 := by
  have enough := ((items.onward start.source).and (separators.onward start.source)).and
    (eventually_ge_atTop (byteLength start.remaining + 1))
  obtain ⟨least, ⟨itemsOnward, separatorsOnward⟩, long⟩ := enough.exists
  obtain ⟨passed, loop, inRounds⟩ := Parser.exists_inRounds itemsOnward separatorsOnward valid rfl
  have few := inRounds.length_le itemsOnward separatorsOnward valid rfl
  refine ⟨passed, loop, least, inRounds, ?_,
    inRounds.progresses itemsOnward separatorsOnward valid rfl, few⟩
  intro atLeastOne budget more
  have atLeast : parse rules (least + 1) (.repeated item separator atLeastOne) start =
      loop.andThen (listed atLeastOne) := by
    rw [parse_repeated, inRounds.rounds_eq (Nat.le_trans few long)]
  rw [← atLeast]
  apply Lockstep.parse_larger rules _ more rfl
  rw [atLeast]
  intro unfinished
  rcases Run.unfinished_of_andThen unfinished with early | ⟨values, -, late⟩
  · exact inRounds.finished early
  · exact listed_finished atLeastOne values _ late

/-- A repetition of parts that end and never go back ends: after at most one round for each byte
left and one more, of which all but the last move forward, so that the last is the only one in which
the guard may stop it. It has no more values than rounds. Of the tokens that a lexer gives when it
is repeated, only the last may be empty. -/
theorem repeated_progresses (rules : Rules) {start : Cursor} (valid : start.Valid) :
    (∀ item separator, EndsForward rules item → EndsForward rules separator →
      ∃ passed loop least,
        Parser.InRounds (parse rules least item) (parse rules least separator) start passed loop ∧
        loop.outcome ≠ .unfinished ∧
        (∀ atLeastOne budget, least < budget →
          parse rules budget (.repeated item separator atLeastOne) start =
            loop.andThen (listed atLeastOne)) ∧
        Progresses passed ∧ passed.length ≤ byteLength start.remaining + 1 ∧
        ∀ values, loop.outcome = .success values →
          values.length ≤ byteLength start.remaining + 1) ∧
    ∀ token : Lexer, ∃ values,
      (∃ least, ∀ budget, least ≤ budget →
        (parse rules budget (.repeated (.lexer token) .empty false) start).outcome =
          .success (.list values)) ∧
      (∀ value ∈ values, ∃ text, value = .text text) ∧
      ∀ value ∈ values.dropLast, value ≠ .text [] := by
  constructor
  · intro item separator items separators
    obtain ⟨passed, loop, least, inRounds, same, progresses, few⟩ :=
      exists_inRounds items separators valid
    exact ⟨passed, loop, least, inRounds, inRounds.finished, same, progresses, few,
      fun values ended => Nat.le_trans (inRounds.values_length_le ended) few⟩
  · intro token
    obtain ⟨passed, loop, least, inRounds, same, -, -⟩ :=
      exists_inRounds (.lexer rules token) (.empty rules) valid
    have emptyCalm : ∀ cursor, (parse rules least .empty cursor).Calm := by
      intro cursor
      cases least <;> simp [Run.Calm, parse, Run.unfinished, Parser.succeed, Run.success]
    obtain ⟨values, ended⟩ :=
      inRounds.succeeds (inRounds.calm (parse_lexer_calm token least) emptyCalm)
    refine ⟨values, ⟨least + 1, fun budget more => ?_⟩, ?_, ?_⟩
    · rw [same false budget more, Run.andThen_of_success ended]
      rfl
    · exact inRounds.forall_values
        (fun _ _ took => (parse_lexer_success took).imp fun _ both => both.1) ended
    · refine inRounds.forall_dropLast ?_ ended
      rintro cursor _ gap took passes moved rfl
      obtain ⟨text, textEq, forward⟩ := parse_lexer_success took
      obtain rfl := Value.text.inj textEq
      have inPlace := succeeds_empty ⟨least, gap, passes, rfl⟩
      exact moved ((congrArg Cursor.offset inPlace).trans forward)

/-- Items and separators may both be empty: the third round is in front of the letter that is left,
and there the guard stops the loop. -/
theorem repeated_progresses_stars :
    let rules : Rules := { entries := [] }
    let item : Grammar := .lexer
      { pattern := ['a', '*']
        regex := .seq (.look .textStart) (.iterate (.set (.single 'a')) 0 none true) }
    let separator : Grammar := .lexer
      { pattern := [',', '?']
        regex := .seq (.look .textStart) (.iterate (.set (.single ',')) 0 (some 1) true) }
    let start : Cursor := .start ['a', 'a', ',', ',', 'b']
    start.Valid ∧ EndsForward rules item ∧ EndsForward rules separator ∧
      ∃ passed loop least,
        Parser.InRounds (parse rules least item) (parse rules least separator) start passed loop ∧
        loop.outcome = .success [.text ['a', 'a'], .text [], .text []] ∧
        Progresses passed ∧ passed.length ≤ 6 := by
  intro rules item separator start
  have valid : start.Valid := Cursor.start_valid _
  have items : EndsForward rules item := .lexer rules _
  have separators : EndsForward rules separator := .lexer rules _
  refine ⟨valid, items, separators, ?_⟩
  obtain ⟨passed, loop, least, inRounds, -, same, progresses, few, -⟩ :=
    (repeated_progresses rules valid).1 item separator items separators
  refine ⟨passed, loop, least, inRounds, ?_, progresses, few⟩
  have three : (parse rules 4 (.repeated item separator false) start).outcome =
      .success (.list [.text ['a', 'a'], .text [], .text []]) := by
    subst start separator item rules
    rfl
  have later := Lockstep.parse_larger rules (.repeated item separator false)
    (Nat.le_max_left 4 (least + 1)) (Eq.refl start) (by simp [three])
  rw [← later, same false _ (Nat.le_max_right 4 (least + 1))] at three
  obtain ⟨values, ended, listed, -⟩ := Run.of_andThen_success three
  rw [ended]
  exact congrArg Outcome.success (Value.list.inj (Outcome.success.inj listed))

end Grammar

end TextGrammar
