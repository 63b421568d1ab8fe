import TextGrammar.Proofs.Lockstep
import TextGrammar.Proofs.Run

/-!
Invariants of single runs. An invariant is a lockstep of a run with itself, so one that the ways
to go on keep holds of every run of every grammar. The first of them: a run stays in the source of
its cursor, and a grammar whose scripts only go forward leads forward.
-/

namespace TextGrammar

/-- Cursors at which a run may begin, and what holds of every run that begins there. -/
structure RunInvariant where
  Starts : Cursor → Prop
  Holds : {α : Type} → Cursor → Run α → Prop
  success : ∀ {α : Type} (value : α) {start : Cursor}, Starts start →
    Holds start (Run.success value start)
  failure : ∀ {α : Type} {start : Cursor}, Starts start →
    Holds start (Run.failure start : Run α)
  unfinished : ∀ {α : Type} {start : Cursor}, Starts start →
    Holds start (Run.unfinished start : Run α)
  noProgress : ∀ {α : Type} (value : α) {start : Cursor}, Starts start →
    Holds start
      { outcome := .success value, cursor := start, events := [.noProgress start.offset] }
  rejected : ∀ {α : Type} (reason : String) {start : Cursor}, Starts start →
    Holds start
      ({ outcome := .failure, cursor := start
         events := [.rejected start.offset reason] } : Run α)
  unlogged : ∀ {α : Type} {event : Event} {start : Cursor} {run : Run α},
    event.isLogged = false → Holds start run → Holds start (run.precededBy [event])
  andThen : ∀ {α β : Type} {start : Cursor} {run : Run α} {continuation : α → Parser β},
    Starts start → Holds start run →
    (∀ value {next : Cursor}, Starts next → Holds next (continuation value next)) →
    Holds start (run.andThen continuation)
  attempt : ∀ {α : Type} {parser : Parser α} {start : Cursor}, Starts start →
    Holds start (parser start) → Holds start (Parser.attempt parser start)
  lexer : ∀ (token : Lexer) {start : Cursor}, Starts start → Holds start (token.parse start)

namespace RunInvariant

variable (invariant : RunInvariant)

/-- The invariant as a lockstep of a run with itself; it looks at one side only. -/
def diagonal : Lockstep where
  Paired start other := start = other ∧ invariant.Starts start
  Agree start _ run _ := invariant.Holds start run
  sameOffset began paired := by rw [began.1, paired.1]
  success value _ _ paired := invariant.success value paired.2
  failure paired := invariant.failure paired.2
  unfinished paired := invariant.unfinished paired.2
  noProgress value _ _ paired := invariant.noProgress value paired.2
  rejected reason _ _ paired := invariant.rejected reason paired.2
  unlogged unlogged holds := invariant.unlogged unlogged holds
  andThen paired holds goesOn :=
    invariant.andThen paired.2 holds fun value _ starts => goesOn value ⟨rfl, starts⟩
  attempt paired holds := invariant.attempt paired.2 holds
  lexer token _ _ paired := invariant.lexer token paired.2

structure Admits (Condition : Script → Prop) (rules : Rules) : Prop where
  scripts : ∀ script, Condition script → ∀ start, invariant.Starts start →
    invariant.Holds start (script.run start)
  unbuilt : ∀ name cause, rules.build name = .error cause → ∀ start, invariant.Starts start →
    invariant.Holds start (Run.panic cause start : Run Value)
  rules : rules.EachScript Condition

variable {invariant} {Condition : Script → Prop} {rules : Rules}

theorem parse (admits : invariant.Admits Condition rules) (budget : Nat) {grammar : Grammar}
    (scripts : grammar.EachScript Condition) {start : Cursor} (starts : invariant.Starts start) :
    invariant.Holds start (Grammar.parse rules budget grammar start) := by
  have ready : invariant.diagonal.Admits Condition rules := by
    constructor
    · intro script condition here there paired
      exact admits.scripts script condition here paired.2
    · intro name cause found here there paired
      exact admits.unbuilt name cause found here paired.2
    · exact admits.rules
  exact Lockstep.parse ready budget scripts ⟨rfl, starts⟩

theorem parse_of_reached {whole grammar : Grammar}
    (scripts : ∀ script, rules.Reaches whole (.custom script) → ∀ start, invariant.Starts start →
      invariant.Holds start (script.run start))
    (unbuilt : ∀ name cause, rules.Reaches whole (.lazy name) → rules.build name = .error cause →
      ∀ start, invariant.Starts start → invariant.Holds start (Run.panic cause start : Run Value))
    (budget : Nat) (reached : rules.Reaches whole grammar) {start : Cursor}
    (starts : invariant.Starts start) :
    invariant.Holds start (Grammar.parse rules budget grammar start) := by
  have together : invariant.diagonal.Together (Grammar.parse rules budget grammar)
      (Grammar.parse rules budget grammar) := by
    refine Lockstep.parse_of_reached ?_ ?_ budget reached
    · intro script reached here there paired
      exact scripts script reached here paired.2
    · intro name cause reached found here there paired
      exact unbuilt name cause reached found here paired.2
  exact together ⟨rfl, starts⟩

end RunInvariant

/-! ## Staying in the source -/

theorem Parser.attempt_sameText {α : Type} {parser : Parser α} {start : Cursor}
    (same : start.SameText (parser start).cursor) :
    start.SameText (attempt parser start).cursor :=
  attempt_stops (.refl start) same

theorem Lexer.parse_leads (token : Lexer) (start : Cursor) :
    start.Leads (token.parse start).cursor := by
  simp only [parse]
  split
  · exact .refl start
  · split
    · rename_i advanced
      exact Cursor.tryAdvance_leads advanced
    · exact .refl start

def RunInvariant.staying : RunInvariant where
  Starts _ := True
  Holds start run := start.SameText run.cursor
  success _ _ _ := .refl _
  failure _ := .refl _
  unfinished _ := .refl _
  noProgress _ _ _ := .refl _
  rejected _ _ _ := .refl _
  unlogged _ same := same
  andThen _ same goesOn := Run.andThen_stops same fun value => same.trans (goesOn value trivial)
  attempt _ same := Parser.attempt_sameText same
  lexer token start _ := (token.parse_leads start).sameText

theorem Grammar.parse_sameText (rules : Rules) (budget : Nat) (grammar : Grammar)
    (start : Cursor) : start.SameText (parse rules budget grammar start).cursor := by
  refine RunInvariant.staying.parse_of_reached ?_ ?_ budget .whole trivial
  · intro script reached start _
    exact script.run_sameText start
  · intro name cause reached found start _
    exact .refl start

/-! ## Going forward -/

def RunInvariant.forward : RunInvariant where
  Starts start := start.Valid
  Holds start run := start.Leads run.cursor
  success _ _ _ := .refl _
  failure _ := .refl _
  unfinished _ := .refl _
  noProgress _ _ _ := .refl _
  rejected _ _ _ := .refl _
  unlogged _ leads := leads
  andThen valid leads goesOn :=
    Run.andThen_stops leads fun value => leads.trans (goesOn value (leads.valid valid))
  attempt _ leads := Parser.attempt_stops (.refl _) leads
  lexer token start _ := token.parse_leads start

theorem Grammar.parse_leads {rules : Rules} (rulesForward : rules.EachScript Script.Forward)
    (budget : Nat) {grammar : Grammar} (forward : grammar.EachScript Script.Forward)
    {start : Cursor} (valid : start.Valid) :
    start.Leads (Grammar.parse rules budget grammar start).cursor := by
  have admits : RunInvariant.forward.Admits Script.Forward rules := by
    constructor
    · intro script forward start valid
      exact forward start valid
    · intro name cause found start valid
      exact .refl start
    · exact rulesForward
  exact RunInvariant.parse admits budget forward valid

end TextGrammar
