import TextGrammar.Proofs.Parts

/-!
Two runs in lockstep. A relation on runs that the ways to go on, to put back and to note an event
keep is kept by every combinator, by the loop of a repetition and, by induction on the budget, by
every grammar over every table of rules.
-/

namespace TextGrammar

/-- Cursors at which two runs may begin, and what two runs that begin there have to share. -/
structure Lockstep where
  Paired : Cursor → Cursor → Prop
  Agree : {α : Type} → Cursor → Cursor → Run α → Run α → Prop
  /-- The guard of a repetition compares offsets, and it has to answer alike on both sides. -/
  sameOffset : ∀ {start other here there : Cursor}, Paired start other → Paired here there →
    (here.offset = start.offset ↔ there.offset = other.offset)
  success : ∀ {α : Type} (value : α) {here there : Cursor}, Paired here there →
    Agree here there (Run.success value here) (Run.success value there)
  failure : ∀ {α : Type} {here there : Cursor}, Paired here there →
    Agree here there (Run.failure here : Run α) (Run.failure there)
  unfinished : ∀ {α : Type} {here there : Cursor}, Paired here there →
    Agree here there (Run.unfinished here : Run α) (Run.unfinished there)
  noProgress : ∀ {α : Type} (value : α) {here there : Cursor}, Paired here there →
    Agree here there
      { outcome := .success value, cursor := here, events := [.noProgress here.offset] }
      { outcome := .success value, cursor := there, events := [.noProgress there.offset] }
  rejected : ∀ {α : Type} (reason : String) {here there : Cursor}, Paired here there →
    Agree here there
      ({ outcome := .failure, cursor := here
         events := [.rejected here.offset reason] } : Run α)
      { outcome := .failure, cursor := there, events := [.rejected there.offset reason] }
  unlogged : ∀ {α : Type} {event : Event} {here there : Cursor} {run other : Run α},
    event.isLogged = false → Agree here there run other →
    Agree here there (run.precededBy [event]) (other.precededBy [event])
  andThen : ∀ {α β : Type} {here there : Cursor} {run other : Run α}
    {continuation otherwise : α → Parser β}, Paired here there → Agree here there run other →
    (∀ value {next nextThere : Cursor}, Paired next nextThere →
      Agree next nextThere (continuation value next) (otherwise value nextThere)) →
    Agree here there (run.andThen continuation) (other.andThen otherwise)
  attempt : ∀ {α : Type} {parser other : Parser α} {here there : Cursor}, Paired here there →
    Agree here there (parser here) (other there) →
    Agree here there (Parser.attempt parser here) (Parser.attempt other there)
  lexer : ∀ (token : Lexer) {here there : Cursor}, Paired here there →
    Agree here there (token.parse here) (token.parse there)

namespace Lockstep

variable {α β : Type} (lockstep : Lockstep)

def Together (parser other : Parser α) : Prop :=
  ∀ ⦃here there : Cursor⦄, lockstep.Paired here there →
    lockstep.Agree here there (parser here) (other there)

variable {lockstep}

theorem run_map {here there : Cursor} {run other : Run α} (mapping : α → β)
    (paired : lockstep.Paired here there) (agree : lockstep.Agree here there run other) :
    lockstep.Agree here there (run.map mapping) (other.map mapping) :=
  lockstep.andThen paired agree fun value _ _ paired => lockstep.success (mapping value) paired

theorem pair {first first' : Parser α} {second second' : Parser β}
    (before : lockstep.Together first first') (after : lockstep.Together second second') :
    lockstep.Together (Parser.pair first second) (Parser.pair first' second') := by
  intro here there paired
  refine lockstep.andThen paired (before paired) ?_
  intro left next nextThere paired
  exact run_map _ paired (after paired)

theorem skip {content content' : Parser α} {skipped skipped' : Parser β}
    (kept : lockstep.Together content content') (dropped : lockstep.Together skipped skipped') :
    lockstep.Together (Parser.skip content skipped) (Parser.skip content' skipped') := by
  intro here there paired
  refine lockstep.andThen paired (kept paired) ?_
  intro value next nextThere paired
  exact run_map _ paired (dropped paired)

theorem skipThen {skipped skipped' : Parser β} {content content' : Parser α}
    (dropped : lockstep.Together skipped skipped') (kept : lockstep.Together content content') :
    lockstep.Together (Parser.skipThen skipped content) (Parser.skipThen skipped' content') := by
  intro here there paired
  exact lockstep.andThen paired (dropped paired) fun _ _ _ paired => kept paired

theorem quotedBy {content content' : Parser α} {quote quote' : Parser β}
    (inside : lockstep.Together content content') (around : lockstep.Together quote quote') :
    lockstep.Together (Parser.quotedBy content quote) (Parser.quotedBy content' quote') := by
  intro here there paired
  refine lockstep.andThen paired (around paired) ?_
  intro _ next nextThere paired
  refine lockstep.andThen paired (inside paired) ?_
  intro value next nextThere paired
  exact run_map _ paired (around paired)

theorem map {parser other : Parser α} (mapping : α → β)
    (inside : lockstep.Together parser other) :
    lockstep.Together (Parser.map parser mapping) (Parser.map other mapping) := by
  intro here there paired
  exact run_map mapping paired (inside paired)

theorem tryMap {parser other : Parser α} (mapping : α → Except String β)
    (inside : lockstep.Together parser other) :
    lockstep.Together (Parser.tryMap parser mapping) (Parser.tryMap other mapping) := by
  intro here there paired
  refine lockstep.andThen paired (inside paired) ?_
  intro value next nextThere paired
  cases mapping value with
  | ok mapped => exact lockstep.success mapped paired
  | error reason => exact lockstep.rejected reason paired

theorem attempted {parser other : Parser α} (inside : lockstep.Together parser other) :
    lockstep.Together (Parser.attempt parser) (Parser.attempt other) := by
  intro here there paired
  exact lockstep.attempt paired (inside paired)

theorem counted (name : Text) {parser other : Parser α}
    (inside : lockstep.Together parser other) :
    lockstep.Together (Parser.counted name parser) (Parser.counted name other) := by
  intro here there paired
  exact lockstep.unlogged rfl (inside paired)

theorem orElse {first first' second second' : Parser α}
    (preferred : lockstep.Together first first') (other : lockstep.Together second second') :
    lockstep.Together (Parser.orElse first second) (Parser.orElse first' second') := by
  intro here there paired
  refine lockstep.andThen paired (attempted preferred paired) ?_
  intro result next nextThere paired
  cases result with
  | some value => exact lockstep.success value paired
  | none => exact other paired

theorem choice {parsers others : List (Parser α)}
    (each : List.Forall₂ lockstep.Together parsers others) :
    lockstep.Together (Parser.choice parsers) (Parser.choice others) := by
  induction each with
  | nil =>
      intro here there paired
      exact lockstep.failure paired
  | cons first rest ih =>
      cases rest with
      | nil => exact first
      | cons second rest => exact orElse first ih

theorem rounds_succ {item item' : Parser α} {separator separator' : Parser β}
    (each : lockstep.Together item item') (between : lockstep.Together separator separator')
    {budget budget' : Nat}
    (later : lockstep.Together (Parser.rounds item separator budget)
      (Parser.rounds item' separator' budget')) :
    lockstep.Together (Parser.rounds item separator (budget + 1))
      (Parser.rounds item' separator' (budget' + 1)) := by
  intro start other began
  simp only [Parser.rounds]
  refine lockstep.andThen began (attempted each began) ?_
  intro result next nextThere paired
  cases result with
  | none => exact lockstep.success [] paired
  | some value =>
      refine lockstep.andThen paired (attempted between paired) ?_
      intro result here there paired
      cases result with
      | none => exact lockstep.success [value] paired
      | some separated =>
          have guards := lockstep.sameOffset began paired
          by_cases still : here.offset = start.offset
          · have stillThere := guards.mp still
            simp only [if_pos still, if_pos stillThere]
            rw [← still, ← stillThere]
            exact lockstep.noProgress [value] paired
          · have movedThere := mt guards.mpr still
            simp only [if_neg still, if_neg movedThere]
            exact run_map _ paired (later paired)

theorem rounds {item item' : Parser α} {separator separator' : Parser β}
    (each : lockstep.Together item item') (between : lockstep.Together separator separator')
    (budget : Nat) :
    lockstep.Together (Parser.rounds item separator budget)
      (Parser.rounds item' separator' budget) := by
  induction budget with
  | zero =>
      intro here there paired
      exact lockstep.unfinished paired
  | succ budget ih => exact rounds_succ each between ih

theorem rounds_of_le
    (started : ∀ {here there : Cursor} (other : Run (List α)), lockstep.Paired here there →
      lockstep.Agree here there (Run.unfinished here) other)
    {item item' : Parser α} {separator separator' : Parser β}
    (each : lockstep.Together item item') (between : lockstep.Together separator separator')
    {budget larger : Nat} (less : budget ≤ larger) :
    lockstep.Together (Parser.rounds item separator budget)
      (Parser.rounds item' separator' larger) := by
  induction budget generalizing larger with
  | zero =>
      intro here there paired
      exact started _ paired
  | succ budget ih =>
      obtain ⟨larger, rfl⟩ : ∃ previous, larger = previous + 1 := ⟨larger - 1, by omega⟩
      exact rounds_succ each between (ih (by omega))

theorem repeated {item item' : Parser α} {separator separator' : Parser β}
    {budget budget' : Nat}
    (loop : lockstep.Together (Parser.rounds item separator budget)
      (Parser.rounds item' separator' budget')) (atLeastOne : Bool) :
    lockstep.Together (Parser.repeated item separator atLeastOne budget)
      (Parser.repeated item' separator' atLeastOne budget') := by
  intro here there paired
  refine lockstep.andThen paired (loop paired) ?_
  intro values next nextThere paired
  by_cases tooFew : (atLeastOne && values.isEmpty) = true
  · simp only [if_pos tooFew]
    exact lockstep.failure paired
  · simp only [if_neg tooFew]
    exact lockstep.success values paired

section Parts

variable {rules rules' : Rules} {budget budget' : Nat} {grammar grammar' : Grammar}

theorem lazy_of_rule {name : Text}
    (builds : (∃ rule rule', rules.build name = .ok rule ∧ rules'.build name = .ok rule' ∧
        lockstep.Together (Grammar.parse rules budget rule)
          (Grammar.parse rules' budget' rule')) ∨
      ∃ cause, rules.build name = .error cause ∧ rules'.build name = .error cause ∧
        lockstep.Together (fun cursor => (Run.panic cause cursor : Run Value))
          fun cursor => Run.panic cause cursor) :
    lockstep.Together (Grammar.parse rules (budget + 1) (.lazy name))
      (Grammar.parse rules' (budget' + 1) (.lazy name)) := by
  intro here there paired
  obtain ⟨rule, rule', found, foundToo, together⟩ | ⟨cause, found, foundToo, panics⟩ := builds
  · simp only [Grammar.parse, found, foundToo]
    exact lockstep.unlogged rfl (together paired)
  · simp only [Grammar.parse, found, foundToo]
    exact lockstep.unlogged rfl (panics paired)

/-- Grammars of the same form keep in step if their parts do: one case for each form. Scripts and
lazy parts have no parts, and the loops are left to whoever knows the two budgets. -/
theorem parse_of_likewise
    (likewise : Grammar.Likewise (fun part part' => lockstep.Together
      (Grammar.parse rules budget part) (Grammar.parse rules' budget' part')) grammar grammar')
    (loops : ∀ {item item' separator separator' : Parser Value}, lockstep.Together item item' →
      lockstep.Together separator separator' →
      lockstep.Together (Parser.rounds item separator budget)
        (Parser.rounds item' separator' budget'))
    (scripts : ∀ script, grammar = .custom script →
      lockstep.Together script.run script.run)
    (lazies : ∀ name, grammar = .lazy name →
      lockstep.Together (Grammar.parse rules (budget + 1) (.lazy name))
        (Grammar.parse rules' (budget' + 1) (.lazy name))) :
    lockstep.Together (Grammar.parse rules (budget + 1) grammar)
      (Grammar.parse rules' (budget' + 1) grammar') := by
  cases likewise with
  | lexer token => exact map _ fun _ _ paired => lockstep.lexer token paired
  | pair left right => exact map _ (pair left right)
  | orElse preferred other => exact orElse preferred other
  | skip kept dropped => exact skip kept dropped
  | skipThen dropped kept => exact skipThen dropped kept
  | quoted inside around => exact quotedBy inside around
  | map mapping inside => exact map mapping inside
  | tryMap mapping inside => exact tryMap mapping inside
  | repeated atLeastOne each between => exact map _ (repeated (loops each between) atLeastOne)
  | choice each =>
      refine choice (List.forall₂_map_left_iff.mpr (List.forall₂_map_right_iff.mpr ?_))
      exact each
  | empty =>
      intro here there paired
      exact lockstep.success Value.unit paired
  | attempt inside => exact map _ (attempted inside)
  | counted name inside => exact counted name inside
  | custom script => exact scripts script rfl
  | lazy name => exact lazies name rfl

theorem parse_of_parts
    (parts : ∀ part ∈ grammar.parts,
      lockstep.Together (Grammar.parse rules budget part) (Grammar.parse rules budget' part))
    (loops : ∀ {item item' separator separator' : Parser Value}, lockstep.Together item item' →
      lockstep.Together separator separator' →
      lockstep.Together (Parser.rounds item separator budget)
        (Parser.rounds item' separator' budget'))
    (scripts : ∀ script, grammar = .custom script →
      lockstep.Together script.run script.run)
    (lazies : ∀ name, grammar = .lazy name →
      lockstep.Together (Grammar.parse rules (budget + 1) (.lazy name))
        (Grammar.parse rules (budget' + 1) (.lazy name))) :
    lockstep.Together (Grammar.parse rules (budget + 1) grammar)
      (Grammar.parse rules (budget' + 1) grammar) :=
  parse_of_likewise (.of_parts parts) loops scripts lazies

theorem parse_of_reached {whole : Grammar}
    (scripts : ∀ script, rules.Reaches whole (.custom script) →
      lockstep.Together script.run script.run)
    (unbuilt : ∀ name cause, rules.Reaches whole (.lazy name) → rules.build name = .error cause →
      ∀ {here there : Cursor}, lockstep.Paired here there →
      lockstep.Agree here there (Run.panic cause here : Run Value) (Run.panic cause there))
    (budget : Nat) (reached : rules.Reaches whole grammar) :
    lockstep.Together (Grammar.parse rules budget grammar)
      (Grammar.parse rules budget grammar) := by
  induction budget generalizing grammar with
  | zero =>
      intro here there paired
      exact lockstep.unfinished paired
  | succ budget ih =>
      apply parse_of_parts
      · intro part member
        exact ih (reached.part member)
      · intro item item' separator separator' each between
        exact rounds each between budget
      · rintro script rfl
        exact scripts script reached
      · rintro name rfl
        apply lazy_of_rule
        cases found : rules.build name with
        | ok rule => exact .inl ⟨rule, rule, rfl, rfl, ih (reached.rule found)⟩
        | error cause =>
            exact .inr ⟨cause, rfl, rfl, fun _ _ => unbuilt name cause reached found⟩

end Parts

structure Admits (lockstep : Lockstep) (Condition : Script → Prop) (rules : Rules) : Prop where
  scripts : ∀ script, Condition script → lockstep.Together script.run script.run
  unbuilt : ∀ name cause, rules.build name = .error cause → ∀ {here there : Cursor},
    lockstep.Paired here there →
    lockstep.Agree here there (Run.panic cause here : Run Value) (Run.panic cause there)
  rules : rules.EachScript Condition

variable {Condition : Script → Prop} {rules : Rules}

theorem parse (admits : lockstep.Admits Condition rules) (budget : Nat) {grammar : Grammar}
    (scripts : grammar.EachScript Condition) :
    lockstep.Together (Grammar.parse rules budget grammar)
      (Grammar.parse rules budget grammar) := by
  refine parse_of_reached ?_ ?_ budget .whole
  · intro script reached
    cases reached.eachScript admits.rules scripts with
    | custom holds => exact admits.scripts script holds
  · intro name cause reached found
    exact admits.unbuilt name cause found

end Lockstep

end TextGrammar
