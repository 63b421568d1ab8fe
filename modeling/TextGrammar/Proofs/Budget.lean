import TextGrammar.Proofs.LeftCall

/-!
Runs and their budgets. A run that is finished stays the same with any larger budget, so it makes
sense to say that a grammar ends in a run without naming a budget, and there is at most one such
run. Two parsers are compared by what the second makes of every run that the first one finishes.
-/

namespace TextGrammar

variable {α β : Type}

theorem Run.andThen_unfinished {run : Run α} (unfinished : run.outcome = .unfinished)
    (continuation : α → Parser β) : (run.andThen continuation).outcome = .unfinished := by
  simp only [andThen, unfinished]

theorem Parser.attempt_unfinished {parser : Parser α} {start : Cursor}
    (unfinished : (parser start).outcome = .unfinished) :
    (attempt parser start).outcome = .unfinished := by
  simp only [attempt, unfinished]

theorem Lockstep.sameOffset_of_eq {start other here there : Cursor} (began : start = other)
    (paired : here = there) : here.offset = start.offset ↔ there.offset = other.offset := by
  rw [began, paired]

/-- From the same cursor the second parser ends as the first one does, if that ends. -/
def Lockstep.completion : Lockstep where
  Paired here there := here = there
  Agree _ _ run other := run.outcome ≠ .unfinished → other = run
  sameOffset := @sameOffset_of_eq
  success _ _ _ paired _ := by rw [paired]
  failure paired _ := by rw [paired]
  unfinished _ finished := absurd rfl finished
  noProgress _ _ _ paired _ := by rw [paired]
  rejected _ _ _ paired _ := by rw [paired]
  unlogged _ agree finished := by rw [agree finished]
  andThen {_ _ _ _ run other continuation _} _ agree goesOn finished := by
    have same : other = run :=
      agree fun unfinished => finished (Run.andThen_unfinished unfinished continuation)
    rw [same]
    cases ended : run.outcome with
    | success value =>
        rw [Run.andThen_of_success ended] at finished ⊢
        rw [Run.andThen_of_success ended, goesOn value rfl finished]
    | _ => simp only [Run.andThen, ended]
  attempt paired agree finished := by
    subst paired
    have same := agree fun unfinished => finished (Parser.attempt_unfinished unfinished)
    simp only [Parser.attempt, same]
  lexer _ _ _ paired _ := by rw [paired]

namespace Lockstep

theorem completion_refl (parser : Parser α) : completion.Together parser parser := by
  rintro here there rfl _
  rfl

theorem completion_trans {first second third : Parser α} (near : completion.Together first second)
    (far : completion.Together second third) : completion.Together first third := by
  rintro here there rfl finished
  have same := near rfl finished
  rw [← same] at finished ⊢
  exact far rfl finished

theorem rounds_larger {item item' : Parser α} {separator separator' : Parser β}
    (each : completion.Together item item') (between : completion.Together separator separator')
    {budget larger : Nat} (less : budget ≤ larger) :
    completion.Together (Parser.rounds item separator budget)
      (Parser.rounds item' separator' larger) :=
  rounds_of_le (fun _ _ finished => absurd rfl finished) each between less

theorem parse_larger (rules : Rules) (grammar : Grammar) {budget larger : Nat}
    (less : budget ≤ larger) :
    completion.Together (Grammar.parse rules budget grammar)
      (Grammar.parse rules larger grammar) := by
  induction budget generalizing larger grammar with
  | zero => exact fun here there _ finished => absurd rfl finished
  | succ budget ih =>
      obtain ⟨larger, rfl⟩ : ∃ previous, larger = previous + 1 := ⟨larger - 1, by omega⟩
      have less : budget ≤ larger := by omega
      apply parse_of_parts
      · intro part _
        exact ih part less
      · intro item item' separator separator' each between
        exact rounds_larger each between less
      · rintro script - here there rfl -
        rfl
      · rintro name -
        apply lazy_of_rule
        cases rules.build name with
        | ok rule => exact .inl ⟨rule, rule, rfl, rfl, ih rule less⟩
        | error cause => exact .inr ⟨cause, rfl, rfl, completion_refl _⟩

end Lockstep

namespace Budgeted

/-- With some budget the run is this one, and it is finished. -/
def EndsIn (parser : Budgeted α) (start : Cursor) (run : Run α) : Prop :=
  run.outcome ≠ .unfinished ∧ ∃ budget, parser budget start = run

variable {rules : Rules} {grammar : Grammar} {start : Cursor} {run other : Run Value}

theorem EndsIn.parse_eq (ends : EndsIn (grammar.budgeted rules) start run) :
    ∃ least, ∀ budget, least ≤ budget → grammar.parse rules budget start = run := by
  obtain ⟨finished, least, rfl⟩ := ends
  exact ⟨least, fun budget enough => Lockstep.parse_larger rules grammar enough rfl finished⟩

theorem EndsIn.unique (ends : EndsIn (grammar.budgeted rules) start run)
    (endsToo : EndsIn (grammar.budgeted rules) start other) : run = other := by
  obtain ⟨least, same⟩ := ends.parse_eq
  obtain ⟨leastToo, sameToo⟩ := endsToo.parse_eq
  rw [← same (max least leastToo) (by omega), sameToo (max least leastToo) (by omega)]

theorem EndsIn.sameText (ends : EndsIn (grammar.budgeted rules) start run) :
    start.SameText run.cursor := by
  obtain ⟨-, budget, rfl⟩ := ends
  exact grammar.parse_sameText rules budget start

theorem endsIn_parse {budget : Nat} {outcome : Outcome Value}
    (ended : (grammar.parse rules budget start).outcome = outcome)
    (finished : outcome ≠ .unfinished) :
    EndsIn (grammar.budgeted rules) start (grammar.parse rules budget start) :=
  ⟨ended ▸ finished, budget, rfl⟩

theorem EndsIn.of_together {parser : Parser Value} {budget : Nat}
    (together : Lockstep.completion.Together parser (grammar.parse rules budget))
    (finished : (parser start).outcome ≠ .unfinished) :
    EndsIn (grammar.budgeted rules) start (parser start) :=
  ⟨finished, budget, together rfl finished⟩

theorem endsIn_iff_of_together {parser : Nat → Parser Value} {height : Nat}
    (opened : ∀ budget, Lockstep.completion.Together (grammar.parse rules budget) (parser budget))
    (closed : ∀ budget,
      Lockstep.completion.Together (parser budget) (grammar.parse rules (budget + height))) :
    EndsIn (grammar.budgeted rules) start run ↔
      run.outcome ≠ .unfinished ∧ ∃ budget, parser budget start = run := by
  constructor
  · rintro ⟨finished, budget, rfl⟩
    exact ⟨finished, budget, opened budget rfl finished⟩
  · rintro ⟨finished, budget, rfl⟩
    exact .of_together (closed budget) finished

end Budgeted

end TextGrammar
