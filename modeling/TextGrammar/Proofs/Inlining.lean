import Mathlib.Logic.Relation
import TextGrammar.Proofs.Budget

/-!
Lazy parts and the rules that they name. A reference to a rule can be replaced by the grammar of the
rule, in a grammar and in the rules themselves, at any set of places and again and again, so that a
rule that refers to itself is inlined as often as one likes. Every run stays as it is but for the
rules that are built on the way, and of these there are no more than before.
-/

namespace TextGrammar

open Budgeted

/-! ## Replacing references -/

/-- Some references are replaced by what they refer to; a rule that cannot be built is never put in
the place of a reference. -/
inductive Grammar.Inlined (rules : Rules) : Grammar → Grammar → Prop
  | within {grammar other : Grammar} (likewise : grammar.Likewise (Inlined rules) other) :
      Inlined rules grammar other
  | rule {name : Text} {grammar : Grammar} (found : rules.build name = .ok grammar) :
      Inlined rules (.lazy name) grammar

def Rules.InlinedBuild (rules : Rules) (built other : Except Panic Grammar) : Prop :=
  (∃ grammar grammar', built = .ok grammar ∧ other = .ok grammar' ∧
    grammar.Inlined rules grammar') ∨
  ∃ cause, built = .error cause ∧ other = .error cause

/-- References are replaced in the rules. What they refer to are the rules as they were. -/
def Rules.Inlined (rules other : Rules) : Prop :=
  ∀ name, rules.InlinedBuild (rules.build name) (other.build name)

def Inlines (before after : Rules × Grammar) : Prop :=
  before.1.Inlined after.1 ∧ before.2.Inlined before.1 after.2

theorem Grammar.Inlined.refl (rules : Rules) (grammar : Grammar) :
    grammar.Inlined rules grammar :=
  .within (.of_parts fun part _ => Inlined.refl rules part)
termination_by sizeOf grammar
decreasing_by exact sizeOf_lt_of_mem_parts ‹_›

theorem Rules.Inlined.refl (rules : Rules) : rules.Inlined rules := by
  intro name
  cases rules.build name with
  | ok grammar => exact .inl ⟨grammar, grammar, rfl, rfl, .refl rules grammar⟩
  | error cause => exact .inr ⟨cause, rfl, rfl⟩

theorem Rules.Inlined.of_entries {rules rules' : Rules}
    (each : List.Forall₂ (fun entry other => entry.1 = other.1 ∧
      rules.InlinedBuild entry.2 other.2) rules.entries rules'.entries) :
    rules.Inlined rules' := by
  intro name
  have lookup : ∀ {entries entries' : List (Text × Except Panic Grammar)},
      List.Forall₂ (fun entry other => entry.1 = other.1 ∧
        rules.InlinedBuild entry.2 other.2) entries entries' →
      rules.InlinedBuild (build { entries := entries } name)
        (build { entries := entries' } name) := by
    intro entries entries' each
    induction each with
    | nil => exact .inr ⟨.unknownRule name, rfl, rfl⟩
    | @cons first first' rest rest' related _ ih =>
        obtain ⟨sameName, inlined⟩ := related
        by_cases named : first'.1 == name
        · simpa only [build, List.find?_cons, sameName, named] using inlined
        · simpa only [build, List.find?_cons, sameName, named] using ih
  exact lookup each

/-! ## Runs that differ in their builds -/

/-- The same events but for builds, of which there are no more. -/
structure Event.FewerBuilds (fewer events : List Event) : Prop where
  same : fewer.filter (·.builtName?.isNone) = events.filter (·.builtName?.isNone)
  count_le : ∀ name, fewer.count (.built name) ≤ events.count (.built name)

namespace Event.FewerBuilds

variable {fewer events middle later fewerLater : List Event}

theorem refl (events : List Event) : FewerBuilds events events := ⟨rfl, fun _ => Nat.le_refl _⟩

theorem trans (near : FewerBuilds middle events) (far : FewerBuilds fewer middle) :
    FewerBuilds fewer events where
  same := far.same.trans near.same
  count_le name := Nat.le_trans (far.count_le name) (near.count_le name)

theorem append (first : FewerBuilds fewer events) (second : FewerBuilds fewerLater later) :
    FewerBuilds (fewer ++ fewerLater) (events ++ later) where
  same := by simp only [List.filter_append, first.same, second.same]
  count_le name := by
    simp only [List.count_append]
    exact Nat.add_le_add (first.count_le name) (second.count_le name)

theorem of_built (name : Text) (events : List Event) :
    FewerBuilds events (.built name :: events) where
  same := by simp [builtName?]
  count_le _ := List.count_le_count_cons

theorem log_eq (fewerBuilds : FewerBuilds fewer events) : log fewer = log events := by
  have kept : ∀ event : Event, event.isLogged → event.builtName?.isNone := by
    intro event logged
    cases event <;> simp_all [isLogged, builtName?]
  rw [← log_filter _ kept, fewerBuilds.same, log_filter _ kept]

theorem calls_eq (fewerBuilds : FewerBuilds fewer events) : calls fewer = calls events := by
  have kept : ∀ name, (called name).builtName?.isNone := fun _ => rfl
  rw [← calls_filter (·.builtName?.isNone) kept, fewerBuilds.same, calls_filter _ kept]

end Event.FewerBuilds

/-- If the first run is finished, the second one has its outcome and stops at its cursor, and what
happened on the way is related. -/
def Lockstep.upTo (Related : List Event → List Event → Prop)
    (refl : ∀ events, Related events events)
    (append : ∀ {events others later othersLater}, Related events others →
      Related later othersLater → Related (events ++ later) (others ++ othersLater)) :
    Lockstep where
  Paired here there := here = there
  Agree _ _ run other := run.outcome ≠ .unfinished →
    other.outcome = run.outcome ∧ other.cursor = run.cursor ∧ Related run.events other.events
  sameOffset := @sameOffset_of_eq
  success _ _ _ paired _ := ⟨rfl, paired.symm, refl []⟩
  failure paired _ := ⟨rfl, paired.symm, refl []⟩
  unfinished _ finished := absurd rfl finished
  noProgress _ _ _ paired _ := by rw [paired]; exact ⟨rfl, rfl, refl _⟩
  rejected _ _ _ paired _ := by rw [paired]; exact ⟨rfl, rfl, refl _⟩
  unlogged _ agree finished := by
    obtain ⟨outcomeEq, cursorEq, related⟩ := agree finished
    exact ⟨outcomeEq, cursorEq, append (refl _) related⟩
  andThen {_ _ _ _ run other continuation otherwise} _ agree goesOn finished := by
    have before : run.outcome ≠ .unfinished :=
      fun unfinished => finished (Run.andThen_unfinished unfinished continuation)
    obtain ⟨outcomeEq, cursorEq, related⟩ := agree before
    cases ended : run.outcome with
    | success value =>
        rw [Run.andThen_of_success ended] at finished ⊢
        rw [Run.andThen_of_success (outcomeEq.trans ended), cursorEq]
        obtain ⟨outcomeLater, cursorLater, relatedLater⟩ := goesOn value rfl finished
        exact ⟨outcomeLater, cursorLater, append related relatedLater⟩
    | _ =>
        have endedToo := outcomeEq.trans ended
        simpa only [Run.andThen, ended, endedToo, true_and] using ⟨cursorEq, related⟩
  attempt {_ parser other here _} paired agree finished := by
    subst paired
    have before : (parser here).outcome ≠ .unfinished :=
      fun unfinished => finished (Parser.attempt_unfinished unfinished)
    obtain ⟨outcomeEq, cursorEq, related⟩ := agree before
    cases ended : (parser here).outcome with
    | failure =>
        rw [Parser.attempt_of_failure ended, Parser.attempt_of_failure (outcomeEq.trans ended),
          cursorEq]
        exact ⟨rfl, rfl, append related (refl _)⟩
    | _ =>
        have endedToo := outcomeEq.trans ended
        simpa only [Parser.attempt, ended, endedToo, true_and] using ⟨cursorEq, related⟩
  lexer _ _ _ paired _ := by rw [paired]; exact ⟨rfl, rfl, refl _⟩

namespace Lockstep

section UpTo

variable {α : Type} {Related : List Event → List Event → Prop}
  {refl : ∀ events, Related events events}
  {append : ∀ {events others later othersLater}, Related events others →
    Related later othersLater → Related (events ++ later) (others ++ othersLater)}

theorem upTo_refl (parser : Parser α) : (upTo Related refl append).Together parser parser := by
  rintro here there rfl _
  exact ⟨rfl, rfl, refl _⟩

theorem upTo_larger {parser : Parser Value} {rules : Rules} {grammar : Grammar}
    {budget larger : Nat} (less : budget ≤ larger)
    (together : (upTo Related refl append).Together parser (grammar.parse rules budget)) :
    (upTo Related refl append).Together parser (grammar.parse rules larger) := by
  rintro here there rfl finished
  have ended := together rfl finished
  have unchanged := parse_larger rules grammar less rfl (ended.1 ▸ finished)
  rwa [unchanged]

theorem upTo_likewise {rules rules' : Rules} {budget budget' : Nat} (less : budget ≤ budget')
    {grammar other : Grammar}
    (likewise : grammar.Likewise (fun part part' => (upTo Related refl append).Together
      (part.parse rules budget) (part'.parse rules' budget')) other)
    (lazies : ∀ name, (upTo Related refl append).Together
      (Grammar.parse rules (budget + 1) (.lazy name))
      (Grammar.parse rules' (budget' + 1) (.lazy name))) :
    (upTo Related refl append).Together (grammar.parse rules (budget + 1))
      (other.parse rules' (budget' + 1)) := by
  apply parse_of_likewise likewise
  · intro item item' separator separator' each between
    exact rounds_of_le (fun _ _ finished => absurd rfl finished) each between less
  · intro script _
    exact upTo_refl _
  · intro name _
    exact lazies name

end UpTo

def inlining : Lockstep :=
  upTo (fun events fewer => Event.FewerBuilds fewer events) Event.FewerBuilds.refl
    Event.FewerBuilds.append

def beforeInlining : Lockstep := upTo (fun _ _ => True) (fun _ => trivial) fun _ _ => trivial

end Lockstep

namespace Grammar

open Lockstep

variable {rules rules' : Rules} {grammar grammar' : Grammar} {start : Cursor} {run other : Run Value}

theorem Inlined.parse_together (table : rules.Inlined rules')
    (inlined : grammar.Inlined rules grammar') (budget : Nat) :
    inlining.Together (grammar.parse rules budget) (grammar'.parse rules' budget) := by
  induction budget generalizing grammar grammar' with
  | zero => exact fun here there _ finished => absurd rfl finished
  | succ budget ih =>
      cases inlined with
      | within likewise =>
          refine upTo_likewise (Nat.le_refl budget) (likewise.mono fun _ _ => ih) ?_
          intro name
          apply lazy_of_rule
          obtain ⟨rule, rule', found, foundToo, inlined⟩ | ⟨cause, found, foundToo⟩ := table name
          · exact .inl ⟨rule, rule', found, foundToo, ih inlined⟩
          · exact .inr ⟨cause, found, foundToo, upTo_refl fun cursor => Run.panic cause cursor⟩
      | rule found =>
          have inPlace := upTo_larger (Nat.le_succ budget) (ih (.refl rules grammar'))
          rintro here there rfl finished
          simp only [parse, found] at finished ⊢
          obtain ⟨outcomeEq, cursorEq, fewer⟩ := inPlace rfl finished
          exact ⟨outcomeEq, cursorEq, (Event.FewerBuilds.of_built _ _).trans fewer⟩

/-- Each reference that is put back needs one more unit of the budget, and between two of them
there is at least one form that takes one. -/
theorem Inlined.parse_back_together (table : rules.Inlined rules')
    (inlined : grammar.Inlined rules grammar') (budget : Nat) :
    beforeInlining.Together (grammar'.parse rules' budget) (grammar.parse rules (2 * budget)) := by
  induction budget generalizing grammar grammar' with
  | zero => exact fun here there _ finished => absurd rfl finished
  | succ budget ih =>
      -- with one unit less, so that a reference that was replaced by this form still fits above it
      have sameForm : ∀ {grammar grammar' : Grammar}, grammar.Likewise (Inlined rules) grammar' →
          beforeInlining.Together (grammar'.parse rules' (budget + 1))
            (grammar.parse rules (2 * budget + 1)) := by
        intro grammar grammar' likewise
        refine upTo_likewise (by omega) (likewise.flip.mono fun _ _ => ih) ?_
        intro name
        apply lazy_of_rule
        obtain ⟨rule, rule', found, foundToo, inlined⟩ | ⟨cause, found, foundToo⟩ := table name
        · exact .inl ⟨rule', rule, foundToo, found, ih inlined⟩
        · exact .inr ⟨cause, foundToo, found, upTo_refl fun cursor => Run.panic cause cursor⟩
      cases inlined with
      | within likewise => exact upTo_larger (Nat.le_succ _) (sameForm likewise)
      | rule found =>
          have itself : grammar'.Likewise (Inlined rules) grammar' :=
            .of_parts fun part _ => .refl rules part
          rintro here there rfl finished
          simp only [Nat.mul_add, parse, found]
          exact sameForm itself rfl finished

theorem Inlined.endsIn (table : rules.Inlined rules') (inlined : grammar.Inlined rules grammar')
    (ends : EndsIn (budgeted rules grammar) start run) :
    ∃ other, EndsIn (budgeted rules' grammar') start other ∧ other.outcome = run.outcome ∧
      other.cursor = run.cursor ∧ Event.FewerBuilds other.events run.events := by
  obtain ⟨finished, budget, rfl⟩ := ends
  have kept := inlined.parse_together table budget rfl finished
  exact ⟨_, ⟨kept.1 ▸ finished, budget, rfl⟩, kept⟩

theorem Inlined.endsIn_back (table : rules.Inlined rules')
    (inlined : grammar.Inlined rules grammar')
    (ends : EndsIn (budgeted rules' grammar') start other) :
    ∃ run, EndsIn (budgeted rules grammar) start run := by
  obtain ⟨finished, budget, rfl⟩ := ends
  have kept := inlined.parse_back_together table budget rfl finished
  exact ⟨_, kept.1 ▸ finished, 2 * budget, rfl⟩

end Grammar

section Chains

open Grammar

variable {before after : Rules × Grammar} {start : Cursor} {run other : Run Value}

theorem endsIn_of_inlines (inlined : Relation.ReflTransGen Inlines before after)
    (ends : EndsIn (budgeted before.1 before.2) start run) :
    ∃ other, EndsIn (budgeted after.1 after.2) start other ∧ other.outcome = run.outcome ∧
      other.cursor = run.cursor ∧ Event.FewerBuilds other.events run.events := by
  induction inlined with
  | refl => exact ⟨run, ends, rfl, rfl, .refl _⟩
  | tail _ last ih =>
      obtain ⟨middle, middleEnds, outcomeEq, cursorEq, fewer⟩ := ih
      obtain ⟨other, otherEnds, outcomeLast, cursorLast, fewerLast⟩ :=
        last.2.endsIn last.1 middleEnds
      exact ⟨other, otherEnds, outcomeLast.trans outcomeEq, cursorLast.trans cursorEq,
        fewer.trans fewerLast⟩

theorem endsIn_back_of_inlines (inlined : Relation.ReflTransGen Inlines before after)
    (ends : EndsIn (budgeted after.1 after.2) start other) :
    ∃ run, EndsIn (budgeted before.1 before.2) start run := by
  induction inlined generalizing other with
  | refl => exact ⟨other, ends⟩
  | tail _ last ih =>
      obtain ⟨middle, middleEnds⟩ := last.2.endsIn_back last.1 ends
      exact ih middleEnds

end Chains

namespace Grammar

variable {rules rules' : Rules} {grammar grammar' : Grammar}

/-- The run of a grammar over its rules ends if it does so after any number of replacements, and
then nothing tells the two runs apart but that fewer rules may be built. -/
theorem parse_inlined
    (inlined : Relation.ReflTransGen Inlines (rules, grammar) (rules', grammar'))
    (start : Cursor) :
    ((∃ run, EndsIn (budgeted rules grammar) start run) ↔
      ∃ other, EndsIn (budgeted rules' grammar') start other) ∧
    ∀ run other, EndsIn (budgeted rules grammar) start run →
      EndsIn (budgeted rules' grammar') start other →
      other.outcome = run.outcome ∧ other.cursor = run.cursor ∧
        Event.log other.events = Event.log run.events ∧
        Event.calls other.events = Event.calls run.events ∧
        ∀ name, other.events.count (.built name) ≤ run.events.count (.built name) := by
  refine ⟨⟨?_, ?_⟩, ?_⟩
  · rintro ⟨run, ends⟩
    obtain ⟨other, otherEnds, -⟩ := endsIn_of_inlines inlined ends
    exact ⟨other, otherEnds⟩
  · rintro ⟨other, ends⟩
    exact endsIn_back_of_inlines inlined ends
  · intro run other ends otherEnds
    obtain ⟨kept, keptEnds, outcomeEq, cursorEq, fewer⟩ := endsIn_of_inlines inlined ends
    rw [otherEnds.unique keptEnds]
    exact ⟨outcomeEq, cursorEq, fewer.log_eq, fewer.calls_eq, fewer.count_le⟩

/-- A rule that refers to itself, put once into itself and then, in its new form, in the place of
the reference to it: of four builds one is left. -/
theorem parse_inlined_recursive :
    let item : Grammar := .counted ['a'] (.custom (.tryTake 1))
    let rule : Grammar := .pair item (.orElse (.lazy ['r']) .empty)
    let twice : Grammar := .pair item (.orElse rule .empty)
    let rules : Rules := { entries := [(['r'], .ok rule)] }
    let rules' : Rules := { entries := [(['r'], .ok twice)] }
    let start : Cursor := .start ['x', 'y', 'z']
    let run := parse rules 14 (.lazy ['r']) start
    let other := parse rules' 14 twice start
    Relation.ReflTransGen Inlines (rules, .lazy ['r']) (rules', twice) ∧
      EndsIn (budgeted rules (.lazy ['r'])) start run ∧ EndsIn (budgeted rules' twice) start other ∧
      run.cursor.offset = 3 ∧ Event.calls run.events = [(['a'], 4)] ∧
      Event.builds run.events = [(['r'], 4)] ∧ Event.builds other.events = [(['r'], 1)] ∧
      other.outcome = run.outcome ∧ other.cursor = run.cursor ∧
      Event.log other.events = Event.log run.events ∧
      Event.calls other.events = Event.calls run.events ∧
      ∀ name, other.events.count (.built name) ≤ run.events.count (.built name) := by
  intro item rule twice rules rules' start run other
  have intoItself : rule.Inlined rules twice :=
    .within (.pair (.refl rules item) (.within (.orElse (.rule rfl) (.refl rules .empty))))
  have table : rules.Inlined rules' :=
    .of_entries (.cons ⟨rfl, .inl ⟨rule, twice, rfl, rfl, intoItself⟩⟩ .nil)
  have inRules : Inlines (rules, .lazy ['r']) (rules', .lazy ['r']) := ⟨table, .refl rules _⟩
  have inGrammar : Inlines (rules', .lazy ['r']) (rules', twice) := ⟨.refl rules', .rule rfl⟩
  have inlined : Relation.ReflTransGen Inlines (rules, .lazy ['r']) (rules', twice) :=
    .tail (.single inRules) inGrammar
  have outcome : run.outcome = .success
      (.pair (.text ['x']) (.pair (.text ['y']) (.pair (.text ['z']) .unit))) := by
    subst run other start rules rules' twice rule item
    rfl
  have otherOutcome : other.outcome = run.outcome := by
    subst run other start rules rules' twice rule item
    rfl
  have ends : EndsIn (budgeted rules (.lazy ['r'])) start run := ⟨by simp [outcome], 14, rfl⟩
  have otherEnds : EndsIn (budgeted rules' twice) start other :=
    ⟨by simp [otherOutcome, outcome], 14, rfl⟩
  have kept := (parse_inlined inlined start).2 run other ends otherEnds
  exact ⟨inlined, ends, otherEnds, by decide +kernel, by decide +kernel, by decide +kernel,
    by decide +kernel, kept⟩

end Grammar

end TextGrammar
