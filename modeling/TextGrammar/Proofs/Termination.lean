import TextGrammar.Parser.Whole
import TextGrammar.Proofs.LeftCall

/-!
Grammars without left recursion terminate. A part of a grammar is smaller, a lazy reference that
is run behind the start has less text before it, and one that is run at the start is a left call.
So runs of a grammar settle by induction on the bytes left, on the left calls between rules, and
on the grammar.
-/

namespace TextGrammar

open Budgeted

theorem Lexer.parse_finished (token : Lexer) (cursor : Cursor) :
    (token.parse cursor).outcome ≠ .unfinished := by
  simp only [parse]
  split
  · simp
  · split
    · simp
    · simp [Run.panic]

theorem Script.run_finished (script : Script) (cursor : Cursor) :
    (script.run cursor).outcome ≠ .unfinished := by
  induction script, cursor using operation_induction with
  | step script cursor ih =>
      cases goesOn : script.next? cursor with
      | some left =>
          rw [run_of_next? goesOn]
          exact ih _ _ goesOn
      | none =>
          rcases run_of_ended goesOn with ⟨value, ended⟩ | ended | ⟨_, _, _, -, -, ended⟩ <;>
            simp [ended, Run.success, Run.failure, Run.panic]

theorem Run.ofWhole_finished {α : Type} {run : Run α} (finished : run.outcome ≠ .unfinished) :
    run.ofWhole ≠ .unfinished := by
  simp only [ofWhole]
  split
  · split <;> simp
  · simp
  · simp
  · contradiction

theorem Run.ofPrefix_finished {α : Type} {run : Run α} (finished : run.outcome ≠ .unfinished) :
    run.ofPrefix ≠ .unfinished := by
  simp only [ofPrefix]
  split
  · simp
  · simp
  · simp
  · contradiction

namespace Grammar

variable {rules : Rules} {grammar : Grammar} {start : Cursor}

theorem roundsSettle (rulesForward : rules.EachScript Script.Forward) {item separator : Grammar}
    (each : item.EachScript Script.Forward) (between : separator.EachScript Script.Forward)
    (valid : start.Valid) {atLeastOne : Bool}
    (parts : ∀ part here, PartRun rules (.repeated item separator atLeastOne) start part here →
      SettlesAt (budgeted rules part) here) :
    RoundsSettle (budgeted rules item) (budgeted rules separator) start
      (byteLength start.source) := by
  constructor
  · intro here began
    exact parts item here (.repeatedItem atLeastOne began)
  · intro here middle began itemSucceeds
    exact parts separator middle (.repeatedSeparator atLeastOne began itemSucceeds)
  · intro here middle there began itemSucceeds separatorSucceeds
    have item : PartRun rules (.repeated item separator atLeastOne) start item here :=
      .repeatedItem atLeastOne began
    have reached := item.leads rulesForward (.repeated atLeastOne each between) valid
    have toMiddle := succeeds_leads rulesForward each (reached.valid valid) itemSucceeds
    have validMiddle := toMiddle.valid (reached.valid valid)
    have toThere := succeeds_leads rulesForward between validMiddle separatorSucceeds
    have source := ((reached.trans toMiddle).trans toThere).source_eq
    have inside := (toThere.valid validMiddle).offset_le
    rw [source] at inside
    exact ⟨Nat.le_trans toMiddle.offset_le toThere.offset_le, inside⟩

theorem settlesAt_of_parts (rulesForward : rules.EachScript Script.Forward)
    (forward : grammar.EachScript Script.Forward) (valid : start.Valid)
    (direct : ∀ name, grammar ≠ .lazy name)
    (parts : ∀ part here, PartRun rules grammar start part here →
      SettlesAt (budgeted rules part) here) : SettlesAt (budgeted rules grammar) start := by
  apply Settles.of_succ
  cases forward with
  | lexer token =>
      have settled : Settles fun _ => token.parse start := .const (token.parse_finished start)
      exact settled.map _
  | @pair first second _ _ =>
      have settled := pair_settles (parts first start (.pairFirst first second start))
        fun next before => parts second next (.pairSecond second before)
      exact settled.map _
  | @orElse first second _ _ =>
      exact orElse_settles (parts first start (.orElseFirst first second start))
        fun failed => parts second start (.orElseSecond second failed)
  | @skip content skipped _ _ =>
      exact skip_settles (parts content start (.skipContent content skipped start))
        fun next before => parts skipped next (.skipSkipped skipped before)
  | @skipThen skipped content _ _ =>
      exact skipThen_settles (parts skipped start (.skipThenSkipped skipped content start))
        fun next before => parts content next (.skipThenContent content before)
  | @quoted content quote _ _ =>
      exact quotedBy_settles (parts quote start (.quotedOpening content quote start))
        (fun inside opened => parts content inside (.quotedContent content opened))
        fun inside after opened filled => parts quote after (.quotedClosing opened filled)
  | @map content mapping _ => exact (parts content start (.map content mapping start)).map _
  | @tryMap content mapping _ =>
      exact tryMap_settles mapping (parts content start (.tryMap content mapping start))
  | repeated atLeastOne each between =>
      have rounds := roundsSettle rulesForward each between valid parts
      exact (repeated_settles rounds atLeastOne).map _
  | choice each =>
      apply choice_settles
      intro earlier alternative later split failed
      subst split
      exact parts alternative start (.choice earlier alternative later failed)
  | empty => exact .success Value.unit start
  | @attempt content _ =>
      exact (settlesAt_attempt (parts content start (.attempt content start))).map _
  | @counted name content _ =>
      exact (parts content start (.counted name content start)).precededBy [.called name]
  | @custom script _ => exact .const (script.run_finished start)
  | lazy name => exact absurd rfl (direct name)

theorem settlesAt_of_lazy (rulesForward : rules.EachScript Script.Forward)
    (forward : grammar.EachScript Script.Forward) (valid : start.Valid)
    (references : ∀ name here, Subrun rules grammar start (.lazy name) here →
      SettlesAt (budgeted rules (.lazy name)) here) : SettlesAt (budgeted rules grammar) start := by
  induction size : sizeOf grammar using Nat.strongRecOn generalizing grammar start with
  | ind size ih =>
      by_cases reference : ∃ name, grammar = .lazy name
      · obtain ⟨name, rfl⟩ := reference
        exact references name start (.whole _ start)
      · have direct : ∀ name, grammar ≠ .lazy name := fun name same => reference ⟨name, same⟩
        apply settlesAt_of_parts rulesForward forward valid direct
        intro part here runs
        have leads := runs.leads rulesForward forward valid
        refine ih (sizeOf part) (size ▸ runs.smaller) (forward.each_part part runs.mem_parts)
          (leads.valid valid) ?_ rfl
        intro name there rest
        exact references name there (.part runs rest)

theorem settlesAt_lazy {name : Text}
    (rule : ∀ grammar, rules.build name = .ok grammar → SettlesAt (budgeted rules grammar) start) :
    SettlesAt (budgeted rules (.lazy name)) start := by
  apply Settles.of_succ
  simp only [budgeted, parse]
  cases found : rules.build name with
  | ok grammar => exact (rule grammar found).precededBy [.built name]
  | error cause => exact .const (by simp [Run.panic])

theorem settlesAt_of_references (rulesForward : rules.EachScript Script.Forward)
    (forward : grammar.EachScript Script.Forward) (valid : start.Valid)
    (ahead : ∀ name (here : Cursor), here.Valid →
      byteLength here.remaining < byteLength start.remaining →
      SettlesAt (budgeted rules (.lazy name)) here)
    (atStart : ∀ name here, Subrun rules grammar start (.lazy name) here →
      here.offset = start.offset → here.Valid →
      byteLength here.remaining = byteLength start.remaining →
      SettlesAt (budgeted rules (.lazy name)) here) : SettlesAt (budgeted rules grammar) start := by
  apply settlesAt_of_lazy rulesForward forward valid
  intro name here runs
  have leads := runs.leads rulesForward forward valid
  have hereValid := leads.valid valid
  have startLength := valid.length_eq
  have hereLength := hereValid.length_eq
  rw [leads.source_eq, ← startLength] at hereLength
  have offsets := leads.offset_le
  by_cases still : here.offset = start.offset
  · exact atStart name here runs still hereValid (by omega)
  · exact ahead name here hereValid (by omega)

variable (rulesForward : rules.EachScript Script.Forward)
  (noLeftRecursion : WellFounded fun callee caller => rules.LeftCalls caller callee)
include rulesForward noLeftRecursion

/-- By induction on the left calls, with `left` bytes before the cursor at every one of them. -/
theorem settlesAt_lazy_of_ahead {left : Nat}
    (ahead : ∀ name (here : Cursor), here.Valid → byteLength here.remaining < left →
      SettlesAt (budgeted rules (.lazy name)) here)
    (name : Text) (valid : start.Valid) (length : byteLength start.remaining = left) :
    SettlesAt (budgeted rules (.lazy name)) start := by
  induction name using noLeftRecursion.induction generalizing start with
  | _ name callees =>
      apply settlesAt_lazy
      intro grammar found
      subst length
      apply settlesAt_of_references rulesForward (rulesForward name grammar found) valid ahead
      intro callee here runs still hereValid same
      exact callees callee ⟨grammar, start, here, found, valid, runs, still⟩ hereValid same

theorem settlesAt_reference (name : Text) (valid : start.Valid) :
    SettlesAt (budgeted rules (.lazy name)) start := by
  induction length : byteLength start.remaining using Nat.strongRecOn
    generalizing name start with
  | ind left ih =>
      apply settlesAt_lazy_of_ahead rulesForward noLeftRecursion ?_ name valid length
      intro callee here hereValid less
      exact ih (byteLength here.remaining) less callee hereValid rfl

/-- Without left recursion every run of every grammar ends: from some budget on its outcome is the
same, and so are those of an attempt and of a run on a whole text or on a beginning of it. -/
theorem parse_settles (forward : grammar.EachScript Script.Forward) :
    (∀ start : Cursor, start.Valid → Settles fun budget => parse rules budget grammar start) ∧
    (∀ start : Cursor, start.Valid →
      Settles fun budget => Parser.attempt (parse rules budget grammar) start) ∧
    (∀ source, ∃ result, result ≠ .unfinished ∧ ∃ least, ∀ budget, least ≤ budget →
      Parser.parseWhole (parse rules budget grammar) source = result) ∧
    ∀ source, ∃ result, result ≠ .unfinished ∧ ∃ least, ∀ budget, least ≤ budget →
      Parser.parsePrefix (parse rules budget grammar) source = result := by
  have settles : ∀ start : Cursor, start.Valid → SettlesAt (budgeted rules grammar) start := by
    intro start valid
    apply settlesAt_of_lazy rulesForward forward valid
    intro name here runs
    exact settlesAt_reference rulesForward noLeftRecursion name
      ((runs.leads rulesForward forward valid).valid valid)
  refine ⟨settles, fun start valid => settlesAt_attempt (settles start valid), ?_, ?_⟩
  · intro source
    obtain ⟨run, finished, least, same⟩ := settles (.start source) (Cursor.start_valid source)
    refine ⟨run.ofWhole, Run.ofWhole_finished finished, least, ?_⟩
    intro budget enough
    exact congrArg Run.ofWhole (same budget enough)
  · intro source
    obtain ⟨run, finished, least, same⟩ := settles (.start source) (Cursor.start_valid source)
    refine ⟨run.ofPrefix, Run.ofPrefix_finished finished, least, ?_⟩
    intro budget enough
    exact congrArg Run.ofPrefix (same budget enough)

omit rulesForward noLeftRecursion

/-- One rule calls another one at its own start, which calls itself behind one byte. -/
theorem parse_settles_right_recursive :
    let rules : Rules :=
      { entries :=
          [(['s'], .ok (.lazy ['r'])),
            (['r'], .ok (.orElse (.pair (.custom (.tryTake 1)) (.lazy ['r'])) .empty))] }
    rules.LeftCalls ['s'] ['r'] ∧
      (WellFounded fun callee caller => rules.LeftCalls caller callee) ∧
      Settles fun budget => parse rules budget (.lazy ['s']) (.start ['a', 'b']) := by
  intro rules
  have called : rules.LeftCalls ['s'] ['r'] :=
    ⟨.lazy ['r'], .start [], .start [], rfl, Cursor.start_valid [], .whole _ _, rfl⟩
  have rulesForward : rules.EachScript Script.Forward := by
    apply Rules.eachScript_of_entries
    intro name grammar member
    rcases List.mem_cons.mp member with first | member
    · cases first
      exact .lazy ['r']
    · cases List.mem_singleton.mp member
      have forward : (Script.tryTake 1).Forward := by
        apply Script.forward_of_avoids_restore
        refine ⟨by decide, ?_⟩
        intro result
        cases result <;> trivial
      exact .orElse (.pair (.custom forward) (.lazy ['r'])) .empty
  have noLeftRecursion : WellFounded fun callee caller => rules.LeftCalls caller callee := by
    apply Rules.leftCalls_wellFounded_of_rank fun name => if name = ['s'] then 1 else 0
    rintro caller callee ⟨grammar, start, here, found, -, runs, still⟩
    rcases List.mem_cons.mp (Rules.mem_entries_of_build found) with first | second
    · cases first
      cases runs with
      | whole => decide
      | part first _ => cases first
    · cases List.mem_singleton.mp second
      exfalso
      -- the reference in the second rule is run behind a byte
      cases runs with
      | part first rest =>
          cases first with
          | orElseFirst =>
              cases rest with
              | part first rest =>
                  cases first with
                  | pairFirst =>
                      cases rest with
                      | part first _ => cases first
                  | pairSecond _ before =>
                      have moved := succeeds_tryTake before
                      cases rest with
                      | whole => omega
                      | part first _ => cases first
          | orElseSecond =>
              cases rest with
              | part first _ => cases first
  exact ⟨called, noLeftRecursion,
    (parse_settles rulesForward noLeftRecursion (.lazy ['s'])).1 _ (Cursor.start_valid _)⟩

end Grammar

end TextGrammar
