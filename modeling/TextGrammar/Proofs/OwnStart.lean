import TextGrammar.Proofs.Moves
import TextGrammar.Proofs.RunInvariant

/-!
No run stands before its own start. Putting a cursor back goes back, but to where an attempt began,
and that is no earlier than where the run around it began. So if the scripts in a grammar restore
nothing that is before their own start, a run neither stops before its start nor notes an offset
before it, and every rollback leads from where it was to there or to an earlier place.
-/

namespace TextGrammar

namespace Script

/-- Wherever the script restores on its way from the cursor on, it comes to `floor` or behind it. -/
inductive RestoresFrom (floor : Nat) : Script → Cursor → Prop
  | ended {script : Script} {cursor : Cursor} (last : script.next? cursor = none) :
      RestoresFrom floor script cursor
  | step {script rest : Script} {cursor moved : Cursor}
      (goesOn : script.next? cursor = some (rest, moved))
      (notBefore : script.operation? = some .restore → floor ≤ moved.offset)
      (later : RestoresFrom floor rest moved) : RestoresFrom floor script cursor

/-- A restore may undo what the script itself has taken, but no more than that. -/
def RestoresNoEarlier (script : Script) : Prop :=
  ∀ start : Cursor, start.Valid → script.RestoresFrom start.offset start

variable {script rest : Script} {cursor moved : Cursor} {floor : Nat}

theorem next?_offset_le (goesOn : script.next? cursor = some (rest, moved))
    (notBefore : script.operation? = some .restore → floor ≤ moved.offset)
    (here : floor ≤ cursor.offset) : floor ≤ moved.offset := by
  rcases next?_cases goesOn with rfl | ⟨count, taken, advanced, -⟩ | ⟨saved, -, restores⟩
  · exact here
  · have forward := (Cursor.tryAdvance_leads advanced).offset_le
    omega
  · exact notBefore restores

theorem RestoresFrom.offset_le (restores : script.RestoresFrom floor cursor)
    (here : floor ≤ cursor.offset) : floor ≤ (script.run cursor).cursor.offset := by
  induction restores with
  | ended last =>
      rcases run_of_ended last with ⟨value, ended⟩ | ended | ⟨_, _, _, -, -, ended⟩ <;>
        rw [ended] <;> exact here
  | step goesOn notBefore later ih =>
      rw [run_of_next? goesOn]
      exact ih (next?_offset_le goesOn notBefore here)

theorem RestoresNoEarlier.forward (noEarlier : script.RestoresNoEarlier) : script.Forward := by
  intro cursor valid
  have same := script.run_sameText cursor
  exact ⟨same.source_eq, (noEarlier cursor valid).offset_le (Nat.le_refl _), same.valid⟩

def lookAhead (count : Nat) : Script :=
  .remaining fun text => .tryAdvance count fun result => .restore text fun _ =>
    match result with
    | .ok taken => .succeed (.text taken)
    | .error _ => .fail

theorem lookAhead_restoresNoEarlier (count : Nat) : (lookAhead count).RestoresNoEarlier := by
  intro start valid
  refine .step rfl (by simp [operation?, lookAhead]) ?_
  have putBack : ∀ (there : Cursor) (last : Script), start.SameText there →
      last.next? start = none →
      RestoresFrom start.offset (.restore start.remaining fun _ => last) there := by
    intro there last same ends
    have back := same.restore_remaining valid
    exact .step (by simp only [next?, back]) (fun _ => Nat.le_refl _) (.ended ends)
  cases advanced : start.tryAdvance count with
  | ok moved =>
      refine .step (by simp only [next?, advanced]; rfl) (by simp [operation?]) ?_
      exact putBack _ _ (Cursor.tryAdvance_leads advanced).sameText rfl
  | error error =>
      refine .step (by simp only [next?, advanced]; rfl) (by simp [operation?]) ?_
      exact putBack _ _ (.refl start) rfl

end Script

namespace Event

def NotBefore (floor : Nat) : Event → Prop
  | .matched _ _ => True
  | .noMatch _ offset => floor ≤ offset
  | .backtracking origin target => floor ≤ origin ∧ floor ≤ target ∧ target ≤ origin
  | .rejected offset _ => floor ≤ offset
  | .noProgress offset => floor ≤ offset
  | .called _ => True
  | .built _ => True

theorem NotBefore.mono {event : Event} {floor lower : Nat} (notBefore : event.NotBefore floor)
    (less : lower ≤ floor) : event.NotBefore lower := by
  cases event <;> simp only [NotBefore] at notBefore ⊢ <;> omega

theorem notBefore_of_unlogged {event : Event} (unlogged : event.isLogged = false) (floor : Nat) :
    event.NotBefore floor := by
  cases event with
  | called name => trivial
  | built name => trivial
  | _ => cases unlogged

end Event

variable {α β : Type} {start middle : Cursor}

structure Run.StaysBehind (start : Cursor) (run : Run α) : Prop where
  leads : start.Leads run.cursor
  events : ∀ event ∈ run.events, event.NotBefore start.offset

namespace Run.StaysBehind

theorem precededBy {events : List Event} {run : Run α} (leads : start.Leads middle)
    (earlier : ∀ event ∈ events, event.NotBefore start.offset) (rest : run.StaysBehind middle) :
    (run.precededBy events).StaysBehind start := by
  refine ⟨leads.trans rest.leads, fun event member => ?_⟩
  rcases List.mem_append.mp member with before | after
  · exact earlier event before
  · exact (rest.events event after).mono leads.offset_le

theorem andThen {run : Run α} {continuation : α → Parser β} (valid : start.Valid)
    (stays : run.StaysBehind start)
    (goesOn : ∀ value {next : Cursor}, next.Valid →
      (continuation value next).StaysBehind next) :
    (run.andThen continuation).StaysBehind start := by
  rcases run.andThen_cases continuation with ⟨value, -, goes⟩ | ⟨-, stopped, events⟩
  · rw [goes]
    exact precededBy stays.leads stays.events (goesOn value (stays.leads.valid valid))
  · exact ⟨stopped ▸ stays.leads, events ▸ stays.events⟩

theorem attempt {parser : Parser α} (stays : (parser start).StaysBehind start) :
    (Parser.attempt parser start).StaysBehind start := by
  by_cases failed : (parser start).outcome = .failure
  · rw [Parser.attempt_of_failure failed]
    refine ⟨.refl start, fun event member => ?_⟩
    rcases List.mem_append.mp member with before | last
    · exact stays.events event before
    · -- the rollback leads from behind the start to the start
      obtain rfl := List.mem_singleton.mp last
      have further := stays.leads.offset_le
      exact ⟨further, Nat.le_refl _, further⟩
  · obtain ⟨stopped, events⟩ := Parser.attempt_of_not_failure failed
    exact ⟨stopped ▸ stays.leads, events ▸ stays.events⟩

theorem lexer (token : Lexer) (start : Cursor) : (token.parse start).StaysBehind start := by
  refine ⟨token.parse_leads start, ?_⟩
  simp only [Lexer.parse]
  split
  · simp [Event.NotBefore]
  · split <;> simp [Event.NotBefore, Run.panic]

end Run.StaysBehind

def RunInvariant.behindStart : RunInvariant where
  Starts start := start.Valid
  Holds start run := run.StaysBehind start
  success _ _ _ := ⟨.refl _, by simp [Run.success]⟩
  failure _ := ⟨.refl _, by simp [Run.failure]⟩
  unfinished _ := ⟨.refl _, by simp [Run.unfinished]⟩
  noProgress _ _ _ := ⟨.refl _, by simp [Event.NotBefore]⟩
  rejected _ _ _ := ⟨.refl _, by simp [Event.NotBefore]⟩
  unlogged unlogged stays :=
    .precededBy (.refl _) (by simpa using Event.notBefore_of_unlogged unlogged _) stays
  andThen valid stays goesOn := stays.andThen valid goesOn
  attempt _ stays := stays.attempt
  lexer token start _ := .lexer token start

namespace Grammar

variable {rules : Rules} {grammar : Grammar}

theorem parse_staysBehind
    (scripts : ∀ script, rules.Reaches grammar (.custom script) → script.RestoresNoEarlier)
    (budget : Nat) (valid : start.Valid) :
    (parse rules budget grammar start).StaysBehind start := by
  refine RunInvariant.behindStart.parse_of_reached ?_ ?_ budget .whole valid
  · intro script reached start valid
    exact ⟨(scripts script reached).forward start valid, by simp [script.run_events]⟩
  · intro name cause reached found start valid
    exact ⟨.refl start, by simp [Run.panic]⟩

/-- However the run ends, it stops at its start or behind it, all offsets that it notes on the way
are there too, and no rollback leads forward. -/
theorem parse_never_before_start
    (scripts : ∀ script, rules.Reaches grammar (.custom script) → script.RestoresNoEarlier)
    (valid : start.Valid) (budget : Nat) :
    start.offset ≤ (parse rules budget grammar start).cursor.offset ∧
      ∀ event ∈ (parse rules budget grammar start).events, event.NotBefore start.offset := by
  have stays := parse_staysBehind scripts budget valid
  exact ⟨stays.leads.offset_le, stays.events⟩

/-- The run begins in the middle of the text and ends where it began: the outer level is rolled back
over two letters, and then the script has taken and put back one. -/
theorem parse_never_before_start_lookingAhead :
    let letter (character : Char) : Grammar :=
      .lexer { pattern := [character], regex := .set (.single character) }
    let rules : Rules :=
      { entries := [(['r'], .ok (.orElse (.pair (letter 'a') (.pair (.lazy ['r']) (letter 'b')))
          (.custom (.lookAhead 1))))] }
    let start : Cursor := { source := ['x', 'a', 'a', 'b'], offset := 1 }
    let run := parse rules 16 (.lazy ['r']) start
    start.Valid ∧
      (∀ script, rules.Reaches (.lazy ['r']) (.custom script) → script.RestoresNoEarlier) ∧
      Event.log run.events =
        [.matched ['a'] ['a'], .matched ['a'] ['a'], .noMatch ['a'] 3, .backtracking 3 3,
          .matched ['b'] ['b'], .noMatch ['b'] 4, .backtracking 4 1] ∧
      run.cursor = start ∧ 1 ≤ run.cursor.offset ∧ ∀ event ∈ run.events, event.NotBefore 1 := by
  intro letter rules start run
  have valid : start.Valid := by
    subst start
    rfl
  have rulesEach : rules.EachScript Script.RestoresNoEarlier := by
    apply Rules.eachScript_of_entries
    intro name grammar member
    obtain ⟨rfl, rfl⟩ : name = ['r'] ∧ _ := by simpa [rules] using member
    exact .orElse (.pair (.lexer _) (.pair (.lazy _) (.lexer _)))
      (.custom (Script.lookAhead_restoresNoEarlier 1))
  have scripts : ∀ script, rules.Reaches (.lazy ['r']) (.custom script) →
      script.RestoresNoEarlier := by
    intro script reached
    cases reached.eachScript rulesEach (.lazy _) with
    | custom noEarlier => exact noEarlier
  exact ⟨valid, scripts, by decide +kernel, by decide +kernel,
    parse_never_before_start scripts valid 16⟩

end Grammar

end TextGrammar
