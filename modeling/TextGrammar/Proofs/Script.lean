import TextGrammar.Grammar
import TextGrammar.Proofs.Cursor

/-!
What the custom rules of a grammar do with the cursor. A condition on scripts is asked of every
script that stands in a grammar; a lazy part asks nothing, for its rule is in the table.
-/

namespace TextGrammar

namespace Script

inductive Operation
  | advance
  | tryAdvance
  | restore
  | remaining
  | consumed
  | source
  | offset
  | location
  deriving DecidableEq, Repr

/-- Whatever the operations answer, the script uses none of these. -/
def Avoids (operations : List Operation) : Script → Prop
  | .succeed _ => True
  | .fail => True
  | .advance _ next => .advance ∉ operations ∧ ∀ taken, (next taken).Avoids operations
  | .tryAdvance _ next => .tryAdvance ∉ operations ∧ ∀ result, (next result).Avoids operations
  | .restore _ next => .restore ∉ operations ∧ ∀ result, (next result).Avoids operations
  | .remaining next => .remaining ∉ operations ∧ ∀ text, (next text).Avoids operations
  | .consumed next => .consumed ∉ operations ∧ ∀ text, (next text).Avoids operations
  | .source next => .source ∉ operations ∧ ∀ text, (next text).Avoids operations
  | .offset next => .offset ∉ operations ∧ ∀ offset, (next offset).Avoids operations
  | .location next => .location ∉ operations ∧ ∀ location, (next location).Avoids operations

def Forward (script : Script) : Prop :=
  ∀ cursor : Cursor, cursor.Valid → cursor.Leads (script.run cursor).cursor

def moves : List Operation := [.advance, .tryAdvance, .restore]

def absolute : List Operation := [.restore, .consumed, .source, .offset, .location]

/-! ## Operations one by one -/

def operation? : Script → Option Operation
  | .succeed _ => none
  | .fail => none
  | .advance _ _ => some .advance
  | .tryAdvance _ _ => some .tryAdvance
  | .restore _ _ => some .restore
  | .remaining _ => some .remaining
  | .consumed _ => some .consumed
  | .source _ => some .source
  | .offset _ => some .offset
  | .location _ => some .location

/-- What is left of the script after its first operation, and the cursor then. -/
def next? : Script → Cursor → Option (Script × Cursor)
  | .succeed _, _ => none
  | .fail, _ => none
  | .advance count next, cursor =>
      match cursor.tryAdvance count with
      | .ok (taken, moved) => some (next taken, moved)
      | .error _ => none
  | .tryAdvance count next, cursor =>
      match cursor.tryAdvance count with
      | .ok (taken, moved) => some (next (.ok taken), moved)
      | .error error => some (next (.error error), cursor)
  | .restore saved next, cursor =>
      match cursor.restore saved with
      | .ok moved => some (next (.ok ()), moved)
      | .error error => some (next (.error error), cursor)
  | .remaining next, cursor => some (next cursor.remaining, cursor)
  | .consumed next, cursor => some (next cursor.consumed, cursor)
  | .source next, cursor => some (next cursor.source, cursor)
  | .offset next, cursor => some (next cursor.offset, cursor)
  | .location next, cursor => some (next cursor.location, cursor)

variable {script rest : Script} {cursor moved : Cursor}

theorem run_of_next? (goesOn : script.next? cursor = some (rest, moved)) :
    script.run cursor = rest.run moved := by
  cases script with
  | succeed value => cases goesOn
  | fail => cases goesOn
  | advance count next =>
      simp only [next?] at goesOn
      split at goesOn <;> cases goesOn
      simp [run, *]
  | tryAdvance count next =>
      simp only [next?] at goesOn
      split at goesOn <;> cases goesOn <;> simp [run, *]
  | restore saved next =>
      simp only [next?] at goesOn
      split at goesOn <;> cases goesOn <;> simp [run, *]
  | _ =>
      cases goesOn
      rfl

theorem run_of_ended (ended : script.next? cursor = none) :
    (∃ value, script.run cursor = .success value cursor) ∨ script.run cursor = .failure cursor ∨
      ∃ count next error, script = .advance count next ∧ cursor.tryAdvance count = .error error ∧
        script.run cursor = .panic (.misuse error) cursor := by
  cases script with
  | succeed value => exact .inl ⟨value, rfl⟩
  | fail => exact .inr (.inl rfl)
  | advance count next =>
      simp only [next?] at ended
      split at ended
      · cases ended
      · rename_i error refused
        exact .inr (.inr ⟨count, next, error, rfl, refused, by simp [run, refused]⟩)
  | tryAdvance count next =>
      simp only [next?] at ended
      split at ended <;> cases ended
  | restore saved next =>
      simp only [next?] at ended
      split at ended <;> cases ended
  | _ => cases ended

theorem next?_cases (goesOn : script.next? cursor = some (rest, moved)) :
    moved = cursor ∨
      (∃ count taken, cursor.tryAdvance count = .ok (taken, moved) ∧
        (script.operation? = some .advance ∨ script.operation? = some .tryAdvance)) ∨
      ∃ saved, cursor.restore saved = .ok moved ∧ script.operation? = some .restore := by
  cases script with
  | succeed value => cases goesOn
  | fail => cases goesOn
  | advance count next =>
      simp only [next?] at goesOn
      split at goesOn
      · rename_i taken there advanced
        cases goesOn
        exact .inr (.inl ⟨count, taken, advanced, .inl rfl⟩)
      · cases goesOn
  | tryAdvance count next =>
      simp only [next?] at goesOn
      split at goesOn
      · rename_i taken there advanced
        cases goesOn
        exact .inr (.inl ⟨count, taken, advanced, .inr rfl⟩)
      · cases goesOn
        exact .inl rfl
  | restore saved next =>
      simp only [next?] at goesOn
      split at goesOn
      · rename_i restored
        cases goesOn
        exact .inr (.inr ⟨saved, restored, rfl⟩)
      · cases goesOn
        exact .inl rfl
  | _ =>
      cases goesOn
      exact .inl rfl

theorem next?_sameText (goesOn : script.next? cursor = some (rest, moved)) :
    cursor.SameText moved := by
  rcases next?_cases goesOn with rfl | ⟨count, taken, advanced, -⟩ | ⟨saved, restored, -⟩
  · exact .refl moved
  · exact (Cursor.tryAdvance_leads advanced).sameText
  · exact Cursor.restore_sameText restored

/-- What is true of a script if it is true of what its first operation leaves is true of every
script. -/
theorem operation_induction {motive : Script → Cursor → Prop}
    (step : ∀ script cursor,
      (∀ rest moved, script.next? cursor = some (rest, moved) → motive rest moved) →
      motive script cursor) (script : Script) (cursor : Cursor) : motive script cursor := by
  induction script generalizing cursor with
  | succeed value => exact step _ cursor fun rest moved goesOn => by cases goesOn
  | fail => exact step _ cursor fun rest moved goesOn => by cases goesOn
  | advance count next ih =>
      apply step
      intro rest moved goesOn
      simp only [next?] at goesOn
      split at goesOn <;> cases goesOn
      exact ih _ _
  | tryAdvance count next ih =>
      apply step
      intro rest moved goesOn
      simp only [next?] at goesOn
      split at goesOn <;> cases goesOn <;> exact ih _ _
  | restore saved next ih =>
      apply step
      intro rest moved goesOn
      simp only [next?] at goesOn
      split at goesOn <;> cases goesOn <;> exact ih _ _
  | remaining next ih => exact step _ cursor fun rest moved goesOn => by cases goesOn; exact ih _ _
  | consumed next ih => exact step _ cursor fun rest moved goesOn => by cases goesOn; exact ih _ _
  | source next ih => exact step _ cursor fun rest moved goesOn => by cases goesOn; exact ih _ _
  | offset next ih => exact step _ cursor fun rest moved goesOn => by cases goesOn; exact ih _ _
  | location next ih => exact step _ cursor fun rest moved goesOn => by cases goesOn; exact ih _ _

theorem Avoids.first {operations : List Operation} (avoids : script.Avoids operations)
    {operation : Operation} (begins : script.operation? = some operation) :
    operation ∉ operations := by
  cases script with
  | succeed value => cases begins
  | fail => cases begins
  | _ =>
      cases begins
      exact avoids.1

theorem Avoids.next {operations : List Operation} (avoids : script.Avoids operations)
    (goesOn : script.next? cursor = some (rest, moved)) : rest.Avoids operations := by
  cases script with
  | succeed value => cases goesOn
  | fail => cases goesOn
  | advance count next =>
      simp only [next?] at goesOn
      split at goesOn <;> cases goesOn
      exact avoids.2 _
  | tryAdvance count next =>
      simp only [next?] at goesOn
      split at goesOn <;> cases goesOn <;> exact avoids.2 _
  | restore saved next =>
      simp only [next?] at goesOn
      split at goesOn <;> cases goesOn <;> exact avoids.2 _
  | _ =>
      cases goesOn
      exact avoids.2 _

/-! ## Whole scripts -/

theorem run_events (script : Script) (cursor : Cursor) : (script.run cursor).events = [] := by
  induction script, cursor using operation_induction with
  | step script cursor ih =>
      cases goesOn : script.next? cursor with
      | some left =>
          rw [run_of_next? goesOn]
          exact ih _ _ goesOn
      | none =>
          rcases run_of_ended goesOn with ⟨value, ended⟩ | ended | ⟨_, _, _, -, -, ended⟩ <;>
            rw [ended] <;> rfl

theorem run_sameText (script : Script) (cursor : Cursor) :
    cursor.SameText (script.run cursor).cursor := by
  induction script, cursor using operation_induction with
  | step script cursor ih =>
      cases goesOn : script.next? cursor with
      | some left =>
          rw [run_of_next? goesOn]
          exact (next?_sameText goesOn).trans (ih _ _ goesOn)
      | none =>
          rcases run_of_ended goesOn with ⟨value, ended⟩ | ended | ⟨_, _, _, -, -, ended⟩ <;>
            rw [ended] <;> exact .refl cursor

theorem run_cursor_of_avoids_moves {script : Script} (still : script.Avoids moves)
    (cursor : Cursor) : (script.run cursor).cursor = cursor := by
  induction script, cursor using operation_induction with
  | step script cursor ih =>
      cases goesOn : script.next? cursor with
      | some left =>
          rw [run_of_next? goesOn, ih _ _ goesOn (still.next goesOn)]
          rcases next?_cases goesOn with same | ⟨_, _, -, begins⟩ | ⟨_, -, begins⟩
          · exact same
          · rcases begins with begins | begins <;> exact absurd (by decide) (still.first begins)
          · exact absurd (by decide) (still.first begins)
      | none =>
          rcases run_of_ended goesOn with ⟨value, ended⟩ | ended | ⟨_, _, _, -, -, ended⟩ <;>
            rw [ended] <;> rfl

theorem forward_of_avoids_restore {script : Script} (noRestore : script.Avoids [.restore]) :
    script.Forward := by
  intro cursor valid
  induction script, cursor using operation_induction with
  | step script cursor ih =>
      cases goesOn : script.next? cursor with
      | some left =>
          have near : cursor.Leads left.2 := by
            rcases next?_cases goesOn with same | ⟨_, _, advanced, -⟩ | ⟨_, -, begins⟩
            · rw [same]
              exact .refl cursor
            · exact Cursor.tryAdvance_leads advanced
            · exact absurd (by decide) (noRestore.first begins)
          rw [run_of_next? goesOn]
          exact near.trans (ih _ _ goesOn (noRestore.next goesOn) (near.valid valid))
      | none =>
          rcases run_of_ended goesOn with ⟨value, ended⟩ | ended | ⟨_, _, _, -, -, ended⟩ <;>
            rw [ended] <;> exact .refl cursor

end Script

namespace Grammar

inductive EachScript (Condition : Script → Prop) : Grammar → Prop
  | lexer (token : Lexer) : EachScript Condition (.lexer token)
  | pair {first second : Grammar} (before : EachScript Condition first)
      (after : EachScript Condition second) : EachScript Condition (.pair first second)
  | orElse {first second : Grammar} (preferred : EachScript Condition first)
      (other : EachScript Condition second) : EachScript Condition (.orElse first second)
  | skip {content skipped : Grammar} (kept : EachScript Condition content)
      (dropped : EachScript Condition skipped) : EachScript Condition (.skip content skipped)
  | skipThen {skipped content : Grammar} (dropped : EachScript Condition skipped)
      (kept : EachScript Condition content) : EachScript Condition (.skipThen skipped content)
  | quoted {content quote : Grammar} (inside : EachScript Condition content)
      (around : EachScript Condition quote) : EachScript Condition (.quoted content quote)
  | map {content : Grammar} (mapping : Value → Value) (inside : EachScript Condition content) :
      EachScript Condition (.map content mapping)
  | tryMap {content : Grammar} (mapping : Value → Except String Value)
      (inside : EachScript Condition content) : EachScript Condition (.tryMap content mapping)
  | repeated {item separator : Grammar} (atLeastOne : Bool) (each : EachScript Condition item)
      (between : EachScript Condition separator) :
      EachScript Condition (.repeated item separator atLeastOne)
  | choice {alternatives : List Grammar}
      (each : ∀ grammar ∈ alternatives, EachScript Condition grammar) :
      EachScript Condition (.choice alternatives)
  | empty : EachScript Condition .empty
  | attempt {content : Grammar} (inside : EachScript Condition content) :
      EachScript Condition (.attempt content)
  | counted (name : Text) {content : Grammar} (inside : EachScript Condition content) :
      EachScript Condition (.counted name content)
  | custom {script : Script} (holds : Condition script) : EachScript Condition (.custom script)
  | lazy (name : Text) : EachScript Condition (.lazy name)

end Grammar

def Rules.EachScript (Condition : Script → Prop) (rules : Rules) : Prop :=
  ∀ name grammar, rules.build name = .ok grammar → grammar.EachScript Condition

theorem Rules.mem_entries_of_build {rules : Rules} {name : Text} {grammar : Grammar}
    (found : rules.build name = .ok grammar) : (name, .ok grammar) ∈ rules.entries := by
  simp only [build] at found
  split at found
  · rename_i entry sought
    have sameName : entry.1 = name := by simpa using List.find?_some sought
    obtain ⟨entryName, result⟩ := entry
    subst found sameName
    exact List.mem_of_find?_eq_some sought
  · cases found

theorem Rules.eachScript_of_entries {Condition : Script → Prop} {rules : Rules}
    (each : ∀ name grammar, (name, .ok grammar) ∈ rules.entries → grammar.EachScript Condition) :
    rules.EachScript Condition := by
  intro name grammar found
  exact each name grammar (mem_entries_of_build found)

end TextGrammar
