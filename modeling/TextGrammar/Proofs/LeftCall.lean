import TextGrammar.Proofs.RunInvariant
import TextGrammar.Proofs.Settling

/-!
Which parts of a grammar are run at which cursors, and which rules are called without progress. A
rule left-calls another one if a run of its grammar can come to a lazy reference to the other one
while the cursor is at the offset where the run began.
-/

namespace TextGrammar

open Budgeted

namespace Grammar

def budgeted (rules : Rules) (grammar : Grammar) : Budgeted Value := fun budget =>
  parse rules budget grammar

/-- A run of a grammar from a cursor can run this part of it from this cursor. -/
inductive PartRun (rules : Rules) : Grammar → Cursor → Grammar → Cursor → Prop
  | pairFirst (first second : Grammar) (start : Cursor) :
      PartRun rules (.pair first second) start first start
  | pairSecond {first : Grammar} (second : Grammar) {start next : Cursor}
      (before : Succeeds (budgeted rules first) start next) :
      PartRun rules (.pair first second) start second next
  | orElseFirst (first second : Grammar) (start : Cursor) :
      PartRun rules (.orElse first second) start first start
  | orElseSecond {first : Grammar} (second : Grammar) {start : Cursor}
      (failed : Fails (budgeted rules first) start) :
      PartRun rules (.orElse first second) start second start
  | skipContent (content skipped : Grammar) (start : Cursor) :
      PartRun rules (.skip content skipped) start content start
  | skipSkipped {content : Grammar} (skipped : Grammar) {start next : Cursor}
      (before : Succeeds (budgeted rules content) start next) :
      PartRun rules (.skip content skipped) start skipped next
  | skipThenSkipped (skipped content : Grammar) (start : Cursor) :
      PartRun rules (.skipThen skipped content) start skipped start
  | skipThenContent {skipped : Grammar} (content : Grammar) {start next : Cursor}
      (before : Succeeds (budgeted rules skipped) start next) :
      PartRun rules (.skipThen skipped content) start content next
  | quotedOpening (content quote : Grammar) (start : Cursor) :
      PartRun rules (.quoted content quote) start quote start
  | quotedContent (content : Grammar) {quote : Grammar} {start inside : Cursor}
      (opened : Succeeds (budgeted rules quote) start inside) :
      PartRun rules (.quoted content quote) start content inside
  | quotedClosing {content quote : Grammar} {start inside after : Cursor}
      (opened : Succeeds (budgeted rules quote) start inside)
      (filled : Succeeds (budgeted rules content) inside after) :
      PartRun rules (.quoted content quote) start quote after
  | map (content : Grammar) (mapping : Value → Value) (start : Cursor) :
      PartRun rules (.map content mapping) start content start
  | tryMap (content : Grammar) (mapping : Value → Except String Value) (start : Cursor) :
      PartRun rules (.tryMap content mapping) start content start
  | repeatedItem {item separator : Grammar} (atLeastOne : Bool) {start here : Cursor}
      (began : RoundStart (budgeted rules item) (budgeted rules separator) start here) :
      PartRun rules (.repeated item separator atLeastOne) start item here
  | repeatedSeparator {item separator : Grammar} (atLeastOne : Bool)
      {start here between : Cursor}
      (began : RoundStart (budgeted rules item) (budgeted rules separator) start here)
      (each : Succeeds (budgeted rules item) here between) :
      PartRun rules (.repeated item separator atLeastOne) start separator between
  | choice (earlier : List Grammar) (alternative : Grammar) (later : List Grammar)
      {start : Cursor} (failed : ∀ grammar ∈ earlier, Fails (budgeted rules grammar) start) :
      PartRun rules (.choice (earlier ++ alternative :: later)) start alternative start
  | attempt (content : Grammar) (start : Cursor) :
      PartRun rules (.attempt content) start content start
  | counted (name : Text) (content : Grammar) (start : Cursor) :
      PartRun rules (.counted name content) start content start

inductive Subrun (rules : Rules) : Grammar → Cursor → Grammar → Cursor → Prop
  | whole (grammar : Grammar) (start : Cursor) : Subrun rules grammar start grammar start
  | part {grammar part inner : Grammar} {start here there : Cursor}
      (first : PartRun rules grammar start part here)
      (rest : Subrun rules part here inner there) : Subrun rules grammar start inner there

end Grammar

open Grammar

/-- In a run of the caller's grammar a lazy reference in it to the callee can be run at the offset
where the run began. -/
def Rules.LeftCalls (rules : Rules) (caller callee : Text) : Prop :=
  ∃ grammar start here, rules.build caller = .ok grammar ∧ start.Valid ∧
    Subrun rules grammar start (.lazy callee) here ∧ here.offset = start.offset

theorem Rules.leftCalls_wellFounded_of_rank {rules : Rules} (rank : Text → Nat)
    (decreases : ∀ caller callee, rules.LeftCalls caller callee → rank callee < rank caller) :
    WellFounded fun callee caller => rules.LeftCalls caller callee :=
  Subrelation.wf (fun calls => decreases _ _ calls) (measure rank).wf

namespace Grammar

variable {rules : Rules} {grammar part : Grammar} {start here : Cursor}

theorem PartRun.mem_parts (runs : PartRun rules grammar start part here) :
    part ∈ grammar.parts := by
  cases runs <;> simp [parts]

theorem PartRun.smaller (runs : PartRun rules grammar start part here) :
    sizeOf part < sizeOf grammar :=
  sizeOf_lt_of_mem_parts runs.mem_parts

theorem PartRun.along {Along : Cursor → Cursor → Prop} (stays : ∀ cursor, Along cursor cursor)
    (goesOn : ∀ {first second third}, Along first second → Along second third →
      Along first third)
    (succeeds : ∀ part ∈ grammar.parts, ∀ {here there : Cursor},
      Succeeds (budgeted rules part) here there → Along here there)
    (runs : PartRun rules grammar start part here) : Along start here := by
  cases runs with
  | pairSecond _ before => exact succeeds _ (by simp [parts]) before
  | skipSkipped _ before => exact succeeds _ (by simp [parts]) before
  | skipThenContent _ before => exact succeeds _ (by simp [parts]) before
  | quotedContent _ opened => exact succeeds _ (by simp [parts]) opened
  | quotedClosing opened filled =>
      exact goesOn (succeeds _ (by simp [parts]) opened) (succeeds _ (by simp [parts]) filled)
  | repeatedItem _ began =>
      exact began.along stays goesOn (succeeds _ (by simp [parts])) (succeeds _ (by simp [parts]))
  | repeatedSeparator _ began each =>
      have reached := began.along stays goesOn (succeeds _ (by simp [parts]))
        (succeeds _ (by simp [parts]))
      exact goesOn reached (succeeds _ (by simp [parts]) each)
  | _ => exact stays start

theorem succeeds_empty (succeeds : Succeeds (budgeted rules .empty) start here) :
    here = start := by
  obtain ⟨budget, value, succeeded, rfl⟩ := succeeds
  cases budget with
  | zero => cases succeeded
  | succ budget => rfl

theorem succeeds_counted {name : Text}
    (succeeds : Succeeds (budgeted rules (.counted name grammar)) start here) :
    Succeeds (budgeted rules grammar) start here := by
  obtain ⟨budget, value, succeeded, rfl⟩ := succeeds
  cases budget with
  | zero => cases succeeded
  | succ budget => exact ⟨budget, value, succeeded, rfl⟩

theorem succeeds_tryTake {count : Nat}
    (succeeds : Succeeds (budgeted rules (.custom (.tryTake count))) start here) :
    here.offset = start.offset + count := by
  obtain ⟨budget, value, succeeded, rfl⟩ := succeeds
  cases budget with
  | zero => cases succeeded
  | succ budget =>
      simp only [budgeted, parse, Script.tryTake, Script.run] at succeeded ⊢
      cases advanced : start.tryAdvance count with
      | ok result =>
          have moved := (Cursor.tryAdvance_eq_ok.mp advanced).2.2
          exact congrArg Cursor.offset moved
      | error error =>
          rw [advanced] at succeeded
          cases succeeded

variable (rulesForward : rules.EachScript Script.Forward)
include rulesForward

theorem succeeds_leads (forward : grammar.EachScript Script.Forward) (valid : start.Valid)
    (succeeds : Succeeds (budgeted rules grammar) start here) : start.Leads here := by
  obtain ⟨budget, value, -, rfl⟩ := succeeds
  exact parse_leads rulesForward budget forward valid

theorem PartRun.leads (forward : grammar.EachScript Script.Forward) (valid : start.Valid)
    (runs : PartRun rules grammar start part here) : start.Leads here :=
  runs.along (fun cursor (_ : cursor.Valid) => .refl cursor)
    (fun near far valid => (near valid).trans (far ((near valid).valid valid)))
    (fun part member _ _ succeeds valid =>
      succeeds_leads rulesForward (forward.each_part part member) valid succeeds) valid

theorem Subrun.leads (forward : grammar.EachScript Script.Forward) (valid : start.Valid)
    (runs : Subrun rules grammar start part here) : start.Leads here := by
  induction runs with
  | whole grammar start => exact .refl start
  | part first rest ih =>
      have near := first.leads rulesForward forward valid
      exact near.trans (ih (forward.each_part _ first.mem_parts) (near.valid valid))

end Grammar

end TextGrammar
