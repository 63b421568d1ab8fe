import TextGrammar.Session
import TextGrammar.Proofs.RunInvariant

/-!
Sessions that can be reached. Whatever the steps, every cursor that is alive afterwards, the one
that is moved or a copy, is a fresh one or stands in the source of a cursor that was alive before.
So all of them are consistent, after refusals and panics too, and only a step that says so brings
in another source.
-/

namespace TextGrammar

theorem Grammar.attempt_sameText (rules : Rules) (budget : Nat) (grammar : Grammar)
    (start : Cursor) :
    start.SameText (Parser.attempt (parse rules budget grammar) start).cursor :=
  Parser.attempt_sameText (grammar.parse_sameText rules budget start)

namespace Session

variable {α : Type} {session : Session} {cursor : Cursor}

theorem find?_mem {slot : Text} {slots : List (Text × α)} {value : α}
    (found : find? slot slots = some value) : ∃ name, (name, value) ∈ slots := by
  obtain ⟨⟨name, kept⟩, sought, rfl⟩ := Option.map_eq_some_iff.mp found
  exact ⟨name, List.mem_of_find?_eq_some sought⟩

theorem mem_put {slot name : Text} {value other : α} {slots : List (Text × α)}
    (member : (name, other) ∈ put slot value slots) : other = value ∨ (name, other) ∈ slots := by
  rcases List.mem_cons.mp member with first | later
  · exact .inl (congrArg Prod.snd first)
  · exact .inr (List.mem_filter.mp later).1

def Alive (session : Session) (cursor : Cursor) : Prop :=
  cursor = session.cursor ∨ ∃ slot, (slot, cursor) ∈ session.copies

theorem restoreCursor_sameText (session : Session) (saved : Text) :
    session.cursor.SameText (session.restoreCursor saved).2.cursor ∧
      (session.restoreCursor saved).2.copies = session.copies := by
  simp only [restoreCursor]
  split
  · rename_i restored
    exact ⟨Cursor.restore_sameText restored, rfl⟩
  · exact ⟨.refl _, rfl⟩

theorem advance_sameText (session : Session) {count : Nat} {taken : Text} {moved : Cursor}
    (advanced : session.cursor.tryAdvance count = .ok (taken, moved)) :
    session.cursor.SameText moved :=
  (Cursor.tryAdvance_leads advanced).sameText

theorem step_cases (rules : Rules) (budget : Nat) (session : Session) (step : Step) :
    let after := (session.step rules budget step).2.1
    (session.cursor.SameText after.cursor ∨ (∃ slot, (slot, after.cursor) ∈ session.copies) ∨
      ∃ source, after.cursor = .start source) ∧
    (after.copies = session.copies ∨
      ∃ slot, after.copies = put slot session.cursor session.copies) := by
  intro after
  cases step with
  | advance count =>
      simp only [after, Session.step]
      split
      · rename_i advanced
        exact ⟨.inl (session.advance_sameText advanced), .inl rfl⟩
      · exact ⟨.inl (.refl _), .inl rfl⟩
  | tryAdvance count =>
      simp only [after, Session.step]
      split
      · rename_i advanced
        exact ⟨.inl (session.advance_sameText advanced), .inl rfl⟩
      · exact ⟨.inl (.refl _), .inl rfl⟩
  | restore saved =>
      obtain ⟨same, copies⟩ := session.restoreCursor_sameText saved
      exact ⟨.inl same, .inl copies⟩
  | keep slot => exact ⟨.inl (.refl _), .inl rfl⟩
  | restoreKept slot =>
      simp only [after, Session.step]
      split
      · rename_i saved _
        obtain ⟨same, copies⟩ := session.restoreCursor_sameText saved
        exact ⟨.inl same, .inl copies⟩
      · exact ⟨.inl (.refl _), .inl rfl⟩
  | copy slot => exact ⟨.inl (.refl _), .inr ⟨slot, rfl⟩⟩
  | assign slot =>
      simp only [after, Session.step]
      split
      · rename_i found
        exact ⟨.inr (.inl (find?_mem found)), .inl rfl⟩
      · exact ⟨.inl (.refl _), .inl rfl⟩
  | equals slot =>
      simp only [after, Session.step]
      split <;> exact ⟨.inl (.refl _), .inl rfl⟩
  | swap slot =>
      simp only [after, Session.step]
      split
      · rename_i found
        exact ⟨.inr (.inl (find?_mem found)), .inr ⟨slot, rfl⟩⟩
      · exact ⟨.inl (.refl _), .inl rfl⟩
  | renew source => exact ⟨.inr (.inr ⟨source, rfl⟩), .inl rfl⟩
  | location => exact ⟨.inl (.refl _), .inl rfl⟩
  | describe => exact ⟨.inl (.refl _), .inl rfl⟩
  | source => exact ⟨.inl (.refl _), .inl rfl⟩
  | parse grammar =>
      exact ⟨.inl (grammar.parse_sameText rules budget session.cursor), .inl rfl⟩
  | attempt grammar =>
      exact ⟨.inl (grammar.attempt_sameText rules budget session.cursor), .inl rfl⟩

theorem alive_of_step {rules : Rules} {budget : Nat} {step : Step}
    (alive : (session.step rules budget step).2.1.Alive cursor) :
    (∃ source, cursor = .start source) ∨
      ∃ before, session.Alive before ∧ before.SameText cursor := by
  obtain ⟨cursorCases, copiesCases⟩ := session.step_cases rules budget step
  rcases alive with rfl | ⟨slot, member⟩
  · rcases cursorCases with same | ⟨slot, member⟩ | fresh
    · exact .inr ⟨_, .inl rfl, same⟩
    · exact .inr ⟨_, .inr ⟨slot, member⟩, .refl _⟩
    · exact .inl fresh
  · right
    rcases copiesCases with same | ⟨name, copied⟩
    · rw [same] at member
      exact ⟨cursor, .inr ⟨slot, member⟩, .refl cursor⟩
    · rw [copied] at member
      rcases mem_put member with rfl | member
      · exact ⟨_, .inl rfl, .refl _⟩
      · exact ⟨cursor, .inr ⟨slot, member⟩, .refl cursor⟩

/-- Some steps lead to the session from a fresh cursor; the rules may be others at each step. -/
inductive Reachable : Session → Prop
  | start (source : Text) : Reachable { cursor := .start source }
  | step {session : Session} (reached : Reachable session) (rules : Rules) (budget : Nat)
      (step : Step) : Reachable (session.step rules budget step).2.1

theorem Reachable.valid (reachable : session.Reachable) (alive : session.Alive cursor) :
    cursor.Valid := by
  induction reachable generalizing cursor with
  | start source =>
      rcases alive with rfl | ⟨slot, member⟩
      · exact Cursor.start_valid source
      · cases member
  | step reached rules budget step ih =>
      rcases alive_of_step alive with ⟨source, rfl⟩ | ⟨before, aliveBefore, same⟩
      · exact Cursor.start_valid source
      · exact same.valid (ih aliveBefore)

/-- What is shown beside an answer is the cursor of a session that the steps so far lead to. -/
theorem Reachable.of_mem_play {rules : Rules} {budget : Nat} {steps : List Step}
    (reachable : session.Reachable) {answer : Answer}
    (shown : (answer, cursor) ∈ (session.play rules budget steps).1) :
    ∃ later : Session, later.Reachable ∧ later.cursor = cursor := by
  induction steps generalizing session with
  | nil => cases shown
  | cons step steps ih =>
      have next := reachable.step rules budget step
      rcases List.mem_cons.mp shown with first | later
      · exact ⟨_, next, (congrArg Prod.snd first).symm⟩
      · exact ih next later

/-- In a session that can be reached every cursor alive is consistent, and so is every cursor that
is shown when the session goes on; a parse or an attempt never changes the source of a cursor. -/
theorem reachable_consistent (reachable : session.Reachable) :
    (∀ cursor, session.Alive cursor → cursor.Consistent) ∧
    (∀ rules budget steps answer cursor,
      (answer, cursor) ∈ (session.play rules budget steps).1 → cursor.Consistent) ∧
    ∀ rules budget grammar (cursor : Cursor),
      (Grammar.parse rules budget grammar cursor).cursor.source = cursor.source ∧
      (Parser.attempt (Grammar.parse rules budget grammar) cursor).cursor.source =
        cursor.source := by
  refine ⟨?_, ?_, ?_⟩
  · intro cursor alive
    exact (reachable.valid alive).consistent
  · intro rules budget steps answer cursor shown
    obtain ⟨later, laterReachable, rfl⟩ := reachable.of_mem_play shown
    exact (laterReachable.valid (.inl rfl)).consistent
  · intro rules budget grammar cursor
    exact ⟨(grammar.parse_sameText rules budget cursor).source_eq,
      (grammar.attempt_sameText rules budget cursor).source_eq⟩

/-- A rule goes to the character of two bytes and panics inside it, after an advance and a request
for too much were refused; then the place where it panicked is swapped for a copy of the start. -/
theorem reachable_consistent_after_panics :
    let text : Text := ['a', '\n', 'é', 'b']
    let wander : Grammar :=
      .custom (.restore ['é', 'b'] fun _ => .advance 1 fun _ => .fail)
    let steps : List Step :=
      [.copy ['k'], .advance 3, .tryAdvance 18446744073709551615, .parse wander, .swap ['k']]
    let rules : Rules := { entries := [] }
    let session : Session :=
      steps.foldl (fun session step => (Session.step rules 4 session step).2.1)
        { cursor := .start text }
    session.cursor = { source := text, offset := 0 } ∧
      session.copies = [(['k'], { source := text, offset := 2 })] ∧
      (∀ cursor, session.Alive cursor → cursor.Consistent) ∧
      (∀ rules budget steps answer cursor,
        (answer, cursor) ∈ (session.play rules budget steps).1 → cursor.Consistent) ∧
      ∀ rules budget grammar (cursor : Cursor),
        (Grammar.parse rules budget grammar cursor).cursor.source = cursor.source ∧
        (Parser.attempt (Grammar.parse rules budget grammar) cursor).cursor.source =
          cursor.source := by
  intro text wander steps rules session
  have reachable : session.Reachable :=
    .step (.step (.step (.step (.step (.start text) rules 4 _) rules 4 _) rules 4 _) rules 4 _)
      rules 4 _
  exact ⟨by decide +kernel, by decide +kernel, reachable_consistent reachable⟩

end Session

/-! ## Cursors by themselves -/

def Cursor.Reachable (cursor : Cursor) : Prop :=
  ∃ session : Session, session.Reachable ∧ session.Alive cursor

theorem Cursor.reachable_iff_valid {cursor : Cursor} : cursor.Reachable ↔ cursor.Valid := by
  constructor
  · rintro ⟨session, reachable, alive⟩
    exact reachable.valid alive
  · intro valid
    have advanced : (start cursor.source).tryAdvance cursor.offset =
        .ok (takeBytes cursor.offset cursor.source, cursor) := by
      rw [tryAdvance_of_boundary (by rwa [start_remaining]), start_remaining]
      simp [start]
    refine ⟨_, .step (.start cursor.source) { entries := [] } 0 (.tryAdvance cursor.offset), ?_⟩
    exact .inl (by simp only [Session.step, advanced])

end TextGrammar
