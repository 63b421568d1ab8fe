import TextGrammar.Proofs.Run
import TextGrammar.Session

/-!
Refused steps of a session. A step that is answered with an error or with nothing leaves the whole
session as it was, its copies and kept texts too, whatever was tried before the refusal. So such a
step can be left out, and no other step is answered in another way.
-/

namespace TextGrammar.Session

/-- The answers that say that nothing was done: errors, the panic of an advance, an attempt without
a value, and slots that hold nothing. -/
def Answer.isRefusal : Answer → Bool
  | .refused _ => true
  | .panic _ => true
  | .attempted (.success none) => true
  | .emptySlot _ => true
  | _ => false

variable {rules : Rules} {budget : Nat} {session : Session} {answer : Answer} {cursor : Cursor}

theorem restoreCursor_of_refusal {saved : Text}
    (refused : (session.restoreCursor saved).1.isRefusal = true) :
    (session.restoreCursor saved).2 = session := by
  simp only [restoreCursor] at refused ⊢
  split
  · rename_i restored
    rw [restored] at refused
    cases refused
  · rfl

theorem attempt_of_refusal {grammar : Grammar}
    (refused : (Answer.attempted (Parser.attempt (grammar.parse rules budget)
      session.cursor).outcome).isRefusal = true) :
    (Parser.attempt (grammar.parse rules budget) session.cursor).cursor = session.cursor := by
  have nothing : (Parser.attempt (grammar.parse rules budget) session.cursor).outcome =
      .success none := by
    unfold Answer.isRefusal at refused
    split at refused <;> simp_all
  rw [Parser.attempt_of_failure (Parser.failure_of_attempt_none nothing)]

theorem step_of_refusal {step : Step}
    (refused : (session.step rules budget step).1.isRefusal = true) :
    (session.step rules budget step).2.1 = session := by
  cases step with
  | advance count | tryAdvance count =>
      simp only [Session.step] at refused ⊢
      split
      · rename_i advanced
        rw [advanced] at refused
        cases refused
      · rfl
  | assign slot | swap slot =>
      simp only [Session.step] at refused ⊢
      split
      · rename_i found
        rw [found] at refused
        cases refused
      · rfl
  | restore saved => exact restoreCursor_of_refusal refused
  | restoreKept slot =>
      simp only [Session.step] at refused ⊢
      split
      · rename_i found
        rw [found] at refused
        exact restoreCursor_of_refusal refused
      · rfl
  | equals slot =>
      simp only [Session.step]
      split <;> rfl
  | attempt grammar =>
      have putBack := attempt_of_refusal refused
      simp only [Session.step, putBack]
  | keep slot | copy slot | renew source | parse grammar => cases refused
  | location | describe | source => rfl

def after (rules : Rules) (budget : Nat) (session : Session) (steps : List Step) : Session :=
  steps.foldl (fun session step => (session.step rules budget step).2.1) session

theorem play_cons (rules : Rules) (budget : Nat) (session : Session) (step : Step)
    (steps : List Step) :
    (session.play rules budget (step :: steps)).1 =
      ((session.step rules budget step).1, (session.step rules budget step).2.1.cursor) ::
        ((session.step rules budget step).2.1.play rules budget steps).1 :=
  rfl

/-- A refused step can be left out of a session: all other steps are answered as they were and
leave the cursor where it was, and the session ends with the same cursor, copies and kept texts. -/
theorem play_without_refusal {steps : List Step} {index : Nat}
    (answered : (session.play rules budget steps).1[index]? = some (answer, cursor))
    (refused : answer.isRefusal = true) :
    (session.play rules budget (steps.eraseIdx index)).1 =
        (session.play rules budget steps).1.eraseIdx index ∧
      session.after rules budget (steps.eraseIdx index) = session.after rules budget steps := by
  induction steps generalizing session index with
  | nil => cases answered
  | cons step steps ih =>
      cases index with
      | zero =>
          rw [play_cons, List.getElem?_cons_zero, Option.some.injEq, Prod.mk.injEq] at answered
          have unchanged := step_of_refusal (answered.1 ▸ refused)
          rw [List.eraseIdx_cons_zero, play_cons, List.eraseIdx_cons_zero, unchanged]
          exact ⟨rfl, congrArg (after rules budget · steps) unchanged.symm⟩
      | succ index =>
          rw [play_cons, List.getElem?_cons_succ] at answered
          obtain ⟨answers, last⟩ := ih answered
          rw [List.eraseIdx_cons_succ, play_cons, play_cons, List.eraseIdx_cons_succ, answers]
          exact ⟨rfl, last⟩

/-- A rule takes a byte, goes back to a kept text, takes another byte in an attempt of its own and
then fails; its attempt can be left out between an advance that panics and a swap. -/
theorem play_without_refusal_attempt :
    let text : Text := ['a', 'é', 'b']
    let wander : Grammar :=
      .pair (.custom (.tryAdvance 1 fun _ => .restore text fun _ => .succeed .unit))
        (.pair (.attempt (.custom (Script.tryTake 1))) (.custom .fail))
    let steps : List Session.Step :=
      [.copy ['k'], .advance 3, .advance 2, .attempt wander, .swap ['k'], .tryAdvance 4, .location]
    let rules : Rules := { entries := [] }
    let session : Session := { cursor := .start text }
    (session.play rules 5 steps).1[3]? =
        some (.attempted (.success none), { source := text, offset := 3 }) ∧
      (Answer.attempted (.success none)).isRefusal = true ∧
      (session.play rules 5 (steps.eraseIdx 3)).1 =
        (session.play rules 5 steps).1.eraseIdx 3 ∧
      session.after rules 5 (steps.eraseIdx 3) = session.after rules 5 steps := by
  intro text wander steps rules session
  have answered : (session.play rules 5 steps).1[3]? =
      some (.attempted (.success none), { source := text, offset := 3 }) := by
    subst session rules steps wander text
    rfl
  exact ⟨answered, rfl, play_without_refusal answered rfl⟩

end TextGrammar.Session
