import TextGrammar.Proofs.Reachable
import TextGrammar.Proofs.Refusal

/-!
Moves of a cursor. An advance takes the whole characters that have the length asked for and says
what is wrong if there are none; a restore goes to any text that the source ends in. A position is
known by the text behind it, so a kept text leads back from wherever the cursor has been, just as a
kept copy does.
-/

namespace TextGrammar

theorem isBoundary_iff_leading {count : Nat} {text : Text} :
    isBoundary count text = true ↔ ∃ leading, leading <+: text ∧ byteLength leading = count := by
  rw [isBoundary_iff]
  constructor
  · rintro ⟨leading, rest, cut, length⟩
    exact ⟨leading, ⟨rest, cut.symm⟩, length⟩
  · rintro ⟨leading, ⟨rest, cut⟩, length⟩
    exact ⟨leading, rest, cut.symm, length⟩

/-! ## Advancing -/

namespace Cursor

variable {cursor next last : Cursor} {count more : Nat} {leading further : Text}

theorem tryAdvance_cases (cursor : Cursor) (count : Nat) :
    (byteLength cursor.remaining < count ∧
      cursor.tryAdvance count = .error (.overrun count (byteLength cursor.remaining))) ∨
    (count ≤ byteLength cursor.remaining ∧
      (∀ leading, leading <+: cursor.remaining → byteLength leading ≠ count) ∧
      cursor.tryAdvance count = .error (.notBoundary count)) ∨
    ∃ leading, leading <+: cursor.remaining ∧ byteLength leading = count ∧
      cursor.tryAdvance count =
        .ok (leading, { cursor with offset := cursor.offset + count }) := by
  by_cases tooFar : byteLength cursor.remaining < count
  · exact .inl ⟨tooFar, by simp only [tryAdvance, if_pos tooFar]⟩
  · right
    by_cases whole : isBoundary count cursor.remaining = true
    · obtain ⟨leading, ⟨rest, cut⟩, length⟩ := isBoundary_iff_leading.mp whole
      have advanced := tryAdvance_eq_ok.mpr ⟨⟨rest, cut.symm⟩, length, rfl⟩
      exact .inr ⟨leading, ⟨rest, cut⟩, length, advanced⟩
    · have inside : ∀ leading, leading <+: cursor.remaining → byteLength leading ≠ count :=
        fun leading leads length => whole (isBoundary_iff_leading.mpr ⟨leading, leads, length⟩)
      have refused : cursor.tryAdvance count = .error (.notBoundary count) := by
        simp only [tryAdvance, if_neg tooFar, if_neg whole]
      exact .inl ⟨Nat.not_lt.mp tooFar, inside, refused⟩

theorem tryAdvance_eq_overrun {requested available : Nat} :
    cursor.tryAdvance count = .error (.overrun requested available) ↔
      byteLength cursor.remaining < count ∧ requested = count ∧
        available = byteLength cursor.remaining := by
  rcases cursor.tryAdvance_cases count with
    ⟨tooFar, result⟩ | ⟨enough, -, result⟩ | ⟨leading, ⟨rest, cut⟩, length, result⟩
  · simp [result, tooFar, eq_comm]
  · simp [result, Nat.not_lt.mpr enough]
  · have enough : ¬byteLength cursor.remaining < count := by
      rw [← cut, byteLength_append]
      omega
    simp [result, enough]

theorem tryAdvance_eq_notBoundary {requested : Nat} :
    cursor.tryAdvance count = .error (.notBoundary requested) ↔
      count ≤ byteLength cursor.remaining ∧ requested = count ∧
        ∀ leading, leading <+: cursor.remaining → byteLength leading ≠ count := by
  rcases cursor.tryAdvance_cases count with
    ⟨tooFar, result⟩ | ⟨enough, inside, result⟩ | ⟨leading, leads, length, result⟩
  · simp [result, Nat.not_le.mpr tooFar]
  · rw [result]
    constructor
    · intro same
      cases same
      exact ⟨enough, rfl, inside⟩
    · rintro ⟨-, rfl, -⟩
      rfl
  · simp only [result, reduceCtorEq, false_iff]
    rintro ⟨-, -, inside⟩
    exact inside leading leads length

theorem tryAdvance_eq_ok_iff_leading :
    cursor.tryAdvance count = .ok (leading, next) ↔
      leading <+: cursor.remaining ∧ byteLength leading = count ∧
        next = { cursor with offset := cursor.offset + count } := by
  rw [tryAdvance_eq_ok]
  simp only [List.IsPrefix, eq_comm (b := cursor.remaining)]

theorem Valid.tryAdvance_add (valid : cursor.Valid)
    (near : cursor.tryAdvance count = .ok (leading, next)) :
    next.tryAdvance more = .ok (further, last) ↔
      cursor.tryAdvance (count + more) = .ok (leading ++ further, last) := by
  obtain ⟨⟨rest, cut⟩, rfl, rfl⟩ := tryAdvance_eq_ok.mp near
  have ahead := valid.remaining_of_advance cut
  simp only [tryAdvance_eq_ok, ahead, cut, List.append_assoc, List.append_cancel_left_eq,
    byteLength_append, Nat.add_assoc, Nat.add_left_cancel_iff]

end Cursor

namespace Session

variable {session : Session}

/-- An advance from a cursor that can be reached is refused in two cases, for its length alone if
that is too great, and otherwise takes just the leading characters of that length. A refusal leaves
everything as it was; the offset grows within the source, so it fits the word that the length of
the source fits; and two advances one after the other are one. -/
theorem advance_exact (reachable : session.Reachable) (rules : Rules) (budget count : Nat) :
    (∀ requested available,
      session.cursor.tryAdvance count = .error (.overrun requested available) ↔
        byteLength session.cursor.remaining < count ∧ requested = count ∧
          available = byteLength session.cursor.remaining) ∧
    (∀ requested,
      session.cursor.tryAdvance count = .error (.notBoundary requested) ↔
        count ≤ byteLength session.cursor.remaining ∧ requested = count ∧
          ∀ leading, leading <+: session.cursor.remaining → byteLength leading ≠ count) ∧
    (∀ leading next,
      session.cursor.tryAdvance count = .ok (leading, next) ↔
        leading <+: session.cursor.remaining ∧ byteLength leading = count ∧
          next = { session.cursor with offset := session.cursor.offset + count }) ∧
    ((∃ error,
      session.cursor.tryAdvance count = .error error ∧
      session.step rules budget (.tryAdvance count) = (.refused error, session, []) ∧
      session.step rules budget (.advance count) = (.panic (.misuse error), session, [])) ∨
    ∃ leading next,
      session.cursor.tryAdvance count = .ok (leading, next) ∧
      session.step rules budget (.tryAdvance count) =
        (.taken leading, { session with cursor := next }, []) ∧
      session.step rules budget (.advance count) =
        (.taken leading, { session with cursor := next }, []) ∧
      next.offset ≤ byteLength next.source ∧
      (byteLength session.cursor.source < UInt64.size →
        (UInt64.ofNat session.cursor.offset + UInt64.ofNat count).toNat = next.offset) ∧
      ∀ more further last,
        next.tryAdvance more = .ok (further, last) ↔
          session.cursor.tryAdvance (count + more) = .ok (leading ++ further, last)) := by
  have valid : session.cursor.Valid := reachable.valid (.inl rfl)
  refine ⟨fun _ _ => Cursor.tryAdvance_eq_overrun, fun _ => Cursor.tryAdvance_eq_notBoundary,
    fun _ _ => Cursor.tryAdvance_eq_ok_iff_leading, ?_⟩
  cases result : session.cursor.tryAdvance count with
  | error error =>
      refine .inl ⟨error, rfl, ?_, ?_⟩ <;> simp only [step, result]
  | ok advanced =>
      obtain ⟨leading, next⟩ := advanced
      have within := ((Cursor.tryAdvance_leads result).valid valid).offset_le
      refine .inr ⟨leading, next, rfl, ?_, ?_, within, ?_, fun _ _ _ => valid.tryAdvance_add result⟩
      · simp only [step, result]
      · simp only [step, result]
      · intro small
        obtain ⟨-, -, rfl⟩ := Cursor.tryAdvance_eq_ok.mp result
        have fits : session.cursor.offset + count < UInt64.size := Nat.lt_of_le_of_lt within small
        rw [UInt64.toNat_add, UInt64.toNat_ofNat', UInt64.toNat_ofNat', ← Nat.add_mod]
        exact Nat.mod_eq_of_lt fits

/-- Behind one character, with one of two bytes and another of one byte ahead. -/
theorem advance_exact_between_characters :
    let text : Text := ['a', 'é', 'b']
    let session : Session :=
      (Session.step { entries := [] } 0 { cursor := .start text } (.advance 1)).2.1
    session.Reachable ∧
      session.cursor.tryAdvance 18446744073709551615 =
        .error (.overrun 18446744073709551615 3) ∧
      (∀ leading, leading <+: ['é', 'b'] → byteLength leading ≠ 1) ∧
      session.cursor.tryAdvance 3 = .ok (['é'] ++ ['b'], { source := text, offset := 4 }) := by
  intro text session
  have reachable : session.Reachable := .step (.start text) { entries := [] } 0 (.advance 1)
  have tooFar := (advance_exact reachable { entries := [] } 0 18446744073709551615).1
  have inside := (advance_exact reachable { entries := [] } 0 1).2.1
  refine ⟨reachable, (tooFar _ _).mpr ⟨by decide, rfl, rfl⟩, ((inside 1).mp rfl).2.2, ?_⟩
  rcases (advance_exact reachable { entries := [] } 0 2).2.2.2 with
    ⟨error, refused, -, -⟩ | ⟨leading, next, advanced, -, -, -, -, further⟩
  · cases refused
  · cases advanced
    exact (further 1 ['b'] _).mp rfl

end Session

/-! ## Restoring -/

namespace Cursor

variable {cursor other later next : Cursor} {saved : Text}

theorem restore_error {error : CursorError} (refused : cursor.restore saved = .error error) :
    error = .notSuffix := by
  simp only [restore] at refused
  split at refused
  · cases refused
    rfl
  · split at refused <;> cases refused
    rfl

theorem restore_cases (cursor : Cursor) (saved : Text) :
    (saved <:+ cursor.source ∧ ∃ moved : Cursor, moved.source = cursor.source ∧
      moved.remaining = saved ∧ cursor.restore saved = .ok moved) ∨
    (¬saved <:+ cursor.source ∧ cursor.restore saved = .error .notSuffix) := by
  by_cases suffix : saved <:+ cursor.source
  · obtain ⟨before, cut⟩ := suffix
    refine .inl ⟨⟨before, cut⟩, { cursor with offset := byteLength before }, rfl, ?_,
      restore_eq_ok.mpr ⟨before, cut.symm, rfl⟩⟩
    rw [remaining, ← cut, dropBytes_byteLength_append]
  · refine .inr ⟨suffix, ?_⟩
    cases result : cursor.restore saved with
    | ok moved =>
        obtain ⟨before, cut, -⟩ := restore_eq_ok.mp result
        exact absurd ⟨before, cut.symm⟩ suffix
    | error error => rw [restore_error result]

theorem SameText.restore_remaining (same : cursor.SameText later) (valid : cursor.Valid) :
    later.restore cursor.remaining = .ok cursor := by
  obtain ⟨before, cut, length⟩ := valid.source_eq
  refine restore_eq_ok.mpr ⟨before, same.source_eq.trans cut, ?_⟩
  rw [length, same.source_eq]

theorem Valid.eq_iff_remaining_eq (valid : cursor.Valid) (otherValid : other.Valid)
    (sameSource : other.source = cursor.source) :
    other = cursor ↔ other.remaining = cursor.remaining := by
  constructor
  · rintro rfl
    rfl
  · intro sameRemaining
    have lengths := valid.length_eq
    have otherLengths := otherValid.length_eq
    rw [sameSource, sameRemaining] at otherLengths
    cases cursor
    cases other
    simp only [Cursor.mk.injEq] at sameSource ⊢
    exact ⟨sameSource, by simp only at lengths otherLengths; omega⟩

end Cursor

namespace Session

variable {α : Type} {session middle later : Session} {slot other : Text} {step : Step}

theorem find?_put (slot : Text) (value : α) (slots : List (Text × α)) :
    find? slot (put slot value slots) = some value := by
  simp [find?, put]

theorem find?_put_of_ne (apart : other ≠ slot) (value : α) (slots : List (Text × α)) :
    find? slot (put other value slots) = find? slot slots := by
  rw [find?, put, List.find?_cons_of_neg (by simpa using apart), List.find?_filter, find?]
  congr 2
  funext entry
  by_cases named : entry.1 = slot
  · simp [named, Ne.symm apart]
  · simp [named]

/-- The step does not bring another cursor in, and keeps nothing under this name. -/
def Step.Roams (slot : Text) : Step → Prop
  | .assign _ => False
  | .swap _ => False
  | .renew _ => False
  | .keep other => other ≠ slot
  | .copy other => other ≠ slot
  | _ => True

/-- The cursor has been moved in its source, and the same is kept under the name. -/
structure Keeps (slot : Text) (session later : Session) : Prop where
  sameText : session.cursor.SameText later.cursor
  copy_eq : find? slot later.copies = find? slot session.copies
  kept_eq : find? slot later.kept = find? slot session.kept

theorem Keeps.refl (slot : Text) (session : Session) : Keeps slot session session :=
  ⟨.refl _, rfl, rfl⟩

theorem Keeps.trans (near : Keeps slot session middle) (far : Keeps slot middle later) :
    Keeps slot session later :=
  ⟨near.sameText.trans far.sameText, far.copy_eq.trans near.copy_eq,
    far.kept_eq.trans near.kept_eq⟩

theorem restoreCursor_keeps (slot : Text) (session : Session) (saved : Text) :
    Keeps slot session (session.restoreCursor saved).2 := by
  simp only [restoreCursor]
  split
  · rename_i restored
    exact ⟨Cursor.restore_sameText restored, rfl, rfl⟩
  · exact .refl slot session

theorem step_keeps (roams : step.Roams slot) (rules : Rules) (budget : Nat) (session : Session) :
    Keeps slot session (session.step rules budget step).2.1 := by
  cases step with
  | advance count | tryAdvance count =>
      simp only [Session.step]
      split
      · rename_i advanced
        exact ⟨session.advance_sameText advanced, rfl, rfl⟩
      · exact .refl slot session
  | restore saved => exact restoreCursor_keeps slot session saved
  | restoreKept name =>
      simp only [Session.step]
      split
      · exact restoreCursor_keeps slot session _
      · exact .refl slot session
  | keep name => exact ⟨.refl _, rfl, find?_put_of_ne roams _ _⟩
  | copy name => exact ⟨.refl _, find?_put_of_ne roams _ _, rfl⟩
  | assign name | swap name | renew source => exact roams.elim
  | equals name =>
      simp only [Session.step]
      split <;> exact .refl slot session
  | location | describe | source => exact .refl slot session
  | parse grammar => exact ⟨grammar.parse_sameText rules budget session.cursor, rfl, rfl⟩
  | attempt grammar => exact ⟨grammar.attempt_sameText rules budget session.cursor, rfl, rfl⟩

theorem after_keeps {steps : List Step} (roam : ∀ step ∈ steps, step.Roams slot) (rules : Rules)
    (budget : Nat) (session : Session) : Keeps slot session (session.after rules budget steps) := by
  induction steps generalizing session with
  | nil => exact .refl slot session
  | cons step steps ih =>
      have first := step_keeps (roam step List.mem_cons_self) rules budget session
      exact first.trans (ih (fun later member => roam later (List.mem_cons_of_mem _ member)) _)

/-- Restoring succeeds just for the texts that the source ends in, and then that text remains; for
any other text nothing changes. Whatever happens in between, a kept text leads back to where it was
kept, as a kept copy does, for cursors in one source are told apart by what remains. -/
theorem restore_leads_back (reachable : session.Reachable) (rules : Rules) (budget : Nat) :
    (∀ saved,
      (saved <:+ session.cursor.source ∧ ∃ moved : Cursor,
        moved.source = session.cursor.source ∧ moved.remaining = saved ∧
        session.cursor.restore saved = .ok moved ∧
        session.step rules budget (.restore saved) =
          (.restored, { session with cursor := moved }, [])) ∨
      (¬saved <:+ session.cursor.source ∧
        session.cursor.restore saved = .error .notSuffix ∧
        session.step rules budget (.restore saved) = (.refused .notSuffix, session, []))) ∧
    (∀ slot steps, (∀ step ∈ steps, Step.Roams slot step) →
      let later := session.after rules budget (.copy slot :: .keep slot :: steps)
      later.cursor.restore session.cursor.remaining = .ok session.cursor ∧
      later.step rules budget (.restoreKept slot) =
        (.restored, { later with cursor := session.cursor }, []) ∧
      later.step rules budget (.assign slot) =
        (.same true, { later with cursor := session.cursor }, [])) ∧
    ∀ other : Cursor, other.Reachable → other.source = session.cursor.source →
      (other = session.cursor ↔ other.remaining = session.cursor.remaining) := by
  have valid : session.cursor.Valid := reachable.valid (.inl rfl)
  refine ⟨?_, ?_, ?_⟩
  · intro saved
    rcases session.cursor.restore_cases saved with
      ⟨suffix, moved, sameSource, ahead, restored⟩ | ⟨noSuffix, refused⟩
    · refine .inl ⟨suffix, moved, sameSource, ahead, restored, ?_⟩
      simp only [step, restoreCursor, restored]
    · refine .inr ⟨noSuffix, refused, ?_⟩
      simp only [step, restoreCursor, refused]
  · intro slot steps roam later
    let marked : Session :=
      { session with
        copies := put slot session.cursor session.copies
        kept := put slot session.cursor.remaining session.kept }
    have keeps : Keeps slot marked later := after_keeps roam rules budget marked
    have copied : find? slot later.copies = some session.cursor :=
      keeps.copy_eq.trans (find?_put slot _ _)
    have kept : find? slot later.kept = some session.cursor.remaining :=
      keeps.kept_eq.trans (find?_put slot _ _)
    have restored : later.cursor.restore session.cursor.remaining = .ok session.cursor :=
      keeps.sameText.restore_remaining valid
    refine ⟨restored, ?_, ?_⟩
    · simp only [step, kept, restoreCursor, restored]
    · simp only [step, copied]
  · intro other otherReachable sameSource
    exact valid.eq_iff_remaining_eq (Cursor.reachable_iff_valid.mp otherReachable) sameSource

/-- In a text that repeats itself: a rule goes on to the end, takes a byte too many there and
panics, and a text that is no end of the source is refused. -/
theorem restore_leads_back_after_panic :
    let text : Text := ['a', 'é', 'a', 'é']
    let session : Session :=
      (Session.step { entries := [] } 9 { cursor := .start text } (.advance 1)).2.1
    let steps : List Step :=
      [.restore ['é'], .parse (.pair (.custom .rest) (.custom (.take 1))), .restore ['é', 'a'],
        .restore text, .keep ['j']]
    let later := session.after { entries := [] } 9 (.copy ['k'] :: .keep ['k'] :: steps)
    session.Reachable ∧ (∀ step ∈ steps, Step.Roams ['k'] step) ∧
      later.cursor = .start text ∧
      later.cursor.restore ['é', 'a', 'é'] = .ok { source := text, offset := 1 } ∧
      ({ source := text, offset := 4 } : Cursor) ≠ session.cursor := by
  intro text session steps later
  have reachable : session.Reachable := .step (.start text) { entries := [] } 9 (.advance 1)
  have roam : ∀ step ∈ steps, Step.Roams ['k'] step := by
    simp [steps, Step.Roams]
  obtain ⟨-, back, apart⟩ := restore_leads_back reachable { entries := [] } 9
  have other : ({ source := text, offset := 4 } : Cursor).Reachable :=
    Cursor.reachable_iff_valid.mpr rfl
  refine ⟨reachable, roam, by decide +kernel, (back ['k'] steps roam).1, ?_⟩
  exact mt (apart _ other rfl).mp (by decide)

end Session

end TextGrammar
