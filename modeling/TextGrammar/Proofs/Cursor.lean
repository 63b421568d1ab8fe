import TextGrammar.Cursor

/-!
Valid cursors and moves. A cursor is valid if its offset is between two characters of its source,
and then all its views are what they should be. Advancing and restoring keep the source and lead
from a valid cursor to a valid one; advancing never goes back.
-/

namespace TextGrammar.Cursor

/-- The source has a beginning of whole characters that is as long as the offset. -/
def Valid (cursor : Cursor) : Prop := isBoundary cursor.offset cursor.source = true

theorem valid_iff {cursor : Cursor} :
    cursor.Valid ↔ ∃ before after, cursor.source = before ++ after ∧
      byteLength before = cursor.offset :=
  isBoundary_iff _ _

theorem start_valid (source : Text) : (start source).Valid :=
  valid_iff.mpr ⟨[], source, rfl, rfl⟩

@[simp] theorem start_remaining (source : Text) : (start source).remaining = source := by
  simp [remaining, start, dropBytes]

theorem Valid.source_eq {cursor : Cursor} (valid : cursor.Valid) :
    ∃ before, cursor.source = before ++ cursor.remaining ∧ byteLength before = cursor.offset := by
  obtain ⟨before, after, sourceEq, lengthEq⟩ := valid_iff.mp valid
  refine ⟨before, ?_, lengthEq⟩
  rw [remaining, ← lengthEq, sourceEq, dropBytes_byteLength_append]

theorem Valid.length_eq {cursor : Cursor} (valid : cursor.Valid) :
    cursor.offset + byteLength cursor.remaining = byteLength cursor.source := by
  obtain ⟨before, sourceEq, lengthEq⟩ := valid.source_eq
  have lengths := congrArg byteLength sourceEq
  rw [byteLength_append, lengthEq] at lengths
  exact lengths.symm

theorem Valid.offset_le {cursor : Cursor} (valid : cursor.Valid) :
    cursor.offset ≤ byteLength cursor.source := by
  have lengths := valid.length_eq
  omega

theorem Valid.remaining_of_advance {cursor : Cursor} (valid : cursor.Valid)
    {taken rest : Text} (ahead : cursor.remaining = taken ++ rest) :
    Cursor.remaining { cursor with offset := cursor.offset + byteLength taken } = rest := by
  obtain ⟨before, sourceEq, lengthEq⟩ := valid.source_eq
  rw [remaining, ← lengthEq, sourceEq, dropBytes_append, ahead, dropBytes_byteLength_append]

theorem tryAdvance_eq_ok {cursor next : Cursor} {count : Nat} {token : Text} :
    cursor.tryAdvance count = .ok (token, next) ↔
      (∃ rest, cursor.remaining = token ++ rest) ∧ byteLength token = count ∧
        next = { cursor with offset := cursor.offset + count } := by
  simp only [tryAdvance]
  constructor
  · intro advanced
    split at advanced
    · simp at advanced
    · split at advanced
      · rename_i boundary
        simp only [Except.ok.injEq, Prod.mk.injEq] at advanced
        obtain ⟨left, right, remainingEq, rfl⟩ := (isBoundary_iff _ _).mp boundary
        rw [remainingEq, takeBytes_byteLength_append] at advanced
        obtain ⟨rfl, nextEq⟩ := advanced
        exact ⟨⟨right, remainingEq⟩, rfl, nextEq.symm⟩
      · simp at advanced
  · rintro ⟨⟨rest, remainingEq⟩, rfl, rfl⟩
    have enough : ¬byteLength cursor.remaining < byteLength token := by
      rw [remainingEq, byteLength_append]
      omega
    have boundary : isBoundary (byteLength token) cursor.remaining = true :=
      (isBoundary_iff _ _).mpr ⟨token, rest, remainingEq, rfl⟩
    rw [if_neg enough, if_pos boundary, remainingEq, takeBytes_byteLength_append]

theorem tryAdvance_of_boundary {cursor : Cursor} {count : Nat}
    (boundary : isBoundary count cursor.remaining = true) :
    cursor.tryAdvance count =
      .ok (takeBytes count cursor.remaining, { cursor with offset := cursor.offset + count }) := by
  obtain ⟨left, right, remainingEq, rfl⟩ := (isBoundary_iff _ _).mp boundary
  rw [tryAdvance_eq_ok, remainingEq, takeBytes_byteLength_append]
  exact ⟨⟨right, rfl⟩, rfl, rfl⟩

/-- The second cursor is the first one moved forward, or not moved at all. -/
structure Leads (first second : Cursor) : Prop where
  source_eq : second.source = first.source
  offset_le : first.offset ≤ second.offset
  valid : first.Valid → second.Valid

theorem Leads.refl (cursor : Cursor) : cursor.Leads cursor :=
  ⟨rfl, Nat.le_refl _, id⟩

theorem Leads.trans {first second third : Cursor} (near : first.Leads second)
    (far : second.Leads third) : first.Leads third :=
  ⟨far.source_eq.trans near.source_eq, Nat.le_trans near.offset_le far.offset_le,
    fun valid => far.valid (near.valid valid)⟩

theorem Leads.remaining_lt {first second : Cursor} (leads : first.Leads second)
    (valid : first.Valid) (moved : second.offset ≠ first.offset) :
    byteLength second.remaining < byteLength first.remaining := by
  have before := valid.length_eq
  have after := (leads.valid valid).length_eq
  rw [leads.source_eq, ← before] at after
  have forward := leads.offset_le
  omega

theorem tryAdvance_leads {cursor next : Cursor} {count : Nat} {token : Text}
    (advanced : cursor.tryAdvance count = .ok (token, next)) : cursor.Leads next := by
  obtain ⟨⟨rest, remainingEq⟩, rfl, rfl⟩ := tryAdvance_eq_ok.mp advanced
  refine ⟨rfl, Nat.le_add_right _ _, fun valid => valid_iff.mpr ?_⟩
  obtain ⟨before, sourceEq, lengthEq⟩ := valid.source_eq
  refine ⟨before ++ token, rest, ?_, ?_⟩
  · rw [sourceEq, remainingEq, List.append_assoc]
  · rw [byteLength_append, lengthEq]

theorem restore_eq_ok {cursor next : Cursor} {saved : Text} :
    cursor.restore saved = .ok next ↔
      ∃ before, cursor.source = before ++ saved ∧
        next = { cursor with offset := byteLength before } := by
  simp only [restore]
  constructor
  · intro restored
    split at restored
    · simp at restored
    · split at restored
      · rename_i suffix
        simp only [Bool.and_eq_true, beq_iff_eq] at suffix
        obtain ⟨before, after, sourceEq, lengthEq⟩ := (isBoundary_iff _ _).mp suffix.1
        have afterEq : after = saved := by
          rw [← suffix.2, ← lengthEq, sourceEq, dropBytes_byteLength_append]
        subst afterEq
        refine ⟨before, sourceEq, ?_⟩
        rw [lengthEq]
        exact (Except.ok.inj restored).symm
      · simp at restored
  · rintro ⟨before, sourceEq, rfl⟩
    have enough : ¬byteLength cursor.source < byteLength saved := by
      rw [sourceEq, byteLength_append]
      omega
    have offsetEq : byteLength cursor.source - byteLength saved = byteLength before := by
      rw [sourceEq, byteLength_append]
      omega
    have boundary : isBoundary (byteLength before) cursor.source = true :=
      (isBoundary_iff _ _).mpr ⟨before, saved, sourceEq, rfl⟩
    have suffix : dropBytes (byteLength before) cursor.source = saved := by
      rw [sourceEq, dropBytes_byteLength_append]
    rw [if_neg enough, offsetEq, boundary, suffix]
    simp

structure SameText (first second : Cursor) : Prop where
  source_eq : second.source = first.source
  valid : first.Valid → second.Valid

theorem SameText.refl (cursor : Cursor) : cursor.SameText cursor := ⟨rfl, id⟩

theorem SameText.eq_of_offset {first second : Cursor} (same : first.SameText second)
    (inPlace : second.offset = first.offset) : second = first := by
  obtain ⟨source, offset⟩ := second
  obtain rfl : source = first.source := same.source_eq
  obtain rfl : offset = first.offset := inPlace
  rfl

theorem SameText.trans {first second third : Cursor} (near : first.SameText second)
    (far : second.SameText third) : first.SameText third :=
  ⟨far.source_eq.trans near.source_eq, fun valid => far.valid (near.valid valid)⟩

theorem Leads.sameText {first second : Cursor} (leads : first.Leads second) :
    first.SameText second :=
  ⟨leads.source_eq, leads.valid⟩

theorem restore_sameText {cursor next : Cursor} {saved : Text}
    (restored : cursor.restore saved = .ok next) : cursor.SameText next := by
  obtain ⟨before, sourceEq, rfl⟩ := restore_eq_ok.mp restored
  exact ⟨rfl, fun _ => valid_iff.mpr ⟨before, saved, sourceEq, rfl⟩⟩

/-! ## Views -/

/-- Every view of the cursor cuts its source between two characters, at the offset or at the start
of the line before it, and the views fit together. -/
structure Consistent (cursor : Cursor) : Prop where
  offset_le : cursor.offset ≤ byteLength cursor.source
  boundary : isBoundary cursor.offset cursor.source = true
  consumed_length : byteLength cursor.consumed = cursor.offset
  consumed_append_remaining : cursor.consumed ++ cursor.remaining = cursor.source
  atEnd_iff : cursor.atEnd = true ↔ cursor.remaining = []
  lineStart_le : lineStart cursor.consumed ≤ cursor.offset
  location_eq : cursor.location.byteOffset + lineStart cursor.consumed = cursor.offset

theorem Valid.consistent {cursor : Cursor} (valid : cursor.Valid) : cursor.Consistent := by
  have lengths := valid.length_eq
  have consumedLength : byteLength cursor.consumed = cursor.offset := by
    obtain ⟨before, after, sourceEq, lengthEq⟩ := valid_iff.mp valid
    rw [consumed, ← lengthEq, sourceEq, takeBytes_byteLength_append]
  have lineStart := lineStart_le cursor.consumed
  rw [consumedLength] at lineStart
  constructor
  · exact valid.offset_le
  · exact valid
  · exact consumedLength
  · exact takeBytes_append_dropBytes _ _
  · rw [atEnd, beq_iff_eq, ← byteLength_eq_zero]
    omega
  · exact lineStart
  · simp only [location, Location.after, consumedLength]
    omega

theorem Consistent.consumed_of_remaining {cursor : Cursor} (views : cursor.Consistent)
    (before : Text) (sourceEq : cursor.source = before ++ cursor.remaining) :
    cursor.consumed = before := by
  have whole := views.consumed_append_remaining
  rw [sourceEq] at whole
  exact List.append_cancel_right whole

end TextGrammar.Cursor
