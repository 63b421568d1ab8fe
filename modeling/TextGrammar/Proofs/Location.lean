import TextGrammar.Proofs.Reachable

/-!
Locations and positions. A source is cut into lines at its line feeds, and a location says how far
into which of these lines a position is. There is one such location for each position, so locations
tell positions apart and keep their order.
-/

namespace TextGrammar

@[simp] theorem utf8Size_lineFeed : '\n'.utf8Size = 1 := rfl

/-! ## Lines -/

/-- The pieces of a text between its line feeds. What follows the last of them is a line too. -/
def lines (text : Text) : List Text := text.splitOn '\n'

def endedLength : List Text → Nat
  | [] => 0
  | line :: later => byteLength line + 1 + endedLength later

@[simp] theorem endedLength_nil : endedLength [] = 0 := rfl

@[simp] theorem endedLength_cons (line : Text) (later : List Text) :
    endedLength (line :: later) = byteLength line + 1 + endedLength later := rfl

@[simp] theorem endedLength_append (earlier later : List Text) :
    endedLength (earlier ++ later) = endedLength earlier + endedLength later := by
  induction earlier with
  | nil => simp
  | cons line rest ih => simp [ih, Nat.add_assoc]

theorem lines_append_lineFeed (front back : Text) :
    lines (front ++ '\n' :: back) = lines front ++ lines back :=
  List.splitOn_append_cons_self front back

theorem lines_cons_lineFeed (text : Text) : lines ('\n' :: text) = [] :: lines text :=
  lines_append_lineFeed [] text

theorem lines_eq_cons (text : Text) : ∃ first later, lines text = first :: later :=
  List.exists_cons_of_ne_nil (List.splitOn_ne_nil '\n' text)

theorem lines_cons_of_ne {character : Char} (other : character ≠ '\n') {text first : Text}
    {later : List Text} (cut : lines text = first :: later) :
    lines (character :: text) = (character :: first) :: later := by
  rw [lines, List.splitOn_cons_eq_if_modifyHead, if_neg (by simpa using other), ← lines, cut]
  rfl

theorem lines_append_of_oneLine {front : Text} (oneLine : '\n' ∉ front) {back first : Text}
    {later : List Text} (cut : lines back = first :: later) :
    lines (front ++ back) = (front ++ first) :: later := by
  induction front with
  | nil => exact cut
  | cons character rest ih =>
      have other : character ≠ '\n' := fun same => oneLine (same ▸ List.mem_cons_self)
      exact lines_cons_of_ne other (ih fun member => oneLine (List.mem_cons_of_mem _ member))

theorem length_lines (text : Text) : (lines text).length = text.count '\n' + 1 := by
  induction text with
  | nil => rfl
  | cons character rest ih =>
      by_cases feed : character = '\n'
      · subst feed
        rw [lines_cons_lineFeed, List.length_cons, ih, List.count_cons_self]
      · obtain ⟨first, later, cut⟩ := lines_eq_cons rest
        rw [lines_cons_of_ne feed cut, List.count_cons_of_ne feed, ← ih, cut]
        rfl

theorem endedLength_lines (text : Text) : endedLength (lines text) = byteLength text + 1 := by
  induction text with
  | nil => rfl
  | cons character rest ih =>
      by_cases feed : character = '\n'
      · subst feed
        rw [lines_cons_lineFeed, endedLength_cons, ih, byteLength_nil, byteLength_cons,
          utf8Size_lineFeed]
        omega
      · obtain ⟨first, later, cut⟩ := lines_eq_cons rest
        rw [cut, endedLength_cons] at ih
        rw [lines_cons_of_ne feed cut, endedLength_cons, byteLength_cons, byteLength_cons]
        omega

theorem oneLine_or_lastLine (text : Text) :
    '\n' ∉ text ∨ ∃ front last, text = front ++ '\n' :: last ∧ '\n' ∉ last := by
  induction text with
  | nil => exact .inl List.not_mem_nil
  | cons character rest ih =>
      rcases ih with oneLine | ⟨front, last, rfl, oneLine⟩
      · by_cases feed : character = '\n'
        · subst feed
          exact .inr ⟨[], rest, rfl, oneLine⟩
        · exact .inl fun member => (List.mem_cons.mp member).elim (feed ·.symm) oneLine
      · exact .inr ⟨character :: front, last, rfl, oneLine⟩

theorem lineStartFrom_append (position start : Nat) (front back : Text) :
    lineStartFrom position start (front ++ back) =
      lineStartFrom (position + byteLength front) (lineStartFrom position start front) back := by
  induction front generalizing position start with
  | nil => rfl
  | cons character rest ih =>
      simp only [List.cons_append, lineStartFrom, ih, byteLength_cons, Nat.add_assoc]

theorem lineStart_of_lastLine (front : Text) {last : Text} (oneLine : '\n' ∉ last) :
    lineStart (front ++ '\n' :: last) = byteLength front + 1 := by
  rw [lineStart, lineStartFrom_append, lineStartFrom, lineStartFrom_of_oneLine oneLine, if_pos rfl,
    Nat.zero_add]
  rfl

theorem Location.after_lastLine (front : Text) {last : Text} (oneLine : '\n' ∉ last) :
    after (front ++ '\n' :: last) =
      { line := (lines front).length + 1, byteOffset := byteLength last } := by
  have counted : (front ++ '\n' :: last).count '\n' = (lines front).length := by
    rw [List.count_append, List.count_cons_self, List.count_eq_zero.mpr oneLine, length_lines]
  rw [after, counted, lineStart_of_lastLine front oneLine, byteLength_append, byteLength_cons,
    utf8Size_lineFeed, Location.mk.injEq]
  omega

/-! ## Line feeds as bytes -/

def utf8Bytes (text : Text) : List UInt8 := text.flatMap String.utf8EncodeChar

theorem lt_of_mem_utf8EncodeChar {character : Char} (several : 127 < character.val.toNat) :
    ∀ byte ∈ String.utf8EncodeChar character, 127 < byte.toNat := by
  simp only [String.utf8EncodeChar, if_neg (Nat.not_le.mpr several)]
  split
  · simp
    omega
  · split <;> simp <;> omega

theorem lineFeed_mem_utf8EncodeChar (character : Char) :
    10 ∈ String.utf8EncodeChar character ↔ character = '\n' := by
  constructor
  · intro member
    by_cases single : character.val.toNat ≤ 127
    · simp only [String.utf8EncodeChar, if_pos single, List.mem_singleton] at member
      rw [← UInt8.toNat_inj, UInt8.toNat_ofNat_of_lt' (Nat.lt_of_le_of_lt single (by decide))]
        at member
      exact Char.ext (UInt32.toNat_inj.mp member.symm)
    · have above := lt_of_mem_utf8EncodeChar (Nat.not_le.mp single) 10 member
      exact absurd above (by decide)
  · rintro rfl
    decide

theorem count_lineFeed_utf8Bytes (text : Text) :
    (utf8Bytes text).count 10 = text.count '\n' := by
  induction text with
  | nil => rfl
  | cons character rest ih =>
      have behind : utf8Bytes (character :: rest) =
          String.utf8EncodeChar character ++ utf8Bytes rest := rfl
      rw [behind, List.count_append, ih]
      by_cases feed : character = '\n'
      · subst feed
        rw [List.count_cons_self, Nat.add_comm]
        rfl
      · have absent := mt (lineFeed_mem_utf8EncodeChar character).mp feed
        rw [List.count_eq_zero.mpr absent, List.count_cons_of_ne feed, Nat.zero_add]

/-! ## The place that a location names -/

/-- With the source cut into lines, the location names a line of it, the bytes of the lines before
that one and of their line feeds lead with the byte offset to the position, and the byte offset is
not beyond the line. -/
structure Location.PointsTo (location : Location) (source : Text) (offset : Nat) : Prop where
  line_pos : 0 < location.line
  line_le : location.line ≤ (lines source).length
  offset_eq :
    endedLength ((lines source).take (location.line - 1)) + location.byteOffset = offset
  byteOffset_le : ∀ line, (lines source)[location.line - 1]? = some line →
    location.byteOffset ≤ byteLength line

namespace Location

variable {first second location : Location} {source : Text} {offset other : Nat}

theorem pointsTo_of_cut (earlier : List Text) {later : List Text} {line : Text}
    (cut : lines source = earlier ++ line :: later) (byteOffset : Nat)
    (within : byteOffset ≤ byteLength line) :
    PointsTo { line := earlier.length + 1, byteOffset := byteOffset } source
      (endedLength earlier + byteOffset) := by
  constructor
  · exact Nat.succ_pos _
  · simp [cut]
  · simp [cut]
  · intro found isLine
    simp only [cut, Nat.add_sub_cancel, List.getElem?_append_right (Nat.le_refl _), Nat.sub_self,
      List.getElem?_cons_zero, Option.some.injEq] at isLine
    exact isLine ▸ within

theorem after_pointsTo (before rest : Text) :
    (after before).PointsTo (before ++ rest) (byteLength before) := by
  obtain ⟨first, later, cut⟩ := lines_eq_cons rest
  rcases oneLine_or_lastLine before with oneLine | ⟨front, last, rfl, oneLine⟩
  · have points := pointsTo_of_cut [] (lines_append_of_oneLine oneLine cut) (byteLength before)
      (by simp)
    simpa [after_of_oneLine oneLine] using points
  · -- what follows the last line feed goes on in the first line of the rest
    have behind : lines (front ++ '\n' :: last ++ rest) =
        lines front ++ (last ++ first) :: later := by
      rw [List.append_assoc, List.cons_append, lines_append_lineFeed,
        lines_append_of_oneLine oneLine cut]
    have points := pointsTo_of_cut (lines front) behind (byteLength last) (by simp)
    rw [endedLength_lines] at points
    rw [after_lastLine front oneLine, byteLength_append, byteLength_cons, utf8Size_lineFeed,
      ← Nat.add_assoc]
    exact points

/-! ## Order -/

def Precedes (first second : Location) : Prop :=
  first.line < second.line ∨ first.line = second.line ∧ first.byteOffset < second.byteOffset

theorem PointsTo.lt_of_line_lt (near : first.PointsTo source offset)
    (far : second.PointsTo source other) (less : first.line < second.line) : offset < other := by
  have positive := near.line_pos
  have bound : first.line - 1 < (lines source).length := by
    have atMost := near.line_le
    omega
  have within := near.byteOffset_le _ (List.getElem?_eq_getElem bound)
  have nearEq := near.offset_eq
  -- the line of the first position and its line feed are among what comes before the second line
  obtain ⟨between, betweenEq⟩ : ∃ between, second.line - 1 = first.line - 1 + (between + 1) :=
    ⟨second.line - first.line - 1, by omega⟩
  have farEq := far.offset_eq
  rw [betweenEq, List.take_add, List.drop_eq_getElem_cons bound, List.take_succ_cons,
    endedLength_append, endedLength_cons] at farEq
  omega

theorem PointsTo.lt_iff (near : first.PointsTo source offset)
    (far : second.PointsTo source other) : offset < other ↔ first.Precedes second := by
  rcases Nat.lt_trichotomy first.line second.line with less | same | more
  · exact ⟨fun _ => .inl less, fun _ => near.lt_of_line_lt far less⟩
  · have nearEq := near.offset_eq
    have farEq := far.offset_eq
    rw [same] at nearEq
    simp only [Precedes, same, Nat.lt_irrefl, true_and, false_or]
    omega
  · have back := far.lt_of_line_lt near more
    simp only [Precedes]
    omega

theorem PointsTo.eq_iff (near : first.PointsTo source offset)
    (far : second.PointsTo source other) : first = second ↔ offset = other := by
  constructor
  · rintro rfl
    rw [← near.offset_eq, far.offset_eq]
  · intro same
    have forth := near.lt_iff far
    have back := far.lt_iff near
    simp only [Precedes] at forth back
    have lineEq : first.line = second.line := by omega
    have byteOffsetEq : first.byteOffset = second.byteOffset := by omega
    cases first
    cases second
    cases lineEq
    cases byteOffsetEq
    rfl

end Location

theorem Cursor.Valid.location_pointsTo {cursor : Cursor} (valid : cursor.Valid) :
    cursor.location.PointsTo cursor.source cursor.offset := by
  have views := valid.consistent
  have points := Location.after_pointsTo cursor.consumed cursor.remaining
  rwa [views.consumed_append_remaining, views.consumed_length] at points

theorem Cursor.Valid.eq_location_iff {cursor : Cursor} (valid : cursor.Valid)
    {location : Location} :
    location = cursor.location ↔ location.PointsTo cursor.source cursor.offset := by
  constructor
  · rintro rfl
    exact valid.location_pointsTo
  · intro points
    exact (points.eq_iff valid.location_pointsTo).mpr rfl

/-- The location of a cursor that can be reached points to its offset, and its line is counted by
the line feed bytes before. For cursors in one source, equal locations are equal offsets, and a
smaller offset is an earlier location. -/
theorem Cursor.location_tells_position {cursor : Cursor} (reachable : cursor.Reachable) :
    cursor.location.PointsTo cursor.source cursor.offset ∧
    cursor.location.line = 1 + (utf8Bytes cursor.consumed).count 10 ∧
    ∀ other : Cursor, other.Reachable → other.source = cursor.source →
      (cursor.location = other.location ↔ cursor.offset = other.offset) ∧
      (cursor.offset < other.offset ↔ cursor.location.Precedes other.location) := by
  have points := (reachable_iff_valid.mp reachable).location_pointsTo
  refine ⟨points, ?_, ?_⟩
  · rw [count_lineFeed_utf8Bytes]
    rfl
  · intro other otherReachable sameSource
    have otherPoints := (reachable_iff_valid.mp otherReachable).location_pointsTo
    rw [sameSource] at otherPoints
    exact ⟨points.eq_iff otherPoints, points.lt_iff otherPoints⟩

/-- Before and behind the first of two line feeds that follow a line of one character. -/
theorem Cursor.location_tells_position_around_lineFeed :
    let source : Text := ['\n', 'é', '\n', '\n', 'b']
    let before : Cursor := { source := source, offset := 3 }
    let behind : Cursor := { source := source, offset := 4 }
    before.Reachable ∧ behind.Reachable ∧
      before.location = { line := 2, byteOffset := 2 } ∧
      behind.location = { line := 3, byteOffset := 0 } ∧
      before.location.PointsTo source 3 ∧ behind.location.PointsTo source 4 ∧
      before.location ≠ behind.location ∧ before.location.Precedes behind.location := by
  intro source before behind
  have beforeReachable : before.Reachable := reachable_iff_valid.mpr rfl
  have behindReachable : behind.Reachable := reachable_iff_valid.mpr rfl
  obtain ⟨points, -, others⟩ := location_tells_position beforeReachable
  obtain ⟨equal, earlier⟩ := others behind behindReachable rfl
  exact ⟨beforeReachable, behindReachable, by decide, by decide, points,
    (location_tells_position behindReachable).1, mt equal.mp (by decide),
    earlier.mp (by decide)⟩

end TextGrammar
