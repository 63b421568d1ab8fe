import TextGrammar.Parser.Whole
import TextGrammar.Proofs.Location

/-!
Whole texts and beginnings of texts. Both ways to run a grammar on a text go by one parse from its
start, so they agree: a whole text is a beginning that leaves nothing, trailing input is where a
rest that is left begins, and a failure is where the parse stopped.
-/

namespace TextGrammar

namespace Run

variable {α : Type} {run : Run α} {value : α} {location : Location}

theorem ofPrefix_eq_value {rest : Text} :
    run.ofPrefix = .value (value, rest) ↔
      run.outcome = .success value ∧ rest = run.cursor.remaining := by
  cases ended : run.outcome <;> simp [ofPrefix, ended, eq_comm]

theorem ofPrefix_eq_noMatch :
    run.ofPrefix = .error (.noMatch location) ↔
      run.outcome = .failure ∧ location = run.cursor.location := by
  cases ended : run.outcome <;> simp [ofPrefix, ended, eq_comm]

theorem ofWhole_eq_noMatch :
    run.ofWhole = .error (.noMatch location) ↔ run.ofPrefix = .error (.noMatch location) := by
  rw [ofPrefix_eq_noMatch]
  cases ended : run.outcome with
  | success value => by_cases atEnd : run.cursor.atEnd = true <;> simp [ofWhole, ended, atEnd]
  | _ => simp [ofWhole, ended, eq_comm]

theorem ofWhole_eq_value (views : run.cursor.Consistent) :
    run.ofWhole = .value value ↔ run.ofPrefix = .value (value, []) := by
  rw [ofPrefix_eq_value, eq_comm (b := run.cursor.remaining), ← views.atEnd_iff]
  cases ended : run.outcome with
  | success other => by_cases atEnd : run.cursor.atEnd = true <;> simp [ofWhole, ended, atEnd]
  | _ => simp [ofWhole, ended]

theorem ofWhole_eq_trailingInput (views : run.cursor.Consistent) :
    run.ofWhole = .error (.trailingInput location) ↔
      ∃ value rest, run.ofPrefix = .value (value, rest) ∧ rest ≠ [] ∧
        location = run.cursor.location := by
  simp only [ofPrefix_eq_value]
  cases ended : run.outcome with
  | success value =>
      by_cases atEnd : run.cursor.atEnd = true
      · have nothing := views.atEnd_iff.mp atEnd
        simp [ofWhole, ended, atEnd, nothing]
      · have more := mt views.atEnd_iff.mpr atEnd
        simp [ofWhole, ended, atEnd, more, eq_comm]
  | _ => simp [ofWhole, ended]

end Run

theorem Cursor.Valid.offset_eq {cursor : Cursor} (valid : cursor.Valid) :
    cursor.offset = byteLength cursor.source - byteLength cursor.remaining := by
  have lengths := valid.length_eq
  omega

/-- One parse from the start of a text decides about its beginning and about the whole of it. -/
theorem Grammar.parseWhole_like_parsePrefix (rules : Rules) (budget : Nat) (grammar : Grammar)
    (source : Text) :
    let parser := grammar.parse rules budget
    let run := parser (.start source)
    (∀ value rest, parser.parsePrefix source = .value (value, rest) ↔
      run.outcome = .success value ∧ rest = run.cursor.remaining) ∧
    run.cursor.remaining <:+ source ∧
    (∀ value, parser.parseWhole source = .value value ↔
      parser.parsePrefix source = .value (value, [])) ∧
    (∀ location, parser.parseWhole source = .error (.trailingInput location) ↔
      ∃ value rest, parser.parsePrefix source = .value (value, rest) ∧ rest ≠ [] ∧
        location.PointsTo source (byteLength source - byteLength rest)) ∧
    ∀ location,
      (parser.parseWhole source = .error (.noMatch location) ↔
        parser.parsePrefix source = .error (.noMatch location)) ∧
      (parser.parsePrefix source = .error (.noMatch location) ↔
        run.outcome = .failure ∧ location.PointsTo source run.cursor.offset) := by
  intro parser run
  have same : (Cursor.start source).SameText run.cursor :=
    grammar.parse_sameText rules budget (.start source)
  have valid : run.cursor.Valid := same.valid (Cursor.start_valid source)
  have sourceEq : run.cursor.source = source := same.source_eq
  have located : ∀ location, location = run.cursor.location ↔
      location.PointsTo source run.cursor.offset := by
    intro location
    rw [valid.eq_location_iff, sourceEq]
  refine ⟨fun value rest => Run.ofPrefix_eq_value, ?_,
    fun value => Run.ofWhole_eq_value valid.consistent, ?_, ?_⟩
  · obtain ⟨before, cut, -⟩ := valid.source_eq
    exact ⟨before, by rw [← cut, sourceEq]⟩
  · intro location
    refine (Run.ofWhole_eq_trailingInput valid.consistent).trans (exists_congr fun value =>
      exists_congr fun rest => and_congr_right fun begins => and_congr_right fun _ => ?_)
    have restEq : rest = run.cursor.remaining := (Run.ofPrefix_eq_value.mp begins).2
    rw [located location, valid.offset_eq, sourceEq, restEq]
  · intro location
    refine ⟨Run.ofWhole_eq_noMatch, ?_⟩
    rw [← located location]
    exact Run.ofPrefix_eq_noMatch

end TextGrammar
