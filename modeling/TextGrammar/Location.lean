import TextGrammar.Text.Integer

/-!
Locations in a text: the line, counted from one, and the number of bytes since its start. A line
ends with a line feed, which still belongs to it.
-/

namespace TextGrammar

structure Location where
  line : Nat
  byteOffset : Nat
  deriving DecidableEq, Repr

/-- The number of bytes up to the end of the last line feed, for a text that goes on from
`position` in a line that began at `start`. -/
def lineStartFrom (position start : Nat) : Text → Nat
  | [] => start
  | character :: rest =>
      let next := position + character.utf8Size
      lineStartFrom next (if character = '\n' then next else start) rest

def lineStart (text : Text) : Nat := lineStartFrom 0 0 text

theorem lineStartFrom_le {position start : Nat} (before : start ≤ position) (text : Text) :
    lineStartFrom position start text ≤ position + byteLength text := by
  induction text generalizing position start with
  | nil => simpa [lineStartFrom] using before
  | cons character rest ih =>
      simp only [lineStartFrom, byteLength_cons, ← Nat.add_assoc]
      apply ih
      split <;> omega

theorem lineStart_le (text : Text) : lineStart text ≤ byteLength text := by
  have bound := lineStartFrom_le (Nat.le_refl 0) text
  rwa [Nat.zero_add] at bound

theorem lineStartFrom_of_oneLine {text : Text} (oneLine : '\n' ∉ text) (position start : Nat) :
    lineStartFrom position start text = start := by
  induction text generalizing position with
  | nil => rfl
  | cons character rest ih =>
      have other : character ≠ '\n' := fun same => oneLine (same ▸ List.mem_cons_self)
      rw [lineStartFrom, if_neg other]
      exact ih (fun member => oneLine (List.mem_cons_of_mem _ member)) _

def Location.after (text : Text) : Location :=
  { line := 1 + text.count '\n', byteOffset := byteLength text - lineStart text }

theorem Location.after_of_oneLine {text : Text} (oneLine : '\n' ∉ text) :
    after text = { line := 1, byteOffset := byteLength text } := by
  rw [after, List.count_eq_zero.mpr oneLine, lineStart, lineStartFrom_of_oneLine oneLine]
  rfl

def Location.display (location : Location) : String :=
  "line " ++ String.ofList (decimalDigits location.line) ++
    ", byte offset " ++ String.ofList (decimalDigits location.byteOffset)

end TextGrammar
