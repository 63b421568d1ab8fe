import Mathlib.Data.Nat.Digits.Defs
import TextGrammar.Text.Integer

/-!
Numerals: integers as they are written in decimal, with a minus sign or without one and with as
many leading zeros as one likes. A numeral is read as its value, if the range has that.
-/

namespace TextGrammar

theorem IntegerRange.contains_iff {range : IntegerRange} {value : Int} :
    range.contains value = true ↔ range.low ≤ value ∧ value ≤ range.high := by
  simp only [contains, Bool.and_eq_true, decide_eq_true_eq]

theorem IntegerRange.signed64_contains (value : Int64) :
    signed64.contains value.toInt = true :=
  contains_iff.mpr ⟨value.le_toInt, Int.le_of_lt_add_one value.toInt_lt⟩

theorem digitValue?_of_isDigit {character : Char} (digit : character.isDigit = true) :
    digitValue? character = some (character.toNat - '0'.toNat) := by
  rw [digitValue?, if_pos digit]

theorem le_ofDigitChars (digits : Text) (value : Nat) :
    value ≤ Nat.ofDigitChars 10 digits value := by
  rw [Nat.ofDigitChars_eq_ofDigitChars_zero]
  have power : value ≤ 10 ^ digits.length * value :=
    Nat.le_mul_of_pos_left value (Nat.pow_pos (by decide))
  omega

variable {digits : Text}

theorem readUpwards_digits {high : Int}
    (allDigits : ∀ character ∈ digits, character.isDigit = true) (value : Nat)
    (inside : Nat.ofDigitChars 10 digits value ≤ high) :
    readUpwards high value digits = .ok (Nat.ofDigitChars 10 digits value) := by
  induction digits generalizing value with
  | nil => rfl
  | cons character rest ih =>
      obtain ⟨digit, restDigits⟩ := List.forall_mem_cons.mp allDigits
      rw [Nat.ofDigitChars_cons] at inside ⊢
      have grows := le_ofDigitChars rest (10 * value + (character.toNat - '0'.toNat))
      have next : (value : Int) * 10 + (character.toNat - '0'.toNat : Nat) =
          (10 * value + (character.toNat - '0'.toNat) : Nat) := by
        push_cast
        omega
      simp only [readUpwards, digitValue?_of_isDigit digit, next]
      rw [if_neg (by omega)]
      exact ih restDigits _ inside

theorem readUpwards_tooLarge {high : Int}
    (allDigits : ∀ character ∈ digits, character.isDigit = true) (value : Nat)
    (inside : (value : Int) ≤ high) (outside : high < Nat.ofDigitChars 10 digits value) :
    readUpwards high value digits = .error .tooLarge := by
  induction digits generalizing value with
  | nil =>
      rw [Nat.ofDigitChars_nil] at outside
      omega
  | cons character rest ih =>
      obtain ⟨digit, restDigits⟩ := List.forall_mem_cons.mp allDigits
      rw [Nat.ofDigitChars_cons] at outside
      have next : (value : Int) * 10 + (character.toNat - '0'.toNat : Nat) =
          (10 * value + (character.toNat - '0'.toNat) : Nat) := by
        push_cast
        omega
      simp only [readUpwards, digitValue?_of_isDigit digit, next]
      by_cases above : high < (10 * value + (character.toNat - '0'.toNat) : Nat)
      · rw [if_pos above]
      · rw [if_neg above]
        exact ih restDigits _ (by omega) outside

theorem readDownwards_digits {low : Int}
    (allDigits : ∀ character ∈ digits, character.isDigit = true) (value : Nat)
    (inside : low ≤ -(Nat.ofDigitChars 10 digits value : Int)) :
    readDownwards low (-value) digits = .ok (-(Nat.ofDigitChars 10 digits value : Int)) := by
  induction digits generalizing value with
  | nil => rfl
  | cons character rest ih =>
      obtain ⟨digit, restDigits⟩ := List.forall_mem_cons.mp allDigits
      rw [Nat.ofDigitChars_cons] at inside ⊢
      have grows := le_ofDigitChars rest (10 * value + (character.toNat - '0'.toNat))
      have next : -(value : Int) * 10 - (character.toNat - '0'.toNat : Nat) =
          -(10 * value + (character.toNat - '0'.toNat) : Nat) := by
        push_cast
        omega
      simp only [readDownwards, digitValue?_of_isDigit digit, next]
      rw [if_neg (by omega)]
      exact ih restDigits _ inside

theorem IntegerRange.read_digits (range : IntegerRange) (nonempty : digits ≠ [])
    (allDigits : ∀ character ∈ digits, character.isDigit = true) :
    range.read digits = readUpwards range.high 0 digits := by
  obtain ⟨first, rest, rfl⟩ := List.exists_cons_of_ne_nil nonempty
  have digit := allDigits first List.mem_cons_self
  have unsigned : first ≠ '+' ∧ first ≠ '-' := by
    constructor <;> rintro rfl <;> cases digit
  simp [IntegerRange.read, unsigned]

theorem decimalDigits_ne_nil (value : Nat) : decimalDigits value ≠ [] := Nat.toDigits_ne_nil

theorem isDigit_decimalDigits {value : Nat} :
    ∀ character ∈ decimalDigits value, character.isDigit = true :=
  fun _ member => Nat.isDigit_of_mem_toDigits (by decide) (by decide) member

/-- A natural number as it is written is read as itself or is too large. -/
theorem IntegerRange.read_decimalDigits {range : IntegerRange} (zero : 0 ≤ range.high)
    (value : Nat) :
    range.read (decimalDigits value) =
      if (value : Int) ≤ range.high then .ok (value : Int) else .error .tooLarge := by
  have written : Nat.ofDigitChars 10 (decimalDigits value) 0 = value :=
    Nat.ofDigitChars_ten_toDigits
  rw [range.read_digits (decimalDigits_ne_nil value) isDigit_decimalDigits]
  by_cases inside : (value : Int) ≤ range.high
  · have bound : (Nat.ofDigitChars 10 (decimalDigits value) 0 : Int) ≤ range.high := by
      rwa [written]
    have read := readUpwards_digits isDigit_decimalDigits 0 bound
    rw [written] at read
    rw [if_pos inside]
    exact read
  · have read := readUpwards_tooLarge isDigit_decimalDigits 0 zero (by rw [written]; omega)
    rw [if_neg inside]
    exact read

structure Numeral where
  negative : Bool
  digits : Text
  nonempty : digits ≠ []
  allDigits : ∀ character ∈ digits, character.isDigit = true

namespace Numeral

def text (numeral : Numeral) : Text :=
  if numeral.negative then '-' :: numeral.digits else numeral.digits

def value (numeral : Numeral) : Int :=
  if numeral.negative then -(Nat.ofDigitChars 10 numeral.digits 0 : Int)
  else Nat.ofDigitChars 10 numeral.digits 0

def ofNat (negative : Bool) (value : Nat) : Numeral where
  negative := negative
  digits := decimalDigits value
  nonempty := decimalDigits_ne_nil value
  allDigits := isDigit_decimalDigits

theorem exists_decimal (value : Int) :
    ∃ numeral : Numeral, numeral.text = decimal value ∧ numeral.value = value := by
  cases value with
  | ofNat value => exact ⟨ofNat false value, rfl, congrArg _ Nat.ofDigitChars_ten_toDigits⟩
  | negSucc value =>
      refine ⟨ofNat true (value + 1), rfl, ?_⟩
      have same : (Nat.ofDigitChars 10 (decimalDigits (value + 1)) 0 : Int) = value + 1 := by
        rw [decimalDigits, Nat.ofDigitChars_ten_toDigits]
        rfl
      simp only [Numeral.value, ofNat, if_true, same]
      omega

theorem read {range : IntegerRange} (negatives : range.low < 0) (numeral : Numeral)
    (inside : range.contains numeral.value = true) :
    range.read numeral.text = .ok numeral.value := by
  obtain ⟨negative, digits, nonempty, allDigits⟩ := numeral
  obtain ⟨first, rest, rfl⟩ := List.exists_cons_of_ne_nil nonempty
  rw [IntegerRange.contains_iff] at inside
  cases negative with
  | true =>
      have down := readDownwards_digits allDigits 0 inside.1
      simpa [IntegerRange.read, text, value, negatives] using down
  | false =>
      have up := readUpwards_digits allDigits 0 inside.2
      exact (range.read_digits nonempty allDigits).trans up

end Numeral

end TextGrammar
