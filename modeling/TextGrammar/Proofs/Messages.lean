import TextGrammar.Parser.Run
import TextGrammar.Proofs.Numeral
import TextGrammar.Proofs.Pattern.Taking

/-!
What a refused operation says. The message begins with a letter for the kind of fault and has the
numbers between words, so it tells the fault with all its numbers.
-/

namespace TextGrammar

theorem decimalDigits_append_inj {value other : Nat} {rest otherRest : Text}
    (stops : ∀ character ∈ rest.head?, character.isDigit = false)
    (stopsToo : ∀ character ∈ otherRest.head?, character.isDigit = false)
    (same : decimalDigits value ++ rest = decimalDigits other ++ otherRest) :
    value = other ∧ rest = otherRest := by
  have behind := congrArg (List.dropWhile Char.isDigit) same
  rw [dropWhile_run isDigit_decimalDigits stops, dropWhile_run isDigit_decimalDigits stopsToo]
    at behind
  subst behind
  have digits := List.append_cancel_right same
  have read := congrArg (Nat.ofDigitChars 10 · 0) digits
  simp only [decimalDigits, Nat.ofDigitChars_ten_toDigits] at read
  exact ⟨read, rfl⟩

namespace CursorError

theorem toList_numbered (before after : String) (value : Nat) :
    (before ++ String.ofList (decimalDigits value) ++ after).toList =
      before.toList ++ (decimalDigits value ++ after.toList) := by
  simp

theorem message_overrun (requested available : Nat) :
    (overrun requested available).message.toList =
      "cannot advance ".toList ++ (decimalDigits requested ++ (" bytes, only ".toList ++
        (decimalDigits available ++ " remaining".toList))) := by
  have first := toList_numbered "cannot advance " " bytes, only " requested
  refine (toList_numbered _ _ available).trans ?_
  simp only [first, List.append_assoc]

theorem message_notBoundary (requested : Nat) :
    (notBoundary requested).message.toList =
      "advancing ".toList ++ (decimalDigits requested ++
        " bytes does not land on a char boundary".toList) :=
  toList_numbered _ _ _

def initial : CursorError → Char
  | overrun _ _ => 'c'
  | notBoundary _ => 'a'
  | notSuffix => 'r'

theorem head?_message (error : CursorError) :
    error.message.toList.head? = some error.initial := by
  cases error with
  | overrun requested available =>
      have text : "cannot advance ".toList.head? = some 'c' := by decide +kernel
      rw [message_overrun, List.head?_append, text]
      rfl
  | notBoundary requested =>
      have text : "advancing ".toList.head? = some 'a' := by decide +kernel
      rw [message_notBoundary, List.head?_append, text]
      rfl
  | notSuffix => decide +kernel

theorem message_injective : Function.Injective message := by
  intro error other same
  have initials : error.initial = other.initial := by
    apply Option.some.inj
    rw [← head?_message, ← head?_message, same]
  have texts := congrArg String.toList same
  cases error with
  | overrun requested available =>
      cases other with
      | overrun requestedToo availableToo =>
          rw [message_overrun, message_overrun] at texts
          obtain ⟨rfl, behind⟩ := decimalDigits_append_inj (by simp) (by simp)
            (List.append_cancel_left texts)
          obtain ⟨rfl, -⟩ := decimalDigits_append_inj (by simp) (by simp)
            (List.append_cancel_left behind)
          rfl
      | _ => simp [initial] at initials
  | notBoundary requested =>
      cases other with
      | notBoundary requestedToo =>
          rw [message_notBoundary, message_notBoundary] at texts
          obtain ⟨rfl, -⟩ := decimalDigits_append_inj (by simp) (by simp)
            (List.append_cancel_left texts)
          rfl
      | _ => simp [initial] at initials
  | notSuffix =>
      cases other with
      | notSuffix => rfl
      | _ => simp [initial] at initials

end CursorError

theorem Panic.misuse_message_inj {error other : CursorError}
    (same : (misuse error).message = (misuse other).message) : error = other :=
  CursorError.message_injective (String.append_right_inj _ |>.mp same)

end TextGrammar
