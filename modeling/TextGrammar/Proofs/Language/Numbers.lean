import TextGrammar.Proofs.Language.Tokens

/-!
Lists of numbers with commas between them. Numbers may be of any size, but only those of 32 bits are
read: the list ends before the first one that does not fit, and the text that is left is the list of
the others as it is written.
-/

namespace TextGrammar.Numbers

def joined (numbers : List Nat) : Text := [','].intercalate (numbers.map decimalDigits)

@[simp] theorem joined_nil : joined [] = [] := rfl

theorem joined_cons_cons (number next : Nat) (rest : List Nat) :
    joined (number :: next :: rest) = decimalDigits number ++ ',' :: joined (next :: rest) := by
  simp [joined, List.intercalate_cons_cons]

theorem joined_singleton (number : Nat) : joined [number] = decimalDigits number := by
  simp [joined]

theorem joined_ne_nil (number : Nat) (rest : List Nat) : joined (number :: rest) ≠ [] := by
  cases rest with
  | nil => simp [joined_singleton, decimalDigits_ne_nil]
  | cons next rest => simp [joined_cons_cons]

theorem joined_cons (number : Nat) (rest : List Nat) :
    ∃ left, joined (number :: rest) = decimalDigits number ++ left ∧
      ∀ character ∈ left.head?, character.isDigit = false := by
  cases rest with
  | nil => exact ⟨[], by rw [joined_singleton, List.append_nil], by simp⟩
  | cons next rest => exact ⟨',' :: joined (next :: rest), joined_cons_cons number next rest, by simp⟩

def values (numbers : List Nat) : List Value := numbers.map fun number : Nat => .integer number

def fits (number : Nat) : Bool := number < 2 ^ 32

/-! ## The grammar -/

def digitsPattern : Text := ['[', '0', '-', '9', ']', '+']

def draft : Draft :=
  .repeated (.tryMap (.lexer digitsPattern) (Value.readInteger .unsigned32)) (.lexer [',']) false

def number : Grammar :=
  .tryMap (.token digitsPattern (.iterate (.set .asciiDigit) 1 none true))
    (Value.readInteger .unsigned32)

def comma : Grammar := .token [','] (.set (.single ','))

def grammar : Grammar := .repeated number comma false

theorem build_draft : Draft.build [] draft = .ok grammar := rfl

/-! ## What it reads -/

variable {rules : Rules} {left : Text}

theorem readInteger_decimalDigits (value : Nat) :
    Value.readInteger .unsigned32 (.text (decimalDigits value)) =
      if fits value then .ok (.integer value) else .error IntegerError.tooLarge.message := by
  have inside : (value : Int) ≤ IntegerRange.unsigned32.high ↔ fits value = true := by
    simp only [IntegerRange.unsigned32, fits, decide_eq_true_eq]
    omega
  have read := @IntegerRange.read_decimalDigits .unsigned32 (by decide) value
  by_cases small : fits value = true
  · simp [Value.readInteger, read, inside.mpr small, small]
  · simp [Value.readInteger, read, mt inside.mp small, small]

theorem digits_read (value : Nat) (stops : ∀ character ∈ left.head?, character.isDigit = false) :
    Grammar.Reads rules (.token digitsPattern (.iterate (.set .asciiDigit) 1 none true))
      (decimalDigits value ++ left) (.took (.text (decimalDigits value)) left) :=
  .token (Regex.takes_run_oneOrMore (decimalDigits_ne_nil value) isDigit_decimalDigits stops)

theorem number_reads {value : Nat} (small : fits value = true)
    (stops : ∀ character ∈ left.head?, character.isDigit = false) :
    Grammar.Reads rules number (decimalDigits value ++ left) (.took (.integer value) left) :=
  (digits_read value stops).tryMap (by rw [readInteger_decimalDigits, if_pos small])

/-- The digits are taken before it turns out that the number is too large. -/
theorem number_refused {value : Nat} (large : ¬fits value = true)
    (stops : ∀ character ∈ left.head?, character.isDigit = false) :
    Grammar.Reads rules number (decimalDigits value ++ left) .refused :=
  (digits_read value stops).tryMap_rejected (by rw [readInteger_decimalDigits, if_neg large])

theorem grammar_reads (numbers : List Nat) :
    Grammar.Reads rules grammar (joined numbers)
      (.took (.list (values (numbers.takeWhile fits)))
        (joined (numbers.dropWhile fits))) := by
  induction numbers with
  | nil =>
      have missing : Grammar.Reads rules number [] .refused :=
        .tryMap_refused (.token_refused (Regex.refuses_oneOrMore (by simp))) _
      exact .repeated_none missing
  | cons value rest ih =>
      by_cases small : fits value = true
      · rw [List.takeWhile_cons_of_pos small, List.dropWhile_cons_of_pos small]
        cases rest with
        | nil =>
            have reads : Grammar.Reads rules number (decimalDigits value ++ [])
                (.took (.integer value) []) := number_reads small (by simp)
            rw [List.append_nil] at reads
            rw [joined_singleton]
            exact .repeated_last reads (.token_single_refused (by simp))
        | cons next rest =>
            rw [joined_cons_cons]
            refine .repeated_next (number_reads small (by simp)) (.token_single ',' _) ?_ ih
            have separator := ','.utf8Size_pos
            simp only [byteLength_append, byteLength_cons]
            omega
      · rw [List.takeWhile_cons_of_neg small, List.dropWhile_cons_of_neg small]
        obtain ⟨left, joinedEq, stops⟩ := joined_cons value rest
        rw [joinedEq]
        exact .repeated_none (number_refused small stops)

/-- Reading a written list gives the numbers before the first one that does not fit and leaves the
list of the others, from that one on; so it comes to the end just if all numbers fit. -/
theorem parse_joined (numbers : List Nat) :
    ∃ grammar, Draft.build [] draft = .ok grammar ∧ ∃ least, ∀ budget, least ≤ budget →
      let run := (grammar.parse (.ofDrafts []) budget).onText (joined numbers)
      run.outcome = .success (.list (values (numbers.takeWhile fits))) ∧
        run.cursor.remaining = joined (numbers.dropWhile fits) ∧
        (run.cursor.atEnd = true ↔ ∀ number ∈ numbers, number < 2 ^ 32) := by
  have reads : Grammar.Reads (.ofDrafts []) grammar (joined numbers) _ := grammar_reads numbers
  refine ⟨grammar, build_draft, Filter.eventually_atTop.mp (reads.mono fun budget reads => ?_)⟩
  have valid := Cursor.start_valid (joined numbers)
  obtain ⟨ended, same, ahead⟩ := reads valid (by simp [Cursor.remaining, Cursor.start, dropBytes])
  refine ⟨ended, ahead, ?_⟩
  have allRead : joined (numbers.dropWhile fits) = [] ↔ ∀ number ∈ numbers, number < 2 ^ 32 := by
    have each : numbers.dropWhile fits = [] ↔ ∀ number ∈ numbers, number < 2 ^ 32 := by
      simp [List.dropWhile_eq_nil_iff, fits]
    rw [← each]
    cases numbers.dropWhile fits with
    | nil => simp
    | cons number rest => simp [joined_ne_nil]
  exact (same.valid valid).consistent.atEnd_iff.trans (by rw [ahead, allRead])

end TextGrammar.Numbers
