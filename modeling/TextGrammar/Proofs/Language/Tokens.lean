import Mathlib.Data.List.DropRight
import TextGrammar.Grammar.Draft
import TextGrammar.Proofs.Numeral
import TextGrammar.Proofs.Reading
import TextGrammar.Value.Mapping

/-!
Tokens that languages share: single characters, numerals, and the spaces and tabs that pad the
tokens of a line.
-/

namespace TextGrammar

def isBlank (character : Char) : Bool := [' ', '\t'].contains character

theorem isBlank_iff {character : Char} :
    isBlank character = true ↔ character = ' ' ∨ character = '\t' := by
  simp [isBlank, or_iff_not_imp_left]

theorem not_isBlank_iff {character : Char} :
    isBlank character = false ↔ character ≠ ' ' ∧ character ≠ '\t' := by
  rw [← Bool.not_eq_true, isBlank_iff, not_or]

theorem not_isBlank_of_isDigit {character : Char} (digit : character.isDigit = true) :
    isBlank character = false := by
  rw [not_isBlank_iff]
  constructor <;> rintro rfl <;> cases digit

structure Padding where
  text : Text
  blank : ∀ character ∈ text, isBlank character = true

def unpadded (text : Text) : Text := text.dropWhile isBlank

theorem unpadded_padding (padding : Padding) (text : Text) :
    unpadded (padding.text ++ text) = unpadded text :=
  List.dropWhile_append_of_pos padding.blank

theorem Padding.not_isDigit (padding : Padding) {left : Text}
    (stops : ∀ character ∈ left.head?, character.isDigit = false) :
    ∀ character ∈ (padding.text ++ left).head?, character.isDigit = false := by
  obtain ⟨text, blank⟩ := padding
  cases text with
  | nil => exact stops
  | cons first rest =>
      rintro character ⟨⟩
      by_contra digit
      have solid := not_isBlank_of_isDigit (Bool.of_not_eq_false digit)
      rw [blank first List.mem_cons_self] at solid
      cases solid

theorem unpadded_of_head {text : Text}
    (solid : ∀ character ∈ text.head?, isBlank character = false) : unpadded text = text := by
  have nothing := dropWhile_run (List.forall_mem_nil _) solid
  rwa [List.nil_append] at nothing

theorem unpadded_unpadded (text : Text) : unpadded (unpadded text) = unpadded text :=
  List.dropWhile_idempotent _ _

theorem byteLength_unpadded_le (text : Text) : byteLength (unpadded text) ≤ byteLength text := by
  have whole : text.takeWhile isBlank ++ unpadded text = text := List.takeWhile_append_dropWhile
  have lengths := congrArg byteLength whole
  rw [byteLength_append] at lengths
  omega

/-! ## Expressions -/

def numberPattern : Text := ['-', '?', '[', '0', '-', '9', ']', '+']

def numberRegex : Regex :=
  .seq (.iterate (.set (.single '-')) 0 (some 1) true) (.iterate (.set .asciiDigit) 1 none true)

namespace Numeral

theorem begins (numeral : Numeral) (left : Text) :
    ∀ character ∈ (numeral.text ++ left).head?, character = '-' ∨ character.isDigit = true := by
  obtain ⟨negative, digits, nonempty, allDigits⟩ := numeral
  obtain ⟨first, rest, rfl⟩ := List.exists_cons_of_ne_nil nonempty
  cases negative with
  | true => exact fun character isHead => .inl (Option.some.inj isHead).symm
  | false =>
      rintro character ⟨⟩
      exact .inr (allDigits first List.mem_cons_self)

theorem solid (numeral : Numeral) (left : Text) :
    ∀ character ∈ (numeral.text ++ left).head?, isBlank character = false := by
  intro character isHead
  rcases numeral.begins left character isHead with rfl | digit
  · rfl
  · exact not_isBlank_of_isDigit digit

theorem takes (numeral : Numeral) {left : Text}
    (stops : ∀ character ∈ left.head?, character.isDigit = false) :
    numberRegex.Takes (numeral.text ++ left) left := by
  obtain ⟨negative, digits, nonempty, allDigits⟩ := numeral
  have run : (Regex.iterate (.set .asciiDigit) 1 none true).Takes (digits ++ left) left :=
    Regex.takes_run_oneOrMore nonempty allDigits stops
  cases negative with
  | true => exact run.perhaps (by simp [CharSet.contains_single])
  | false =>
      refine run.perhaps_not fun character isHead => ?_
      rw [List.head?_append_of_ne_nil _ nonempty] at isHead
      have digit := allDigits character (List.mem_of_mem_head? isHead)
      rw [CharSet.contains_single, beq_eq_false_iff_ne]
      rintro rfl
      cases digit

theorem readInteger (numeral : Numeral)
    (inside : IntegerRange.signed64.contains numeral.value = true) :
    Value.readInteger .signed64 (.text numeral.text) = .ok (.integer numeral.value) := by
  simp only [Value.readInteger, numeral.read (by decide) inside]

end Numeral

theorem numberRegex_refuses {text : Text}
    (others : ∀ character ∈ text.head?, character ≠ '-' ∧ character.isDigit = false) :
    numberRegex.Refuses text := by
  have missing : (Regex.iterate (.set .asciiDigit) 1 none true).Refuses text :=
    Regex.refuses_oneOrMore fun character isHead => (others character isHead).2
  refine missing.perhaps_not fun character isHead => ?_
  rw [CharSet.contains_single, beq_eq_false_iff_ne]
  exact (others character isHead).1

theorem takes_blanks (text : Text) :
    (Regex.iterate (.set (.ofList [' ', '\t'])) 0 none true).Takes text (unpadded text) := by
  have takes := Regex.takes_many (.ofList [' ', '\t']) text
  have blanks : (CharSet.ofList [' ', '\t']).contains = isBlank :=
    funext (CharSet.contains_ofList _)
  rwa [blanks] at takes

def wordRegex (word : Text) : Regex :=
  .sequence (word.map fun character => .set (.single character))

theorem takes_single (character : Char) (rest : Text) :
    (Regex.set (.single character)).Takes (character :: rest) rest :=
  Regex.takes_set (by simp [CharSet.contains_single])

theorem refuses_single {character : Char} {text : Text}
    (others : ∀ other ∈ text.head?, other ≠ character) :
    (Regex.set (.single character)).Refuses text :=
  Regex.refuses_set fun other isHead => by
    simpa [CharSet.contains_single] using others other isHead

theorem wordRegex_takes (first : Char) (rest left : Text) :
    (wordRegex (first :: rest)).Takes (first :: rest ++ left) left := by
  have more : ∀ (regex : Regex) (text : Text), regex.Takes text (rest ++ left) →
      ((rest.map fun character => .set (.single character)).foldl Regex.seq regex).Takes
        text left := by
    induction rest with
    | nil => exact fun regex text takes => takes
    | cons second rest ih =>
        exact fun regex text takes => ih _ _ (takes.seq (takes_single second (rest ++ left)))
  exact more _ _ (takes_single first (rest ++ left))

theorem wordRegex_refuses {first : Char} (rest : Text) {text : Text}
    (others : ∀ other ∈ text.head?, other ≠ first) : (wordRegex (first :: rest)).Refuses text := by
  have more : ∀ regex : Regex, regex.Refuses text →
      ((rest.map fun character => .set (.single character)).foldl Regex.seq regex).Refuses
        text := by
    induction rest with
    | nil => exact fun regex refuses => refuses
    | cons second rest ih => exact fun regex refuses => ih _ (refuses.seq _)
  exact more _ (refuses_single others)

/-! ## Grammars -/

namespace Grammar

def token (pattern : Text) (regex : Regex) : Grammar :=
  .lexer { pattern := pattern, regex := .seq (.look .textStart) regex }

def horizontalSpace : Grammar :=
  token Draft.horizontalSpacePattern (.iterate (.set (.ofList [' ', '\t'])) 0 none true)

def padded (content : Grammar) : Grammar := .quoted content horizontalSpace

variable {rules : Rules} {content : Grammar} {pattern text taken middle left : Text} {regex : Regex}
  {value : Value}

namespace Reads

theorem token (takes : regex.Takes (taken ++ left) left) :
    Reads rules (token pattern regex) (taken ++ left) (.took (.text taken) left) :=
  lexer (Lexer.reads rfl takes)

theorem token_refused (refuses : regex.Refuses text) :
    Reads rules (Grammar.token pattern regex) text .refused :=
  lexer_refused (Lexer.reads_refused rfl refuses)

theorem token_single (character : Char) (left : Text) :
    Reads rules (Grammar.token pattern (.set (.single character))) (character :: left)
      (.took (.text [character]) left) :=
  @token rules pattern [character] left _ (takes_single character left)

theorem token_single_refused {character : Char} (others : ∀ other ∈ text.head?, other ≠ character) :
    Reads rules (Grammar.token pattern (.set (.single character))) text .refused :=
  token_refused (refuses_single others)

theorem horizontalSpace (text : Text) :
    Reads rules horizontalSpace text
      (.took (.text (text.takeWhile isBlank)) (unpadded text)) := by
  have whole : text.takeWhile isBlank ++ unpadded text = text := List.takeWhile_append_dropWhile
  have reads : Reads rules Grammar.horizontalSpace (text.takeWhile isBlank ++ unpadded text)
      (.took (.text (text.takeWhile isBlank)) (unpadded text)) :=
    .token (by rw [whole]; exact takes_blanks text)
  rwa [whole] at reads

theorem padded (inside : Reads rules content (unpadded text) (.took value middle)) :
    Reads rules (padded content) text (.took value (unpadded middle)) :=
  quoted (horizontalSpace text) inside (horizontalSpace middle)

theorem padded_between (before after : Padding) {printed : Text}
    (solid : ∀ character ∈ (printed ++ (after.text ++ left)).head?, isBlank character = false)
    (stops : ∀ character ∈ left.head?, isBlank character = false)
    (inside : Reads rules content (printed ++ (after.text ++ left))
      (.took value (after.text ++ left))) :
    Reads rules (Grammar.padded content) (before.text ++ (printed ++ (after.text ++ left)))
      (.took value left) := by
  have reads : Reads rules (Grammar.padded content)
      (before.text ++ (printed ++ (after.text ++ left)))
      (.took value (unpadded (after.text ++ left))) :=
    padded (by rwa [unpadded_padding, unpadded_of_head solid])
  rwa [unpadded_padding, unpadded_of_head stops] at reads

theorem padded_refused (inside : Reads rules content (unpadded text) .refused) :
    Reads rules (Grammar.padded content) text .refused :=
  quoted_refused (horizontalSpace text) inside

end Reads

end Grammar

end TextGrammar
