import Mathlib.Data.List.Induction
import TextGrammar.Proofs.Pattern.Enclosure

/-!
Comments in a pattern. Where spaces do not count, a comment begins with a comment sign and takes
everything up to the end of its line, so whether a pattern ends in a comment can be told from its
characters and the places where they stand.
-/

namespace TextGrammar

namespace Reader

/-- After the character no comment is open that was not open before, unless one begins with the
character, or it is at a place where no pattern ends. -/
def KeepsComment (reader : Reader) (character : Char) (result : Option Reader) : Prop :=
  ∀ next ∈ result, next.comment = reader.comment ∨
    reader.flags.ignoreSpace = true ∧ character = '#' ∨ next.settle? = none

section Step

variable (reader : Reader) (character : Char)

@[simp] theorem enter_mode (mode : Mode) : (reader.enter mode).mode = mode := rfl

@[simp] theorem enter_comment (mode : Mode) : (reader.enter mode).comment = reader.comment := rfl

@[simp] theorem pushNode_comment (node : Node) :
    (reader.pushNode node).comment = reader.comment := rfl

@[simp] theorem pushRegex_comment (regex : Regex) :
    (reader.pushRegex regex).comment = reader.comment := rfl

@[simp] theorem openGroup_comment (flags : Flags) :
    (reader.openGroup flags).comment = reader.comment := rfl

@[simp] theorem nextBranch_comment : reader.nextBranch.comment = reader.comment := rfl

theorem takePart_comment {taken : Node × Reader} (took : taken ∈ reader.takePart) :
    taken.2.comment = reader.comment := by
  unfold takePart at took
  split at took
  · split at took
    · cases took
      rfl
    · cases took
  · cases took

@[simp] theorem keepsComment_none : reader.KeepsComment character none := by simp [KeepsComment]

@[simp] theorem keepsComment_some {next : Reader} :
    reader.KeepsComment character (some next) ↔ next.comment = reader.comment ∨
      reader.flags.ignoreSpace = true ∧ character = '#' ∨ next.settle? = none := by
  simp [KeepsComment]

@[simp] theorem keepsComment_map {α : Type} {made : Option α} {next : α → Reader} :
    reader.KeepsComment character (made.map next) ↔
      ∀ value ∈ made, reader.KeepsComment character (some (next value)) := by
  cases made <;> simp

@[simp] theorem keepsComment_bind {α : Type} {made : Option α} {result : α → Option Reader} :
    reader.KeepsComment character (made.bind result) ↔
      ∀ value ∈ made, reader.KeepsComment character (result value) := by
  cases made <;> simp

@[simp] theorem keepsComment_ite {condition : Prop} [Decidable condition]
    {first second : Option Reader} :
    reader.KeepsComment character (if condition then first else second) ↔
      (condition → reader.KeepsComment character first) ∧
        (¬condition → reader.KeepsComment character second) := by
  by_cases holds : condition <;> simp [holds]

variable {result : Option Reader}

theorem keepsComment_skipSpace (keeps : reader.KeepsComment character result) :
    reader.KeepsComment character (reader.skipSpace character result) := by
  simp only [skipSpace, keepsComment_ite, keepsComment_some]
  refine ⟨fun ignores => ⟨?_, fun _ => ⟨?_, fun _ => keeps⟩⟩, fun _ => keeps⟩
  · exact fun _ => .inl trivial
  · exact fun sign => .inr (.inl ⟨ignores, sign⟩)

@[simp] theorem keepsComment_closeGroup : reader.KeepsComment character reader.closeGroup := by
  unfold closeGroup
  split <;> simp

@[simp] theorem keepsComment_placeAtom (place : Place) (atom : SetAtom) (regex : Regex) :
    reader.KeepsComment character (reader.placeAtom place atom regex) := by
  cases place <;> simp [placeAtom]

@[simp] theorem keepsComment_placeCharacter (place : Place) (literal : Char) :
    reader.KeepsComment character (reader.placeCharacter place literal) := by
  simp [placeCharacter]

@[simp] theorem keepsComment_placeSet (place : Place) (set : CharSet) :
    reader.KeepsComment character (reader.placeSet place set) := by
  simp [placeSet]

@[simp] theorem keepsComment_placeLook (place : Place) (regex : Regex) :
    reader.KeepsComment character (reader.placeLook place regex) := by
  cases place <;> simp [placeLook]

@[simp] theorem keepsComment_readOperator (least : Nat) (most : Option Nat) :
    reader.KeepsComment character (reader.readOperator least most) := by
  simp only [readOperator, keepsComment_map, keepsComment_some]
  intro taken took
  exact .inl (takePart_comment reader took)

@[simp] theorem keepsComment_readPart : reader.KeepsComment character (reader.readPart character) := by
  unfold readPart
  apply keepsComment_skipSpace (reader.enter .part)
  split
  case h_2 => exact keepsComment_closeGroup (reader.enter .part) _
  case h_5 => exact keepsComment_readOperator (reader.enter .part) _ _ _
  case h_6 => exact keepsComment_readOperator (reader.enter .part) _ _ _
  case h_7 => exact keepsComment_readOperator (reader.enter .part) _ _ _
  case h_8 =>
    simp only [keepsComment_map, keepsComment_some]
    intro taken took
    exact .inl (takePart_comment (reader.enter .part) took)
  all_goals simp

@[simp] theorem keepsComment_readGreed (body : Node) (least : Nat) (most : Option Nat) (counted : Bool) :
    reader.KeepsComment character (reader.readGreed body least most counted character) := by
  have goesOn : reader.KeepsComment character
      (if character = '?' then some (reader.pushRepetition body least most false)
        else (reader.pushRepetition body least most true).readPart character) := by
    simp only [keepsComment_ite]
    refine ⟨fun _ => ?_, fun _ => ?_⟩
    · simp [pushRepetition]
    · exact keepsComment_readPart (reader.pushRepetition body least most true) character
  cases counted with
  | true => exact keepsComment_skipSpace reader character goesOn
  | false => exact goesOn

@[simp] theorem keepsComment_readGroupStart :
    reader.KeepsComment character (reader.readGroupStart character) := by
  apply keepsComment_skipSpace
  rw [keepsComment_ite]
  refine ⟨fun _ => ?_, fun _ => ?_⟩
  · simp
  · exact keepsComment_readPart (reader.openGroup reader.flags) character

@[simp] theorem keepsComment_readCountLeast (body : Node) (value : Option Nat) (ended : Bool) :
    reader.KeepsComment character (reader.readCountLeast body value ended character) := by
  apply keepsComment_skipSpace (reader.enter _)
  simp

@[simp] theorem keepsComment_readCountMost (body : Node) (least : Nat) (value : Option Nat)
    (ended : Bool) :
    reader.KeepsComment character (reader.readCountMost body least value ended character) := by
  apply keepsComment_skipSpace (reader.enter _)
  simp

@[simp] theorem keepsComment_readCountComma (body : Node) (least : Nat) :
    reader.KeepsComment character (reader.readCountComma body least character) := by
  apply keepsComment_skipSpace
  simp

@[simp] theorem keepsComment_readWordBoundary :
    reader.KeepsComment character (reader.readWordBoundary character) := by
  unfold readWordBoundary
  rw [keepsComment_ite]
  refine ⟨fun _ => ?_, fun _ => ?_⟩
  · simp
  · exact keepsComment_readPart reader.pushWordBoundary character

@[simp] theorem keepsComment_readWordBoundaryMark :
    reader.KeepsComment character (reader.readWordBoundaryMark character) := by
  apply keepsComment_skipSpace
  simp

@[simp] theorem keepsComment_readWordBoundaryName (name : List Char) :
    reader.KeepsComment character (reader.readWordBoundaryName name character) := by
  apply keepsComment_skipSpace
  simp

@[simp] theorem keepsComment_readGroupName (name : List Char) :
    reader.KeepsComment character (reader.readGroupName name character) := by
  simp [readGroupName, openGroup]

@[simp] theorem keepsComment_readGroupFlags (letters : FlagLetters) :
    reader.KeepsComment character (reader.readGroupFlags letters character) := by
  simp [readGroupFlags, pushNode]

@[simp] theorem keepsComment_readGroupMark :
    reader.KeepsComment character (reader.readGroupMark character) := by
  simp [readGroupMark]

@[simp] theorem keepsComment_readGroupNameMark :
    reader.KeepsComment character (reader.readGroupNameMark character) := by
  simp [readGroupNameMark]

@[simp] theorem keepsComment_closeBracket (brackets : OpenBrackets) :
    reader.KeepsComment character (reader.closeBracket brackets) := by
  simp only [closeBracket, keepsComment_bind]
  intro closed _
  split <;> simp

@[simp] theorem keepsComment_readBracketItem (brackets : OpenBrackets) :
    reader.KeepsComment character (reader.readBracketItem brackets character) := by
  apply keepsComment_skipSpace (reader.enter _)
  simp

@[simp] theorem keepsComment_readAfterItem (brackets : OpenBrackets) (atom : SetAtom) :
    reader.KeepsComment character (reader.readAfterItem brackets atom character) := by
  simp [readAfterItem]

@[simp] theorem keepsComment_readBracketAtom (brackets : OpenBrackets) (atom : SetAtom) :
    reader.KeepsComment character (reader.readBracketAtom brackets atom character) := by
  apply keepsComment_skipSpace (reader.enter _)
  simp

@[simp] theorem enter_readBracketAtom (mode : Mode) (brackets : OpenBrackets) (atom : SetAtom) :
    (reader.enter mode).readBracketAtom brackets atom character =
      reader.readBracketAtom brackets atom character :=
  rfl

@[simp] theorem keepsComment_readBracketTwin (brackets : OpenBrackets) (first : Char) :
    reader.KeepsComment character (reader.readBracketTwin brackets first character) := by
  simp [readBracketTwin]

@[simp] theorem keepsComment_readBracketRange (brackets : OpenBrackets) (first : SetAtom) :
    reader.KeepsComment character (reader.readBracketRange brackets first character) := by
  apply keepsComment_skipSpace (reader.enter _)
  simp

@[simp] theorem keepsComment_readBracketHyphen (brackets : OpenBrackets) (atom : SetAtom)
    (spaced : Bool) :
    reader.KeepsComment character (reader.readBracketHyphen brackets atom spaced character) := by
  simp [readBracketHyphen, splitHyphen]

@[simp] theorem keepsComment_readBracketHyphenComment (brackets : OpenBrackets) (atom : SetAtom)
    (ended : Bool) :
    reader.KeepsComment character
      (reader.readBracketHyphenComment brackets atom ended character) := by
  simp [readBracketHyphenComment, splitHyphen, settle?]

@[simp] theorem keepsComment_readBracketLead (brackets : OpenBrackets) :
    reader.KeepsComment character (reader.readBracketLead brackets character) := by
  apply keepsComment_skipSpace (reader.enter _)
  simp

@[simp] theorem keepsComment_readBracketStart (enclosing : List Bracket) :
    reader.KeepsComment character (reader.readBracketStart enclosing character) := by
  apply keepsComment_skipSpace (reader.enter _)
  simp

@[simp] theorem keepsComment_readNestedBracket (brackets : OpenBrackets) (buffer : List Char) :
    reader.KeepsComment character (reader.readNestedBracket brackets buffer character) := by
  cases buffer <;> simp [readNestedBracket]

@[simp] theorem keepsComment_readBracketClass (brackets : OpenBrackets) (buffer : List Char) :
    reader.KeepsComment character (reader.readBracketClass brackets buffer character) := by
  simp only [readBracketClass]
  split <;> simp

@[simp] theorem keepsComment_finishHexDigits (place : Place) (digits value : Nat) :
    reader.KeepsComment character (reader.finishHexDigits place digits value) := by
  simp [finishHexDigits]

@[simp] theorem keepsComment_readHexDigit (place : Place) (digits left value : Nat) :
    reader.KeepsComment character (reader.readHexDigit place digits left value character) := by
  simp [readHexDigit]

@[simp] theorem keepsComment_readHexStart (place : Place) (digits : Nat) :
    reader.KeepsComment character (reader.readHexStart place digits character) := by
  apply keepsComment_skipSpace
  simp

@[simp] theorem keepsComment_readHexDigits (place : Place) (digits left value : Nat) :
    reader.KeepsComment character (reader.readHexDigits place digits left value character) := by
  apply keepsComment_skipSpace
  simp

@[simp] theorem keepsComment_readHexBrace (place : Place) (value : Option Nat) :
    reader.KeepsComment character (reader.readHexBrace place value character) := by
  apply keepsComment_skipSpace
  simp

@[simp] theorem keepsComment_readProperty (place : Place) (negated : Bool) :
    reader.KeepsComment character (reader.readProperty place negated character) := by
  apply keepsComment_skipSpace
  simp

@[simp] theorem keepsComment_readPropertyName (place : Place) (negated : Bool) (name : List Char) :
    reader.KeepsComment character (reader.readPropertyName place negated name character) := by
  apply keepsComment_skipSpace
  simp

@[simp] theorem keepsComment_readEscape (place : Place) :
    reader.KeepsComment character (reader.readEscape place character) := by
  unfold readEscape
  split
  · simp
  · simp only [keepsComment_ite, keepsComment_some]
    refine ⟨?_, fun _ => ⟨?_, ?_⟩⟩
    · simp
    · cases place <;> simp
    · cases control? character <;> simp

end Step

variable {reader next : Reader} {character : Char} {flags : Flags} {pattern : List Char}

/-- A comment begins at some sign, and no line ends behind it. -/
inductive EndsInComment (flags : Flags) : List Char → Prop
  | begun {before comment : List Char} {reader opened : Reader}
      (fed : (start flags).feedAll before = some reader) (outside : reader.comment = false)
      (ignoresSpace : reader.flags.ignoreSpace = true) (begins : reader.feed '#' = some opened)
      (inside : opened.comment = true) (unended : '\n' ∉ comment) :
      EndsInComment flags (before ++ '#' :: comment)

theorem EndsInComment.longer (ends : EndsInComment flags pattern) (notEnded : character ≠ '\n') :
    EndsInComment flags (pattern ++ [character]) := by
  obtain ⟨fed, outside, ignoresSpace, begins, inside, unended⟩ := ends
  rename_i before comment reader opened
  rw [List.append_assoc, List.cons_append]
  exact .begun fed outside ignoresSpace begins inside (by simp [unended, Ne.symm notEnded])

end Reader

end TextGrammar
