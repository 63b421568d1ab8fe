import Mathlib.Data.Option.Basic
import TextGrammar.Pattern.Reader

/-!
Reading a pattern inside a group. A reader never looks at the groups around the one that it is in
until it closes that one, so the characters of a pattern that is good by itself are read inside an
open group as they are read alone, with the same expression in the end. Only the name of a group
may be refused there though it is good alone, for it may be in use before the pattern.
-/

namespace TextGrammar

namespace Reader

/-- What the reader of a pattern in a group has from before the pattern: the open group, and the
names of the groups that came earlier. -/
structure Surroundings where
  frame : Frame
  names : List (List Char) := []

def within (around : Surroundings) (reader : Reader) : Reader :=
  { reader with
    outer := reader.outer ++ [around.frame]
    names := reader.names ++ around.names }

section Within

variable (around : Surroundings) (reader : Reader)

@[simp] theorem within_mode : (reader.within around).mode = reader.mode := rfl

@[simp] theorem within_comment : (reader.within around).comment = reader.comment := rfl

@[simp] theorem within_flags : (reader.within around).flags = reader.flags := rfl

@[simp] theorem within_level : (reader.within around).level = reader.level := rfl

@[simp] theorem within_names :
    (reader.within around).names = reader.names ++ around.names := rfl

@[simp] theorem within_outer :
    (reader.within around).outer = reader.outer ++ [around.frame] := rfl

@[simp] theorem enter_flags (mode : Mode) : (reader.enter mode).flags = reader.flags := rfl

@[simp] theorem within_enter (mode : Mode) :
    (reader.enter mode).within around = (reader.within around).enter mode := rfl

@[simp] theorem within_pushNode (node : Node) :
    (reader.pushNode node).within around = (reader.within around).pushNode node := rfl

@[simp] theorem within_pushRegex (regex : Regex) :
    (reader.pushRegex regex).within around = (reader.within around).pushRegex regex := rfl

@[simp] theorem within_openGroup (flags : Flags) :
    (reader.openGroup flags).within around = (reader.within around).openGroup flags := rfl

@[simp] theorem within_nextBranch :
    reader.nextBranch.within around = (reader.within around).nextBranch := rfl

@[simp] theorem within_pushRepetition (body : Node) (least : Nat) (most : Option Nat)
    (greedy : Bool) :
    (reader.pushRepetition body least most greedy).within around =
      (reader.within around).pushRepetition body least most greedy := rfl

@[simp] theorem within_pushWordBoundary :
    reader.pushWordBoundary.within around = (reader.within around).pushWordBoundary := rfl

@[simp] theorem map_skipSpace (character : Char) (continuation : Option Reader) :
    (reader.skipSpace character continuation).map (within around) =
      (reader.within around).skipSpace character (continuation.map (within around)) := by
  simp only [skipSpace, within_flags, apply_ite (Option.map (within around)), Option.map_some]
  rfl

@[simp] theorem map_placeAtom (place : Place) (atom : SetAtom) (regex : Regex) :
    (reader.placeAtom place atom regex).map (within around) =
      (reader.within around).placeAtom place atom regex := by
  cases place <;> simp [placeAtom, Function.comp_def]

@[simp] theorem map_placeCharacter (place : Place) (character : Char) :
    (reader.placeCharacter place character).map (within around) =
      (reader.within around).placeCharacter place character := by
  simp [placeCharacter]

@[simp] theorem map_placeSet (place : Place) (set : CharSet) :
    (reader.placeSet place set).map (within around) =
      (reader.within around).placeSet place set := by
  simp [placeSet]

@[simp] theorem map_placeLook (place : Place) (regex : Regex) :
    (reader.placeLook place regex).map (within around) =
      (reader.within around).placeLook place regex := by
  cases place <;> rfl

@[simp] theorem map_closeBracket (brackets : OpenBrackets) :
    (reader.closeBracket brackets).map (within around) =
      (reader.within around).closeBracket brackets := by
  simp only [closeBracket, within_flags, Option.map_bind]
  congr 1
  funext closed
  simp only [Function.comp_apply]
  split <;> rfl

theorem splitHyphen_within (brackets : OpenBrackets) (atom : SetAtom) :
    (reader.within around).splitHyphen brackets atom =
      (reader.splitHyphen brackets atom).map fun split => (split.1.within around, split.2) := by
  simp [splitHyphen, Function.comp_def]

theorem takePart_within :
    (reader.within around).takePart =
      reader.takePart.map fun taken => (taken.1, taken.2.within around) := by
  simp only [takePart, within_level]
  split
  · split <;> rfl
  · rfl

@[simp] theorem map_readBracketItem (brackets : OpenBrackets) (character : Char) :
    (reader.readBracketItem brackets character).map (within around) =
      (reader.within around).readBracketItem brackets character := by
  simp [readBracketItem, apply_ite (Option.map (within around))]

@[simp] theorem map_readAfterItem (brackets : OpenBrackets) (atom : SetAtom) (character : Char) :
    (reader.readAfterItem brackets atom character).map (within around) =
      (reader.within around).readAfterItem brackets atom character := by
  simp [readAfterItem, Option.map_bind]

@[simp] theorem map_readBracketAtom (brackets : OpenBrackets) (atom : SetAtom) (character : Char) :
    (reader.readBracketAtom brackets atom character).map (within around) =
      (reader.within around).readBracketAtom brackets atom character := by
  simp [readBracketAtom, apply_ite (Option.map (within around))]

@[simp] theorem map_readBracketTwin (brackets : OpenBrackets) (first character : Char) :
    (reader.readBracketTwin brackets first character).map (within around) =
      (reader.within around).readBracketTwin brackets first character := by
  simp [readBracketTwin, apply_ite (Option.map (within around)), Function.comp_def]

@[simp] theorem map_readBracketRange (brackets : OpenBrackets) (first : SetAtom)
    (character : Char) :
    (reader.readBracketRange brackets first character).map (within around) =
      (reader.within around).readBracketRange brackets first character := by
  simp [readBracketRange, apply_ite (Option.map (within around))]

@[simp] theorem map_readBracketHyphen (brackets : OpenBrackets) (atom : SetAtom) (spaced : Bool)
    (character : Char) :
    (reader.readBracketHyphen brackets atom spaced character).map (within around) =
      (reader.within around).readBracketHyphen brackets atom spaced character := by
  simp [readBracketHyphen, apply_ite (Option.map (within around)), Option.map_bind,
    Option.bind_map, Function.comp_def, splitHyphen_within]

@[simp] theorem map_readBracketHyphenComment (brackets : OpenBrackets) (atom : SetAtom)
    (ended : Bool) (character : Char) :
    (reader.readBracketHyphenComment brackets atom ended character).map (within around) =
      (reader.within around).readBracketHyphenComment brackets atom ended character := by
  simp [readBracketHyphenComment, apply_ite (Option.map (within around)), Option.map_bind,
    Option.bind_map, Function.comp_def, splitHyphen_within]
  rfl

@[simp] theorem map_readBracketLead (brackets : OpenBrackets) (character : Char) :
    (reader.readBracketLead brackets character).map (within around) =
      (reader.within around).readBracketLead brackets character := by
  simp [readBracketLead, apply_ite (Option.map (within around)), Function.comp_def]

@[simp] theorem map_readBracketStart (enclosing : List Bracket) (character : Char) :
    (reader.readBracketStart enclosing character).map (within around) =
      (reader.within around).readBracketStart enclosing character := by
  simp [readBracketStart, apply_ite (Option.map (within around))]

@[simp] theorem map_readNestedBracket (brackets : OpenBrackets) (buffer : List Char)
    (character : Char) :
    (reader.readNestedBracket brackets buffer character).map (within around) =
      (reader.within around).readNestedBracket brackets buffer character := by
  cases buffer with
  | nil => simp [readNestedBracket]
  | cons last earlier => simp [readNestedBracket, Option.map_bind]

@[simp] theorem map_readBracketClass (brackets : OpenBrackets) (buffer : List Char)
    (character : Char) :
    (reader.readBracketClass brackets buffer character).map (within around) =
      (reader.within around).readBracketClass brackets buffer character := by
  simp only [readBracketClass, within_flags]
  split
  · simp [Function.comp_def]
  · simp [apply_ite (Option.map (within around))]

@[simp] theorem map_finishHexDigits (place : Place) (digits value : Nat) :
    (reader.finishHexDigits place digits value).map (within around) =
      (reader.within around).finishHexDigits place digits value := by
  simp [finishHexDigits, apply_ite (Option.map (within around)), Option.map_bind]

@[simp] theorem map_readHexDigit (place : Place) (digits left value : Nat) (character : Char) :
    (reader.readHexDigit place digits left value character).map (within around) =
      (reader.within around).readHexDigit place digits left value character := by
  simp [readHexDigit, apply_ite (Option.map (within around)), Option.map_bind]

@[simp] theorem map_readHexStart (place : Place) (digits : Nat) (character : Char) :
    (reader.readHexStart place digits character).map (within around) =
      (reader.within around).readHexStart place digits character := by
  simp [readHexStart, apply_ite (Option.map (within around))]

@[simp] theorem map_readHexDigits (place : Place) (digits left value : Nat) (character : Char) :
    (reader.readHexDigits place digits left value character).map (within around) =
      (reader.within around).readHexDigits place digits left value character := by
  simp [readHexDigits]

@[simp] theorem map_readHexBrace (place : Place) (value : Option Nat) (character : Char) :
    (reader.readHexBrace place value character).map (within around) =
      (reader.within around).readHexBrace place value character := by
  simp [readHexBrace, apply_ite (Option.map (within around)), Option.map_bind, Function.comp_def]

@[simp] theorem map_readProperty (place : Place) (negated : Bool) (character : Char) :
    (reader.readProperty place negated character).map (within around) =
      (reader.within around).readProperty place negated character := by
  simp [readProperty, apply_ite (Option.map (within around)), Option.map_bind]

@[simp] theorem map_readPropertyName (place : Place) (negated : Bool) (name : List Char)
    (character : Char) :
    (reader.readPropertyName place negated name character).map (within around) =
      (reader.within around).readPropertyName place negated name character := by
  simp [readPropertyName, apply_ite (Option.map (within around)), Option.map_bind]

@[simp] theorem map_readEscape (place : Place) (character : Char) :
    (reader.readEscape place character).map (within around) =
      (reader.within around).readEscape place character := by
  simp only [readEscape, within_flags]
  split
  · rfl
  · simp only [apply_ite (Option.map (within around)), Option.map_some, Option.map_bind,
      Function.comp_def, within_enter, map_placeSet, map_placeCharacter]
    congr 2
    · cases place <;> rfl
    · congr 2
      cases control? character <;> simp [Option.map_bind]

@[simp] theorem map_readGroupFlags (letters : FlagLetters) (character : Char) :
    (reader.readGroupFlags letters character).map (within around) =
      (reader.within around).readGroupFlags letters character := by
  simp [readGroupFlags, apply_ite (Option.map (within around)), Option.map_bind, Function.comp_def]
  rfl

@[simp] theorem map_readGroupMark (character : Char) :
    (reader.readGroupMark character).map (within around) =
      (reader.within around).readGroupMark character := by
  simp [readGroupMark, apply_ite (Option.map (within around))]

@[simp] theorem map_readGroupNameMark (character : Char) :
    (reader.readGroupNameMark character).map (within around) =
      (reader.within around).readGroupNameMark character := by
  simp [readGroupNameMark, apply_ite (Option.map (within around))]

@[simp] theorem map_readOperator (least : Nat) (most : Option Nat) :
    (reader.readOperator least most).map (within around) =
      (reader.within around).readOperator least most := by
  simp [readOperator, Function.comp_def, takePart_within]

@[simp] theorem map_readCountLeast (body : Node) (value : Option Nat) (ended : Bool)
    (character : Char) :
    (reader.readCountLeast body value ended character).map (within around) =
      (reader.within around).readCountLeast body value ended character := by
  simp [readCountLeast, apply_ite (Option.map (within around)), Function.comp_def]

@[simp] theorem map_readCountMost (body : Node) (least : Nat) (value : Option Nat) (ended : Bool)
    (character : Char) :
    (reader.readCountMost body least value ended character).map (within around) =
      (reader.within around).readCountMost body least value ended character := by
  simp [readCountMost, apply_ite (Option.map (within around)), Option.map_bind, Function.comp_def]

@[simp] theorem map_readCountComma (body : Node) (least : Nat) (character : Char) :
    (reader.readCountComma body least character).map (within around) =
      (reader.within around).readCountComma body least character := by
  simp [readCountComma, apply_ite (Option.map (within around))]

@[simp] theorem map_readWordBoundaryMark (character : Char) :
    (reader.readWordBoundaryMark character).map (within around) =
      (reader.within around).readWordBoundaryMark character := by
  simp [readWordBoundaryMark, apply_ite (Option.map (within around))]

@[simp] theorem map_readWordBoundaryName (name : List Char) (character : Char) :
    (reader.readWordBoundaryName name character).map (within around) =
      (reader.within around).readWordBoundaryName name character := by
  simp [readWordBoundaryName, apply_ite (Option.map (within around)), Function.comp_def]

/-! A closing parenthesis ends the innermost group, so from here on the statements are about what
is read with success: alone, the reader refuses a parenthesis that closes nothing. -/

theorem skipSpace_closing (continuation : Option Reader) :
    reader.skipSpace ')' continuation = continuation := by
  have notSpace : Unicode.isWhiteSpace ')' = false := by decide
  simp [skipSpace, notSpace]

theorem readPart_closing : reader.readPart ')' = (reader.enter .part).closeGroup := by
  unfold readPart
  exact skipSpace_closing _ _

theorem map_readPart {character : Char} (notClosing : character ≠ ')') :
    (reader.readPart character).map (within around) =
      (reader.within around).readPart character := by
  unfold readPart
  rw [map_skipSpace, within_enter]
  refine congrArg _ ?_
  split
  case h_2 => exact absurd rfl notClosing
  case h_8 =>
    rw [← within_enter, takePart_within, Option.map_map, Option.map_map]
    rfl
  all_goals simp [Function.comp_def]

variable {around reader} {next : Reader}

theorem closeGroup_within (closed : reader.closeGroup = some next) :
    (reader.within around).closeGroup = some (next.within around) := by
  unfold closeGroup at closed ⊢
  cases outerEq : reader.outer with
  | nil => simp [outerEq] at closed
  | cons inner outer =>
      simp only [outerEq, Option.some.injEq] at closed
      subst next
      simp [outerEq, within]

theorem readPart_within {character : Char} (read : reader.readPart character = some next) :
    (reader.within around).readPart character = some (next.within around) := by
  by_cases closing : character = ')'
  · subst closing
    rw [readPart_closing] at read ⊢
    rw [← within_enter]
    exact closeGroup_within read
  · rw [← map_readPart around reader closing, read, Option.map_some]

theorem skipSpace_within {character : Char} {inner outer : Option Reader}
    (continued : ∀ next, inner = some next → outer = some (next.within around))
    (read : reader.skipSpace character inner = some next) :
    (reader.within around).skipSpace character outer = some (next.within around) := by
  cases inner with
  | some following =>
      rw [continued following rfl, ← Option.map_some, ← map_skipSpace, read, Option.map_some]
  | none =>
      simp only [skipSpace] at read ⊢
      split at read
      · split at read
        · simp_all
        · split at read
          · simp only [Option.some.injEq] at read
            simp_all [← read, within]
          · simp at read
      · simp at read

theorem readGreed_within {body : Node} {least : Nat} {most : Option Nat} {counted : Bool}
    {character : Char}
    (read : reader.readGreed body least most counted character = some next) :
    (reader.within around).readGreed body least most counted character =
      some (next.within around) := by
  have continued : ∀ next,
      (if character = '?' then some (reader.pushRepetition body least most false)
        else (reader.pushRepetition body least most true).readPart character) = some next →
      (if character = '?' then some ((reader.within around).pushRepetition body least most false)
        else ((reader.within around).pushRepetition body least most true).readPart character) =
        some (next.within around) := by
    intro next read
    by_cases mark : character = '?'
    · simp only [mark, if_true, Option.some.injEq] at read ⊢
      rw [← read, within_pushRepetition]
    · simp only [mark, if_false] at read ⊢
      exact readPart_within read
  cases counted with
  | true => exact skipSpace_within continued read
  | false => exact continued next read

theorem readGroupStart_within {character : Char}
    (read : reader.readGroupStart character = some next) :
    (reader.within around).readGroupStart character = some (next.within around) := by
  refine skipSpace_within ?_ read
  intro next read
  by_cases mark : character = '?'
  · simp only [mark, if_true, Option.some.injEq] at read ⊢
    rw [← read, within_enter]
  · simp only [mark, if_false] at read ⊢
    exact readPart_within read

theorem readWordBoundary_within {character : Char}
    (read : reader.readWordBoundary character = some next) :
    (reader.within around).readWordBoundary character = some (next.within around) := by
  unfold readWordBoundary at read ⊢
  by_cases brace : character = '\x7b'
  · simp only [brace, if_true, Option.some.injEq] at read ⊢
    rw [← read, within_enter]
  · simp only [brace, if_false] at read ⊢
    exact readPart_within read

theorem readGroupName_within {name : List Char} {character : Char}
    (admitted : around.names = [] ∨
      ((reader.within around).readGroupName name character).isSome)
    (read : reader.readGroupName name character = some next) :
    (reader.within around).readGroupName name character = some (next.within around) := by
  unfold readGroupName at read admitted ⊢
  by_cases ends : character = '>'
  · rw [if_pos ends] at read ⊢
    obtain ⟨free, opened⟩ := Option.ite_none_left_eq_some.mp read
    have freeWithin : ¬(name.isEmpty || (reader.within around).names.contains name) = true := by
      rcases admitted with unnamed | admitted
      · rwa [within_names, unnamed, List.append_nil]
      · intro used
        rw [if_pos ends, if_pos used] at admitted
        cases admitted
    rw [if_neg freeWithin, ← Option.some.inj opened]
    rfl
  · rw [if_neg ends, Option.ite_none_right_eq_some] at read ⊢
    obtain ⟨goesOn, entered⟩ := read
    exact ⟨goesOn, by rw [← Option.some.inj entered, within_enter]⟩

theorem readMode_within {character : Char}
    (admitted : around.names = [] ∨ ((reader.within around).readMode character).isSome)
    (read : reader.readMode character = some next) :
    (reader.within around).readMode character = some (next.within around) := by
  unfold readMode at read admitted ⊢
  rw [within_mode] at admitted ⊢
  generalize reader.mode = mode at read admitted ⊢
  cases mode with
  | part => exact readPart_within read
  | greed => exact readGreed_within read
  | groupStart => exact readGroupStart_within read
  | groupName => exact readGroupName_within admitted read
  | wordBoundary => exact readWordBoundary_within read
  | _ =>
      rw [← Option.map_some, ← read]
      simp

theorem feed_within {character : Char}
    (admitted : around.names = [] ∨ ((reader.within around).feed character).isSome)
    (fed : reader.feed character = some next) :
    (reader.within around).feed character = some (next.within around) := by
  unfold feed at fed admitted ⊢
  rw [within_comment] at admitted ⊢
  split at fed
  · rename_i comment
    rw [if_pos comment, ← Option.some.inj fed]
    rfl
  · rename_i noComment
    rw [if_neg noComment] at admitted ⊢
    exact readMode_within admitted fed

theorem feedAll_within {text : List Char}
    (admitted : around.names = [] ∨ ((reader.within around).feedAll text).isSome)
    (fed : reader.feedAll text = some next) :
    (reader.within around).feedAll text = some (next.within around) := by
  induction text generalizing reader with
  | nil =>
      simp only [feedAll, List.foldlM_nil] at fed ⊢
      simp_all
  | cons character rest ih =>
      simp only [feedAll, List.foldlM_cons, Option.bind_eq_bind] at fed admitted ⊢
      obtain ⟨middle, first, others⟩ := Option.bind_eq_some_iff.mp fed
      have firstWithin : (reader.within around).feed character = some (middle.within around) := by
        refine feed_within (admitted.imp_right fun goesOn => ?_) first
        exact Option.isSome_of_isSome_bind goesOn
      rw [firstWithin, Option.bind_some] at admitted ⊢
      exact ih admitted others

theorem settle?_within (around : Surroundings) (reader : Reader) :
    (reader.within around).settle? = reader.settle? := rfl

theorem readMode_closing {level : Level} (settled : reader.settle? = some level) :
    reader.readMode ')' = closeGroup { reader with mode := .part, level := level } := by
  unfold settle? at settled
  split at settled
  case h_1 modeEq =>
    rw [readMode, modeEq, ← Option.some.inj settled]
    exact readPart_closing reader
  case h_2 body least most counted modeEq =>
    rw [readMode, modeEq, ← Option.some.inj settled]
    cases counted with
    | true => exact (skipSpace_closing reader _).trans (readPart_closing _)
    | false => exact readPart_closing _
  case h_3 modeEq =>
    rw [readMode, modeEq, ← Option.some.inj settled]
    exact readPart_closing _
  case h_4 => simp at settled

theorem finish?_eq_some {node : Node} (finished : reader.finish? = some node) :
    reader.outer = [] ∧ ∃ level, reader.settle? = some level ∧ level.node = node := by
  unfold finish? at finished
  split at finished
  · rename_i outerEmpty
    obtain ⟨level, settled, bounded⟩ := Option.bind_eq_some_iff.mp finished
    simp only [Option.ite_none_right_eq_some, Option.some.injEq] at bounded
    exact ⟨List.isEmpty_iff.mp outerEmpty, level, settled, bounded.2⟩
  · simp at finished

theorem feed_closing (around : Surroundings) {node : Node}
    (finished : reader.finish? = some node) (noComment : reader.comment = false) :
    (reader.within around).feed ')' =
      some
        { flags := around.frame.flags
          level := around.frame.level.push node.group
          names := reader.names ++ around.names } := by
  obtain ⟨outerEq, level, settled, rfl⟩ := finish?_eq_some finished
  rw [← settle?_within around] at settled
  have fed : (reader.within around).feed ')' = (reader.within around).readMode ')' := by
    simp [feed, noComment]
  rw [fed, readMode_closing settled]
  simp [closeGroup, outerEq, noComment]

theorem feed_closing_comment (comment : reader.comment = true) :
    (reader.within around).feed ')' = some (reader.within around) := by
  simp [feed, comment, within]

end Within

theorem feedAll_append (reader : Reader) (left right : List Char) :
    reader.feedAll (left ++ right) =
      (reader.feedAll left).bind fun middle => middle.feedAll right := by
  simp [feedAll, List.foldlM_append]

theorem feedAll_cons (reader : Reader) (character : Char) (rest : List Char) :
    reader.feedAll (character :: rest) =
      (reader.feed character).bind fun next => next.feedAll rest :=
  rfl

theorem feedAll_singleton (reader : Reader) (character : Char) :
    reader.feedAll [character] = reader.feed character := by
  simp [feedAll]

/-! ## Groups that capture nothing -/

def grouped (pattern : List Char) : List Char := ['(', '?', ':'] ++ pattern ++ [')']

def Surroundings.before (around : Surroundings) : Reader :=
  { flags := around.frame.flags, level := around.frame.level, names := around.names }

variable {around : Surroundings} (spacesCount : around.frame.flags.ignoreSpace = false)
include spacesCount

theorem feedAll_opening :
    around.before.feedAll ['(', '?', ':'] = some ((start around.frame.flags).within around) := by
  obtain ⟨⟨level, ⟨_, _, _, _, _, _, ignoreSpace⟩⟩, names⟩ := around
  simp only at spacesCount
  subst spacesCount
  rfl

/-- The pattern is read in its group as it is alone. -/
theorem feedAll_grouped {pattern : List Char} {reader : Reader}
    (admitted : around.names = [] ∨ (around.before.feedAll (grouped pattern)).isSome)
    (fed : (start around.frame.flags).feedAll pattern = some reader) :
    around.before.feedAll (grouped pattern) = (reader.within around).feed ')' := by
  simp only [grouped, feedAll_append, feedAll_opening spacesCount, Option.bind_some]
    at admitted ⊢
  have inside := feedAll_within
    (admitted.imp_right fun goesOn => Option.isSome_of_isSome_bind goesOn) fed
  rw [inside, Option.bind_some, feedAll_singleton]

end Reader

end TextGrammar
