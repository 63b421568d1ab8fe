import TextGrammar.Proofs.Cursor
import TextGrammar.Proofs.Pattern.Arrivals
import TextGrammar.Proofs.Pattern.Enclosure
import TextGrammar.Lexer

/-!
Lexers match where the cursor stands. The anchored pattern is read as an assertion of the start of
the text and then the expression of the pattern itself, whatever the pattern is, so a search for it
gives the match of the pattern at the cursor and no other.
-/

namespace TextGrammar

namespace Reader

def anchor (flags : Flags) : Surroundings :=
  { frame := { level := { parts := [{ regex := .look .textStart }] }, flags := flags } }

theorem feedAll_anchor {flags : Flags} (spacesCount : flags.ignoreSpace = false) :
    (start flags).feedAll ['\\', 'A'] = some (anchor flags).before := by
  obtain ⟨_, _, _, _, _, _, ignoreSpace⟩ := flags
  subst spacesCount
  rfl

theorem anchored_eq (pattern : Text) :
    Lexer.anchored pattern = ['\\', 'A'] ++ grouped pattern := rfl

end Reader

namespace Regex

/-- An anchored pattern is good unless its group stays open in a comment or is nested too deeply. -/
theorem read?_anchored {flags : Flags} (spacesCount : flags.ignoreSpace = false) {pattern : Text}
    {reader : Reader} {node : Node} (fed : (Reader.start flags).feedAll pattern = some reader)
    (finished : reader.finish? = some node) :
    read? flags (Lexer.anchored pattern) =
      if reader.comment ∨ Reader.largestNesting < node.nesting + 2 then none
      else some (.seq (.look .textStart) node.regex) := by
  have enclosed : (Reader.start flags).feedAll (Lexer.anchored pattern) =
      (reader.within (Reader.anchor flags)).feed ')' := by
    rw [Reader.anchored_eq, Reader.feedAll_append, Reader.feedAll_anchor spacesCount,
      Option.bind_some]
    exact Reader.feedAll_grouped spacesCount (.inl rfl) fed
  rw [read?, enclosed]
  by_cases comment : reader.comment = true
  · rw [Reader.feed_closing_comment comment]
    simp [comment, Reader.finish?]
  · have nodeEq : ((Reader.anchor flags).frame.level.push node.group).node =
        { regex := .seq (.look .textStart) node.regex, nesting := node.nesting + 2 } := by
      simp [Reader.anchor, Level.push, Level.node, Level.branch, Node.alternatives,
        Node.sequence, Node.greatestNesting, Node.group, sequence]
    rw [Reader.feed_closing _ finished (by simpa using comment), Option.bind_some]
    simp only [Reader.finish?, Reader.settle?, comment]
    by_cases deep : Reader.largestNesting < node.nesting + 2
    · simp [deep, nodeEq]
    · simp [deep, nodeEq, Nat.not_lt.mp deep]

theorem read?_of_compile {options : PatternOptions} {pattern : Text} {regex : Regex}
    (compiled : compile options pattern = .ok regex) :
    read? options.flags pattern = some regex := by
  unfold compile at compiled
  split at compiled
  · simp at compiled
  · rename_i read
    split at compiled
    · simp only [Except.ok.injEq] at compiled
      rw [read, compiled]
    · simp at compiled

theorem eq_of_read?_anchored {flags : Flags} (spacesCount : flags.ignoreSpace = false)
    {pattern : Text} {regex anchored : Regex} (alone : read? flags pattern = some regex)
    (enclosed : read? flags (Lexer.anchored pattern) = some anchored) :
    anchored = .seq (.look .textStart) regex := by
  obtain ⟨reader, fed, finished⟩ := Option.bind_eq_some_iff.mp alone
  obtain ⟨node, ended, rfl⟩ := Option.map_eq_some_iff.mp finished
  rw [read?_anchored spacesCount fed ended] at enclosed
  split at enclosed
  · simp at enclosed
  · simpa using enclosed.symm

theorem matchAt?_anchored_start (regex : Regex) (text : Text) :
    matchAt? (.seq (.look .textStart) regex) (.start text) = regex.matchAt? (.start text) := by
  simp [matchAt?, matcher, Matcher.chain, Matcher.ofLook, Look.holds, Spot.start, Marks.between,
    Marks.first, Marks.second, head?_distinctArrivals, Function.comp_def]

theorem findFrom_anchored_later (regex : Regex) (remaining : Text) {spot : Spot}
    (moved : spot.before.isSome = true) :
    findFrom (.seq (.look .textStart) regex) remaining spot = none := by
  have unmatched : ∀ spot : Spot, spot.before.isSome = true →
      matchAt? (.seq (.look .textStart) regex) spot = none := by
    intro spot moved
    have inside : spot.before ≠ none := Option.isSome_iff_ne_none.mp moved
    simp [matchAt?, matcher, Matcher.chain, Matcher.ofLook, Look.holds, inside,
      head?_distinctArrivals]
  induction remaining generalizing spot with
  | nil => simp [findFrom, unmatched spot moved]
  | cons character rest ih =>
      simp only [findFrom, unmatched spot moved]
      exact ih rfl

theorem find_anchored (regex : Regex) (text : Text) :
    find (.seq (.look .textStart) regex) text =
      (regex.find text).filter fun found => found.first == 0 := by
  rw [find_filter_first, ← matchAt?_anchored_start]
  cases text with
  | nil => cases matched : matchAt? (.seq (.look .textStart) regex) (.start []) <;>
      simp [find, findFrom, matched]
  | cons character rest =>
      cases matched : matchAt? (.seq (.look .textStart) regex) (.start (character :: rest)) with
      | some last => simp [find, findFrom, matched]
      | none => simp [find, findFrom, matched, findFrom_anchored_later]

end Regex

namespace Lexer

theorem parse_of_find_eq_some {lexer : Lexer} {cursor : Cursor} {length : Nat}
    (matched : lexer.regex.find cursor.remaining = some ⟨0, length⟩) :
    ∃ token rest, cursor.remaining = token ++ rest ∧ byteLength token = length ∧
      lexer.parse cursor =
        { outcome := .success token
          cursor := { cursor with offset := cursor.offset + length }
          events := [.matched lexer.pattern token] } := by
  have atStart := Regex.find_filter_first lexer.regex cursor.remaining
  simp only [matched, Option.filter_some, beq_self_eq_true, if_true] at atStart
  obtain ⟨last, lastMatched, foundEq⟩ := Option.map_eq_some_iff.mp atStart.symm
  obtain ⟨token, restEq, offsetEq⟩ := Regex.matchAt?_reaches lastMatched
  simp only [Spot.start_rest, Spot.start_offset, Nat.zero_add] at restEq offsetEq
  simp only [offsetEq, Match.mk.injEq, true_and] at foundEq
  have advanced := Cursor.tryAdvance_eq_ok.mpr ⟨⟨last.rest, restEq⟩, foundEq, rfl⟩
  exact ⟨token, last.rest, restEq, foundEq, by simp [parse, matched, advanced]⟩

theorem parse_of_find_eq_none {lexer : Lexer} {cursor : Cursor}
    (unmatched : lexer.regex.find cursor.remaining = none) :
    lexer.parse cursor =
      { outcome := .failure, cursor := cursor, events := [.noMatch lexer.pattern cursor.offset] } := by
  simp [parse, unmatched]

theorem build_compiles {options : PatternOptions} {pattern : Text} {lexer : Lexer}
    (built : build options pattern = .ok lexer) :
    lexer.pattern = pattern ∧ (∃ regex, Regex.compile options pattern = .ok regex) ∧
      Regex.compile options (anchored pattern) = .ok lexer.regex := by
  unfold build at built
  split at built
  · simp at built
  · rename_i regex alone
    split at built
    · simp at built
    · rename_i anchored enclosed
      simp only [Except.ok.injEq] at built
      subst built
      exact ⟨rfl, ⟨regex, alone⟩, enclosed⟩

theorem build_eq_ok {options : PatternOptions} {pattern : Text} {lexer : Lexer}
    (built : build options pattern = .ok lexer) :
    lexer.pattern = pattern ∧ ∃ regex, Regex.compile options pattern = .ok regex ∧
      lexer.regex = .seq (.look .textStart) regex := by
  obtain ⟨patternEq, ⟨regex, alone⟩, enclosed⟩ := build_compiles built
  exact ⟨patternEq, regex, alone, Regex.eq_of_read?_anchored rfl
    (Regex.read?_of_compile alone) (Regex.read?_of_compile enclosed)⟩

/-- A lexer is its pattern, tried where the cursor stands: it takes the match that the pattern by
itself finds first, if that begins at the cursor, and else it fails and does not move. -/
theorem build_matches_at_cursor {options : PatternOptions} {pattern : Text} {lexer : Lexer}
    (built : build options pattern = .ok lexer) :
    ∃ regex, Regex.compile options pattern = .ok regex ∧
      lexer.regex = .seq (.look .textStart) regex ∧
      (∀ text, lexer.regex.find text =
        (regex.find text).filter fun found => found.first == 0) ∧
      ∀ cursor,
        (∀ length, regex.find cursor.remaining = some ⟨0, length⟩ →
          ∃ token rest, cursor.remaining = token ++ rest ∧ byteLength token = length ∧
            lexer.parse cursor =
              { outcome := .success token
                cursor := { cursor with offset := cursor.offset + length }
                events := [.matched pattern token] }) ∧
        ((∀ length, regex.find cursor.remaining ≠ some ⟨0, length⟩) →
          lexer.parse cursor =
            { outcome := .failure, cursor := cursor
              events := [.noMatch pattern cursor.offset] }) := by
  obtain ⟨rfl, regex, compiled, regexEq⟩ := build_eq_ok built
  have anchored : ∀ text, lexer.regex.find text =
      (regex.find text).filter fun found => found.first == 0 := by
    intro text
    rw [regexEq, Regex.find_anchored]
  refine ⟨regex, compiled, regexEq, anchored, fun cursor => ⟨?_, ?_⟩⟩
  · intro length matched
    exact parse_of_find_eq_some (by simp [anchored, matched])
  · intro unmatched
    apply parse_of_find_eq_none
    rw [anchored, Option.filter_eq_none_iff]
    intro found matched first
    obtain ⟨start, length⟩ := found
    simp only [beq_iff_eq] at first
    subst first
    exact unmatched length matched

/-- Of two alternatives that match at the cursor the first one wins, though the other is longer. -/
theorem build_alternation_first_wins :
    ∃ lexer, build { multiLine := true } ['^', 'a', '|', 'a', 'b'] = .ok lexer ∧
      lexer.parse { source := ['x', 'a', 'b'], offset := 1 } =
        { outcome := .success ['a']
          cursor := { source := ['x', 'a', 'b'], offset := 2 }
          events := [.matched ['^', 'a', '|', 'a', 'b'] ['a']] } := by
  refine ⟨_, rfl, ?_⟩
  obtain ⟨regex, compiled, -, -, atCursor⟩ := build_matches_at_cursor
    (show build { multiLine := true } ['^', 'a', '|', 'a', 'b'] = .ok _ from rfl)
  have regexEq : regex =
      .alt (.seq (.look (.lineStart false)) (.set (.single 'a')))
        (.seq (.set (.single 'a')) (.set (.single 'b'))) :=
    (Except.ok.inj compiled).symm
  have remainingEq : Cursor.remaining { source := ['x', 'a', 'b'], offset := 1 } = ['a', 'b'] := by
    decide
  obtain ⟨token, rest, tokenEq, lengthEq, parsed⟩ :=
    (atCursor { source := ['x', 'a', 'b'], offset := 1 }).1 1 (by
      rw [regexEq, remainingEq]
      decide)
  have taken := takeBytes_byteLength_append token rest
  rw [← tokenEq, remainingEq, lengthEq] at taken
  rw [parsed, ← taken]
  rfl

end Lexer

end TextGrammar
