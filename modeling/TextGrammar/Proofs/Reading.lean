import Mathlib.Order.Filter.AtTopBot.Basic
import TextGrammar.Proofs.Anchoring
import TextGrammar.Proofs.Budget
import TextGrammar.Proofs.Equations
import TextGrammar.Proofs.PanicFreedom
import TextGrammar.Proofs.Pattern.Taking
import TextGrammar.Proofs.Whole

/-!
Readings of texts. What a parser makes of the text ahead is a value and the text that it leaves, or
a refusal. Readings compose: for each way that a combinator can go there is a rule that gives its
reading from those of its parts, whatever the cursor and, from some budget on, whatever the budget.
-/

namespace TextGrammar

inductive Reading (α : Type)
  | took (value : α) (left : Text)
  | refused

variable {α β : Type}

def Run.Shows (start : Cursor) (run : Run α) : Reading α → Prop
  | .took value left =>
      run.outcome = .success value ∧ start.SameText run.cursor ∧ run.cursor.remaining = left
  | .refused => run.outcome = .failure

def Parser.Reads (parser : Parser α) (text : Text) (reading : Reading α) : Prop :=
  ∀ ⦃start : Cursor⦄, start.Valid → start.remaining = text → (parser start).Shows start reading

namespace Run.Shows

variable {run : Run α} {start between : Cursor} {middle : Text} {reading : Reading β} {value : α}
  {continuation : α → Parser β}

theorem precededBy {run : Run β} (result : run.Shows start reading) (events : List Event) :
    (run.precededBy events).Shows start reading := by
  cases reading with
  | took value left => exact result
  | refused => exact result

theorem behind {run : Run β} (later : run.Shows between reading) (same : start.SameText between) :
    run.Shows start reading := by
  cases reading with
  | took value left => exact ⟨later.1, same.trans later.2.1, later.2.2⟩
  | refused => exact later

theorem goesOn (near : run.Shows start (.took value middle)) (valid : start.Valid)
    (far : ∀ between : Cursor, start.SameText between → between.Valid →
      between.remaining = middle → (continuation value between).Shows between reading) :
    (run.andThen continuation).Shows start reading := by
  obtain ⟨ended, same, ahead⟩ := near
  rw [Run.andThen_of_success ended]
  exact ((far run.cursor same (same.valid valid) ahead).behind same).precededBy run.events

theorem andThen (near : run.Shows start (.took value middle)) (valid : start.Valid)
    (far : (continuation value).Reads middle reading) :
    (run.andThen continuation).Shows start reading :=
  near.goesOn valid fun _ _ valid ahead => far valid ahead

theorem andThen_refused (refused : run.Shows start .refused) :
    (run.andThen continuation).Shows start .refused := by
  have failed : run.outcome = .failure := refused
  simp [Shows, Run.andThen, failed]

end Run.Shows

namespace Parser.Reads

variable {parser first second : Parser α} {other : Parser β} {text middle left : Text}
  {value : α} {gap : β}

theorem success (value : α) (text : Text) : Reads (Run.success value) text (.took value text) :=
  fun start _ ahead => ⟨rfl, .refl start, ahead⟩

theorem map (near : parser.Reads text (.took value left)) (mapping : α → β) :
    (map parser mapping).Reads text (.took (mapping value) left) :=
  fun _ valid ahead => (near valid ahead).andThen valid (success (mapping value) left)

theorem map_refused (refused : parser.Reads text .refused) (mapping : α → β) :
    (Parser.map parser mapping).Reads text .refused :=
  fun _ valid ahead => (refused valid ahead).andThen_refused

theorem of_map {mapping : α → β} (injective : mapping.Injective)
    (mapped : (Parser.map parser mapping).Reads text (.took (mapping value) left)) :
    parser.Reads text (.took value left) := by
  intro start valid ahead
  obtain ⟨ended, same, last⟩ := mapped valid ahead
  obtain ⟨inner, innerEnded, mappedEq, stopped⟩ := Run.of_map_success ended
  obtain rfl := injective mappedEq
  rw [Parser.map, stopped] at same last
  exact ⟨innerEnded, same, last⟩

theorem tryMap {mapping : α → Except String β} {mapped : β}
    (near : parser.Reads text (.took value left)) (accepted : mapping value = .ok mapped) :
    (tryMap parser mapping).Reads text (.took mapped left) :=
  fun _ valid ahead => (near valid ahead).andThen valid (by
    simp only [accepted]
    exact success mapped left)

theorem tryMap_refused (refused : parser.Reads text .refused) (mapping : α → Except String β) :
    (Parser.tryMap parser mapping).Reads text .refused :=
  fun _ valid ahead => (refused valid ahead).andThen_refused

theorem tryMap_rejected {mapping : α → Except String β} {reason : String}
    (near : parser.Reads text (.took value left)) (rejected : mapping value = .error reason) :
    (Parser.tryMap parser mapping).Reads text .refused :=
  fun _ valid ahead => (near valid ahead).andThen valid fun _ _ _ => by
    simp only [rejected]
    rfl

theorem larger {reading : Reading α} (reads : parser.Reads text reading)
    (together : Lockstep.completion.Together parser first) : first.Reads text reading := by
  intro start valid ahead
  have result := reads valid ahead
  rwa [together rfl]
  cases reading with
  | took value left => simp [result.1]
  | refused =>
      have failed : (parser start).outcome = .failure := result
      simp [failed]

theorem pair (near : parser.Reads text (.took value middle))
    (far : other.Reads middle (.took gap left)) :
    (pair parser other).Reads text (.took (value, gap) left) :=
  fun _ valid ahead => (near valid ahead).andThen valid (far.map fun right => (value, right))

theorem pair_refused (refused : parser.Reads text .refused) :
    (Parser.pair parser other).Reads text .refused :=
  fun _ valid ahead => (refused valid ahead).andThen_refused

theorem skip (near : parser.Reads text (.took value middle))
    (far : other.Reads middle (.took gap left)) :
    (skip parser other).Reads text (.took value left) :=
  fun _ valid ahead => (near valid ahead).andThen valid (far.map fun _ => value)

theorem skip_refused (refused : parser.Reads text .refused) :
    (Parser.skip parser other).Reads text .refused :=
  fun _ valid ahead => (refused valid ahead).andThen_refused

theorem skip_unclosed (near : parser.Reads text (.took value middle))
    (refused : other.Reads middle .refused) : (Parser.skip parser other).Reads text .refused :=
  fun _ valid ahead => (near valid ahead).andThen valid (refused.map_refused fun _ => value)

theorem skipThen {reading : Reading α} (near : other.Reads text (.took gap middle))
    (far : parser.Reads middle reading) : (skipThen other parser).Reads text reading :=
  fun _ valid ahead => (near valid ahead).andThen valid far

theorem quotedBy {inside : Text} {gapToo : β} (opening : other.Reads text (.took gap inside))
    (content : parser.Reads inside (.took value middle))
    (closing : other.Reads middle (.took gapToo left)) :
    (quotedBy parser other).Reads text (.took value left) :=
  skipThen opening (skip content closing)

theorem skipThen_refused (refused : other.Reads text .refused) :
    (Parser.skipThen other parser).Reads text .refused :=
  fun _ valid ahead => (refused valid ahead).andThen_refused

theorem attempt (near : parser.Reads text (.took value left)) :
    (attempt parser).Reads text (.took (some value) left) := by
  intro start valid ahead
  obtain ⟨ended, same, between⟩ := near valid ahead
  simp only [Parser.attempt, ended]
  exact ⟨rfl, same, between⟩

theorem attempt_refused (refused : parser.Reads text .refused) :
    (Parser.attempt parser).Reads text (.took none text) := by
  intro start valid ahead
  have failed : (parser start).outcome = .failure := refused valid ahead
  rw [attempt_of_failure failed]
  exact ⟨rfl, .refl start, ahead⟩

theorem orElse (near : first.Reads text (.took value left)) :
    (orElse first second).Reads text (.took value left) :=
  fun _ valid ahead => (near.attempt valid ahead).andThen valid (success value left)

theorem orElse_refused {reading : Reading α} (refused : first.Reads text .refused)
    (otherwise : second.Reads text reading) : (Parser.orElse first second).Reads text reading :=
  fun _ valid ahead => (refused.attempt_refused valid ahead).andThen valid otherwise

theorem choice {rest : List (Parser α)} (near : first.Reads text (.took value left)) :
    (choice (first :: rest)).Reads text (.took value left) := by
  cases rest with
  | nil => exact near
  | cons second rest => exact near.orElse

theorem choice_refused {reading : Reading α} {rest : List (Parser α)}
    (refused : first.Reads text .refused) (otherwise : (Parser.choice rest).Reads text reading) :
    (Parser.choice (first :: rest)).Reads text reading := by
  cases rest with
  | cons second rest => exact refused.orElse_refused otherwise
  | nil =>
      intro start valid ahead
      have failed := otherwise valid ahead
      cases reading with
      | refused => exact refused valid ahead
      | took value left => cases failed.1

/-! ## Rounds -/

variable {item : Parser α} {separator : Parser β} {budget : Nat} {values : List α}

theorem rounds_none (refused : item.Reads text .refused) :
    (rounds item separator (budget + 1)).Reads text (.took [] text) := by
  intro start valid ahead
  simp only [rounds]
  exact (refused.attempt_refused valid ahead).andThen valid (success [] text)

theorem rounds_last (near : item.Reads text (.took value middle))
    (refused : separator.Reads middle .refused) :
    (rounds item separator (budget + 1)).Reads text (.took [value] middle) := by
  intro start valid ahead
  simp only [rounds]
  refine (near.attempt valid ahead).andThen valid fun between valid ahead => ?_
  exact (refused.attempt_refused valid ahead).andThen valid (success [value] middle)

theorem rounds_next {between : Text} (near : item.Reads text (.took value between))
    (divided : separator.Reads between (.took gap middle))
    (progress : byteLength middle < byteLength text)
    (far : (rounds item separator budget).Reads middle (.took values left)) :
    (rounds item separator (budget + 1)).Reads text (.took (value :: values) left) := by
  rintro start valid rfl
  simp only [rounds]
  refine (near.attempt valid rfl).goesOn valid fun between same validBetween ahead => ?_
  refine (divided.attempt validBetween ahead).goesOn validBetween
    fun next sameToo validNext ahead => ?_
  have moved : next.offset ≠ start.offset := by
    have lengths := valid.length_eq
    have lengthsToo := validNext.length_eq
    rw [(same.trans sameToo).source_eq, ahead] at lengthsToo
    omega
  simp only [if_neg moved]
  exact (far.map fun values => value :: values) validNext ahead

end Parser.Reads

/-! ## Tokens -/

theorem Lexer.find_eq {token : Lexer} {regex : Regex}
    (anchored : token.regex = .seq (.look .textStart) regex) (text : Text) :
    token.regex.find text = (regex.matchAt? (.start text)).map fun last => ⟨0, last.offset⟩ := by
  rw [anchored, Regex.find_anchored, Regex.find_filter_first]

theorem Lexer.parse_of_takes {token : Lexer} {regex : Regex} {taken left : Text} {start : Cursor}
    (anchored : token.regex = .seq (.look .textStart) regex)
    (takes : regex.Takes (taken ++ left) left) (ahead : start.remaining = taken ++ left) :
    token.parse start =
      { outcome := .success taken
        cursor := { start with offset := start.offset + byteLength taken }
        events := [.matched token.pattern taken] } := by
  obtain ⟨last, matched, last_rest⟩ := takes (.start (taken ++ left)) rfl
  obtain ⟨text, textEq, offsetEq⟩ := Regex.matchAt?_reaches matched
  have lengthEq : byteLength taken = last.offset := by
    rw [last_rest] at textEq
    obtain rfl := List.append_cancel_right textEq
    simpa using offsetEq.symm
  have found := Lexer.find_eq anchored start.remaining
  rw [ahead, matched, Option.map_some, ← lengthEq, ← ahead] at found
  rw [Lexer.parse_of_match found, ahead, takeBytes_byteLength_append]

theorem Lexer.reads {token : Lexer} {regex : Regex} {taken left : Text}
    (anchored : token.regex = .seq (.look .textStart) regex)
    (takes : regex.Takes (taken ++ left) left) :
    token.parse.Reads (taken ++ left) (.took taken left) := by
  intro start valid ahead
  have advanced := Cursor.tryAdvance_eq_ok.mpr ⟨⟨left, ahead⟩, rfl, rfl⟩
  rw [Lexer.parse_of_takes anchored takes ahead]
  exact ⟨rfl, (Cursor.tryAdvance_leads advanced).sameText, valid.remaining_of_advance ahead⟩

theorem Lexer.parse_failsInPlace (token : Lexer) : Parser.FailsInPlace token.parse := by
  intro start failed
  cases matched : token.regex.find start.remaining with
  | none => rw [parse_of_find_eq_none matched]
  | some found => simp [parse_of_match matched] at failed

theorem Lexer.reads_refused {token : Lexer} {regex : Regex} {text : Text}
    (anchored : token.regex = .seq (.look .textStart) regex) (refuses : regex.Refuses text) :
    token.parse.Reads text .refused := by
  rintro start valid rfl
  have unmatched := Lexer.find_eq anchored start.remaining
  rw [refuses _ rfl, Option.map_none] at unmatched
  rw [Lexer.parse_of_find_eq_none unmatched]
  rfl

/-! ## Grammars -/

namespace Grammar

/-- From some budget on the grammar reads the text so. -/
def Reads (rules : Rules) (grammar : Grammar) (text : Text) (reading : Reading Value) : Prop :=
  ∀ᶠ budget in Filter.atTop, (grammar.parse rules budget).Reads text reading

variable {rules : Rules} {grammar first second item separator : Grammar}
  {text inside middle left : Text} {value gap gapToo : Value} {reading : Reading Value}

namespace Reads

theorem iff_succ : Reads rules grammar text reading ↔
    ∀ᶠ budget in Filter.atTop, (grammar.parse rules (budget + 1)).Reads text reading := by
  rw [Reads]
  nth_rewrite 1 [← Filter.map_add_atTop_eq_nat 1]
  exact Filter.eventually_map

theorem of_part {Part : Nat → Prop} (part : ∀ᶠ budget in Filter.atTop, Part budget)
    (rule : ∀ budget, Part budget → (grammar.parse rules (budget + 1)).Reads text reading) :
    Reads rules grammar text reading :=
  iff_succ.mpr (part.mono rule)

theorem of_parts {Near Far : Nat → Prop} (near : ∀ᶠ budget in Filter.atTop, Near budget)
    (far : ∀ᶠ budget in Filter.atTop, Far budget)
    (rule : ∀ budget, Near budget → Far budget →
      (grammar.parse rules (budget + 1)).Reads text reading) :
    Reads rules grammar text reading :=
  of_part (near.and far) fun budget both => rule budget both.1 both.2

theorem lexer {token : Lexer} {taken : Text}
    (reads : token.parse.Reads text (.took taken left)) :
    Reads rules (.lexer token) text (.took (.text taken) left) :=
  iff_succ.mpr (.of_forall fun _ => reads.map Value.text)

theorem lexer_refused {token : Lexer} (refused : token.parse.Reads text .refused) :
    Reads rules (.lexer token) text .refused :=
  iff_succ.mpr (.of_forall fun _ => refused.map_refused Value.text)

theorem pair (near : Reads rules first text (.took value middle))
    (far : Reads rules second middle (.took gap left)) :
    Reads rules (.pair first second) text (.took (.pair value gap) left) :=
  of_parts near far fun _ near far => (near.pair far).map fun both => Value.pair both.1 both.2

theorem pair_refused (refused : Reads rules first text .refused) :
    Reads rules (.pair first second) text .refused :=
  of_part refused fun _ refused => refused.pair_refused.map_refused _

theorem orElse (near : Reads rules first text (.took value left)) :
    Reads rules (.orElse first second) text (.took value left) :=
  of_part near fun _ near => near.orElse

theorem orElse_refused (refused : Reads rules first text .refused)
    (otherwise : Reads rules second text reading) :
    Reads rules (.orElse first second) text reading :=
  of_parts refused otherwise fun _ refused otherwise => refused.orElse_refused otherwise

theorem skip (near : Reads rules first text (.took value middle))
    (far : Reads rules second middle (.took gap left)) :
    Reads rules (.skip first second) text (.took value left) :=
  of_parts near far fun _ near far => near.skip far

theorem skip_refused (refused : Reads rules first text .refused) :
    Reads rules (.skip first second) text .refused :=
  of_part refused fun _ refused => refused.skip_refused

theorem skip_unclosed (near : Reads rules first text (.took value middle))
    (refused : Reads rules second middle .refused) :
    Reads rules (.skip first second) text .refused :=
  of_parts near refused fun _ near refused => near.skip_unclosed refused

theorem skipThen (near : Reads rules first text (.took gap middle))
    (far : Reads rules second middle reading) :
    Reads rules (.skipThen first second) text reading :=
  of_parts near far fun _ near far => near.skipThen far

theorem skipThen_refused (refused : Reads rules first text .refused) :
    Reads rules (.skipThen first second) text .refused :=
  of_part refused fun _ refused => refused.skipThen_refused

theorem quoted (opening : Reads rules second text (.took gap inside))
    (content : Reads rules first inside (.took value middle))
    (closing : Reads rules second middle (.took gapToo left)) :
    Reads rules (.quoted first second) text (.took value left) :=
  of_parts (opening.and closing) content fun _ around content =>
    around.1.quotedBy content around.2

theorem quoted_refused (opening : Reads rules second text (.took gap inside))
    (refused : Reads rules first inside .refused) :
    Reads rules (.quoted first second) text .refused :=
  of_parts opening refused fun _ opening refused => opening.skipThen refused.skip_refused

theorem quoted_unopened (refused : Reads rules second text .refused) :
    Reads rules (.quoted first second) text .refused :=
  of_part refused fun _ refused => refused.skipThen_refused

theorem map (near : Reads rules first text (.took value left)) (mapping : Value → Value) :
    Reads rules (.map first mapping) text (.took (mapping value) left) :=
  of_part near fun _ near => near.map mapping

theorem map_refused (refused : Reads rules first text .refused) (mapping : Value → Value) :
    Reads rules (.map first mapping) text .refused :=
  of_part refused fun _ refused => refused.map_refused mapping

theorem tryMap {mapping : Value → Except String Value} {mapped : Value}
    (near : Reads rules first text (.took value left)) (accepted : mapping value = .ok mapped) :
    Reads rules (.tryMap first mapping) text (.took mapped left) :=
  of_part near fun _ near => near.tryMap accepted

theorem tryMap_refused (refused : Reads rules first text .refused)
    (mapping : Value → Except String Value) :
    Reads rules (.tryMap first mapping) text .refused :=
  of_part refused fun _ refused => refused.tryMap_refused mapping

theorem tryMap_rejected {mapping : Value → Except String Value} {reason : String}
    (near : Reads rules first text (.took value left)) (rejected : mapping value = .error reason) :
    Reads rules (.tryMap first mapping) text .refused :=
  of_part near fun _ near => near.tryMap_rejected rejected

theorem choice {rest : List Grammar} (near : Reads rules first text (.took value left)) :
    Reads rules (.choice (first :: rest)) text (.took value left) :=
  of_part near fun _ near => near.choice

theorem choice_refused {rest : List Grammar} (refused : Reads rules first text .refused)
    (otherwise : Reads rules (.choice rest) text reading) :
    Reads rules (.choice (first :: rest)) text reading :=
  of_parts refused (iff_succ.mp otherwise) fun _ refused otherwise =>
    refused.choice_refused otherwise

theorem choice_nil : Reads rules (.choice []) text .refused :=
  iff_succ.mpr (.of_forall fun _ _ _ _ => rfl)

theorem empty (text : Text) : Reads rules .empty text (.took .unit text) :=
  iff_succ.mpr (.of_forall fun _ => Parser.Reads.success Value.unit text)

theorem lazy {name : Text} (found : rules.build name = .ok grammar)
    (reads : Reads rules grammar text reading) : Reads rules (.lazy name) text reading := by
  refine of_part reads fun budget reads start valid ahead => ?_
  simp only [parse, found]
  exact (reads valid ahead).precededBy _

theorem of_rounds {Part : Nat → Prop} {values : List Value}
    (part : ∀ᶠ budget in Filter.atTop, Part budget)
    (rule : ∀ budget, Part (budget + 1) →
      (Parser.rounds (item.parse rules (budget + 1)) (separator.parse rules (budget + 1))
        (budget + 1)).Reads text (.took values left)) :
    Reads rules (.repeated item separator false) text (.took (.list values) left) := by
  refine of_parts part (Filter.eventually_gt_atTop 0) fun budget part positive => ?_
  obtain ⟨previous, rfl⟩ : ∃ previous, budget = previous + 1 := ⟨budget - 1, by omega⟩
  rw [parse_repeated_any]
  exact (rule previous part).map Value.list

theorem repeated_none (refused : Reads rules item text .refused) :
    Reads rules (.repeated item separator false) text (.took (.list []) text) :=
  of_rounds refused fun _ refused => refused.rounds_none

theorem repeated_last (near : Reads rules item text (.took value middle))
    (refused : Reads rules separator middle .refused) :
    Reads rules (.repeated item separator false) text (.took (.list [value]) middle) :=
  of_rounds (near.and refused) fun _ both => both.1.rounds_last both.2

theorem repeated_next {values : List Value}
    (near : Reads rules item text (.took value inside))
    (divided : Reads rules separator inside (.took gap middle))
    (progress : byteLength middle < byteLength text)
    (far : Reads rules (.repeated item separator false) middle (.took (.list values) left)) :
    Reads rules (.repeated item separator false) text (.took (.list (value :: values)) left) := by
  refine of_rounds ((near.and divided).and far) fun budget both => ?_
  have rest := both.2
  rw [parse_repeated_any] at rest
  have rounds := rest.of_map fun _ _ same => Value.list.inj same
  -- the rounds that follow have one budget less for their number but not for their parts
  have later := rounds.larger (Lockstep.rounds_larger
    (Lockstep.parse_larger rules item (Nat.le_succ budget))
    (Lockstep.parse_larger rules separator (Nat.le_succ budget)) (Nat.le_refl budget))
  exact both.1.1.rounds_next both.1.2 progress later

theorem parseWhole_rest {taken : Text}
    (reads : Reads rules grammar (taken ++ left) (.took value left)) (more : left ≠ []) :
    ∃ least, ∀ budget, least ≤ budget →
      (grammar.parse rules budget).parseWhole (taken ++ left) =
        .error (.trailingInput (.after taken)) := by
  refine Filter.eventually_atTop.mp (reads.mono fun budget reads => ?_)
  have valid := Cursor.start_valid (taken ++ left)
  obtain ⟨ended, same, ahead⟩ := reads valid (Cursor.start_remaining _)
  have views := (same.valid valid).consistent
  have consumed := views.consumed_of_remaining taken (by rw [ahead, same.source_eq]; rfl)
  have begins := Run.ofPrefix_eq_value.mpr ⟨ended, ahead.symm⟩
  refine (Run.ofWhole_eq_trailingInput views).mpr ⟨value, left, begins, more, ?_⟩
  rw [Cursor.location, consumed]

theorem parseWhole_refused (refused : Reads rules grammar text .refused)
    (inPlace : ∀ budget, (grammar.parse rules budget).FailsInPlace) :
    ∃ least, ∀ budget, least ≤ budget →
      (grammar.parse rules budget).parseWhole text =
        .error (.noMatch { line := 1, byteOffset := 0 }) := by
  refine Filter.eventually_atTop.mp (refused.mono fun budget refused => ?_)
  have failed : (grammar.parse rules budget (.start text)).outcome = .failure :=
    refused (Cursor.start_valid text) (Cursor.start_remaining text)
  have stopped := inPlace budget (.start text) failed
  have located : (Cursor.start text).location = { line := 1, byteOffset := 0 } := by
    simp only [Cursor.location, Cursor.consumed, Cursor.start, takeBytes]
    rfl
  refine Run.ofWhole_eq_noMatch.mpr (Run.ofPrefix_eq_noMatch.mpr ⟨failed, ?_⟩)
  rw [Parser.onText, stopped, located]

theorem parseWhole (reads : Reads rules grammar text (.took value [])) :
    ∃ least, ∀ budget, least ≤ budget →
      (grammar.parse rules budget).parseWhole text = .value value := by
  refine Filter.eventually_atTop.mp (reads.mono fun budget reads => ?_)
  have valid := Cursor.start_valid text
  obtain ⟨ended, same, left⟩ := reads valid (Cursor.start_remaining _)
  have begins := Run.ofPrefix_eq_value.mpr ⟨ended, left.symm⟩
  exact (Run.ofWhole_eq_value (same.valid valid).consistent).mpr begins

end Reads

end Grammar

end TextGrammar
