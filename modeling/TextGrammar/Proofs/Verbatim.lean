import TextGrammar.Proofs.Equations
import TextGrammar.Proofs.PanicFreedom
import TextGrammar.Proofs.Parts

/-!
Grammars that keep their text. A grammar of tokens, sequences, choices, attempts, repetitions
without separators and lazy rules gives a value whose texts, put one after the other, are the text
that it has gone through: what was put back on the way, and how often, leaves nothing in the value.
-/

namespace TextGrammar

namespace Value

mutual

def texts : Value → List Text
  | .text content => [content]
  | .unit => []
  | .integer _ => []
  | .boolean _ => []
  | .pair first second => first.texts ++ second.texts
  | .list items => textsOfList items
  | .tagged _ value => value.texts
  | .optional none => []
  | .optional (some value) => value.texts

def textsOfList : List Value → List Text
  | [] => []
  | item :: rest => item.texts ++ textsOfList rest

end

def spelling (value : Value) : Text := value.texts.flatten

theorem spelling_pair (first second : Value) :
    (pair first second).spelling = first.spelling ++ second.spelling := by
  simp [spelling, texts]

theorem spelling_list (items : List Value) : (list items).spelling = items.flatMap spelling := by
  induction items with
  | nil => rfl
  | cons item rest ih =>
      simp only [spelling, texts, textsOfList, List.flatten_append, List.flatMap_cons] at ih ⊢
      rw [ih]

end Value

namespace Cursor

structure Spans (start : Cursor) (text : Text) (stop : Cursor) : Prop where
  sameText : start.SameText stop
  ahead : start.remaining = text ++ stop.remaining

theorem Spans.refl (cursor : Cursor) : cursor.Spans [] cursor := ⟨.refl cursor, rfl⟩

theorem Spans.trans {first second third : Cursor} {near far : Text}
    (before : first.Spans near second) (after : second.Spans far third) :
    first.Spans (near ++ far) third := by
  refine ⟨before.sameText.trans after.sameText, ?_⟩
  rw [before.ahead, after.ahead, List.append_assoc]

theorem Spans.source_eq {start stop : Cursor} {text : Text} (valid : start.Valid)
    (spans : start.Spans text stop) :
    ∃ before after, start.source = before ++ text ++ after ∧ byteLength before = start.offset ∧
      byteLength (before ++ text) = stop.offset := by
  obtain ⟨before, sourceEq, beforeLength⟩ := valid.source_eq
  have startLength := valid.length_eq
  have stopLength := (spans.sameText.valid valid).length_eq
  rw [spans.sameText.source_eq, ← startLength, spans.ahead, byteLength_append] at stopLength
  refine ⟨before, stop.remaining, ?_, beforeLength, ?_⟩
  · rw [sourceEq, spans.ahead, List.append_assoc]
  · rw [byteLength_append]
    omega

end Cursor

variable {α β : Type}

/-- What the view shows of a value is the text that the parser has gone through. -/
def Parser.Verbatim (view : α → Text) (parser : Parser α) : Prop :=
  ∀ ⦃start⦄, start.Valid → ∀ ⦃value⦄, (parser start).outcome = .success value →
    start.Spans (view value) (parser start).cursor

namespace Parser.Verbatim

variable {view : α → Text} {other : β → Text}

theorem lexer (token : Lexer) : Verbatim id token.parse := by
  intro start valid text succeeded
  cases matched : token.regex.find start.remaining with
  | none => simp [Lexer.parse, matched] at succeeded
  | some found =>
      have advanced := Cursor.tryAdvance_of_boundary (Regex.find_last_boundary matched)
      obtain ⟨⟨rest, ahead⟩, lengthEq, -⟩ := Cursor.tryAdvance_eq_ok.mp advanced
      rw [Lexer.parse_of_match matched] at succeeded ⊢
      obtain rfl := Outcome.success.inj succeeded
      refine ⟨(Cursor.tryAdvance_leads advanced).sameText, ?_⟩
      have left := valid.remaining_of_advance ahead
      rw [lengthEq] at left
      rw [left]
      exact ahead

theorem succeed {value : α} (empty : view value = []) : Verbatim view (succeed value) := by
  intro start _ other succeeded
  cases succeeded
  rw [empty]
  exact .refl start

theorem pair {first : Parser α} {second : Parser β} (before : Verbatim view first)
    (after : Verbatim other second) :
    Verbatim (fun both => view both.1 ++ other both.2) (pair first second) := by
  intro start valid both succeeded
  obtain ⟨left, firstEnded, later, stopped⟩ := Run.of_andThen_success succeeded
  obtain ⟨right, secondEnded, rfl, stoppedToo⟩ := Run.of_map_success later
  have near := before valid firstEnded
  have far := after (near.sameText.valid valid) secondEnded
  rw [Parser.pair, stopped, stoppedToo]
  exact near.trans far

theorem map {parser : Parser α} {mapping : α → β} (inside : Verbatim view parser)
    (same : ∀ value, other (mapping value) = view value) :
    Verbatim other (map parser mapping) := by
  intro start valid value succeeded
  obtain ⟨inner, ended, rfl, stopped⟩ := Run.of_map_success succeeded
  rw [Parser.map, stopped, same]
  exact inside valid ended

theorem attempt {parser : Parser α} (inside : Verbatim view parser) :
    Verbatim (fun result => result.elim [] view) (attempt parser) := by
  intro start valid result succeeded
  cases result with
  | none =>
      rw [attempt_of_failure (failure_of_attempt_none succeeded)]
      exact .refl start
  | some value =>
      obtain ⟨ended, stopped⟩ := of_attempt_some succeeded
      rw [stopped]
      exact inside valid ended

theorem orElse {first second : Parser α} (preferred : Verbatim view first)
    (otherwise : Verbatim view second) : Verbatim view (orElse first second) := by
  intro start valid value succeeded
  obtain ⟨result, tried, later, stopped⟩ := Run.of_andThen_success succeeded
  have near := attempt preferred valid tried
  rw [Parser.orElse, stopped]
  cases result with
  | some tried =>
      cases later
      exact near
  | none => exact near.trans (otherwise (near.sameText.valid valid) later)

theorem choice {alternatives : List (Parser α)}
    (each : ∀ alternative ∈ alternatives, Verbatim view alternative) :
    Verbatim view (choice alternatives) := by
  induction alternatives with
  | nil =>
      intro start _ value succeeded
      cases succeeded
  | cons first rest ih =>
      have firstVerbatim := each first List.mem_cons_self
      cases rest with
      | nil => exact firstVerbatim
      | cons second rest =>
          exact orElse firstVerbatim
            (ih fun alternative member => each alternative (List.mem_cons_of_mem _ member))

variable {item : Parser α} {separator : Parser β}

theorem rounds (each : Verbatim view item) (between : Verbatim (fun _ => []) separator)
    (budget : Nat) :
    Verbatim (fun values => values.flatMap view) (rounds item separator budget) := by
  induction budget with
  | zero =>
      intro start _ values succeeded
      cases succeeded
  | succ budget ih =>
      intro start valid values succeeded
      simp only [Parser.rounds] at succeeded ⊢
      obtain ⟨result, tried, later, stopped⟩ := Run.of_andThen_success succeeded
      have near := attempt each valid tried
      rw [stopped]
      cases result with
      | none =>
          cases later
          exact near
      | some value =>
          obtain ⟨divided, triedToo, last, stoppedToo⟩ := Run.of_andThen_success later
          have far := near.trans (attempt between (near.sameText.valid valid) triedToo)
          rw [stoppedToo]
          cases divided with
          | none =>
              cases last
              simpa [Run.success] using far
          | some gap =>
              -- the separator has nothing to show, so only the values tell the text
              simp only [] at last ⊢
              split at last
              · rename_i still
                cases last
                rw [if_pos still]
                simpa using far
              · rename_i moved
                obtain ⟨others, ended, rfl, stopped⟩ := Run.of_map_success last
                rw [if_neg moved, stopped]
                simpa using far.trans (ih (far.sameText.valid valid) ended)

theorem repeated (each : Verbatim view item) (between : Verbatim (fun _ => []) separator)
    (atLeastOne : Bool) (budget : Nat) :
    Verbatim (fun values => values.flatMap view) (repeated item separator atLeastOne budget) := by
  intro start valid values succeeded
  obtain ⟨found, ended, later, stopped⟩ := Run.of_andThen_success succeeded
  have spans := rounds each between budget valid ended
  rw [Parser.repeated, stopped]
  by_cases tooFew : (atLeastOne && found.isEmpty) = true
  · simp [tooFew, Run.failure] at later
  · simp only [if_neg tooFew] at later ⊢
    cases later
    exact spans

end Parser.Verbatim

namespace Grammar

/-- Nothing in this part itself takes text out of its value or brings text in. -/
def Plain : Grammar → Prop
  | .lexer _ => True
  | .pair _ _ => True
  | .orElse _ _ => True
  | .choice _ => True
  | .repeated _ separator _ => separator = .empty
  | .empty => True
  | .attempt _ => True
  | .lazy _ => True
  | _ => False

variable {rules : Rules} {whole grammar : Grammar}

theorem parse_empty_verbatim (budget : Nat) :
    Parser.Verbatim (fun _ => []) (parse rules budget .empty) := by
  cases budget with
  | zero =>
      intro start _ value succeeded
      cases succeeded
  | succ budget => exact .succeed rfl

theorem parse_verbatim (plain : ∀ part, rules.Reaches whole part → part.Plain) (budget : Nat)
    (reached : rules.Reaches whole grammar) :
    Parser.Verbatim Value.spelling (parse rules budget grammar) := by
  induction budget generalizing grammar with
  | zero =>
      intro start _ value succeeded
      cases succeeded
  | succ budget ih =>
      have parts : ∀ part ∈ grammar.parts,
          Parser.Verbatim Value.spelling (parse rules budget part) :=
        fun part member => ih (reached.part member)
      have simple := plain grammar reached
      simp only [Grammar.parts] at parts
      cases grammar with
      | lexer token => exact .map (.lexer token) fun text => by simp [Value.spelling, Value.texts]
      | pair first second =>
          exact .map (.pair (parts first (by simp)) (parts second (by simp))) fun both =>
            Value.spelling_pair both.1 both.2
      | orElse first second => exact .orElse (parts first (by simp)) (parts second (by simp))
      | repeated item separator atLeastOne =>
          obtain rfl : separator = .empty := simple
          exact .map (.repeated (parts item (by simp)) (parse_empty_verbatim budget) atLeastOne
            budget) Value.spelling_list
      | choice alternatives =>
          refine .choice fun parser member => ?_
          obtain ⟨alternative, inside, rfl⟩ := List.mem_map.mp member
          exact parts alternative inside
      | empty => exact .succeed rfl
      | attempt content =>
          refine .map (.attempt (parts content (by simp))) fun result => ?_
          cases result <;> simp [Value.spelling, Value.texts]
      | lazy name =>
          intro start valid value succeeded
          simp only [parse] at succeeded ⊢
          cases found : rules.build name with
          | ok rule =>
              simp only [found] at succeeded ⊢
              exact ih (reached.rule found) valid succeeded
          | error cause => simp [found, Run.panic] at succeeded
      | _ => exact simple.elim

/-- The texts in the value, depth first and from left to right, are the part of the source between
the two offsets: nothing is lost, doubled or moved, whatever was tried and put back on the way. -/
theorem parse_keeps_text (plain : ∀ part, rules.Reaches grammar part → part.Plain) (budget : Nat)
    {start : Cursor} (valid : start.Valid) {value : Value}
    (succeeded : (parse rules budget grammar start).outcome = .success value) :
    let stop := (parse rules budget grammar start).cursor
    stop.source = start.source ∧
      ∃ before after, start.source = before ++ value.texts.flatten ++ after ∧
        byteLength before = start.offset ∧
        byteLength (before ++ value.texts.flatten) = stop.offset := by
  have spans := parse_verbatim plain budget .whole valid succeeded
  exact ⟨spans.sameText.source_eq, spans.source_eq valid⟩

/-- An `a`, the same again and a `b`, or perhaps an `a` and then letters `c`; behind that at least
one `b` or `a`. The first way is tried, taken half back and given up, and the second one takes no
letter `c` at all, yet the texts in the value are the second to fourth character. -/
theorem parse_keeps_text_twice :
    let token (pattern : Text) (regex : Regex) : Grammar :=
      .lexer { pattern := pattern, regex := .seq (.look .textStart) regex }
    let letter (character : Char) : Grammar := token [character] (.set (.single character))
    let letters : Grammar := token ['c', '*'] (.iterate (.set (.single 'c')) 0 none true)
    let rule : Grammar :=
      .orElse (.pair (.pair (letter 'a') (.lazy ['r'])) (letter 'b'))
        (.pair (.attempt (letter 'a')) (.repeated letters .empty false))
    let rules : Rules := { entries := [(['r'], .ok rule)] }
    let either : Grammar := .choice [letter 'b', letter 'a']
    let grammar : Grammar := .pair (.lazy ['r']) (.repeated either .empty true)
    let value : Value :=
      .pair (.pair (.optional (some (.text ['a']))) (.list [.text []]))
        (.list [.text ['a'], .text ['b']])
    let start : Cursor := { source := ['x', 'a', 'a', 'b', 'c'], offset := 1 }
    (parse rules 16 grammar start).outcome = .success value ∧
    value.texts.flatten = ['a', 'a', 'b'] ∧
    ∃ before after, start.source = before ++ value.texts.flatten ++ after ∧
      byteLength before = start.offset ∧
      byteLength (before ++ value.texts.flatten) =
        (parse rules 16 grammar start).cursor.offset := by
  intro token letter letters rule rules either grammar value start
  have plain : ∀ part, rules.Reaches grammar part → part.Plain := by
    let inside : List Grammar :=
      [grammar, .lazy ['r'], .repeated either .empty true, either, letter 'b', letter 'a', .empty,
        rule, .pair (.pair (letter 'a') (.lazy ['r'])) (letter 'b'),
        .pair (letter 'a') (.lazy ['r']),
        .pair (.attempt (letter 'a')) (.repeated letters .empty false), .attempt (letter 'a'),
        .repeated letters .empty false, letters]
    have closed : ∀ part, rules.Reaches grammar part → part ∈ inside := fun _ =>
      Rules.Reaches.mem_of_closed (by simp [inside])
        (by simp [inside, parts, grammar, either, rule, letter, letters, token])
        (by simp [inside, rules])
    have each : ∀ part ∈ inside, part.Plain := by
      simp [inside, Plain, grammar, either, rule, letter, letters, token]
    exact fun part reached => each part (closed part reached)
  have valid : start.Valid := Cursor.valid_iff.mpr ⟨['x'], ['a', 'a', 'b', 'c'], rfl, rfl⟩
  have succeeded : (parse rules 16 grammar start).outcome = .success value := by
    subst start value grammar either rules rule letters letter token
    rfl
  exact ⟨succeeded, rfl, (parse_keeps_text plain 16 valid succeeded).2⟩

end Grammar

end TextGrammar
