import TextGrammar.Proofs.Language.Tokens

/-!
A language of values: texts between quotes, integers, flags and lists of values. A tree is a value
as it is printed, with the padding around the items of its lists, and running the language on the
printed text gives the value of the tree back.
-/

namespace TextGrammar

mutual

/-- Texts have no quote in them; the list without items has no padding either. -/
inductive Tree
  | text (content : Text) (unquoted : '"' ∉ content)
  | number (value : Int64)
  | flag (truth : Bool)
  | nothing
  | list (items : Items)

inductive Items
  | last (before : Padding) (item : Tree) (after : Padding)
  | next (before : Padding) (item : Tree) (after : Padding) (rest : Items)

end

mutual

def Tree.printed : Tree → Text
  | .text content _ => '"' :: content ++ ['"']
  | .number value => decimal value.toInt
  | .flag truth => if truth then ['t', 'r', 'u', 'e'] else ['f', 'a', 'l', 's', 'e']
  | .nothing => ['[', ']']
  | .list items => '[' :: items.printed ++ [']']

def Items.printed : Items → Text
  | .last before item after => before.text ++ item.printed ++ after.text
  | .next before item after rest => before.text ++ item.printed ++ after.text ++ ',' :: rest.printed

end

mutual

def Tree.value : Tree → Value
  | .text content _ => .text content
  | .number value => .integer value.toInt
  | .flag truth => .boolean truth
  | .nothing => .list []
  | .list items => .list items.values

def Items.values : Items → List Value
  | .last _ item _ => [item.value]
  | .next _ item _ rest => item.value :: rest.values

end

namespace Tree

/-! ## The language -/

def ruleName : Text := ['v', 'a', 'l', 'u', 'e']

def textDraft : Draft := .quoted (.lexer ['[', '^', '"', ']', '*']) (.lexer ['"'])

def numberDraft : Draft := .tryMap (.lexer numberPattern) (Value.readInteger .signed64)

def toFlag : Value → Value
  | .text content => .boolean (content == ['t', 'r', 'u', 'e'])
  | other => other

def flagDraft : Draft :=
  .map (.choice [.lexer ['t', 'r', 'u', 'e'], .lexer ['f', 'a', 'l', 's', 'e']]) toFlag

def listDraft : Draft :=
  .skip
    (.skipThen (.lexer ['\\', '[']) [] (.repeated (.trimmed (.lazy ruleName)) (.lexer [',']) false))
    (.lexer ['\\', ']'])

def draft : Draft := .orElse (.orElse (.orElse textDraft numberDraft) flagDraft) listDraft

def drafts : List (Text × Draft) := [(ruleName, draft)]

/-! ## What it is built to -/

def quote : Grammar := .token ['"'] (.set (.single '"'))

def textGrammar : Grammar :=
  .quoted (.token ['[', '^', '"', ']', '*']
    (.iterate (.set (.complement (.single '"'))) 0 none true)) quote

def numberGrammar : Grammar :=
  .tryMap (.token numberPattern numberRegex) (Value.readInteger .signed64)

def word (letters : Text) : Grammar := .token letters (wordRegex letters)

def flagGrammar : Grammar :=
  .map (.choice [word ['t', 'r', 'u', 'e'], word ['f', 'a', 'l', 's', 'e']]) toFlag

def comma : Grammar := .token [','] (.set (.single ','))

def itemsGrammar : Grammar := .repeated (.padded (.lazy ruleName)) comma false

def opening : Grammar := .token ['\\', '['] (.set (.single '['))

def closing : Grammar := .token ['\\', ']'] (.set (.single ']'))

def listGrammar : Grammar := .skip (.skipThen opening itemsGrammar) closing

def grammar : Grammar :=
  .orElse (.orElse (.orElse textGrammar numberGrammar) flagGrammar) listGrammar

def rules : Rules := .ofDrafts drafts

theorem build_draft : Draft.build drafts draft = .ok grammar := rfl

theorem rules_build : rules.build ruleName = .ok grammar := rfl

/-! ## Which alternative is taken -/

variable {text : Text}

theorem textGrammar_refused (others : ∀ character ∈ text.head?, character ≠ '"') :
    Grammar.Reads rules textGrammar text .refused :=
  .quoted_unopened (.token_single_refused others)

theorem numberGrammar_refused
    (others : ∀ character ∈ text.head?, character ≠ '-' ∧ character.isDigit = false) :
    Grammar.Reads rules numberGrammar text .refused :=
  .tryMap_refused (.token_refused (numberRegex_refuses others)) _

theorem flagGrammar_refused
    (others : ∀ character ∈ text.head?, character ≠ 't' ∧ character ≠ 'f') :
    Grammar.Reads rules flagGrammar text .refused := by
  refine .map_refused (.choice_refused ?_ (.choice_refused ?_ .choice_nil)) toFlag
  · exact .token_refused (wordRegex_refuses _ fun character isHead => (others character isHead).1)
  · exact .token_refused (wordRegex_refuses _ fun character isHead => (others character isHead).2)

theorem listGrammar_refused (others : ∀ character ∈ text.head?, character ≠ '[') :
    Grammar.Reads rules listGrammar text .refused :=
  .skip_refused (.skipThen_refused (.token_single_refused others))

theorem grammar_reads_list {reading : Reading Value}
    (reads : Grammar.Reads rules listGrammar ('[' :: text) reading) :
    Grammar.Reads rules grammar ('[' :: text) reading := by
  refine .orElse_refused (.orElse_refused (.orElse_refused ?_ ?_) ?_) reads
  · exact textGrammar_refused (by simp)
  · exact numberGrammar_refused (by simp)
  · exact flagGrammar_refused (by simp)

theorem grammar_refused (left : Text) : Grammar.Reads rules grammar (']' :: left) .refused := by
  refine .orElse_refused (.orElse_refused (.orElse_refused ?_ ?_) ?_) ?_
  · exact textGrammar_refused (by simp)
  · exact numberGrammar_refused (by simp)
  · exact flagGrammar_refused (by simp)
  · exact listGrammar_refused (by simp)

/-! ## Each alternative -/

variable {left : Text}

theorem textGrammar_reads {content : Text} (unquoted : '"' ∉ content) :
    Grammar.Reads rules textGrammar ('"' :: content ++ '"' :: left)
      (.took (.text content) left) := by
  refine .quoted (.token_single '"' _) (.token (Regex.takes_run ?_ ?_)) (.token_single '"' left)
  · intro character member
    have other : character ≠ '"' := fun same => unquoted (same ▸ member)
    simp [CharSet.contains, CharSet.contains_single, other]
  · simp [CharSet.contains, CharSet.contains_single]

theorem numberGrammar_reads (value : Int64)
    (stops : ∀ character ∈ left.head?, character.isDigit = false) :
    Grammar.Reads rules numberGrammar (decimal value.toInt ++ left)
      (.took (.integer value.toInt) left) := by
  obtain ⟨numeral, printed, valueEq⟩ := Numeral.exists_decimal value.toInt
  have inside := IntegerRange.signed64_contains value
  rw [← printed]
  rw [← valueEq] at inside ⊢
  exact .tryMap (.token (numeral.takes stops)) (numeral.readInteger inside)

theorem flagGrammar_reads (truth : Bool) :
    Grammar.Reads rules flagGrammar ((flag truth).printed ++ left)
      (.took (.boolean truth) left) := by
  cases truth with
  | true => exact .map (.choice (.token (wordRegex_takes 't' ['r', 'u', 'e'] left))) toFlag
  | false =>
      have missing : Grammar.Reads rules (word ['t', 'r', 'u', 'e']) ((flag false).printed ++ left)
          .refused := .token_refused (wordRegex_refuses _ (by simp [printed]))
      have found : Grammar.Reads rules (word ['f', 'a', 'l', 's', 'e'])
          ((flag false).printed ++ left) (.took (.text ['f', 'a', 'l', 's', 'e']) left) :=
        .token (wordRegex_takes 'f' ['a', 'l', 's', 'e'] left)
      exact .map (.choice_refused missing found.choice) toFlag

theorem listGrammar_reads (inside : Text) {values : List Value}
    (items : Grammar.Reads rules itemsGrammar (inside ++ ']' :: left)
      (.took (.list values) (']' :: left))) :
    Grammar.Reads rules listGrammar ('[' :: inside ++ ']' :: left) (.took (.list values) left) :=
  .skip (.skipThen (.token_single '[' _) items) (.token_single ']' left)

theorem itemsGrammar_reads_nothing :
    Grammar.Reads rules itemsGrammar (']' :: left) (.took (.list []) (']' :: left)) :=
  .repeated_none (.padded_refused (.lazy rules_build (grammar_refused left)))

end Tree

theorem Tree.solid (tree : Tree) (left : Text) :
    ∀ character ∈ (tree.printed ++ left).head?, isBlank character = false := by
  cases tree with
  | number value =>
      obtain ⟨numeral, printed, -⟩ := Numeral.exists_decimal value.toInt
      rw [Tree.printed, ← printed]
      exact numeral.solid left
  | flag truth => cases truth <;> simp [Tree.printed, isBlank]
  | _ => simp [Tree.printed, isBlank]

/-! ## Reading back -/

mutual

/-- By recursion on the tree; a number must know that no further digit follows it. -/
theorem Tree.reads : ∀ (tree : Tree) (left : Text),
    (∀ character ∈ left.head?, character.isDigit = false) →
    Grammar.Reads Tree.rules Tree.grammar (tree.printed ++ left) (.took tree.value left)
  | .text content unquoted, left, _ => by
      simp only [Tree.printed, List.append_assoc, List.singleton_append]
      exact .orElse (.orElse (.orElse (Tree.textGrammar_reads unquoted)))
  | .number value, left, stops => by
      refine .orElse (.orElse (.orElse_refused (Tree.textGrammar_refused ?_)
        (Tree.numberGrammar_reads value stops)))
      obtain ⟨numeral, printed, -⟩ := Numeral.exists_decimal value.toInt
      rw [Tree.printed, ← printed]
      rintro character isHead rfl
      rcases numeral.begins left _ isHead with dash | digit
      · cases dash
      · cases digit
  | .flag truth, left, _ => by
      refine .orElse (.orElse_refused (.orElse_refused ?_ ?_) (Tree.flagGrammar_reads truth))
      · exact Tree.textGrammar_refused (by cases truth <;> simp [Tree.printed])
      · exact Tree.numberGrammar_refused (by cases truth <;> simp [Tree.printed])
  | .nothing, left, _ =>
      Tree.grammar_reads_list (Tree.listGrammar_reads [] Tree.itemsGrammar_reads_nothing)
  | .list items, left, _ => by
      simp only [Tree.printed, List.append_assoc, List.singleton_append]
      exact Tree.grammar_reads_list (Tree.listGrammar_reads items.printed (items.reads left))

theorem Items.reads : ∀ (items : Items) (left : Text),
    Grammar.Reads Tree.rules Tree.itemsGrammar (items.printed ++ ']' :: left)
      (.took (.list items.values) (']' :: left))
  | .last before item after, left => by
      have reads := item.reads (after.text ++ ']' :: left) (after.not_isDigit (by simp))
      simp only [Items.printed, List.append_assoc]
      refine .repeated_last (.padded_between before after (item.solid _) (by simp [isBlank])
        (.lazy Tree.rules_build reads)) (.token_single_refused (by simp))
  | .next before item after rest, left => by
      have reads := item.reads (after.text ++ ',' :: (rest.printed ++ ']' :: left))
        (after.not_isDigit (by simp))
      simp only [Items.printed, List.append_assoc, List.cons_append]
      refine .repeated_next (.padded_between before after (item.solid _) (by simp [isBlank])
        (.lazy Tree.rules_build reads)) (.token_single ',' _) ?_ (rest.reads left)
      simp only [byteLength_append, byteLength_cons]
      have comma := ','.utf8Size_pos
      omega

end

/-- Running the language on a printed value gives the value back. -/
theorem Tree.parse_printed (tree : Tree) :
    ∃ grammar, Draft.build Tree.drafts Tree.draft = .ok grammar ∧
      ∃ least, ∀ budget, least ≤ budget →
        (grammar.parse (.ofDrafts Tree.drafts) budget).parseWhole tree.printed =
          .value tree.value := by
  have reads := tree.reads [] (by simp)
  rw [List.append_nil] at reads
  exact ⟨_, Tree.build_draft, reads.parseWhole⟩

example :
    (Tree.list (.next ⟨[' '], by simp [isBlank]⟩ (.flag true) ⟨[], by simp⟩
      (.last ⟨[], by simp⟩ (.number (-7)) ⟨['\t'], by simp [isBlank]⟩))).printed =
      ['[', ' ', 't', 'r', 'u', 'e', ',', '-', '7', '\t', ']'] := by
  decide

end TextGrammar
