import TextGrammar.Proofs.Language.Tokens

/-!
A letter in parentheses, as deeply as one likes. The recursive rule for it recognises what has as
many closing parentheses as opening ones and nothing else: running it gives the depth, the place
where more text follows, or a refusal at the start, for every level that does not find its closing
parenthesis puts back what it has taken.
-/

namespace TextGrammar.Nested

def written (depth : Nat) : Text :=
  List.replicate depth '(' ++ 'x' :: List.replicate depth ')'

theorem written_succ_append (depth : Nat) (left : Text) :
    written (depth + 1) ++ left = '(' :: (written depth ++ ')' :: left) := by
  have closing : List.replicate (depth + 1) ')' = List.replicate depth ')' ++ [')'] :=
    List.replicate_succ'
  simp [written, closing, List.replicate_succ]

theorem location_after_written (depth : Nat) :
    Location.after (written depth) = { line := 1, byteOffset := 2 * depth + 1 } := by
  have opening : '('.utf8Size = 1 := rfl
  have letter : 'x'.utf8Size = 1 := rfl
  have closing : ')'.utf8Size = 1 := rfl
  rw [Location.after_of_oneLine (by simp [written])]
  simp only [written, byteLength_append, byteLength_cons, byteLength_replicate, opening, letter,
    closing, Location.mk.injEq, true_and]
  omega

/-! ## The rule -/

def ruleName : Text := ['n', 'e', 's', 't', 'e', 'd']

def draft : Draft :=
  .orElse
    (.map (.skip (.skipThen (.lexer ['\\', '(']) [] (.lazy ruleName)) (.lexer ['\\', ')']))
      Value.increment)
    (.map (.lexer ['x']) fun _ => .integer 0)

def drafts : List (Text × Draft) := [(ruleName, draft)]

def opening : Grammar := .token ['\\', '('] (.set (.single '('))

def closing : Grammar := .token ['\\', ')'] (.set (.single ')'))

def letter : Grammar := .token ['x'] (.set (.single 'x'))

def inside : Grammar := .skip (.skipThen opening (.lazy ruleName)) closing

def grammar : Grammar := .orElse (.map inside Value.increment) (.map letter fun _ => .integer 0)

def rules : Rules := .ofDrafts drafts

theorem build_draft : Draft.build drafts draft = .ok grammar := rfl

theorem rules_build : rules.build ruleName = .ok grammar := rfl

/-! ## What it reads and what it refuses -/

theorem grammar_failsInPlace (budget : Nat) : (grammar.parse rules budget).FailsInPlace := by
  have unfinished : ∀ grammar, (Grammar.parse rules 0 grammar).FailsInPlace := by
    intro grammar start failed
    cases failed
  have letterInPlace : ∀ budget, (letter.parse rules budget).FailsInPlace
    | 0 => unfinished letter
    | _ + 1 => (Lexer.parse_failsInPlace _).map _
  have otherwise : ∀ budget,
      (Grammar.parse rules budget (.map letter fun _ => .integer 0)).FailsInPlace
    | 0 => unfinished _
    | budget + 1 => (letterInPlace budget).map _
  cases budget with
  | zero => exact unfinished grammar
  | succ budget => exact (otherwise budget).orElse _

theorem grammar_reads (depth : Nat) (left : Text) :
    Grammar.Reads rules grammar (written depth ++ left) (.took (.integer depth) left) := by
  induction depth generalizing left with
  | zero =>
      refine .orElse_refused (.map_refused ?_ _) (.map (.token_single 'x' left) _)
      exact .skip_refused (.skipThen_refused (.token_single_refused (by simp [written])))
  | succ depth ih =>
      rw [written_succ_append]
      have reads : Grammar.Reads rules inside ('(' :: (written depth ++ ')' :: left))
          (.took (.integer depth) left) :=
        .skip (.skipThen (.token_single '(' _) (.lazy rules_build (ih (')' :: left))))
          (.token_single ')' left)
      exact .orElse (reads.map Value.increment)

/-- By induction on the text. Behind an opening parenthesis either the rule itself is refused, or
it takes something behind which the closing parenthesis is missing. -/
theorem grammar_refused (text : Text) (others : ∀ depth, ¬written depth <+: text) :
    Grammar.Reads rules grammar text .refused := by
  induction text with
  | nil =>
      refine .orElse_refused (.map_refused ?_ _) (.map_refused (.token_single_refused (by simp)) _)
      exact .skip_refused (.skipThen_refused (.token_single_refused (by simp)))
  | cons first rest ih =>
      have notLetter : first ≠ 'x' := by
        rintro rfl
        exact others 0 ⟨rest, rfl⟩
      refine .orElse_refused (.map_refused ?_ _)
        (.map_refused (.token_single_refused (by simpa using notLetter)) _)
      by_cases opened : first = '('
      · subst opened
        by_cases taken : ∃ depth, written depth <+: rest
        · obtain ⟨depth, left, rfl⟩ := taken
          have unclosed : ∀ other ∈ left.head?, other ≠ ')' := by
            rintro other isHead rfl
            obtain ⟨more, rfl⟩ := List.head?_eq_some_iff.mp isHead
            exact others (depth + 1) ⟨more, written_succ_append depth more⟩
          exact .skip_unclosed
            (.skipThen (.token_single '(' _) (.lazy rules_build (grammar_reads depth left)))
            (.token_single_refused unclosed)
        · have refused := ih fun depth within => taken ⟨depth, within⟩
          exact .skip_refused (.skipThen (.token_single '(' _) (.lazy rules_build refused))
      · exact .skip_refused (.skipThen_refused (.token_single_refused (by simpa using opened)))

/-- Running the rule gives the depth if the text is a letter in parentheses and nothing else. If
more follows, the error is there, and if the text does not begin so, the error is at the start. -/
theorem parse_nested :
    ∃ grammar, Draft.build drafts draft = .ok grammar ∧
      (∀ depth left, ∃ least, ∀ budget, least ≤ budget →
        (grammar.parse (.ofDrafts drafts) budget).parseWhole (written depth ++ left) =
          if left = [] then .value (.integer depth)
          else .error (.trailingInput { line := 1, byteOffset := 2 * depth + 1 })) ∧
      ∀ text, (∀ depth, ¬written depth <+: text) → ∃ least, ∀ budget, least ≤ budget →
        (grammar.parse (.ofDrafts drafts) budget).parseWhole text =
          .error (.noMatch { line := 1, byteOffset := 0 }) := by
  refine ⟨grammar, build_draft, ?_, ?_⟩
  · intro depth left
    have reads := grammar_reads depth left
    by_cases more : left = []
    · subst more
      rw [List.append_nil] at reads ⊢
      simp only [if_true]
      exact reads.parseWhole
    · simp only [if_neg more, ← location_after_written]
      exact reads.parseWhole_rest more
  · intro text others
    exact (grammar_refused text others).parseWhole_refused grammar_failsInPlace

end TextGrammar.Nested
