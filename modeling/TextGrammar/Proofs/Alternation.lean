import TextGrammar.Proofs.Reading

/-!
Choice between tokens and alternation in a pattern. Patterns in groups of their own with bars
between them are read as the alternatives that they are by themselves, and of alternatives the first
that matches wins, so a choice among lexers and the one lexer for all patterns take the same token.
-/

namespace TextGrammar

/-- Both runs fail in place, or both succeed with the same value and go on from the same cursor. -/
def Run.AgreesFrom {α : Type} (start : Cursor) (run other : Run α) : Prop :=
  (run.outcome = .failure ∧ other.outcome = .failure ∧
    run.cursor = start ∧ other.cursor = start) ∨
  ∃ value next, run.outcome = .success value ∧ other.outcome = .success value ∧
    run.cursor = next ∧ other.cursor = next

theorem Run.AgreesFrom.map {α β : Type} {start : Cursor} {run other : Run α}
    (agrees : run.AgreesFrom start other) (mapping : α → β) :
    (run.map mapping).AgreesFrom start (other.map mapping) := by
  simp only [AgreesFrom, map_cursor, map_failure] at agrees ⊢
  rcases agrees with failed | ⟨value, next, succeeded, succeededToo, stopped⟩
  · exact .inl failed
  · exact .inr ⟨mapping value, next, map_of_success succeeded mapping,
      map_of_success succeededToo mapping, stopped⟩

namespace Lexer

def alternation (patterns : List Text) : Text := ['|'].intercalate (patterns.map Reader.grouped)

theorem alternation_singleton (pattern : Text) :
    alternation [pattern] = Reader.grouped pattern := by
  simp [alternation]

theorem alternation_cons_cons (first second : Text) (rest : List Text) :
    alternation (first :: second :: rest) =
      Reader.grouped first ++ '|' :: alternation (second :: rest) := by
  simp [alternation, List.intercalate_cons_cons]

end Lexer

/-! ## Reading the alternatives -/

namespace Reader

/-- The pattern is good by itself and in a group, and it stands for this node. -/
def StandsFor (flags : Flags) (pattern : Text) (node : Node) : Prop :=
  ∃ reader, (start flags).feedAll pattern = some reader ∧ reader.finish? = some node ∧
    reader.comment = false

variable {flags : Flags} {level : Level} {names : List (List Char)} {pattern : Text} {node : Node}
  {last : Reader}

theorem StandsFor.feedAll_grouped (stands : StandsFor flags pattern node)
    (spacesCount : flags.ignoreSpace = false)
    (admitted : (feedAll { flags := flags, level := level, names := names }
      (grouped pattern)).isSome) :
    ∃ later, feedAll { flags := flags, level := level, names := names } (grouped pattern) =
      some { flags := flags, level := level.push node.group, names := later } := by
  obtain ⟨reader, fed, finished, noComment⟩ := stands
  let around : Surroundings := { frame := { level := level, flags := flags }, names := names }
  have enclosed : around.before.feedAll (grouped pattern) = (reader.within around).feed ')' :=
    Reader.feedAll_grouped spacesCount (.inr admitted) fed
  exact ⟨_, enclosed.trans (feed_closing around finished noComment)⟩

theorem feed_bar (spacesCount : flags.ignoreSpace = false) :
    feed { flags := flags, level := level, names := names } '|' =
      some { flags := flags, level := level.nextBranch, names := names } := by
  obtain ⟨_, _, _, _, _, _, ignoreSpace⟩ := flags
  subst spacesCount
  rfl

theorem feedAll_alternation (spacesCount : flags.ignoreSpace = false) {patterns : List Text}
    {nodes : List Node} (each : List.Forall₂ (StandsFor flags) patterns nodes)
    (nonempty : patterns ≠ []) {branches : List Node}
    (fed : feedAll { flags := flags, level := { branches := branches }, names := names }
      (Lexer.alternation patterns) = some last) :
    last.mode = .part ∧
      (last.level.branch :: last.level.branches).reverse =
        branches.reverse ++ nodes.map Node.group := by
  -- a pattern that is followed by a bar becomes one of the branches before the others
  induction each generalizing branches names with
  | nil => exact absurd rfl nonempty
  | @cons first firstNode rest restNodes stands others ih =>
      cases others with
      | nil =>
          rw [Lexer.alternation_singleton] at fed
          obtain ⟨later, read⟩ := stands.feedAll_grouped spacesCount (by rw [fed]; rfl)
          rw [read, Option.some.injEq] at fed
          subst fed
          simp [Level.push, Level.branch, Node.sequence]
      | @cons second secondNode rest restNodes _ others =>
          rw [Lexer.alternation_cons_cons, feedAll_append] at fed
          obtain ⟨later, read⟩ := stands.feedAll_grouped spacesCount
            (Option.isSome_of_isSome_bind (by rw [fed]; rfl))
          rw [read, Option.bind_some, feedAll_cons, feed_bar spacesCount, Option.bind_some] at fed
          have result := ih (by simp) fed
          simpa [Level.push, Level.branch, Level.nextBranch, Node.sequence] using result

end Reader

theorem Node.alternatives_regex (nodes : List Node) :
    (Node.alternatives nodes).regex = Regex.alternatives (nodes.map Node.regex) := by
  match nodes with
  | [] => rfl
  | [_] => rfl
  | _ :: _ :: _ => rfl

namespace Regex

theorem eq_of_read?_alternation {flags : Flags} (spacesCount : flags.ignoreSpace = false)
    {patterns : List Text} {nodes : List Node} {regex : Regex}
    (each : List.Forall₂ (Reader.StandsFor flags) patterns nodes) (nonempty : patterns ≠ [])
    (read : read? flags (Lexer.alternation patterns) = some regex) :
    regex = alternatives (nodes.map Node.regex) := by
  obtain ⟨last, fed, finished⟩ := Option.bind_eq_some_iff.mp read
  obtain ⟨node, ended, rfl⟩ := Option.map_eq_some_iff.mp finished
  obtain ⟨modeEq, branches⟩ := Reader.feedAll_alternation spacesCount each nonempty fed
  obtain ⟨-, level, settled, rfl⟩ := Reader.finish?_eq_some ended
  simp only [Reader.settle?, modeEq, Option.some.injEq] at settled
  subst settled
  rw [Level.node, branches, Node.alternatives_regex]
  simp [Node.group, Function.comp_def]

/-! ## Matching the alternatives -/

theorem matchAt?_alt (first second : Regex) (spot : Spot) :
    (Regex.alt first second).matchAt? spot =
      (first.matchAt? spot).or (second.matchAt? spot) := by
  -- where a match begins no choice has been met, so both alternatives are open
  simp only [matchAt?, matcher, Matcher.either, Marks.here, Marks.first, Marks.second,
    Bool.false_eq_true, if_false, head?_distinctArrivals, List.head?_append, List.head?_map]
  cases (first.matcher .clear spot).head? <;> simp [Function.comp_def]

theorem matchAt?_none (spot : Spot) : (Regex.set .none).matchAt? spot = none := by
  simp only [matchAt?, matcher, Matcher.ofSet]
  cases spot.next? <;> simp [CharSet.contains]

theorem matchAt?_alternatives (regexes : List Regex) (spot : Spot) :
    (alternatives regexes).matchAt? spot =
      regexes.findSome? fun regex => regex.matchAt? spot := by
  induction regexes with
  | nil => exact matchAt?_none spot
  | cons first rest ih =>
      cases rest with
      | nil => simp [alternatives]
      | cons second rest =>
          have alternativesEq : alternatives (first :: second :: rest) =
              .alt first (alternatives (second :: rest)) := rfl
          rw [alternativesEq, matchAt?_alt, ih]
          cases matched : first.matchAt? spot <;> simp [matched]

end Regex

namespace Lexer

variable {options : PatternOptions} {patterns : List Text} {tokens : List Lexer} {single : Lexer}

theorem build_standsFor {pattern : Text} {token : Lexer}
    (built : build options pattern = .ok token) :
    ∃ node, Reader.StandsFor options.flags pattern node ∧
      token.regex = .seq (.look .textStart) node.regex := by
  obtain ⟨-, ⟨regex, compiled⟩, enclosed⟩ := build_compiles built
  have read := Regex.read?_of_compile enclosed
  obtain ⟨reader, fed, finished⟩ :=
    Option.bind_eq_some_iff.mp (Regex.read?_of_compile compiled)
  obtain ⟨node, ended, -⟩ := Option.map_eq_some_iff.mp finished
  rw [Regex.read?_anchored rfl fed ended, Option.ite_none_left_eq_some] at read
  obtain ⟨fits, regexEq⟩ := read
  refine ⟨node, ⟨reader, fed, ended, ?_⟩, (Option.some.inj regexEq).symm⟩
  simpa using fun comment : reader.comment = true => fits (.inl comment)

theorem forall_build_standsFor
    (each : List.Forall₂ (fun pattern token => build options pattern = .ok token)
      patterns tokens) :
    ∃ nodes, List.Forall₂ (Reader.StandsFor options.flags) patterns nodes ∧
      tokens.map regex = nodes.map fun node => .seq (.look .textStart) node.regex := by
  induction each with
  | nil => exact ⟨[], .nil, rfl⟩
  | cons built _ ih =>
      obtain ⟨node, stands, regexEq⟩ := build_standsFor built
      obtain ⟨nodes, enclosed, regexes⟩ := ih
      exact ⟨node :: nodes, .cons stands enclosed, by simp [regexEq, regexes]⟩

theorem find_alternation (nonempty : patterns ≠ [])
    (each : List.Forall₂ (fun pattern token => build options pattern = .ok token) patterns tokens)
    (whole : build options (alternation patterns) = .ok single) (text : Text) :
    single.regex.find text = tokens.findSome? fun token => token.regex.find text := by
  obtain ⟨nodes, enclosed, regexes⟩ := forall_build_standsFor each
  obtain ⟨-, regex, compiled, anchored⟩ := build_eq_ok whole
  have regexEq := Regex.eq_of_read?_alternation rfl enclosed nonempty
    (Regex.read?_of_compile compiled)
  calc single.regex.find text
      = ((nodes.map Node.regex).findSome? fun regex => regex.matchAt? (.start text)).map
          fun last => ⟨0, last.offset⟩ := by
        rw [find_eq anchored, regexEq, Regex.matchAt?_alternatives]
    _ = (nodes.map fun node => Regex.seq (.look .textStart) node.regex).findSome?
          fun regex => regex.find text := by
        simp only [List.findSome?_map, List.map_findSome?, Function.comp_def,
          Regex.find_anchored, Regex.find_filter_first]
    _ = tokens.findSome? fun token => token.regex.find text := by
        rw [← regexes, List.findSome?_map]
        rfl

/-! ## Choosing among the lexers -/

variable {first : Lexer} {rest : List Lexer} {cursor : Cursor}

theorem choice_of_unmatched (unmatched : first.regex.find cursor.remaining = none) :
    (Parser.choice ((first :: rest).map parse) cursor).outcome =
        (Parser.choice (rest.map parse) cursor).outcome ∧
      (Parser.choice ((first :: rest).map parse) cursor).cursor =
        (Parser.choice (rest.map parse) cursor).cursor := by
  have failed := parse_of_find_eq_none unmatched
  have refused := congrArg Run.outcome failed
  cases rest with
  | nil =>
      have stays := congrArg Run.cursor failed
      exact ⟨refused, stays⟩
  | cons second rest =>
      have goesOn := Parser.orElse_of_failure refused (Parser.choice ((second :: rest).map parse))
      have outcomeEq := congrArg Run.outcome goesOn
      have cursorEq := congrArg Run.cursor goesOn
      exact ⟨outcomeEq, cursorEq⟩

theorem choice_of_matched {found : Match} (matched : first.regex.find cursor.remaining = some found)
    (rest : List Lexer) :
    Parser.choice ((first :: rest).map parse) cursor = first.parse cursor := by
  cases rest with
  | nil => rfl
  | cons second rest => exact Parser.orElse_of_not_failure (by simp [parse_of_match matched]) _

theorem choice_agrees
    (same : single.regex.find cursor.remaining =
      tokens.findSome? fun token => token.regex.find cursor.remaining) :
    (Parser.choice (tokens.map parse) cursor).AgreesFrom cursor (single.parse cursor) := by
  induction tokens with
  | nil =>
      have failed := parse_of_find_eq_none same
      exact .inl ⟨rfl, congrArg Run.outcome failed, rfl, congrArg Run.cursor failed⟩
  | cons first rest ih =>
      rw [List.findSome?_cons] at same
      cases matched : first.regex.find cursor.remaining with
      | none =>
          rw [matched] at same
          have goesOn := @choice_of_unmatched first rest cursor matched
          rw [Run.AgreesFrom, goesOn.1, goesOn.2]
          exact ih same
      | some found =>
          rw [matched] at same
          rw [choice_of_matched matched, parse_of_match matched, parse_of_match same]
          exact .inr ⟨_, _, rfl, rfl, rfl, rfl⟩

end Lexer

namespace Grammar

/-- A choice among lexers takes the same token as one lexer for all their patterns, or both fail
and do not move: the first pattern that matches wins, even if a later one would match more. -/
theorem choice_like_alternation {options : PatternOptions} {patterns : List Text}
    {tokens : List Lexer} {single : Lexer} (nonempty : patterns ≠ [])
    (each : List.Forall₂ (fun pattern token => Lexer.build options pattern = .ok token)
      patterns tokens)
    (whole : Lexer.build options (Lexer.alternation patterns) = .ok single)
    (rules : Rules) (budget : Nat) (cursor : Cursor) :
    (parse rules (budget + 2) (.choice (tokens.map .lexer)) cursor).AgreesFrom cursor
      (parse rules (budget + 2) (.lexer single) cursor) := by
  have chosen : parse rules (budget + 2) (.choice (tokens.map .lexer)) =
      Parser.map (Parser.choice (tokens.map Lexer.parse)) .text := by
    rw [← Parser.choice_map]
    simp only [parse, List.map_map, Function.comp_def]
  rw [chosen]
  exact (Lexer.choice_agrees (Lexer.find_alternation nonempty each whole _)).map Value.text

/-- The first pattern has flags of its own, which do not reach the second one, and it wins over the
second though that one would match more. -/
theorem choice_like_alternation_shorter :
    let patterns : List Text := [['(', '?', 'i', '-', 'u', ')', 'A'], ['a', 'b']]
    let anyCase : Regex := .seq .empty (.set (.asciiCaseless (.single 'A')))
    let longer : Regex := .seq (.set (.single 'a')) (.set (.single 'b'))
    let tokens : List Lexer :=
      [{ pattern := ['(', '?', 'i', '-', 'u', ')', 'A'], regex := .seq (.look .textStart) anyCase },
        { pattern := ['a', 'b'], regex := .seq (.look .textStart) longer }]
    let single : Lexer :=
      { pattern := Lexer.alternation patterns
        regex := .seq (.look .textStart) (.alt anyCase longer) }
    let cursor : Cursor := { source := ['x', 'a', 'b'], offset := 1 }
    patterns ≠ [] ∧
      List.Forall₂ (fun pattern token => Lexer.build {} pattern = .ok token) patterns tokens ∧
      Lexer.build {} (Lexer.alternation patterns) = .ok single ∧
      (single.parse cursor).outcome = .success ['a'] ∧
      (parse { entries := [] } 2 (.choice (tokens.map .lexer)) cursor).AgreesFrom cursor
        (parse { entries := [] } 2 (.lexer single) cursor) := by
  intro patterns anyCase longer tokens single cursor
  have nonempty : patterns ≠ [] := by simp [patterns]
  have each : List.Forall₂ (fun pattern token => Lexer.build {} pattern = .ok token)
      patterns tokens := .cons rfl (.cons rfl .nil)
  have whole : Lexer.build {} (Lexer.alternation patterns) = .ok single := rfl
  exact ⟨nonempty, each, whole, by decide +kernel,
    choice_like_alternation nonempty each whole { entries := [] } 0 cursor⟩

end Grammar

end TextGrammar
