import TextGrammar.Proofs.LeftCall
import TextGrammar.Proofs.Pattern.Arrivals
import TextGrammar.Parser.Whole

/-!
Freedom from panics. A match always ends between two characters, so a lexer never misuses its
cursor. A run can panic in two ways only: in a script that advances by a length of its own choosing,
or at a lazy part whose rule cannot be built. And wherever a run comes to, its cursor is consistent,
so no view of it ever cuts a character.
-/

namespace TextGrammar

open Budgeted

theorem Lexer.parse_of_match {token : Lexer} {cursor : Cursor} {found : Match}
    (matched : token.regex.find cursor.remaining = some found) :
    token.parse cursor =
      { outcome := .success (takeBytes found.last cursor.remaining)
        cursor := { cursor with offset := cursor.offset + found.last }
        events := [.matched token.pattern (takeBytes found.last cursor.remaining)] } := by
  have boundary := Regex.find_last_boundary matched
  simp only [parse, matched, Cursor.tryAdvance_of_boundary boundary]

theorem Lexer.parse_offset {token : Lexer} {cursor : Cursor} {taken : Text}
    (took : (token.parse cursor).outcome = .success taken) :
    (token.parse cursor).cursor.offset = cursor.offset + byteLength taken := by
  cases matched : token.regex.find cursor.remaining with
  | none => simp [parse, matched] at took
  | some found =>
      have advanced := Cursor.tryAdvance_of_boundary (Regex.find_last_boundary matched)
      have length := (Cursor.tryAdvance_eq_ok.mp advanced).2.1
      rw [parse_of_match matched] at took ⊢
      obtain rfl := Outcome.success.inj took
      exact congrArg (cursor.offset + ·) length.symm

theorem Lexer.parse_calm (token : Lexer) (cursor : Cursor) (cause : Panic) :
    (token.parse cursor).outcome ≠ .panic cause := by
  cases matched : token.regex.find cursor.remaining with
  | none => simp [parse, matched]
  | some found => simp [parse_of_match matched]

/-! ## Scripts that measure before they advance -/

namespace Script

/-- The script advances only by the length of a beginning of what remains, as it has seen it;
`seen` is what remains as far as the script can know. -/
def MeasuredFrom : Script → Option Text → Prop
  | .succeed _, _ => True
  | .fail, _ => True
  | .advance _ _, none => False
  | .advance count next, some text =>
      ∃ taken rest, text = taken ++ rest ∧ byteLength taken = count ∧
        (next taken).MeasuredFrom (some rest)
  | .tryAdvance _ next, seen =>
      (∀ taken, (next (.ok taken)).MeasuredFrom none) ∧
        ∀ error, (next (.error error)).MeasuredFrom seen
  | .restore _ next, seen =>
      (next (.ok ())).MeasuredFrom none ∧ ∀ error, (next (.error error)).MeasuredFrom seen
  | .remaining next, _ => ∀ text, (next text).MeasuredFrom (some text)
  | .consumed next, seen => ∀ text, (next text).MeasuredFrom seen
  | .source next, seen => ∀ text, (next text).MeasuredFrom seen
  | .offset next, seen => ∀ offset, (next offset).MeasuredFrom seen
  | .location next, seen => ∀ location, (next location).MeasuredFrom seen

def Measured (script : Script) : Prop := script.MeasuredFrom none

variable {script rest : Script} {cursor moved : Cursor} {seen : Option Text}

theorem MeasuredFrom.advances {count : Nat} {next : Text → Script}
    (measured : (Script.advance count next).MeasuredFrom seen)
    (sees : ∀ text ∈ seen, cursor.remaining = text) :
    ∃ taken rest, cursor.remaining = taken ++ rest ∧ byteLength taken = count ∧
      (next taken).MeasuredFrom (some rest) ∧
      cursor.tryAdvance count = .ok (taken, { cursor with offset := cursor.offset + count }) := by
  cases seen with
  | none => exact measured.elim
  | some text =>
      obtain ⟨taken, rest, rfl, lengthEq, later⟩ := measured
      have ahead : cursor.remaining = taken ++ rest := sees _ rfl
      exact ⟨taken, rest, ahead, lengthEq, later,
        Cursor.tryAdvance_eq_ok.mpr ⟨⟨rest, ahead⟩, lengthEq, rfl⟩⟩

theorem MeasuredFrom.next (measured : script.MeasuredFrom seen)
    (sees : ∀ text ∈ seen, cursor.remaining = text) (valid : cursor.Valid)
    (goesOn : script.next? cursor = some (rest, moved)) :
    ∃ later, (∀ text ∈ later, moved.remaining = text) ∧ rest.MeasuredFrom later := by
  have nothing : ∀ text ∈ (none : Option Text), moved.remaining = text := by simp
  cases script with
  | succeed value => cases goesOn
  | fail => cases goesOn
  | advance count next =>
      obtain ⟨taken, left, ahead, rfl, later, advanced⟩ := measured.advances sees
      simp only [next?, advanced] at goesOn
      cases goesOn
      -- what remains is known without another look: the rest of what was seen
      refine ⟨some left, ?_, later⟩
      rintro text ⟨⟩
      exact valid.remaining_of_advance ahead
  | tryAdvance count next =>
      simp only [next?] at goesOn
      split at goesOn <;> cases goesOn
      · exact ⟨none, nothing, measured.1 _⟩
      · exact ⟨seen, sees, measured.2 _⟩
  | restore saved next =>
      simp only [next?] at goesOn
      split at goesOn <;> cases goesOn
      · exact ⟨none, nothing, measured.1⟩
      · exact ⟨seen, sees, measured.2 _⟩
  | remaining next =>
      cases goesOn
      refine ⟨some cursor.remaining, ?_, measured _⟩
      rintro text ⟨⟩
      rfl
  | _ =>
      cases goesOn
      exact ⟨seen, sees, measured _⟩

theorem MeasuredFrom.run_calm (measured : script.MeasuredFrom seen)
    (sees : ∀ text ∈ seen, cursor.remaining = text) (valid : cursor.Valid) (cause : Panic) :
    (script.run cursor).outcome ≠ .panic cause := by
  induction script, cursor using operation_induction generalizing seen with
  | step script cursor ih =>
      cases goesOn : script.next? cursor with
      | some left =>
          obtain ⟨later, seesLater, restMeasured⟩ := measured.next sees valid goesOn
          rw [run_of_next? goesOn]
          exact ih _ _ goesOn restMeasured seesLater ((next?_sameText goesOn).valid valid)
      | none =>
          rcases run_of_ended goesOn with ⟨value, ended⟩ | ended | ⟨_, _, _, rfl, refused, -⟩
          · simp [ended, Run.success]
          · simp [ended, Run.failure]
          · -- a measured advance is not refused
            obtain ⟨_, _, -, -, -, advanced⟩ := measured.advances sees
            rw [advanced] at refused
            cases refused

theorem Measured.run_calm (measured : script.Measured) (valid : cursor.Valid) (cause : Panic) :
    (script.run cursor).outcome ≠ .panic cause :=
  MeasuredFrom.run_calm measured (by simp) valid cause

theorem measuredFrom_of_avoids_advance (careful : script.Avoids [.advance]) :
    script.MeasuredFrom seen := by
  induction script generalizing seen with
  | succeed value => trivial
  | fail => trivial
  | advance count next ih => exact absurd (by decide) careful.1
  | tryAdvance count next ih =>
      exact ⟨fun taken => ih _ (careful.2 _), fun error => ih _ (careful.2 _)⟩
  | restore saved next ih => exact ⟨ih _ (careful.2 _), fun error => ih _ (careful.2 _)⟩
  | remaining next ih => exact fun text => ih _ (careful.2 _)
  | consumed next ih => exact fun text => ih _ (careful.2 _)
  | source next ih => exact fun text => ih _ (careful.2 _)
  | offset next ih => exact fun offset => ih _ (careful.2 _)
  | location next ih => exact fun location => ih _ (careful.2 _)

theorem firstCharacter_measured : firstCharacter.Measured := by
  intro text
  cases text with
  | nil => trivial
  | cons character rest => exact ⟨[character], rest, rfl, by simp, trivial⟩

theorem textUntil?_append {sought text before : Text}
    (found : textUntil? sought text = some before) : ∃ after, text = before ++ after := by
  induction text generalizing before with
  | nil =>
      simp only [textUntil?] at found
      split at found
      · cases found
        exact ⟨[], rfl⟩
      · cases found
  | cons character rest ih =>
      simp only [textUntil?] at found
      split at found
      · cases found
        exact ⟨character :: rest, rfl⟩
      · obtain ⟨later, laterFound, rfl⟩ := Option.map_eq_some_iff.mp found
        obtain ⟨after, rfl⟩ := ih laterFound
        exact ⟨after, rfl⟩

theorem takeUntil_measured (sought : Text) : (takeUntil sought).Measured := by
  intro text
  simp only
  cases found : textUntil? sought text with
  | none => trivial
  | some before =>
      obtain ⟨after, textEq⟩ := textUntil?_append found
      exact ⟨before, after, textEq, rfl, trivial⟩

end Script

/-! ## Runs -/

def Run.Calm {α : Type} (run : Run α) : Prop := ∀ cause, run.outcome ≠ .panic cause

theorem Run.andThen_calm {α β : Type} {run : Run α} {continuation : α → Parser β}
    (calm : run.Calm) (goesOn : ∀ value, (continuation value run.cursor).Calm) :
    (run.andThen continuation).Calm := by
  intro cause panicked
  rcases Run.andThen_panics panicked with first | ⟨value, -, later⟩
  · exact calm cause first
  · exact goesOn value cause later

theorem Parser.attempt_calm {α : Type} {parser : Parser α} {start : Cursor}
    (calm : (parser start).Calm) : (attempt parser start).Calm := by
  intro cause panicked
  exact calm cause (attempt_panics.mp panicked)

theorem Run.Calm.ofWhole {α : Type} {run : Run α} (calm : run.Calm) (cause : Panic) :
    run.ofWhole ≠ .panic cause := by
  simp only [Run.ofWhole]
  split
  · split <;> simp
  · simp
  · rename_i ended
    exact absurd ended (calm _)
  · simp

theorem Run.Calm.ofPrefix {α : Type} {run : Run α} (calm : run.Calm) (cause : Panic) :
    run.ofPrefix ≠ .panic cause := by
  simp only [Run.ofPrefix]
  split
  · simp
  · simp
  · rename_i ended
    exact absurd ended (calm _)
  · simp

def RunInvariant.calm : RunInvariant where
  Starts start := start.Valid
  Holds _ run := run.cursor.Valid ∧ run.Calm
  success _ _ valid := ⟨valid, by simp [Run.Calm, Run.success]⟩
  failure valid := ⟨valid, by simp [Run.Calm, Run.failure]⟩
  unfinished valid := ⟨valid, by simp [Run.Calm, Run.unfinished]⟩
  noProgress _ _ valid := ⟨valid, by simp [Run.Calm]⟩
  rejected _ _ valid := ⟨valid, by simp [Run.Calm]⟩
  unlogged _ holds := holds
  andThen _ holds goesOn :=
    ⟨Run.andThen_stops holds.1 fun value => (goesOn value holds.1).1,
      Run.andThen_calm holds.2 fun value => (goesOn value holds.1).2⟩
  attempt valid holds := ⟨Parser.attempt_stops valid holds.1, Parser.attempt_calm holds.2⟩
  lexer token start valid := ⟨(token.parse_leads start).valid valid, token.parse_calm start⟩

namespace Grammar

/-- A run of the whole from a cursor can come to this grammar, as a part, as a rule or as what is
left of a script, and then stands at this cursor. -/
inductive Visits (rules : Rules) (whole : Grammar) (start : Cursor) : Grammar → Cursor → Prop
  | whole : Visits rules whole start whole start
  | part {grammar part : Grammar} {here there : Cursor}
      (reached : Visits rules whole start grammar here)
      (runs : PartRun rules grammar here part there) : Visits rules whole start part there
  | rule {name : Text} {grammar : Grammar} {here : Cursor}
      (reached : Visits rules whole start (.lazy name) here)
      (found : rules.build name = .ok grammar) : Visits rules whole start grammar here
  | operation {script rest : Script} {here there : Cursor}
      (reached : Visits rules whole start (.custom script) here)
      (goesOn : script.next? here = some (rest, there)) :
      Visits rules whole start (.custom rest) there

variable {rules : Rules} {grammar whole : Grammar} {start here : Cursor}

theorem PartRun.sameText {part : Grammar} (runs : PartRun rules grammar start part here) :
    start.SameText here := by
  apply runs.along Cursor.SameText.refl Cursor.SameText.trans
  rintro part - here there ⟨budget, value, -, rfl⟩
  exact part.parse_sameText rules budget here

theorem Visits.sameText (visits : Visits rules whole start grammar here) :
    start.SameText here := by
  induction visits with
  | whole => exact .refl start
  | part _ runs ih => exact ih.trans runs.sameText
  | rule _ _ ih => exact ih
  | operation _ goesOn ih => exact ih.trans (Script.next?_sameText goesOn)

theorem parse_calm
    (measured : ∀ script, rules.Reaches grammar (.custom script) → script.Measured)
    (builds : ∀ name, rules.Reaches grammar (.lazy name) → ∃ built, rules.build name = .ok built)
    (budget : Nat) (valid : start.Valid) : (parse rules budget grammar start).Calm := by
  refine (RunInvariant.calm.parse_of_reached ?_ ?_ budget .whole valid).2
  · intro script reached start valid
    exact ⟨(script.run_sameText start).valid valid, (measured script reached).run_calm valid⟩
  · intro name cause reached found
    obtain ⟨built, ok⟩ := builds name reached
    rw [ok] at found
    cases found

/-- If no script chooses a length by itself and every rule that can be needed is built, then no
run panics: no parse or attempt from any cursor between two characters, and no run on a text or on
the beginning of one. A match ends between two characters of what remains, and a lexer takes just
it; every cursor on the way is consistent. -/
theorem parse_never_panics
    (measured : ∀ script, rules.Reaches grammar (.custom script) → script.Measured)
    (builds : ∀ name, rules.Reaches grammar (.lazy name) →
      ∃ built, rules.build name = .ok built) :
    (∀ budget (start : Cursor) cause, start.Valid →
      (parse rules budget grammar start).outcome ≠ .panic cause ∧
      (Parser.attempt (parse rules budget grammar) start).outcome ≠ .panic cause) ∧
    (∀ budget source cause,
      Parser.parseWhole (parse rules budget grammar) source ≠ .panic cause ∧
      Parser.parsePrefix (parse rules budget grammar) source ≠ .panic cause) ∧
    (∀ (token : Lexer) (cursor : Cursor) found,
      token.regex.find cursor.remaining = some found →
      found.last ≤ byteLength cursor.remaining ∧
        isBoundary found.last cursor.remaining = true ∧
        token.parse cursor =
          { outcome := .success (takeBytes found.last cursor.remaining)
            cursor := { cursor with offset := cursor.offset + found.last }
            events := [.matched token.pattern (takeBytes found.last cursor.remaining)] }) ∧
    ∀ start : Cursor, start.Valid →
      (∀ budget, (parse rules budget grammar start).cursor.Consistent) ∧
      ∀ inner here, Visits rules grammar start inner here → here.Consistent := by
  refine ⟨?_, ?_, ?_, ?_⟩
  · intro budget start cause valid
    have calm := parse_calm measured builds budget valid
    exact ⟨calm cause, Parser.attempt_calm calm cause⟩
  · intro budget source cause
    have calm := parse_calm measured builds budget (Cursor.start_valid source)
    exact ⟨calm.ofWhole cause, calm.ofPrefix cause⟩
  · intro token cursor found matched
    have boundary := Regex.find_last_boundary matched
    obtain ⟨taken, rest, remainingEq, lengthEq⟩ := (isBoundary_iff _ _).mp boundary
    have enough : found.last ≤ byteLength cursor.remaining := by
      rw [remainingEq, byteLength_append]
      omega
    exact ⟨enough, boundary, Lexer.parse_of_match matched⟩
  · intro start valid
    constructor
    · intro budget
      exact ((grammar.parse_sameText rules budget start).valid valid).consistent
    · intro inner here visits
      exact (visits.sameText.valid valid).consistent

/-- Letters of two bytes each, separated by a comma; the last one is taken and put back. -/
theorem parse_never_panics_between_letters :
    let comma : Grammar := .lexer { pattern := [','], regex := .set (.single ',') }
    let last : Grammar := .pair (.custom .firstCharacter) (.custom (.restoreTo ['ñ']))
    let later : Grammar := .pair (.custom (.takeUntil [','])) (.pair comma (.lazy ['r']))
    let letters : Grammar := .orElse later last
    let rules : Rules := { entries := [(['r'], .ok letters)] }
    let text : Text := ['é', ',', 'ñ']
    let run := parse rules 16 (.lazy ['r']) (.start text)
    Event.log run.events = [.matched [','] [','], .backtracking 3 3] ∧ run.cursor.offset = 3 ∧
      (∀ cause, run.outcome ≠ .panic cause) ∧ run.cursor.Consistent := by
  intro comma last later letters rules text run
  have measured : ∀ script, rules.Reaches (.lazy ['r']) (.custom script) → script.Measured := by
    have putsBack : (Script.restoreTo ['ñ']).Measured := by
      apply Script.measuredFrom_of_avoids_advance
      refine ⟨by decide, ?_⟩
      intro result
      cases result <;> trivial
    have each : rules.EachScript Script.Measured := by
      apply Rules.eachScript_of_entries
      intro name grammar member
      obtain ⟨rfl, rfl⟩ : name = ['r'] ∧ _ := by simpa [rules] using member
      exact .orElse
        (.pair (.custom (Script.takeUntil_measured [','])) (.pair (.lexer _) (.lazy ['r'])))
        (.pair (.custom Script.firstCharacter_measured) (.custom putsBack))
    intro script reached
    cases reached.eachScript each (.lazy ['r']) with
    | custom holds => exact holds
  have builds : ∀ name, rules.Reaches (.lazy ['r']) (.lazy name) →
      ∃ built, rules.build name = .ok built := by
    have inside : ∀ inner, rules.Reaches (.lazy ['r']) inner →
        inner ∈ [.lazy ['r'], letters, later, last, .custom (.takeUntil [',']),
          .pair comma (.lazy ['r']), comma, .custom .firstCharacter,
          .custom (.restoreTo ['ñ'])] := by
      intro inner reached
      induction reached with
      | whole => exact List.mem_cons_self
      | part _ member ih =>
          simp only [List.mem_cons, List.not_mem_nil, or_false] at ih
          rcases ih with rfl | rfl | rfl | rfl | rfl | rfl | rfl | rfl | rfl <;>
            simp only [parts, letters, later, last, comma, List.mem_cons, List.not_mem_nil,
              or_false] at member <;>
            rcases member with rfl | rfl <;> simp [later, last, comma]
      | @rule name grammar _ found _ =>
          obtain ⟨-, rfl⟩ : name = ['r'] ∧ grammar = letters := by
            simpa [rules] using Rules.mem_entries_of_build found
          simp
    intro name reached
    obtain rfl : name = ['r'] := by simpa [letters, later, last, comma] using inside _ reached
    exact ⟨letters, rfl⟩
  have safe := parse_never_panics measured builds
  have valid := Cursor.start_valid text
  exact ⟨by decide +kernel, by decide +kernel, fun cause => (safe.1 16 _ cause valid).1,
    (safe.2.2.2 _ valid).1 16⟩

end Grammar

end TextGrammar
