import TextGrammar.Proofs.Language.Tokens

/-!
Content between blanks. A padded grammar runs its content from behind the longest run of spaces and
tabs, and if that succeeds it goes on behind the next such run. It skips nothing else and never
fails by itself, so padding it once more changes nothing but what is logged.
-/

namespace TextGrammar

/-- The cursor goes over these spaces and tabs, and no more of them follow. -/
structure Cursor.SkipsBlanks (start : Cursor) (blanks : Text) (there : Cursor) : Prop where
  there_eq : there = { start with offset := start.offset + byteLength blanks }
  remaining_eq : start.remaining = blanks ++ there.remaining
  blank : ∀ character ∈ blanks, character = ' ' ∨ character = '\t'
  stops : ∀ character ∈ there.remaining.head?, character ≠ ' ' ∧ character ≠ '\t'

namespace Cursor

variable {start there other : Cursor} {blanks more : Text}

theorem Valid.exists_skipsBlanks (valid : start.Valid) :
    ∃ blanks there, start.SkipsBlanks blanks there := by
  have split : start.remaining = start.remaining.takeWhile isBlank ++ unpadded start.remaining :=
    List.takeWhile_append_dropWhile.symm
  have left := valid.remaining_of_advance split
  refine ⟨start.remaining.takeWhile isBlank, _, rfl, ?_, ?_, ?_⟩
  · rwa [left]
  · intro character member
    exact isBlank_iff.mp (List.mem_takeWhile_imp member)
  · rw [left]
    intro character isHead
    have solid := List.head?_dropWhile_not isBlank start.remaining
    rw [← unpadded, isHead] at solid
    exact not_isBlank_iff.mp (by simpa using solid)

namespace SkipsBlanks

theorem remaining_unpadded (skips : start.SkipsBlanks blanks there) :
    there.remaining = unpadded start.remaining := by
  rw [skips.remaining_eq, unpadded, dropWhile_run]
  · exact fun character member => isBlank_iff.mpr (skips.blank character member)
  · exact fun character isHead => not_isBlank_iff.mpr (skips.stops character isHead)

theorem unique (skips : start.SkipsBlanks blanks there) (skipsToo : start.SkipsBlanks more other) :
    blanks = more ∧ there = other := by
  have rests := skips.remaining_unpadded.trans skipsToo.remaining_unpadded.symm
  have texts := skips.remaining_eq.symm.trans skipsToo.remaining_eq
  rw [rests] at texts
  obtain rfl := List.append_cancel_right texts
  exact ⟨rfl, skips.there_eq.trans skipsToo.there_eq.symm⟩

theorem again (skips : start.SkipsBlanks blanks there) : there.SkipsBlanks [] there :=
  ⟨rfl, rfl, by simp, skips.stops⟩

theorem valid (skips : start.SkipsBlanks blanks there) (valid : start.Valid) : there.Valid := by
  have advanced := tryAdvance_eq_ok.mpr ⟨⟨_, skips.remaining_eq⟩, rfl, skips.there_eq⟩
  exact (tryAdvance_leads advanced).valid valid

end SkipsBlanks

end Cursor

/-- What is made of a run of padded content: behind a success the blanks that follow are skipped,
and any other end is the end. -/
inductive Run.Padded (blanks : Text) (inner : Run Value) : Run Value → Prop
  | success {value : Value} {more : Text} {there : Cursor}
      (succeeded : inner.outcome = .success value) (skips : inner.cursor.SkipsBlanks more there) :
      Padded blanks inner
        { outcome := .success value
          cursor := there
          events := .matched Draft.horizontalSpacePattern blanks ::
            (inner.events ++ [.matched Draft.horizontalSpacePattern more]) }
  | ended (held : ∀ value, inner.outcome ≠ .success value) :
      Padded blanks inner
        { outcome := inner.outcome
          cursor := inner.cursor
          events := .matched Draft.horizontalSpacePattern blanks :: inner.events }

namespace Run.Padded

variable {blanks : Text} {inner run other : Run Value}

theorem outcome_eq (padded : inner.Padded blanks run) : run.outcome = inner.outcome := by
  cases padded with
  | success succeeded _ => exact succeeded.symm
  | ended held => rfl

theorem unique (padded : inner.Padded blanks run) (paddedToo : inner.Padded blanks other) :
    run = other := by
  cases padded with
  | success succeeded skips =>
      cases paddedToo with
      | success succeededToo skipsToo =>
          obtain ⟨rfl, rfl⟩ := skips.unique skipsToo
          obtain rfl := Outcome.success.inj (succeeded.symm.trans succeededToo)
          rfl
      | ended held => exact absurd succeeded (held _)
  | ended held =>
      cases paddedToo with
      | success succeeded _ => exact absurd succeeded (held _)
      | ended => rfl

theorem exists_padded (blanks : Text) (valid : inner.cursor.Valid) :
    ∃ run, inner.Padded blanks run := by
  cases ended : inner.outcome with
  | success value =>
      obtain ⟨more, stop, skips⟩ := valid.exists_skipsBlanks
      exact ⟨_, .success ended skips⟩
  | _ => exact ⟨_, .ended (by simp [ended])⟩

theorem cursor_unique {other : Text} {runToo : Run Value} (padded : inner.Padded blanks run)
    (paddedToo : inner.Padded other runToo) : run.cursor = runToo.cursor := by
  cases padded with
  | success succeeded skips =>
      cases paddedToo with
      | success succeededToo skipsToo => exact (skips.unique skipsToo).2
      | ended held => exact absurd succeeded (held _)
  | ended held =>
      cases paddedToo with
      | success succeeded _ => exact absurd succeeded (held _)
      | ended => rfl

theorem padded_again {once twice : Run Value} {none more : Text}
    (padded : inner.Padded none once) (outer : once.Padded blanks twice)
    (alone : inner.Padded more run) :
    twice.outcome = run.outcome ∧ twice.cursor = run.cursor := by
  have outcomes := (outer.outcome_eq.trans padded.outcome_eq).trans alone.outcome_eq.symm
  have stopped := padded.cursor_unique alone
  cases outer with
  | ended held => exact ⟨outcomes, stopped⟩
  | success succeeded skips =>
      cases padded with
      | ended held => exact absurd succeeded (held _)
      | success _ skipped => exact ⟨outcomes, (skips.unique skipped.again).2.trans stopped⟩

end Run.Padded

namespace Grammar

open Budgeted

variable {rules : Rules} {content : Grammar} {start there : Cursor} {run inner : Run Value}
  {blanks : Text}

theorem parse_horizontalSpace (skips : start.SkipsBlanks blanks there) (budget : Nat) :
    parse rules (budget + 1) horizontalSpace start =
      { outcome := .success (.text blanks)
        cursor := there
        events := [.matched Draft.horizontalSpacePattern blanks] } := by
  have takes := takes_blanks start.remaining
  rw [← skips.remaining_unpadded, skips.remaining_eq] at takes
  have ran : Lexer.parse ⟨Draft.horizontalSpacePattern, _⟩ start = _ :=
    Lexer.parse_of_takes rfl takes skips.remaining_eq
  rw [← skips.there_eq] at ran
  exact congrArg (Run.map · Value.text) ran

theorem parse_padded (valid : start.Valid) (skips : start.SkipsBlanks blanks there)
    (rules : Rules) (content : Grammar) (budget : Nat) :
    (parse rules (budget + 1) content there).Padded blanks
      (parse rules (budget + 2) (padded content) start) := by
  have opening : parse rules (budget + 1) horizontalSpace start = _ :=
    parse_horizontalSpace skips budget
  have opened : parse rules (budget + 2) (padded content) start =
      (Parser.skip (parse rules (budget + 1) content) (parse rules (budget + 1) horizontalSpace)
        there).precededBy [.matched Draft.horizontalSpacePattern blanks] := by
    have goesOn := Run.andThen_of_success (congrArg Run.outcome opening) fun _ =>
      Parser.skip (parse rules (budget + 1) content) (parse rules (budget + 1) horizontalSpace)
    rw [opening] at goesOn
    exact (congrArg (Run.andThen · _) opening).trans goesOn
  rw [opened]
  cases ended : (parse rules (budget + 1) content there).outcome with
  | success value =>
      have sameText := parse_sameText rules (budget + 1) content there
      obtain ⟨more, stop, skipsToo⟩ := (sameText.valid (skips.valid valid)).exists_skipsBlanks
      have closing : parse rules (budget + 1) horizontalSpace _ = _ :=
        parse_horizontalSpace skipsToo budget
      have padded : Run.Padded blanks _ _ := .success ended skipsToo
      simp only [Parser.skip, Run.andThen, ended, closing]
      exact padded
  | _ =>
      have padded : Run.Padded blanks (parse rules (budget + 1) content there) _ :=
        .ended (by simp [ended])
      rw [ended] at padded
      simp only [Parser.skip, Run.andThen, ended]
      exact padded

theorem endsIn_padded_iff (valid : start.Valid) :
    EndsIn (budgeted rules (padded content)) start run ↔
      ∃ blanks there inner, start.SkipsBlanks blanks there ∧
        EndsIn (budgeted rules content) there inner ∧ inner.Padded blanks run := by
  constructor
  · rintro ⟨finished, budget, rfl⟩
    match budget with
    | 0 => exact absurd rfl finished
    | 1 => exact absurd rfl finished
    | budget + 2 =>
        obtain ⟨blanks, there, skips⟩ := valid.exists_skipsBlanks
        have padded := parse_padded valid skips rules content budget
        exact ⟨blanks, there, _, skips, endsIn_parse padded.outcome_eq.symm finished, padded⟩
  · rintro ⟨blanks, there, inner, skips, ends, padded⟩
    obtain ⟨least, same⟩ := ends.parse_eq
    have paddedToo := parse_padded valid skips rules content least
    rw [same (least + 1) (Nat.le_succ least)] at paddedToo
    exact ⟨padded.outcome_eq ▸ ends.1, least + 2, paddedToo.unique padded⟩

theorem endsIn_padded_padded (valid : start.Valid) {outcome : Outcome Value} {stop : Cursor} :
    (∃ run, EndsIn (budgeted rules (padded (padded content))) start run ∧
        run.outcome = outcome ∧ run.cursor = stop) ↔
      ∃ run, EndsIn (budgeted rules (padded content)) start run ∧
        run.outcome = outcome ∧ run.cursor = stop := by
  constructor
  · rintro ⟨twice, ends, rfl, rfl⟩
    obtain ⟨blanks, there, once, skips, endsOnce, outer⟩ := (endsIn_padded_iff valid).mp ends
    have validThere := skips.valid valid
    obtain ⟨none, here, inner, skipsNone, endsInner, padded⟩ :=
      (endsIn_padded_iff validThere).mp endsOnce
    obtain ⟨rfl, rfl⟩ := skipsNone.unique skips.again
    obtain ⟨run, alone⟩ :=
      Run.Padded.exists_padded blanks (endsInner.sameText.valid validThere)
    obtain ⟨outcomeEq, cursorEq⟩ := padded.padded_again outer alone
    exact ⟨run, (endsIn_padded_iff valid).mpr ⟨blanks, _, inner, skips, endsInner, alone⟩,
      outcomeEq.symm, cursorEq.symm⟩
  · rintro ⟨run, ends, rfl, rfl⟩
    obtain ⟨blanks, there, inner, skips, endsInner, alone⟩ := (endsIn_padded_iff valid).mp ends
    have validThere := skips.valid valid
    obtain ⟨once, padded⟩ :=
      Run.Padded.exists_padded [] (endsInner.sameText.valid validThere)
    have endsOnce := (endsIn_padded_iff validThere).mpr
      ⟨[], there, inner, skips.again, endsInner, padded⟩
    obtain ⟨twice, outer⟩ := Run.Padded.exists_padded blanks (endsOnce.sameText.valid validThere)
    exact ⟨twice, (endsIn_padded_iff valid).mpr ⟨blanks, there, once, skips, endsOnce, outer⟩,
      padded.padded_again outer alone⟩

/-- Trimmed content runs from behind the longest run of spaces and tabs at the cursor. It ends as
the content does there and where that ends, except that behind a success it also goes over the
longest run that follows. So trimming what is trimmed changes neither outcome nor cursor. -/
theorem trimmed_skips_blanks (valid : start.Valid) :
    (∀ drafts depth draft, Draft.buildWithin drafts (depth + 1) (.trimmed draft) =
      (Draft.buildWithin drafts depth draft).map padded) ∧
    (∀ run, EndsIn (budgeted rules (padded content)) start run ↔
      ∃ blanks there inner, start.SkipsBlanks blanks there ∧
        EndsIn (budgeted rules content) there inner ∧ inner.Padded blanks run) ∧
    ∀ outcome stop,
      (∃ run, EndsIn (budgeted rules (padded (padded content))) start run ∧
          run.outcome = outcome ∧ run.cursor = stop) ↔
        ∃ run, EndsIn (budgeted rules (padded content)) start run ∧
          run.outcome = outcome ∧ run.cursor = stop := by
  refine ⟨?_, fun run => endsIn_padded_iff valid, fun outcome stop => endsIn_padded_padded valid⟩
  intro drafts depth draft
  have built : Draft.asserted Draft.horizontalSpace = .ok horizontalSpace := rfl
  simp only [Draft.buildWithin, built]
  cases Draft.buildWithin drafts depth draft <;> rfl

/-- A line feed is no blank. -/
theorem trimmed_skips_blanks_before_lineFeed :
    let rules : Rules := { entries := [] }
    let content : Grammar := .lexer { pattern := ['x'], regex := .set (.single 'x') }
    let start : Cursor := .start [' ', '\t', 'x', ' ', '\n', ' ']
    let run := parse rules 4 (padded content) start
    start.Valid ∧ EndsIn (budgeted rules (padded content)) start run ∧
      run.outcome = .success (.text ['x']) ∧ run.cursor.offset = 4 ∧
      (∃ blanks there inner, start.SkipsBlanks blanks there ∧
        EndsIn (budgeted rules content) there inner ∧ inner.Padded blanks run) ∧
      ∃ twice, EndsIn (budgeted rules (padded (padded content))) start twice ∧
        twice.outcome = run.outcome ∧ twice.cursor = run.cursor := by
  intro rules content start run
  have valid : start.Valid := Cursor.start_valid _
  have outcome : run.outcome = .success (.text ['x']) := by
    subst run start content rules
    rfl
  have ends : EndsIn (budgeted rules (padded content)) start run :=
    endsIn_parse outcome (by simp)
  obtain ⟨-, skips, same⟩ := trimmed_skips_blanks valid
  exact ⟨valid, ends, outcome, by decide +kernel, (skips run).mp ends,
    (same run.outcome run.cursor).mpr ⟨run, ends, rfl, rfl⟩⟩

end Grammar

end TextGrammar
