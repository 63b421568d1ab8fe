import TextGrammar.Proofs.Language.Tokens
import TextGrammar.Value.Arithmetic

/-!
A language of arithmetic: numbers and parentheses, tied by products before sums, each level from
left to right. An expression is written with padding around every token, and running the language
on what is written gives the usual value, if no result on the way is out of range and no divisor is
zero.
-/

namespace TextGrammar

namespace Expression

/-! ## Expressions -/

inductive Level
  | product
  | sum

inductive Sign : Level → Type
  | times : Sign .product
  | dividedBy : Sign .product
  | plus : Sign .sum
  | minus : Sign .sum

structure Margins where
  before : Padding
  after : Padding

mutual

inductive Chain : Level → Type
  | mk {level : Level} (first : Operand level) (rest : Tail level) : Chain level

inductive Tail : Level → Type
  | stop {level : Level} : Tail level
  | next {level : Level} (margins : Margins) (sign : Sign level) (operand : Operand level)
      (rest : Tail level) : Tail level

/-- The operands of sums are products, those of products are numbers and sums in parentheses. -/
inductive Operand : Level → Type
  | number (margins : Margins) (numeral : Numeral) : Operand .product
  | group (opening : Margins) (inner : Chain .sum) (closing : Margins) : Operand .product
  | product (inner : Chain .product) : Operand .sum

end

/-! ## How they are written -/

def Margins.around (margins : Margins) (token : Text) : Text :=
  margins.before.text ++ token ++ margins.after.text

def Sign.character {level : Level} : Sign level → Char
  | .times => '*'
  | .dividedBy => '/'
  | .plus => '+'
  | .minus => '-'

mutual

def Chain.written {level : Level} : Chain level → Text
  | .mk first rest => first.written ++ rest.written

def Tail.written {level : Level} : Tail level → Text
  | .stop => []
  | .next margins sign operand rest =>
      margins.around [sign.character] ++ operand.written ++ rest.written

def Operand.written {level : Level} : Operand level → Text
  | .number margins numeral => margins.around numeral.text
  | .group opening inner closing => opening.around ['('] ++ inner.written ++ closing.around [')']
  | .product inner => inner.written

end

/-! ## What they are worth -/

def Sign.apply {level : Level} : Sign level → Int → Int → Int
  | .times, left, right => left * right
  | .dividedBy, left, right => left.tdiv right
  | .plus, left, right => left + right
  | .minus, left, right => left - right

mutual

def Chain.value {level : Level} : Chain level → Int
  | .mk first rest => rest.value first.value

def Tail.value {level : Level} : Tail level → Int → Int
  | .stop, before => before
  | .next _ sign operand rest, before => rest.value (sign.apply before operand.value)

def Operand.value {level : Level} : Operand level → Int
  | .number _ numeral => numeral.value
  | .group _ inner _ => inner.value
  | .product inner => inner.value

end

def Sign.fits {level : Level} (sign : Sign level) (left right : Int) : Bool :=
  IntegerRange.signed64.contains (sign.apply left right) &&
    match sign with
    | .dividedBy => right != 0
    | _ => true

mutual

/-- All numbers are in range, and so are all results on the way; no divisor is zero. -/
def Chain.fits {level : Level} : Chain level → Bool
  | .mk first rest => first.fits && rest.fits first.value

def Tail.fits {level : Level} : Tail level → Int → Bool
  | .stop, _ => true
  | .next _ sign operand rest, before =>
      operand.fits && sign.fits before operand.value &&
        rest.fits (sign.apply before operand.value)

def Operand.fits {level : Level} : Operand level → Bool
  | .number _ numeral => IntegerRange.signed64.contains numeral.value
  | .group _ inner _ => inner.fits
  | .product inner => inner.fits

end

/-! ## The language -/

def ruleName : Text := ['e', 'x', 'p', 'r']

def Level.signs : Level → List Char
  | .product => ['*', '/']
  | .sum => ['+', '-']

def Level.pattern (level : Level) : Text := '[' :: level.signs ++ [']']

def chainDraft (level : Level) (operand : Draft) : Draft :=
  .tryMap
    (.pair operand
      (.repeated (.pair (.trimmed (.lexer level.pattern)) operand) .empty false))
    Value.arithmetic

def numberDraft : Draft := .tryMap (.trimmed (.lexer numberPattern)) (Value.readInteger .signed64)

def groupDraft : Draft :=
  .skip (.skipThen (.trimmed (.lexer ['\\', '('])) [] (.lazy ruleName))
    (.trimmed (.lexer ['\\', ')']))

def draft : Draft := chainDraft .sum (chainDraft .product (.orElse numberDraft groupDraft))

def drafts : List (Text × Draft) := [(ruleName, draft)]

/-! ## What it is built to -/

def Level.sign (level : Level) : Grammar := .token level.pattern (.set (.ofList level.signs))

def operations (level : Level) (operand : Grammar) : Grammar :=
  .repeated (.pair (.padded level.sign) operand) .empty false

def chainGrammar (level : Level) (operand : Grammar) : Grammar :=
  .tryMap (.pair operand (operations level operand)) Value.arithmetic

def numberGrammar : Grammar :=
  .tryMap (.padded (.token numberPattern numberRegex)) (Value.readInteger .signed64)

def opening : Grammar := .padded (.token ['\\', '('] (.set (.single '(')))

def closing : Grammar := .padded (.token ['\\', ')'] (.set (.single ')')))

def groupGrammar : Grammar := .skip (.skipThen opening (.lazy ruleName)) closing

def Level.operand : Level → Grammar
  | .product => .orElse numberGrammar groupGrammar
  | .sum => chainGrammar .product (.orElse numberGrammar groupGrammar)

def Level.chain (level : Level) : Grammar := chainGrammar level level.operand

def rules : Rules := .ofDrafts drafts

theorem build_draft : Draft.build drafts draft = .ok Level.sum.chain := rfl

theorem rules_build : rules.build ruleName = .ok Level.sum.chain := rfl

/-! ## The fold -/

def Tail.operations {level : Level} : Tail level → List (Text × Int)
  | .stop => []
  | .next _ sign operand rest => ([sign.character], operand.value) :: rest.operations

def operationValue (operation : Text × Int) : Value :=
  .pair (.text operation.1) (.integer operation.2)

theorem operands?_chain (start : Int) (operations : List (Text × Int)) :
    Arithmetic.operands? (.pair (.integer start) (.list (operations.map operationValue))) =
      some (start, operations) := by
  have all : (operations.map operationValue).mapM Arithmetic.operation? = some operations := by
    induction operations with
    | nil => rfl
    | cons operation rest ih =>
        rw [List.map_cons, List.mapM_cons, ih]
        rfl
  rw [Arithmetic.operands?, all, Option.map_some]

theorem operate_of_fits {level : Level} (sign : Sign level) {left right : Int}
    (fits : sign.fits left right = true) :
    Arithmetic.operate left [sign.character] right = .ok (sign.apply left right) := by
  simp only [Sign.fits, Bool.and_eq_true] at fits
  have inRange : Arithmetic.inRange (sign.apply left right) = .ok (sign.apply left right) := by
    rw [Arithmetic.inRange, if_pos fits.1]
  cases sign with
  | dividedBy =>
      have divisor : right ≠ 0 := by simpa using fits.2
      simpa [Arithmetic.operate, Sign.character, Sign.apply, divisor] using inRange
  | _ => simpa [Arithmetic.operate, Sign.character, Sign.apply] using inRange

theorem Tail.fold {level : Level} : ∀ (tail : Tail level) (before : Int),
    tail.fits before = true →
    Arithmetic.fold before tail.operations = .ok (tail.value before)
  | .stop, before, _ => rfl
  | .next _ sign operand rest, before, fits => by
      simp only [Tail.fits, Bool.and_eq_true] at fits
      have first := operate_of_fits sign fits.1.2
      have later := rest.fold _ fits.2
      simp only [Arithmetic.fold, Tail.operations, List.foldlM_cons, first] at later ⊢
      exact later

theorem Chain.arithmetic {level : Level} (first : Operand level) (rest : Tail level)
    (fits : rest.fits first.value = true) :
    Value.arithmetic (.pair (.integer first.value)
      (.list (rest.operations.map operationValue))) =
      .ok (.integer (Chain.mk first rest).value) := by
  simp only [Value.arithmetic, operands?_chain, rest.fold _ fits, Chain.value]

/-! ## Where tokens end -/

/-- What follows is no further digit, and behind its padding there is none of these signs. -/
structure Ends (signs : List Char) (left : Text) : Prop where
  notDigit : ∀ character ∈ left.head?, character.isDigit = false
  notSign : ∀ character ∈ (unpadded left).head?, character ∉ signs

def Level.tighter : Level → List Char
  | .product => []
  | .sum => Level.product.signs

def Level.all (level : Level) : List Char := level.tighter ++ level.signs

theorem Sign.mem_signs {level : Level} (sign : Sign level) : sign.character ∈ level.signs := by
  cases sign <;> decide

theorem Sign.not_mem_tighter {level : Level} (sign : Sign level) :
    sign.character ∉ level.tighter := by
  cases sign <;> decide

theorem Sign.not_isBlank {level : Level} (sign : Sign level) :
    isBlank sign.character = false := by
  cases sign <;> decide

theorem Sign.not_isDigit {level : Level} (sign : Sign level) :
    sign.character.isDigit = false := by
  cases sign <;> decide

theorem unpadded_around (margins : Margins) {token left : Text}
    (solid : ∀ character ∈ (token ++ (margins.after.text ++ left)).head?,
      isBlank character = false) :
    unpadded (margins.around token ++ left) = token ++ (margins.after.text ++ left) := by
  rw [Margins.around, List.append_assoc, List.append_assoc, unpadded_padding,
    unpadded_of_head solid]

theorem around_not_isDigit (margins : Margins) {character : Char} (left : Text)
    (other : character.isDigit = false) :
    ∀ first ∈ (margins.around [character] ++ left).head?, first.isDigit = false := by
  rw [Margins.around, List.append_assoc, List.append_assoc]
  exact margins.before.not_isDigit (by simp [other])

theorem ends_of_around (margins : Margins) {character : Char} (left : Text) {signs : List Char}
    (solid : isBlank character = false) (other : character.isDigit = false)
    (noSign : character ∉ signs) : Ends signs (margins.around [character] ++ left) := by
  refine ⟨around_not_isDigit margins left other, ?_⟩
  rw [unpadded_around margins (by simp [solid])]
  simp [noSign]

theorem Tail.ends {level : Level} (tail : Tail level) {left : Text} (ends : Ends level.all left) :
    Ends level.tighter (tail.written ++ left) := by
  cases tail with
  | stop =>
      refine ⟨ends.notDigit, fun character isHead tighter => ?_⟩
      exact ends.notSign character isHead (List.mem_append_left _ tighter)
  | next margins sign operand rest =>
      rw [Tail.written, List.append_assoc, List.append_assoc]
      exact ends_of_around margins _ sign.not_isBlank sign.not_isDigit sign.not_mem_tighter

/-! ## Readings -/

variable {text left : Text}

theorem reads_token {pattern : Text} {set : CharSet} (margins : Margins) {character : Char}
    (inside : set.contains character = true) (solid : isBlank character = false)
    (written : unpadded text = unpadded (margins.around [character] ++ left)) :
    Grammar.Reads rules (.padded (.token pattern (.set set))) text
      (.took (.text [character]) (unpadded left)) := by
  rw [unpadded_around margins (by simp [solid])] at written
  have inner : Grammar.Reads rules (.token pattern (.set set)) (unpadded text)
      (.took (.text [character]) (margins.after.text ++ left)) := by
    rw [written]
    exact .token (Regex.takes_set inside)
  have reads := inner.padded
  rwa [unpadded_padding] at reads

theorem reads_number (margins : Margins) {numeral : Numeral}
    (inRange : IntegerRange.signed64.contains numeral.value = true)
    (stops : ∀ character ∈ left.head?, character.isDigit = false)
    (written : unpadded text = unpadded (margins.around numeral.text ++ left)) :
    Grammar.Reads rules numberGrammar text
      (.took (.integer numeral.value) (unpadded left)) := by
  rw [unpadded_around margins (numeral.solid _)] at written
  have inner : Grammar.Reads rules (.token numberPattern numberRegex) (unpadded text)
      (.took (.text numeral.text) (margins.after.text ++ left)) := by
    rw [written]
    exact .token (numeral.takes (margins.after.not_isDigit stops))
  have reads := inner.padded
  rw [unpadded_padding] at reads
  exact reads.tryMap (numeral.readInteger inRange)

theorem reads_sign {level : Level} (margins : Margins) (sign : Sign level) (left : Text) :
    Grammar.Reads rules (.padded level.sign)
      (unpadded (margins.around [sign.character] ++ left))
      (.took (.text [sign.character]) (unpadded left)) := by
  have inside : (CharSet.ofList level.signs).contains sign.character = true := by
    rw [CharSet.contains_ofList, List.contains_eq_mem, decide_eq_true sign.mem_signs]
  exact reads_token margins inside sign.not_isBlank (unpadded_unpadded _)

theorem numberGrammar_refused (opening : Margins)
    (written : unpadded text = unpadded (opening.around ['('] ++ left)) :
    Grammar.Reads rules numberGrammar text .refused := by
  rw [unpadded_around opening (by simp [isBlank])] at written
  refine .tryMap_refused (.padded_refused (.token_refused (numberRegex_refuses ?_))) _
  simp [written]

theorem reads_stop {level : Level} {operand : Grammar} (ends : Ends level.all left) :
    Grammar.Reads rules (operations level operand) (unpadded left)
      (.took (.list []) (unpadded left)) := by
  refine .repeated_none (.pair_refused (.padded_refused (.token_refused (Regex.refuses_set ?_))))
  intro character isHead
  rw [unpadded_unpadded] at isHead
  rw [CharSet.contains_ofList, List.contains_eq_mem, decide_eq_false_iff_not]
  exact fun sign => ends.notSign character isHead (List.mem_append_right _ sign)

mutual

/-- By recursion on the expression. Texts count behind their padding only: of two tokens the one
that is read first takes all that is between them. -/
theorem Chain.reads {level : Level} : ∀ (chain : Chain level) {text left : Text},
    chain.fits = true → Ends level.all left →
    unpadded text = unpadded (chain.written ++ left) →
    Grammar.Reads rules level.chain text (.took (.integer chain.value) (unpadded left))
  | .mk first rest, text, left, fits, ends, written => by
      simp only [Chain.fits, Bool.and_eq_true] at fits
      rw [Chain.written, List.append_assoc] at written
      have operand := first.reads fits.1 (rest.ends ends) written
      exact .tryMap (.pair operand (rest.reads fits.2 ends)) (Chain.arithmetic first rest fits.2)

theorem Tail.reads {level : Level} : ∀ (tail : Tail level) {before : Int} {left : Text},
    tail.fits before = true → Ends level.all left →
    Grammar.Reads rules (operations level level.operand) (unpadded (tail.written ++ left))
      (.took (.list (tail.operations.map operationValue)) (unpadded left))
  | .stop, before, left, _, ends => reads_stop ends
  | .next margins sign operand rest, before, left, fits, ends => by
      simp only [Tail.fits, Bool.and_eq_true] at fits
      rw [Tail.written, List.append_assoc, List.append_assoc]
      have first := reads_sign margins sign (operand.written ++ (rest.written ++ left))
      have second := operand.reads fits.1.1 (rest.ends ends) (unpadded_unpadded _)
      refine .repeated_next (.pair first second) (.empty _) ?_ (rest.reads fits.2 ends)
      have shorter := byteLength_unpadded_le (rest.written ++ left)
      have positive := sign.character.utf8Size_pos
      rw [unpadded_around margins (by simp [sign.not_isBlank])]
      simp only [byteLength_append, byteLength_cons] at shorter ⊢
      omega

theorem Operand.reads {level : Level} : ∀ (operand : Operand level) {text left : Text},
    operand.fits = true → Ends level.tighter left →
    unpadded text = unpadded (operand.written ++ left) →
    Grammar.Reads rules level.operand text (.took (.integer operand.value) (unpadded left))
  | .number margins numeral, text, left, fits, ends, written =>
      .orElse (reads_number margins fits ends.notDigit written)
  | .group opening inner closing, text, left, fits, ends, written => by
      rw [Operand.written, List.append_assoc, List.append_assoc] at written
      have endsInner : Ends Level.sum.all (closing.around [')'] ++ left) :=
        ends_of_around closing left rfl rfl (by decide)
      have opens : Grammar.Reads rules Expression.opening text (.took (.text ['(']) _) :=
        reads_token opening rfl rfl written
      have reads := inner.reads fits endsInner (unpadded_unpadded _)
      have closes : Grammar.Reads rules Expression.closing
          (unpadded (closing.around [')'] ++ left)) (.took (.text [')']) (unpadded left)) :=
        reads_token closing rfl rfl (unpadded_unpadded _)
      exact .orElse_refused (numberGrammar_refused opening written)
        (.skip (.skipThen opens (.lazy rules_build reads)) closes)
  | .product inner, text, left, fits, ends, written => inner.reads fits ends written

end

end Expression

/-- The language of arithmetic gives every expression its usual value. -/
theorem Expression.parse_written (expression : Expression.Chain .sum)
    (fits : expression.fits = true) :
    ∃ grammar, Draft.build Expression.drafts Expression.draft = .ok grammar ∧
      ∃ least, ∀ budget, least ≤ budget →
        (grammar.parse (.ofDrafts Expression.drafts) budget).parseWhole expression.written =
          .value (.integer expression.value) := by
  have ends : Expression.Ends Expression.Level.sum.all [] := ⟨by simp, by simp [unpadded]⟩
  have reads := expression.reads fits ends (by rw [List.append_nil])
  exact ⟨_, Expression.build_draft, reads.parseWhole⟩

/-- A minus that is a sign behind one that is an operation, a divisor with a leading zero, and a
quotient that is rounded towards zero. -/
theorem Expression.parse_written_rounding :
    let tight : Expression.Margins := ⟨⟨[], by simp⟩, ⟨[], by simp⟩⟩
    let wide : Expression.Margins := ⟨⟨[' '], by simp [isBlank]⟩, ⟨['\t'], by simp [isBlank]⟩⟩
    let number (negative : Bool) (digits : Text) (nonempty : digits ≠ [])
        (allDigits : ∀ character ∈ digits, character.isDigit = true) :
        Expression.Operand .product := .number tight ⟨negative, digits, nonempty, allDigits⟩
    let seven := number false ['7'] (by simp) (by simp)
    let minusTwo := number true ['2'] (by simp) (by simp)
    let nine := number false ['9'] (by simp) (by simp)
    let five := number false ['5'] (by simp) (by simp)
    let three := number false ['0', '3'] (by simp) (by simp)
    let difference : Expression.Chain .sum :=
      .mk (.product (.mk nine .stop)) (.next wide .minus (.product (.mk five .stop)) .stop)
    let product : Expression.Chain .product :=
      .mk minusTwo
        (.next tight .times (.group wide difference tight) (.next tight .dividedBy three .stop))
    let expression : Expression.Chain .sum :=
      .mk (.product (.mk seven .stop)) (.next wide .minus (.product product) .stop)
    expression.written =
      ['7', ' ', '-', '\t', '-', '2', '*', ' ', '(', '\t', '9', ' ', '-', '\t', '5', ')', '/', '0',
        '3'] ∧
    expression.fits = true ∧ expression.value = 9 ∧
    ∃ grammar, Draft.build Expression.drafts Expression.draft = .ok grammar ∧
      ∃ least, ∀ budget, least ≤ budget →
        (grammar.parse (.ofDrafts Expression.drafts) budget).parseWhole expression.written =
          .value (.integer expression.value) := by
  intro tight wide number seven minusTwo nine five three difference product expression
  have fits : expression.fits = true := by decide
  exact ⟨rfl, fits, rfl, Expression.parse_written expression fits⟩

end TextGrammar
