/-!
Texts measured in bytes. A text is a list of characters, and every length and position in this
library counts the bytes of its UTF-8 form, so a number of bytes may fall inside a character.
`takeBytes` and `dropBytes` cut a text at such a number, and `isBoundary` tells whether the cut is
between two characters.
-/

namespace TextGrammar

abbrev Text := List Char

def byteLength : Text → Nat
  | [] => 0
  | character :: rest => character.utf8Size + byteLength rest

@[simp] theorem byteLength_nil : byteLength [] = 0 := rfl

@[simp] theorem byteLength_cons (character : Char) (rest : Text) :
    byteLength (character :: rest) = character.utf8Size + byteLength rest := rfl

@[simp] theorem byteLength_append (left right : Text) :
    byteLength (left ++ right) = byteLength left + byteLength right := by
  induction left with
  | nil => simp
  | cons character rest ih => simp [ih, Nat.add_assoc]

theorem byteLength_replicate (count : Nat) (character : Char) :
    byteLength (List.replicate count character) = count * character.utf8Size := by
  induction count with
  | zero => simp
  | succ count ih => rw [List.replicate_succ, byteLength_cons, ih, Nat.succ_mul, Nat.add_comm]

theorem byteLength_eq_zero {text : Text} : byteLength text = 0 ↔ text = [] := by
  cases text with
  | nil => simp
  | cons character rest =>
      have positive := character.utf8Size_pos
      simp only [byteLength_cons, reduceCtorEq, iff_false]
      omega

/-- The text after the first `count` bytes; a character that is cut goes with the bytes before. -/
def dropBytes : Nat → Text → Text
  | 0, text => text
  | _ + 1, [] => []
  | count + 1, character :: rest => dropBytes (count + 1 - character.utf8Size) rest
termination_by structural _ text => text

def takeBytes : Nat → Text → Text
  | 0, _ => []
  | _ + 1, [] => []
  | count + 1, character :: rest =>
      character :: takeBytes (count + 1 - character.utf8Size) rest
termination_by structural _ text => text

/-- Some whole characters at the start of the text have this length together. -/
def isBoundary : Nat → Text → Bool
  | 0, _ => true
  | _ + 1, [] => false
  | count + 1, character :: rest =>
      if count + 1 < character.utf8Size then false
      else isBoundary (count + 1 - character.utf8Size) rest
termination_by structural _ text => text

theorem takeBytes_append_dropBytes (count : Nat) (text : Text) :
    takeBytes count text ++ dropBytes count text = text := by
  induction text generalizing count with
  | nil => cases count <;> rfl
  | cons character rest ih =>
      cases count with
      | zero => rfl
      | succ count => simp [takeBytes, dropBytes, ih]

theorem takeBytes_byteLength_append (left right : Text) :
    takeBytes (byteLength left) (left ++ right) = left := by
  induction left with
  | nil => simp [takeBytes]
  | cons character rest ih =>
      have positive := character.utf8Size_pos
      obtain ⟨count, lengthEq⟩ : ∃ count, character.utf8Size + byteLength rest = count + 1 :=
        ⟨character.utf8Size + byteLength rest - 1, by omega⟩
      have tail : count + 1 - character.utf8Size = byteLength rest := by omega
      simp [lengthEq, takeBytes, tail, ih]

theorem dropBytes_byteLength_append (left right : Text) :
    dropBytes (byteLength left) (left ++ right) = right := by
  have whole := takeBytes_append_dropBytes (byteLength left) (left ++ right)
  rw [takeBytes_byteLength_append] at whole
  exact List.append_cancel_left whole

theorem dropBytes_append (left right : Text) (count : Nat) :
    dropBytes (byteLength left + count) (left ++ right) = dropBytes count right := by
  induction left with
  | nil => simp
  | cons character rest ih =>
      have positive := character.utf8Size_pos
      obtain ⟨total, totalEq⟩ :
          ∃ total, character.utf8Size + byteLength rest + count = total + 1 :=
        ⟨character.utf8Size + byteLength rest + count - 1, by omega⟩
      have tail : total + 1 - character.utf8Size = byteLength rest + count := by omega
      simp [totalEq, dropBytes, tail, ih]

theorem isBoundary_iff (count : Nat) (text : Text) :
    isBoundary count text = true ↔
      ∃ left right, text = left ++ right ∧ byteLength left = count := by
  induction text generalizing count with
  | nil =>
      cases count with
      | zero => simp [isBoundary]
      | succ count =>
          simp only [isBoundary, Bool.false_eq_true, false_iff]
          rintro ⟨left, right, textEq, lengthEq⟩
          have leftEq : left = [] := (List.append_eq_nil_iff.mp textEq.symm).1
          subst leftEq
          simp at lengthEq
  | cons character rest ih =>
      cases count with
      | zero =>
          simp only [isBoundary, true_iff]
          exact ⟨[], character :: rest, rfl, rfl⟩
      | succ count =>
          simp only [isBoundary]
          split
          · rename_i short
            simp only [Bool.false_eq_true, false_iff]
            rintro ⟨left, right, textEq, lengthEq⟩
            cases left with
            | nil => simp at lengthEq
            | cons first others =>
                rcases List.cons_eq_cons.mp textEq with ⟨sameHead, -⟩
                subst sameHead
                simp only [byteLength_cons] at lengthEq
                omega
          · rename_i long
            rw [ih]
            constructor
            · rintro ⟨left, right, textEq, lengthEq⟩
              refine ⟨character :: left, right, by simp [textEq], ?_⟩
              simp only [byteLength_cons]
              omega
            · rintro ⟨left, right, textEq, lengthEq⟩
              cases left with
              | nil => simp at lengthEq
              | cons first others =>
                  rcases List.cons_eq_cons.mp textEq with ⟨sameHead, sameTail⟩
                  subst sameHead
                  simp only [byteLength_cons] at lengthEq
                  exact ⟨others, right, sameTail, by omega⟩

end TextGrammar
