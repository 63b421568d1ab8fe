import TextGrammar.Proofs.Pattern.Arrivals

/-!
What expressions take from a text. A set takes one of its characters, a greedy repetition of a set
as many as there are, a sequence what its parts take one after the other. Marks play no part in
this, for every character that is taken clears them.
-/

namespace TextGrammar

theorem dropWhile_run {members : Char → Bool} {text rest : Text}
    (inside : ∀ character ∈ text, members character = true)
    (stops : ∀ character ∈ rest.head?, members character = false) :
    (text ++ rest).dropWhile members = rest := by
  rw [List.dropWhile_append_of_pos inside]
  cases rest with
  | nil => rfl
  | cons first rest => rw [List.dropWhile_cons_of_neg (by simp [stops first rfl])]

/-! ## Sets -/

namespace CharSet

theorem contains_single (character other : Char) :
    (single character).contains other = (other == character) := by
  rw [Bool.eq_iff_iff]
  simp only [single, contains, Bool.and_eq_true, decide_eq_true_eq, beq_iff_eq]
  exact ⟨fun both => Char.le_antisymm both.2 both.1, fun same => by simp [same]⟩

theorem contains_ofList (characters : List Char) (character : Char) :
    (ofList characters).contains character = characters.contains character := by
  induction characters with
  | nil => rfl
  | cons first rest ih =>
      simp only [ofList, List.foldr_cons, contains, contains_single, List.contains_cons] at ih ⊢
      rw [ih]

end CharSet

/-! ## Steps over one character -/

namespace Spot

def past (spot : Spot) (character : Char) (rest : Text) : Spot :=
  { before := some character, rest := rest, offset := spot.offset + character.utf8Size }

variable {spot : Spot} {character : Char} {rest : Text}

theorem next?_of_rest (ahead : spot.rest = character :: rest) :
    spot.next? = some (character, spot.past character rest) := by
  simp only [next?, ahead, past]

theorem offset_lt_past (spot : Spot) (character : Char) (rest : Text) :
    spot.offset < (spot.past character rest).offset :=
  Nat.lt_add_of_pos_right character.utf8Size_pos

end Spot

namespace Matcher

variable {set : CharSet} {spot : Spot} {marks : Marks}

theorem ofSet_of_rest {character : Char} {rest : Text} (ahead : spot.rest = character :: rest)
    (inside : set.contains character = true) :
    ofSet set marks spot = [⟨spot.past character rest, .clear⟩] := by
  simp only [ofSet, Spot.next?_of_rest ahead, inside, if_true]

theorem ofSet_of_head (outside : ∀ character ∈ spot.rest.head?, set.contains character = false) :
    ofSet set marks spot = [] := by
  cases ahead : spot.rest with
  | nil => simp [ofSet, Spot.next?, ahead]
  | cons character rest =>
      simp [ofSet, Spot.next?_of_rest ahead, outside character (by simp [ahead])]

theorem pass_ofSet_of_rest {character : Char} {rest : Text}
    (ahead : spot.rest = character :: rest) (inside : set.contains character = true) :
    pass (ofSet set) marks spot = [⟨spot.past character rest, .node false .clear .clear⟩] := by
  have moved := Nat.ne_of_lt (spot.offset_lt_past character rest)
  simp [pass, ofSet_of_rest ahead inside, moved]

theorem pass_ofSet_of_head
    (outside : ∀ character ∈ spot.rest.head?, set.contains character = false) :
    pass (ofSet set) marks spot = [] := by
  rw [pass, ofSet_of_head outside, List.map_nil]

/-- Of the arrivals that the loop adds, the preferred one is behind the longest run of characters
of the set. -/
theorem loopFrom_set (set : CharSet) (fuel : Nat) (arrival : Arrival)
    (found : List Arrival × List Nat) (enough : arrival.spot.rest.length < fuel)
    (unmarked : arrival.marks.here = false)
    (behind : ∀ offset ∈ found.2, offset < arrival.spot.offset) :
    ∃ last more, (loopFrom (ofSet set) true fuel arrival found).1.reverse =
        found.1.reverse ++ last :: more ∧
      last.spot.rest = arrival.spot.rest.dropWhile set.contains := by
  induction fuel generalizing arrival found with
  | zero => omega
  | succ fuel ih =>
      obtain ⟨found, met⟩ := found
      have unmet : arrival.spot.offset ∉ met := fun member =>
        Nat.lt_irrefl _ (behind _ member)
      simp only [loopFrom, unmarked, List.contains_eq_mem, unmet, decide_false, Bool.or_false,
        Bool.false_eq_true, if_false, if_true, List.reverse_cons]
      by_cases outside : ∀ character ∈ arrival.spot.rest.head?, set.contains character = false
      · refine ⟨_, [], by rw [pass_ofSet_of_head outside]; rfl, ?_⟩
        cases ahead : arrival.spot.rest with
        | nil => rfl
        | cons character rest =>
            have ended := outside character (by simp [ahead])
            simp [ended]
      · -- a character of the set leads on to the next round, whose spot lies further on
        obtain ⟨character, isHead, inside⟩ : ∃ character,
            arrival.spot.rest.head? = some character ∧ set.contains character = true := by
          simpa using outside
        obtain ⟨rest, ahead⟩ := List.head?_eq_some_iff.mp isHead
        have further := arrival.spot.offset_lt_past character rest
        rw [pass_ofSet_of_rest ahead inside, List.foldl_cons, List.foldl_nil]
        obtain ⟨last, more, reverseEq, restEq⟩ :=
          ih ⟨arrival.spot.past character rest, .node false .clear .clear⟩
            (found, arrival.spot.offset :: met)
            (by simp only [ahead, List.length_cons, Spot.past] at enough ⊢; omega) rfl
            (by
              intro offset member
              rcases List.mem_cons.mp member with rfl | member
              · exact further
              · exact Nat.lt_trans (behind offset member) further)
        refine ⟨last, more ++ [_], by rw [reverseEq, List.append_assoc, List.cons_append], ?_⟩
        rw [restEq, ahead, List.dropWhile_cons_of_pos inside, Spot.past]

end Matcher

namespace Regex

/-! ## Ends of matches -/

def ends (regex : Regex) (spot : Spot) : List Spot :=
  (regex.matcher .clear spot).map Arrival.spot

theorem matchAt?_eq_head? (regex : Regex) (spot : Spot) :
    regex.matchAt? spot = (regex.ends spot).head? := by
  rw [matchAt?, ends, List.head?_map]

theorem matchAt?_seq (first second : Regex) (spot : Spot) :
    (seq first second).matchAt? spot = (first.ends spot).findSome? second.matchAt? := by
  have unmarked : ∀ source target : Spot, Marks.between source target .clear = .clear := by
    intro source target
    simp [Marks.between]
  simp only [matchAt?, matcher, Matcher.chain, head?_distinctArrivals, List.head?_flatMap,
    List.head?_map, List.map_findSome?, Marks.first, Marks.second, unmarked, ends,
    List.findSome?_map]
  congr 1
  funext middle
  simp [Function.comp_def, matchAt?]

/-! ## What is taken -/

/-- Wherever this text lies ahead, the preferred match ends where the rest lies ahead. -/
def Takes (regex : Regex) (text rest : Text) : Prop :=
  ∀ spot : Spot, spot.rest = text →
    ∃ last, regex.matchAt? spot = some last ∧ last.rest = rest

def Refuses (regex : Regex) (text : Text) : Prop :=
  ∀ spot : Spot, spot.rest = text → regex.matchAt? spot = none

variable {set : CharSet} {character : Char} {text middle rest : Text} {first second : Regex}

theorem takes_set (inside : set.contains character = true) :
    (Regex.set set).Takes (character :: rest) rest := by
  intro spot ahead
  refine ⟨spot.past character rest, ?_, rfl⟩
  rw [matchAt?, matcher, Matcher.ofSet_of_rest ahead inside, List.head?_cons, Option.map_some]

theorem refuses_set (outside : ∀ character ∈ text.head?, set.contains character = false) :
    (Regex.set set).Refuses text := by
  rintro spot rfl
  rw [matchAt?, matcher, Matcher.ofSet_of_head outside, List.head?_nil, Option.map_none]

theorem Takes.seq (near : first.Takes text middle) (far : second.Takes middle rest) :
    (Regex.seq first second).Takes text rest := by
  intro spot ahead
  obtain ⟨between, matched, between_rest⟩ := near spot ahead
  obtain ⟨last, matchedToo, last_rest⟩ := far between between_rest
  refine ⟨last, ?_, last_rest⟩
  rw [matchAt?_eq_head?] at matched
  obtain ⟨others, endsEq⟩ := List.head?_eq_some_iff.mp matched
  rw [matchAt?_seq, endsEq, List.findSome?_cons, matchedToo]

theorem Refuses.seq (missing : first.Refuses text) (second : Regex) :
    (Regex.seq first second).Refuses text := by
  intro spot ahead
  have unmatched := missing spot ahead
  rw [matchAt?_eq_head?, List.head?_eq_none_iff] at unmatched
  rw [matchAt?_seq, unmatched, List.findSome?_nil]

theorem takes_many (set : CharSet) (text : Text) :
    (iterate (.set set) 0 none true).Takes text (text.dropWhile set.contains) := by
  rintro spot rfl
  obtain ⟨last, more, reverseEq, restEq⟩ := Matcher.loopFrom_set set (spot.rest.length + 1)
    ⟨spot, .clear⟩ ([], []) (Nat.lt_succ_self _) rfl (by simp)
  refine ⟨last.spot, ?_, restEq⟩
  simp [matchAt?, matcher, canBeEmpty, Matcher.iterate, Matcher.star, reverseEq]

theorem matchAt?_oneOrMore (set : CharSet) (spot : Spot) :
    (iterate (.set set) 1 none true).matchAt? spot =
      (Matcher.loop (.ofSet set) true .clear spot).head?.map Arrival.spot := by
  simp [matchAt?, matcher, Matcher.iterate, Matcher.times, Matcher.chain, Matcher.stay,
    head?_distinctArrivals, Marks.second, Marks.between, Function.comp_def]

theorem takes_oneOrMore (inside : set.contains character = true) :
    (iterate (.set set) 1 none true).Takes (character :: text) (text.dropWhile set.contains) := by
  intro spot ahead
  obtain ⟨last, more, reverseEq, restEq⟩ := Matcher.loopFrom_set set (spot.rest.length + 1)
    ⟨spot.past character text, .node false .clear .clear⟩ ([], [])
    (by simp only [ahead, List.length_cons, Spot.past]; omega) rfl (by simp)
  refine ⟨last.spot, ?_, restEq⟩
  simp [matchAt?_oneOrMore, Matcher.loop, Matcher.pass_ofSet_of_rest ahead inside, reverseEq]

theorem refuses_oneOrMore (outside : ∀ character ∈ text.head?, set.contains character = false) :
    (iterate (.set set) 1 none true).Refuses text := by
  rintro spot rfl
  simp [matchAt?_oneOrMore, Matcher.loop, Matcher.pass_ofSet_of_head outside]

theorem takes_run (inside : ∀ character ∈ text, set.contains character = true)
    (stops : ∀ character ∈ rest.head?, set.contains character = false) :
    (iterate (.set set) 0 none true).Takes (text ++ rest) rest := by
  have takes := takes_many set (text ++ rest)
  rwa [dropWhile_run inside stops] at takes

theorem takes_run_oneOrMore (nonempty : text ≠ [])
    (inside : ∀ character ∈ text, set.contains character = true)
    (stops : ∀ character ∈ rest.head?, set.contains character = false) :
    (iterate (.set set) 1 none true).Takes (text ++ rest) rest := by
  obtain ⟨first, others, rfl⟩ := List.exists_cons_of_ne_nil nonempty
  have takes := @takes_oneOrMore set first (others ++ rest) (inside first List.mem_cons_self)
  rwa [dropWhile_run (fun character member => inside character (List.mem_cons_of_mem _ member))
    stops] at takes

/-! ## A part that may be left out -/

theorem ends_perhaps_of_rest {spot : Spot} (ahead : spot.rest = character :: rest)
    (inside : set.contains character = true) :
    (iterate (.set set) 0 (some 1) true).ends spot = [spot.past character rest, spot] := by
  have moved := Nat.ne_of_lt (spot.offset_lt_past character rest)
  simp [ends, matcher, Matcher.iterate, Matcher.times, Matcher.chain, Matcher.stay, Matcher.upTo,
    Matcher.upToFrom, Matcher.ordered, Matcher.ofSet_of_rest ahead inside, distinctArrivals,
    firstArrivals, Marks.second, Marks.between, Marks.here, moved]

theorem ends_perhaps_of_head {spot : Spot}
    (outside : ∀ character ∈ spot.rest.head?, set.contains character = false) :
    (iterate (.set set) 0 (some 1) true).ends spot = [spot] := by
  simp [ends, matcher, Matcher.iterate, Matcher.times, Matcher.chain, Matcher.stay, Matcher.upTo,
    Matcher.upToFrom, Matcher.ordered, Matcher.ofSet_of_head outside, distinctArrivals,
    firstArrivals, Marks.second, Marks.between, Marks.here]

theorem Takes.perhaps (taken : second.Takes text rest) (inside : set.contains character = true) :
    (Regex.seq (iterate (.set set) 0 (some 1) true) second).Takes (character :: text) rest := by
  intro spot ahead
  obtain ⟨last, matched, last_rest⟩ := taken (spot.past character text) rfl
  refine ⟨last, ?_, last_rest⟩
  rw [matchAt?_seq, ends_perhaps_of_rest ahead inside, List.findSome?_cons, matched]

theorem matchAt?_perhaps {spot : Spot}
    (outside : ∀ character ∈ spot.rest.head?, set.contains character = false) :
    (Regex.seq (iterate (.set set) 0 (some 1) true) second).matchAt? spot =
      second.matchAt? spot := by
  rw [matchAt?_seq, ends_perhaps_of_head outside, List.findSome?_singleton]

theorem Takes.perhaps_not (taken : second.Takes text rest)
    (outside : ∀ character ∈ text.head?, set.contains character = false) :
    (Regex.seq (iterate (.set set) 0 (some 1) true) second).Takes text rest := by
  rintro spot rfl
  rw [matchAt?_perhaps outside]
  exact taken spot rfl

theorem Refuses.perhaps_not (refuses : second.Refuses text)
    (outside : ∀ character ∈ text.head?, set.contains character = false) :
    (Regex.seq (iterate (.set set) 0 (some 1) true) second).Refuses text := by
  rintro spot rfl
  rw [matchAt?_perhaps outside]
  exact refuses spot rfl

end Regex

end TextGrammar
