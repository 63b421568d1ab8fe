import Mathlib.Data.List.Basic
import TextGrammar.Pattern.Matcher

/-!
Where matches end. Every arrival of a matcher lies ahead in the text of its spot, a whole number
of characters further on, so the end of a match never falls inside a character. A match that is
found at offset zero is the preferred match from the start of the text.
-/

namespace TextGrammar

def Spot.Reaches (spot target : Spot) : Prop :=
  ∃ taken, spot.rest = taken ++ target.rest ∧ target.offset = spot.offset + byteLength taken

namespace Spot

@[simp] theorem start_offset (text : Text) : (start text).offset = 0 := rfl

@[simp] theorem start_rest (text : Text) : (start text).rest = text := rfl

theorem Reaches.refl (spot : Spot) : spot.Reaches spot := ⟨[], by simp, by simp⟩

theorem Reaches.trans {first second third : Spot} (near : first.Reaches second)
    (far : second.Reaches third) : first.Reaches third := by
  obtain ⟨taken, restEq, offsetEq⟩ := near
  obtain ⟨more, restEq', offsetEq'⟩ := far
  refine ⟨taken ++ more, by simp [restEq, restEq'], ?_⟩
  rw [byteLength_append]
  omega

theorem next?_reaches {spot next : Spot} {character : Char}
    (moved : spot.next? = some (character, next)) : spot.Reaches next := by
  unfold next? at moved
  split at moved
  · simp at moved
  · rename_i first rest restEq
    simp only [Option.some.injEq, Prod.mk.injEq] at moved
    obtain ⟨-, rfl⟩ := moved
    exact ⟨[first], by simp [restEq], by simp⟩

end Spot

theorem mem_of_mem_firstArrivals {arrival : Arrival} {met : List Nat} {arrivals : List Arrival}
    (member : arrival ∈ firstArrivals met arrivals) : arrival ∈ arrivals := by
  induction arrivals generalizing met with
  | nil => simp [firstArrivals] at member
  | cons first rest ih =>
      simp only [firstArrivals] at member
      split at member
      · exact List.mem_cons_of_mem _ (ih member)
      · rcases List.mem_cons.mp member with same | later
        · simp [same]
        · exact List.mem_cons_of_mem _ (ih later)

theorem mem_of_mem_distinctArrivals {arrival : Arrival} {arrivals : List Arrival}
    (member : arrival ∈ distinctArrivals arrivals) : arrival ∈ arrivals :=
  mem_of_mem_firstArrivals member

theorem head?_distinctArrivals (arrivals : List Arrival) :
    (distinctArrivals arrivals).head? = arrivals.head? := by
  cases arrivals <;> simp [distinctArrivals, firstArrivals]

namespace Matcher

def GoesAhead (matcher : Matcher) : Prop :=
  ∀ marks spot, ∀ arrival ∈ matcher marks spot, spot.Reaches arrival.spot

theorem stay_goesAhead : stay.GoesAhead := by
  intro marks spot arrival member
  simp only [stay, List.mem_singleton] at member
  subst arrival
  exact Spot.Reaches.refl spot

theorem ofSet_goesAhead (set : CharSet) : (ofSet set).GoesAhead := by
  intro marks spot arrival member
  unfold ofSet at member
  split at member
  · rename_i moved
    split at member
    · rw [List.mem_singleton] at member
      subst arrival
      exact Spot.next?_reaches moved
    · simp at member
  · simp at member

theorem ofLook_goesAhead (look : Look) : (ofLook look).GoesAhead := by
  intro marks spot arrival member
  unfold ofLook at member
  split at member
  · rw [List.mem_singleton] at member
    subst arrival
    exact Spot.Reaches.refl spot
  · simp at member

theorem chain_goesAhead {first second : Matcher} (firstAhead : first.GoesAhead)
    (secondAhead : second.GoesAhead) : (chain first second).GoesAhead := by
  intro marks spot arrival member
  have found := mem_of_mem_distinctArrivals member
  simp only [List.mem_flatMap, List.mem_map] at found
  obtain ⟨middle, middleFound, last, lastFound, rfl⟩ := found
  exact (firstAhead _ _ middle middleFound).trans (secondAhead _ _ last lastFound)

theorem either_goesAhead {first second : Matcher} (firstAhead : first.GoesAhead)
    (secondAhead : second.GoesAhead) : (either first second).GoesAhead := by
  intro marks spot arrival member
  unfold either at member
  split at member
  · simp at member
  · have found := mem_of_mem_distinctArrivals member
    simp only [List.mem_append, List.mem_map] at found
    rcases found with ⟨last, lastFound, rfl⟩ | ⟨last, lastFound, rfl⟩
    · exact firstAhead _ _ last lastFound
    · exact secondAhead _ _ last lastFound

theorem mem_ordered {greedy : Bool} {through around : List Arrival} {arrival : Arrival} :
    arrival ∈ ordered greedy through around ↔ arrival ∈ through ∨ arrival ∈ around := by
  cases greedy <;> simp [ordered, or_comm]

theorem optional_goesAhead {body : Matcher} (ahead : body.GoesAhead) (greedy : Bool) :
    (optional body greedy).GoesAhead := by
  intro marks spot arrival member
  unfold optional at member
  split at member
  · simp at member
  · have found := mem_of_mem_distinctArrivals member
    simp only [mem_ordered, List.mem_map, List.mem_singleton] at found
    rcases found with ⟨last, lastFound, rfl⟩ | rfl
    · exact ahead _ _ last lastFound
    · exact Spot.Reaches.refl spot

theorem pass_goesAhead {body : Matcher} (ahead : body.GoesAhead) : GoesAhead (pass body) := by
  intro marks spot arrival member
  simp only [pass, List.mem_map] at member
  obtain ⟨last, lastFound, rfl⟩ := member
  exact ahead _ _ last lastFound

theorem loopFrom_reaches {body : Matcher} (ahead : body.GoesAhead) (greedy : Bool) (origin : Spot)
    (fuel : Nat) (arrival : Arrival) (found : List Arrival × List Nat)
    (reached : origin.Reaches arrival.spot)
    (before : ∀ last ∈ found.1, origin.Reaches last.spot) :
    ∀ last ∈ (loopFrom body greedy fuel arrival found).1, origin.Reaches last.spot := by
  induction fuel generalizing arrival found with
  | zero => exact before
  | succ fuel ih =>
      obtain ⟨found, met⟩ := found
      simp only [loopFrom]
      split
      · exact before
      · -- Every pass from here starts at an arrival of the body, which is reached as well.
        have passes : ∀ marks met found, (∀ last ∈ found, origin.Reaches last.spot) →
            ∀ last ∈ ((pass body marks arrival.spot).foldl
              (fun found next => loopFrom body greedy fuel next found) (found, met)).1,
              origin.Reaches last.spot := by
          intro marks met found start
          refine List.foldlRecOn (motive := fun found : List Arrival × List Nat =>
            ∀ last ∈ found.1, origin.Reaches last.spot) _ _ start ?_
          intro found soFar next member
          exact ih next found (reached.trans (pass_goesAhead ahead _ _ next member)) soFar
        split
        · intro last member
          rcases List.mem_cons.mp member with rfl | member
          · exact reached
          · exact passes _ _ _ before last member
        · apply passes
          intro last member
          rcases List.mem_cons.mp member with rfl | member
          · exact reached
          · exact before last member

theorem loop_goesAhead {body : Matcher} (ahead : body.GoesAhead) (greedy : Bool) :
    (loop body greedy).GoesAhead := by
  intro marks spot arrival member
  simp only [loop, List.mem_reverse] at member
  refine List.foldlRecOn (motive := fun found : List Arrival × List Nat =>
    ∀ last ∈ found.1, spot.Reaches last.spot) _ _ (by simp) ?_ arrival member
  intro found soFar next nextFound
  exact loopFrom_reaches ahead greedy spot _ next found (pass_goesAhead ahead _ _ next nextFound)
    soFar

theorem star_goesAhead {body : Matcher} (ahead : body.GoesAhead) (greedy : Bool) :
    (star body greedy).GoesAhead := by
  intro marks spot arrival member
  simp only [star, List.mem_reverse] at member
  exact loopFrom_reaches ahead greedy spot _ ⟨spot, marks⟩ _ (Spot.Reaches.refl spot) (by simp)
    arrival member

theorem times_goesAhead {body : Matcher} (ahead : body.GoesAhead) (count : Nat) :
    (times body count).GoesAhead := by
  induction count with
  | zero => exact stay_goesAhead
  | succ count ih => exact chain_goesAhead ih ahead

theorem upToFrom_reaches {body : Matcher} (ahead : body.GoesAhead) (greedy : Bool) (count : Nat)
    (arrival : Arrival) (met : List (Nat × Nat)) :
    ∀ last ∈ (upToFrom body greedy count arrival met).1, arrival.spot.Reaches last.spot := by
  induction count generalizing arrival met with
  | zero =>
      intro last member
      simp only [upToFrom, List.mem_singleton] at member
      subst last
      exact Spot.Reaches.refl arrival.spot
  | succ count ih =>
      simp only [upToFrom]
      split
      · simp
      · intro last member
        rcases mem_ordered.mp member with through | around
        · refine List.foldlRecOn (motive := fun found : List Arrival × List (Nat × Nat) =>
            ∀ last ∈ found.1, arrival.spot.Reaches last.spot) _ _ (by simp) ?_ last through
          intro found soFar middle middleFound last member
          simp only [List.mem_append, List.mem_map] at member
          rcases member with earlier | ⟨final, finalFound, rfl⟩
          · exact soFar last earlier
          · have further := ih _ _ final finalFound
            exact (ahead _ _ middle middleFound).trans further
        · rw [List.mem_singleton] at around
          subst last
          exact Spot.Reaches.refl arrival.spot

theorem upTo_goesAhead {body : Matcher} (ahead : body.GoesAhead) (greedy : Bool) (count : Nat) :
    (upTo body greedy count).GoesAhead := by
  intro marks spot arrival member
  exact upToFrom_reaches ahead greedy count ⟨spot, marks⟩ [] arrival
    (mem_of_mem_distinctArrivals member)

theorem iterate_goesAhead {body : Matcher} (ahead : body.GoesAhead) (canBeEmpty : Bool)
    (least : Nat) (most : Option Nat) (greedy : Bool) :
    (iterate body canBeEmpty least most greedy).GoesAhead := by
  unfold iterate
  split
  · split
    · exact optional_goesAhead (loop_goesAhead ahead greedy) greedy
    · exact star_goesAhead ahead greedy
  · exact chain_goesAhead (times_goesAhead ahead _) (loop_goesAhead ahead greedy)
  · exact chain_goesAhead (times_goesAhead ahead _) (upTo_goesAhead ahead greedy _)

end Matcher

namespace Regex

theorem matcher_goesAhead (regex : Regex) : regex.matcher.GoesAhead := by
  induction regex with
  | empty => exact Matcher.stay_goesAhead
  | set members => exact Matcher.ofSet_goesAhead members
  | look condition => exact Matcher.ofLook_goesAhead condition
  | seq first second firstAhead secondAhead =>
      exact Matcher.chain_goesAhead firstAhead secondAhead
  | alt first second firstAhead secondAhead =>
      exact Matcher.either_goesAhead firstAhead secondAhead
  | iterate body least most greedy ahead =>
      exact Matcher.iterate_goesAhead ahead _ _ _ _

theorem matchAt?_reaches {regex : Regex} {spot last : Spot}
    (matched : regex.matchAt? spot = some last) : spot.Reaches last := by
  simp only [matchAt?, Option.map_eq_some_iff] at matched
  obtain ⟨arrival, headEq, rfl⟩ := matched
  exact regex.matcher_goesAhead _ _ arrival (List.mem_of_mem_head? headEq)

theorem findFrom_first_ge {regex : Regex} {remaining : Text} {spot : Spot} {found : Match}
    (matched : regex.findFrom remaining spot = some found) : spot.offset ≤ found.first := by
  induction remaining generalizing spot with
  | nil =>
      simp only [findFrom] at matched
      split at matched
      · simp only [Option.some.injEq] at matched
        simp [← matched]
      · simp at matched
  | cons character rest ih =>
      simp only [findFrom] at matched
      split at matched
      · simp only [Option.some.injEq] at matched
        simp [← matched]
      · have later := ih matched
        simp only at later
        omega

theorem findFrom_reaches {regex : Regex} {remaining : Text} {spot : Spot} {found : Match}
    (matched : regex.findFrom remaining spot = some found) (ahead : spot.rest = remaining) :
    ∃ last, spot.Reaches last ∧ found.last = last.offset := by
  induction remaining generalizing spot with
  | nil =>
      simp only [findFrom] at matched
      split at matched
      · rename_i last atSpot
        simp only [Option.some.injEq] at matched
        exact ⟨last, matchAt?_reaches atSpot, by rw [← matched]⟩
      · simp at matched
  | cons character rest ih =>
      simp only [findFrom] at matched
      split at matched
      · rename_i last atSpot
        simp only [Option.some.injEq] at matched
        exact ⟨last, matchAt?_reaches atSpot, by rw [← matched]⟩
      · obtain ⟨last, reached, lastEq⟩ := ih matched rfl
        have near : spot.Reaches ⟨some character, rest, spot.offset + character.utf8Size⟩ :=
          ⟨[character], by simp [ahead], by simp⟩
        exact ⟨last, near.trans reached, lastEq⟩

theorem find_last_boundary {regex : Regex} {text : Text} {found : Match}
    (matched : regex.find text = some found) : isBoundary found.last text = true := by
  obtain ⟨last, ⟨taken, restEq, offsetEq⟩, lastEq⟩ := findFrom_reaches matched rfl
  refine (isBoundary_iff _ _).mpr ⟨taken, last.rest, restEq, ?_⟩
  rw [lastEq, offsetEq, Spot.start_offset, Nat.zero_add]

theorem find_filter_first (regex : Regex) (text : Text) :
    (regex.find text).filter (fun found => found.first == 0) =
      (regex.matchAt? (.start text)).map fun last => ⟨0, last.offset⟩ := by
  cases matched : regex.matchAt? (.start text) with
  | some last => cases text <;> simp [find, findFrom, matched]
  | none =>
      cases text with
      | nil => simp [find, findFrom, matched]
      | cons character rest =>
          simp only [find, findFrom, matched, Option.map_none, Option.filter_eq_none_iff,
            beq_iff_eq]
          intro found foundLater
          have later := findFrom_first_ge foundLater
          have positive := character.utf8Size_pos
          simp only at later
          omega

end Regex

end TextGrammar
