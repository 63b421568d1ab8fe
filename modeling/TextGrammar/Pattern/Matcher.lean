import TextGrammar.Pattern.Look

/-!
Matching in order of preference. A matcher gives, for a spot, the arrivals that a match from there
can end in, the preferred first and no two at one offset: whatever follows a match depends on its
end alone, so a second way to the same end can never win.

A choice that is met twice at one spot on one way is a loop without progress, and the way ends
there. Marks keep which choices a way has met since it last moved. They have the shape of the
expression, so a part of an expression is matched in the same way wherever it stands.
-/

namespace TextGrammar

/-- The choices met at the present spot: the one that an expression begins or goes on with, and
those inside its one or two parts. -/
inductive Marks
  | clear
  | node (here : Bool) (first second : Marks)

namespace Marks

def here : Marks → Bool
  | .clear => false
  | .node here _ _ => here

def first : Marks → Marks
  | .clear => .clear
  | .node _ first _ => first

def second : Marks → Marks
  | .clear => .clear
  | .node _ _ second => second

def between (source target : Spot) (marks : Marks) : Marks :=
  if source.offset = target.offset then marks else .clear

end Marks

structure Arrival where
  spot : Spot
  marks : Marks

def firstArrivals : List Nat → List Arrival → List Arrival
  | _, [] => []
  | met, arrival :: rest =>
      if met.contains arrival.spot.offset then firstArrivals met rest
      else arrival :: firstArrivals (arrival.spot.offset :: met) rest

def distinctArrivals (arrivals : List Arrival) : List Arrival := firstArrivals [] arrivals

def Matcher := Marks → Spot → List Arrival

namespace Matcher

def stay : Matcher := fun marks spot => [⟨spot, marks⟩]

def ofSet (set : CharSet) : Matcher := fun _ spot =>
  match spot.next? with
  | some (character, next) => if set.contains character then [⟨next, .clear⟩] else []
  | none => []

def ofLook (look : Look) : Matcher := fun marks spot =>
  if look.holds spot then [⟨spot, marks⟩] else []

def chain (first second : Matcher) : Matcher := fun marks spot =>
  distinctArrivals <| (first marks.first spot).flatMap fun middle =>
    (second (marks.second.between spot middle.spot) middle.spot).map fun last =>
      ⟨last.spot, .node false (middle.marks.between middle.spot last.spot) last.marks⟩

def either (first second : Matcher) : Matcher := fun marks spot =>
  if marks.here then []
  else
    distinctArrivals <|
      ((first marks.first spot).map fun arrival =>
        ⟨arrival.spot,
          if spot.offset = arrival.spot.offset then .node true arrival.marks marks.second
          else .node false arrival.marks .clear⟩) ++
      ((second marks.second spot).map fun arrival =>
        ⟨arrival.spot,
          if spot.offset = arrival.spot.offset then .node true marks.first arrival.marks
          else .node false .clear arrival.marks⟩)

def ordered (greedy : Bool) (through around : List Arrival) : List Arrival :=
  if greedy then through ++ around else around ++ through

def optional (body : Matcher) (greedy : Bool) : Matcher := fun marks spot =>
  if marks.here then []
  else
    distinctArrivals <| ordered greedy
      ((body marks.first spot).map fun arrival =>
        ⟨arrival.spot, .node (spot.offset == arrival.spot.offset) arrival.marks .clear⟩)
      [⟨spot, .node true marks.first .clear⟩]

def pass (body : Matcher) (marks : Marks) (spot : Spot) : List Arrival :=
  (body marks.first spot).map fun arrival =>
    ⟨arrival.spot,
      .node (if spot.offset = arrival.spot.offset then marks.here else false)
        arrival.marks .clear⟩

/-- The choice after a pass: another pass or the end of the loop. Of all the ways that lead to
this choice at one offset, `met`, only the first goes on. -/
def loopFrom (body : Matcher) (greedy : Bool) :
    Nat → Arrival → List Arrival × List Nat → List Arrival × List Nat
  | 0, _, found => found
  | fuel + 1, arrival, (found, met) =>
      if arrival.marks.here || met.contains arrival.spot.offset then (found, met)
      else
        let marked : Arrival :=
          ⟨arrival.spot, .node true arrival.marks.first arrival.marks.second⟩
        let met := arrival.spot.offset :: met
        let continuing (found : List Arrival × List Nat) : List Arrival × List Nat :=
          (pass body marked.marks marked.spot).foldl
            (fun found next => loopFrom body greedy fuel next found) found
        if greedy then
          let (found, met) := continuing (found, met)
          (marked :: found, met)
        else continuing (marked :: found, met)

/-- One pass or more. Passes after the first that get on no further are cut, so no way is longer
than the text has places. -/
def loop (body : Matcher) (greedy : Bool) : Matcher := fun marks spot =>
  let (found, _) := (pass body marks spot).foldl
    (fun found arrival => loopFrom body greedy (spot.rest.length + 1) arrival found) ([], [])
  found.reverse

def star (body : Matcher) (greedy : Bool) : Matcher := fun marks spot =>
  (loopFrom body greedy (spot.rest.length + 1) ⟨spot, marks⟩ ([], [])).1.reverse

def times (body : Matcher) : Nat → Matcher
  | 0 => stay
  | count + 1 => chain (times body count) body

/-- Up to `count` more passes, each a choice of its own. Of all the ways to the same choice at one
offset only the first goes on. -/
def upToFrom (body : Matcher) (greedy : Bool) :
    Nat → Arrival → List (Nat × Nat) → List Arrival × List (Nat × Nat)
  | 0, arrival, met => ([arrival], met)
  | count + 1, arrival, met =>
      if arrival.marks.here || met.contains (count, arrival.spot.offset) then ([], met)
      else
        let spot := arrival.spot
        let marks := arrival.marks
        let around : Arrival := ⟨spot, .node true marks.first marks.second⟩
        let (through, met) := (body marks.first spot).foldl
          (fun (through, met) middle =>
            let (ends, met) := upToFrom body greedy count
              ⟨middle.spot, marks.second.between spot middle.spot⟩ met
            let ends := ends.map fun last => ⟨last.spot,
              .node (spot.offset == last.spot.offset)
                (middle.marks.between middle.spot last.spot) last.marks⟩
            (through ++ ends, met))
          ([], (count, spot.offset) :: met)
        (ordered greedy through [around], met)

def upTo (body : Matcher) (greedy : Bool) (count : Nat) : Matcher := fun marks spot =>
  distinctArrivals (upToFrom body greedy count ⟨spot, marks⟩ []).1

/-- A repetition with no upper bound ends in a loop. If it may be left out and its body may be
empty, the choice to leave it out comes before the loop and is not met again in it. -/
def iterate (body : Matcher) (bodyCanBeEmpty : Bool) (least : Nat) (most : Option Nat)
    (greedy : Bool) : Matcher :=
  match most, least with
  | none, 0 => if bodyCanBeEmpty then optional (loop body greedy) greedy else star body greedy
  | none, count + 1 => chain (times body count) (loop body greedy)
  | some bound, count => chain (times body count) (upTo body greedy (bound - count))

end Matcher

def Regex.matcher : Regex → Matcher
  | .empty => .stay
  | .set members => .ofSet members
  | .look condition => .ofLook condition
  | .seq first second => .chain first.matcher second.matcher
  | .alt first second => .either first.matcher second.matcher
  | .iterate body least most greedy =>
      .iterate body.matcher body.canBeEmpty least most greedy

structure Match where
  first : Nat
  last : Nat
  deriving DecidableEq, Repr

namespace Regex

def matchAt? (regex : Regex) (spot : Spot) : Option Spot :=
  (regex.matcher .clear spot).head?.map Arrival.spot

def findFrom (regex : Regex) : Text → Spot → Option Match
  | remaining, spot =>
      match regex.matchAt? spot with
      | some last => some ⟨spot.offset, last.offset⟩
      | none =>
          match remaining with
          | [] => none
          | character :: rest =>
              regex.findFrom rest ⟨some character, rest, spot.offset + character.utf8Size⟩

def find (regex : Regex) (text : Text) : Option Match :=
  regex.findFrom text (.start text)

end Regex

end TextGrammar
