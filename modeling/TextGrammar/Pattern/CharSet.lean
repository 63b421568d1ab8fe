import TextGrammar.Unicode.PropertyName
import TextGrammar.Unicode.CaseFolding

/-!
Sets of characters as a pattern writes them: ranges, named properties and the operations on sets
that brackets offer. A set is asked for membership; it is never listed.
-/

namespace TextGrammar

inductive CharSet
  | none
  | range (low high : Char)
  | property (named : Unicode.Property)
  | union (left right : CharSet)
  | intersection (left right : CharSet)
  | difference (left right : CharSet)
  | symmetricDifference (left right : CharSet)
  | complement (set : CharSet)
  | caseless (set : CharSet)
  | asciiCaseless (set : CharSet)

namespace CharSet

def contains : CharSet → Char → Bool
  | .none, _ => false
  | .range low high, character => low ≤ character && character ≤ high
  | .property named, character => named.contains character
  | .union left right, character => left.contains character || right.contains character
  | .intersection left right, character => left.contains character && right.contains character
  | .difference left right, character => left.contains character && !right.contains character
  | .symmetricDifference left right, character =>
      left.contains character != right.contains character
  | .complement set, character => !set.contains character
  | .caseless set, character => (Unicode.caseOrbit character).any fun other => set.contains other
  | .asciiCaseless set, character =>
      (Unicode.asciiCaseOrbit character).any fun other => set.contains other

def single (character : Char) : CharSet := .range character character

def ofList (characters : List Char) : CharSet :=
  characters.foldr (fun character set => .union (single character) set) .none

def rangeCount : CharSet → Nat
  | .none => 1
  | .range _ _ => 1
  | .property named => named.rangeCount
  | .union left right => left.rangeCount + right.rangeCount
  | .intersection left right => left.rangeCount + right.rangeCount
  | .difference left right => left.rangeCount + right.rangeCount
  | .symmetricDifference left right => left.rangeCount + right.rangeCount
  | .complement set => set.rangeCount + 1
  | .caseless set => set.rangeCount + 2
  | .asciiCaseless set => set.rangeCount + 1

def asciiDigit : CharSet := .range '0' '9'

def asciiLetter : CharSet := .union (.range 'A' 'Z') (.range 'a' 'z')

def asciiWord : CharSet := .union (single '_') (.union asciiDigit asciiLetter)

def asciiSpace : CharSet := .union (single ' ') (.range '\t' '\r')

def asciiPunctuation : CharSet :=
  .union (.range '!' '/') (.union (.range ':' '@') (.union (.range '[' '\x60')
    (.range '\x7b' '~')))

def asciiClasses : List (List Char × CharSet) :=
  [ (['a', 'l', 'n', 'u', 'm'], .union asciiDigit asciiLetter),
    (['a', 'l', 'p', 'h', 'a'], asciiLetter),
    (['a', 's', 'c', 'i', 'i'], .range '\x00' '\x7f'),
    (['b', 'l', 'a', 'n', 'k'], .union (single ' ') (single '\t')),
    (['c', 'n', 't', 'r', 'l'], .union (.range '\x00' '\x1f') (single '\x7f')),
    (['d', 'i', 'g', 'i', 't'], asciiDigit),
    (['g', 'r', 'a', 'p', 'h'], .range '!' '~'),
    (['l', 'o', 'w', 'e', 'r'], .range 'a' 'z'),
    (['p', 'r', 'i', 'n', 't'], .range ' ' '~'),
    (['p', 'u', 'n', 'c', 't'], asciiPunctuation),
    (['s', 'p', 'a', 'c', 'e'], asciiSpace),
    (['u', 'p', 'p', 'e', 'r'], .range 'A' 'Z'),
    (['w', 'o', 'r', 'd'], asciiWord),
    (['x', 'd', 'i', 'g', 'i', 't'], .union asciiDigit (.union (.range 'A' 'F') (.range 'a' 'f'))) ]

end CharSet

end TextGrammar
