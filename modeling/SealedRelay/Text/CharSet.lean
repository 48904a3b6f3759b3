/-!
# Sets of characters

A set of characters is given by the code points at which its runs begin and end. Tables of
properties of characters are written in this way.
-/
namespace SealedRelay.Text

/-- A set of characters: the code points at which a run begins and at which it is over, in turn and
in rising order. -/
structure CharSet where
  boundaries : List Nat

namespace CharSet

/-- How many of the boundaries lie at or below `n`; they are sorted. -/
def crossed (n : Nat) : List Nat → Nat
  | [] => 0
  | b :: rest => if b ≤ n then crossed n rest + 1 else 0

/-- Whether a character is in a set: an odd number of boundaries leads up to it. -/
def contains (s : CharSet) (c : Char) : Bool := crossed c.toNat s.boundaries % 2 = 1

end CharSet

end SealedRelay.Text
