/-!
# Reading unsigned numbers

A number is one or more decimal digits, with at most one plus sign before them.
-/
namespace SealedRelay.Text

def digit? (c : Char) : Option Nat :=
  if '0' ≤ c ∧ c ≤ '9' then some (c.toNat - '0'.toNat) else none

/-- The value of a hexadecimal digit in either case. -/
def hexDigit? (c : Char) : Option Nat :=
  if '0' ≤ c ∧ c ≤ '9' then some (c.toNat - '0'.toNat)
  else if 'a' ≤ c ∧ c ≤ 'f' then some (c.toNat - 'a'.toNat + 10)
  else if 'A' ≤ c ∧ c ≤ 'F' then some (c.toNat - 'A'.toNat + 10)
  else none

/-- The number that a list of decimal digits writes; none if another character stands there. -/
def digits? (s : List Char) : Option Nat :=
  s.foldlM (fun n c => (digit? c).map (n * 10 + ·)) 0

/-- An unsigned number no larger than `most`. -/
def unsigned? (most : Nat) (s : List Char) : Option Nat :=
  let body := if s.head? = some '+' then s.tail else s
  if body.isEmpty then none
  else (digits? body).filter (· ≤ most)

/-- The largest 64-bit number. -/
def maxUInt64 : Nat := UInt64.size - 1

end SealedRelay.Text
