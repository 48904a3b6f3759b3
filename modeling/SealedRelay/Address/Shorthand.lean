import SealedRelay.Address.Parser
/-!
# Shorthand for IPv4 addresses

Machines look up an IPv4 address by one to four numbers between dots. Every number but the last
is an octet; the last one stands for all octets that are left. A number is hexadecimal behind
`0x`, octal behind another `0`, and otherwise decimal.
-/
namespace SealedRelay.Address

def number? (t : List Char) : Option Nat :=
  let (base, digits) : Nat × List Char :=
    match t with
    | '0' :: 'x' :: digits | '0' :: 'X' :: digits => (16, digits)
    | '0' :: _ => (8, t)
    | _ => (10, t)
  (whole (digitsIn base digits.length digits)).map (ofDigits base)

/-- The octets that numbers stand for when `room` octets are left. -/
def fillOctets (room : Nat) : List Nat → Option Bytes
  | [] => none
  | [last] => if last < Bytes.limit room then some (Bytes.ofNat room last) else none
  | n :: ns => do
    if n < 256 ∧ room > 1 then
      let rest ← fillOctets (room - 1) ns
      some (UInt8.ofNat n :: rest)
    else none

/-- The address that a shorthand stands for. -/
def shorthand? (s : String) : Option Ipv4 := do
  let numbers ← (s.splitOn ".").mapM fun t => number? t.toList
  let octets ← fillOctets 4 numbers
  if h : octets.length = 4 then some ⟨octets, h⟩ else none

end SealedRelay.Address
