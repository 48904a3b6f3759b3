import SealedRelay.Address
import SealedRelay.Text.Number
/-!
# Reading network addresses

Each reader takes what it can from the front of a text and gives the rest back. An octet has no
leading zero; a group has at most four digits; the last two groups of an IPv6 address may be
written as an IPv4 address, and one run of groups may be left out as `::`.
-/
namespace SealedRelay.Address

def expect (c : Char) : List Char → Option (List Char)
  | d :: rest => if d = c then some rest else none
  | [] => none

def digitsIn (base most : Nat) (s : List Char) : Option (List Nat × List Char) :=
  let value (c : Char) : Option Nat := (Text.hexDigit? c).filter (· < base)
  let digits := s.takeWhile fun c => (value c).isSome
  if digits = [] ∨ digits.length > most then none
  else some (digits.filterMap value, s.dropWhile fun c => (value c).isSome)

/-- The number that digits write in base `base`. -/
def ofDigits (base : Nat) (digits : List Nat) : Nat :=
  digits.foldl (fun n d => n * base + d) 0

/-- One octet: at most three digits, below 256, and no zero before another digit. -/
def octet (s : List Char) : Option (UInt8 × List Char) := do
  let (digits, rest) ← digitsIn 10 3 s
  let n := ofDigits 10 digits
  if n ≥ 256 ∨ (digits.head? = some 0 ∧ digits.length > 1) then none
  else some (UInt8.ofNat n, rest)

/-- Four octets between dots. -/
def ipv4 (s : List Char) : Option (Ipv4 × List Char) := do
  let (a, s) ← octet s
  let (b, s) ← octet (← expect '.' s)
  let (c, s) ← octet (← expect '.' s)
  let (d, s) ← octet (← expect '.' s)
  some (⟨[a, b, c, d], rfl⟩, s)

def group (s : List Char) : Option (Nat × List Char) := do
  let (digits, rest) ← digitsIn 16 4 s
  some (ofDigits 16 digits, rest)

/-- As many groups as there are, up to `room`, with the text after them and whether they end in
an IPv4 address. A colon stands before each but the first, and the colon before what is not a
group is left unread. -/
def groups (first : Bool) : Nat → List Char → List Nat × Bool × List Char
  | 0, s => ([], false, s)
  | room + 1, s =>
    let after : Option (List Char) := if first then some s else expect ':' s
    let dotted : Option (Ipv4 × List Char) := if room = 0 then none else after.bind ipv4
    match dotted with
    | some (a, rest) => ([Bytes.toNat (a.octets.take 2), Bytes.toNat (a.octets.drop 2)], true, rest)
    | none =>
      match after.bind group with
      | none => ([], false, s)
      | some (g, rest) =>
        let (gs, ends, rest) := groups false room rest
        (g :: gs, ends, rest)

/-- Eight groups, or fewer with one `::` in them that no IPv4 address comes before. -/
def ipv6 (s : List Char) : Option (Ipv6 × List Char) := do
  let (front, dotted, rest) := groups true 8 s
  if front.length = 8 then
    let a ← Ipv6.ofGroups? front
    some (a, rest)
  else if dotted then none
  else
    let rest ← expect ':' (← expect ':' rest)
    let (back, _, rest) := groups true (7 - front.length) rest
    let zeros := List.replicate (8 - front.length - back.length) 0
    let a ← Ipv6.ofGroups? (front ++ zeros ++ back)
    some (a, rest)

/-- A port: decimal digits below 65536. -/
def port (s : List Char) : Option (UInt16 × List Char) := do
  let (digits, rest) ← digitsIn 10 s.length s
  let n := ofDigits 10 digits
  if n < 65536 then some (UInt16.ofNat n, rest) else none

/-- The scope after an IPv6 address: a 32-bit number behind a percent sign, or nothing. -/
def scope (s : List Char) : Option (UInt32 × List Char) :=
  match expect '%' s with
  | none => some (0, s)
  | some s => do
    let (digits, rest) ← digitsIn 10 s.length s
    let n := ofDigits 10 digits
    if n < UInt32.size then some (UInt32.ofNat n, rest) else none

/-- A reading that must leave nothing over. -/
def whole {α : Type} (r : Option (α × List Char)) : Option α :=
  match r with
  | some (a, []) => some a
  | _ => none

end SealedRelay.Address

namespace SealedRelay

namespace Ip

def ofText? (s : List Char) : Option Ip :=
  match Address.ipv4 s with
  | some (a, rest) => Address.whole (some (.v4 a, rest))
  | none => (Address.whole (Address.ipv6 s)).map .v6

end Ip

namespace ScopedEndpoint

/-- An IPv4 address, a colon and a port. -/
def v4? (s : List Char) : Option ScopedEndpoint := do
  let (a, rest) ← Address.ipv4 s
  let port ← Address.whole (Address.port (← Address.expect ':' rest))
  some { ip := .v4 a, port }

/-- An IPv6 address and its scope in brackets, a colon and a port. -/
def v6? (s : List Char) : Option ScopedEndpoint := do
  let (a, rest) ← Address.ipv6 (← Address.expect '[' s)
  let (scope, rest) ← Address.scope rest
  let rest ← Address.expect ']' rest
  let port ← Address.whole (Address.port (← Address.expect ':' rest))
  some { ip := .v6 a, port, scope }

def ofText? (s : List Char) : Option ScopedEndpoint := v4? s <|> v6? s

end ScopedEndpoint

end SealedRelay
