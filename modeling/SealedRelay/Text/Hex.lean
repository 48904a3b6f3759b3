import SealedRelay.Bytes
import SealedRelay.Text.Number
import SealedRelay.Text.Quoted
/-!
# Bytes in hexadecimal
-/
namespace SealedRelay.Text.Hex

/-- Two digits for every byte. -/
def write (b : Bytes) : String := String.join (b.map hexByte)

/-- The bytes that pairs of digits stand for. -/
def ofDigits : List Nat → Bytes
  | a :: b :: rest => UInt8.ofNat (16 * a + b) :: ofDigits rest
  | _ => []

/-- Reads what `write` writes; characters that are no digits are passed over. -/
def read (s : String) : Bytes := ofDigits (s.toList.filterMap hexDigit?)

end SealedRelay.Text.Hex
