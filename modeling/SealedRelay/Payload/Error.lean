import SealedRelay.Text.Quoted
/-!
# Why a control payload is malformed
-/
namespace SealedRelay.Payload

/-- The part of an address payload that was cut short. -/
inductive Part where
  | ipv4
  | ipv6
  | domainLength
  | domain
  deriving DecidableEq

def Part.text : Part → String
  | ipv4 => "IPv4 address"
  | ipv6 => "IPv6 address"
  | domainLength => "domain length"
  | domain => "domain address"

/-- Why a payload is malformed, or a destination has none. -/
inductive Error where
  | noAddress
  | truncated (part : Part)
  | emptyDomain
  | domainNotText
  | domainLength (length : Nat)
  | unknownAddressType (byte : UInt8)
  | trailing (count : Nat)
  | unknownReason (byte : UInt8)
  | closeLength (length : Nat)
  | ackLength (length : Nat)
  | pingPayload (length : Nat)
  deriving DecidableEq

def Error.message : Error → String
  | noAddress => "empty address payload"
  | truncated part => s!"{part.text} truncated"
  | emptyDomain => "empty domain"
  | domainNotText => "domain is not utf-8"
  | domainLength length => s!"domain length {length} out of range"
  | unknownAddressType byte => s!"unknown address type 0x{Text.hexByte byte}"
  | trailing count => s!"{count} trailing bytes after address"
  | unknownReason byte => s!"unknown close reason {byte.toNat}"
  | closeLength length => s!"close payload must be 1 byte, got {length}"
  | ackLength length => s!"ack payload must be 4 bytes, got {length}"
  | pingPayload length => s!"bad ping payload ({length} bytes)"

end SealedRelay.Payload
