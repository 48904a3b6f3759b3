import SealedRelay.Bytes
import SealedRelay.Payload.Error
/-!
# Payloads of close, ack and ping frames

A close carries one byte for its reason, an ack four bytes of credit, a ping one byte that tells
a request from a reply.
-/
namespace SealedRelay

/-- Why a stream is closed. -/
inductive CloseReason where
  /-- The sender's direction has ended; the other stays open. -/
  | normal
  /-- The destination could not be reached. -/
  | refused
  /-- An open or dial took too long. -/
  | timeout
  /-- The stream was torn down. -/
  | reset
  /-- The connection under the stream is gone. -/
  | peerUnreachable
  deriving DecidableEq, Repr

namespace CloseReason

def toByte : CloseReason → UInt8
  | normal => 0
  | refused => 1
  | timeout => 2
  | reset => 3
  | peerUnreachable => 4

def ofByte? (b : UInt8) : Option CloseReason :=
  if b = 0 then some normal
  else if b = 1 then some refused
  else if b = 2 then some timeout
  else if b = 3 then some reset
  else if b = 4 then some peerUnreachable
  else none

def text : CloseReason → String
  | normal => "normal"
  | refused => "refused"
  | timeout => "timeout"
  | reset => "reset"
  | peerUnreachable => "peer unreachable"

/-- Every reason but the normal one ends both directions at once. -/
def isAbort (r : CloseReason) : Bool := r != normal

def encode (r : CloseReason) : Bytes := [r.toByte]

def decode : Bytes → Except Payload.Error CloseReason
  | [b] =>
    match ofByte? b with
    | some r => .ok r
    | none => .error (.unknownReason b)
  | payload => .error (.closeLength payload.length)

@[simp] theorem decode_encode (r : CloseReason) : decode r.encode = .ok r := by
  cases r <;> rfl

end CloseReason

namespace Payload

/-- The payload of an ack that grants `credit` bytes. -/
def encodeCredit (credit : Nat) : Bytes := Bytes.ofNat 4 credit

def decodeCredit (payload : Bytes) : Except Error Nat :=
  if payload.length = 4 then .ok payload.toNat else .error (.ackLength payload.length)

theorem decodeCredit_encodeCredit {credit : Nat} (h : credit < UInt32.size) :
    decodeCredit (encodeCredit credit) = .ok credit := by
  rw [decodeCredit, encodeCredit, if_pos (Bytes.length_ofNat 4 credit),
    Bytes.toNat_ofNat_of_lt (Nat.lt_of_lt_of_le h (by decide))]

/-- The payload of a ping that asks for a reply. -/
def pingRequest : Bytes := [0]

/-- The payload of the reply to a ping. -/
def pingReply : Bytes := [1]

end Payload

end SealedRelay
