import SealedRelay.Bytes
import SealedRelay.Fault
import SealedRelay.Text.Quoted
/-!
# Frames

A frame is the unit of traffic between the two relays: a kind, the stream it belongs to, and a
payload. All kinds but `ping` belong to a stream, whose number is never zero; a ping belongs to
the connection and travels on number zero.
-/
namespace SealedRelay

abbrev StreamId := UInt32

/-- What a frame is for. -/
inductive Frame.Kind where
  /-- Asks for a new stream to the destination in the payload. -/
  | opening
  /-- Bytes of a stream. -/
  | data
  /-- Ends or refuses a stream, for the reason in the payload. -/
  | close
  /-- Confirms an opening or grants credit to send. -/
  | ack
  /-- Asks for or gives a sign of life. -/
  | ping
  deriving DecidableEq, Repr

structure Frame where
  kind : Frame.Kind
  stream : StreamId
  payload : Bytes
  deriving DecidableEq, Repr

namespace Frame

def Kind.toByte : Kind → UInt8
  | opening => 1
  | data => 2
  | close => 3
  | ack => 4
  | ping => 5

def Kind.ofByte? (b : UInt8) : Option Kind :=
  if b = 1 then some opening
  else if b = 2 then some data
  else if b = 3 then some close
  else if b = 4 then some ack
  else if b = 5 then some ping
  else none

@[simp] theorem Kind.ofByte?_toByte (k : Kind) : ofByte? k.toByte = some k := by
  cases k <;> rfl

theorem Kind.ofByte?_eq_some_iff {b : UInt8} {k : Kind} : ofByte? b = some k ↔ b = k.toByte := by
  constructor
  · intro h
    simp only [ofByte?] at h
    split at h
    · cases Option.some.inj h; assumption
    split at h
    · cases Option.some.inj h; assumption
    split at h
    · cases Option.some.inj h; assumption
    split at h
    · cases Option.some.inj h; assumption
    split at h
    · cases Option.some.inj h; assumption
    · simp at h
  · rintro rfl
    exact ofByte?_toByte k

def Kind.name : Kind → String
  | opening => "OPEN"
  | data => "DATA"
  | close => "CLOSE"
  | ack => "ACK"
  | ping => "PING"

def Kind.ofName? (s : String) : Option Kind :=
  [opening, data, close, ack, ping].find? fun k => k.name = s

/-- Whether a kind belongs to the connection and not to a stream. -/
def Kind.isConnectionLevel (k : Kind) : Bool := k == ping

/-- Bytes of header before every payload: kind, stream and payload length. -/
def headerSize : Nat := 9

/-- The largest payload that can be declared. -/
def largestPayload : Nat := UInt32.size - 1

/-- The largest payload accepted unless a limit is set. -/
def defaultMaxPayload : Nat := 64 * 1024

/-- Bytes a frame takes on the wire. -/
def wireSize (f : Frame) : Nat := headerSize + f.payload.length

/-- Kind and stream as they stand on the wire. A sealed payload is bound to them, so that it
cannot be passed off as another kind's or another stream's. -/
def routingHeader (kind : Kind) (stream : StreamId) : Bytes :=
  kind.toByte :: Bytes.ofUInt32 stream

def routing (f : Frame) : Bytes := routingHeader f.kind f.stream

/-- The rule for stream numbers: zero for a ping and for nothing else. -/
def ValidStream (kind : Kind) (stream : StreamId) : Prop :=
  kind.isConnectionLevel = true ↔ stream = 0

instance (kind : Kind) (stream : StreamId) : Decidable (ValidStream kind stream) :=
  inferInstanceAs (Decidable (_ ↔ _))

/-- Why bytes are not a frame, or a frame has no bytes. -/
inductive Error where
  | unknownKind (byte : UInt8)
  | payloadTooLarge (size most : Nat)
  | invalidStream (kind : Kind) (stream : StreamId)
  | io (fault : Fault)
  /-- The connection ended in the middle of a frame. -/
  | connectionClosed
  deriving DecidableEq

namespace Error

def message : Error → String
  | unknownKind byte => s!"unknown frame kind 0x{Text.hexByte byte}"
  | payloadTooLarge size most => s!"payload too large ({size} bytes, max {most})"
  | invalidStream kind stream => s!"{kind.name} frame with invalid stream id {stream.toNat}"
  | io fault => s!"frame I/O error: {fault.message}"
  | connectionClosed => "connection closed (incomplete frame)"

/-- Whether the peer broke the framing rules, as opposed to going away. -/
def isMalformed : Error → Bool
  | unknownKind _ | payloadTooLarge _ _ | invalidStream _ _ => true
  | io _ | connectionClosed => false

end Error

end Frame

end SealedRelay
