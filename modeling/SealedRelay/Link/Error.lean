import SealedRelay.Frame
import SealedRelay.Payload.Control
import SealedRelay.Seal.Key
import SealedRelay.Socket
/-!
# Failures of relay connections and their streams
-/
namespace SealedRelay

/-- What failed on the connection between the relays or on one of its streams. -/
inductive LinkError where
  /-- The peer broke the framing or control rules. -/
  | malformed (detail : String)
  /-- A payload or a handshake proof did not verify. -/
  | authenticationFailure
  /-- The socket to the remote relay could not be opened. -/
  | connect (error : SocketError)
  /-- The connection died. -/
  | unreachable (detail : String)
  /-- The remote relay did not confirm a stream in time. -/
  | openTimeout (after : Duration)
  /-- There is no credit left to send on. -/
  | windowExhausted (stream : StreamId)
  /-- No connection can take another stream. -/
  | unavailable (detail : String)
  /-- The remote relay refused a stream. -/
  | refused (stream : StreamId) (reason : CloseReason)
  /-- The stream was torn down or is already closed. -/
  | streamClosed (stream : StreamId)
  /-- This side closed the connection. -/
  | connectionClosed
  | handshakeFailed (detail : String)
  | io (fault : Fault)
  /-- A failure of sealing or opening other than of authentication. -/
  | sealing (error : SealError)
  deriving DecidableEq

namespace LinkError

def message : LinkError → String
  | malformed detail => s!"malformed frame: {detail}"
  | authenticationFailure => "authentication failure"
  | connect error => s!"connect failed: {error.message}"
  | unreachable detail => s!"peer unreachable: {detail}"
  | openTimeout after => s!"stream open timed out after {after.text}"
  | windowExhausted stream => s!"send window exhausted on stream {stream.toNat}"
  | unavailable detail => s!"no transport connection available: {detail}"
  | refused stream reason => s!"remote refused stream {stream.toNat} ({reason.text})"
  | streamClosed stream => s!"stream {stream.toNat} closed"
  | connectionClosed => "connection closed"
  | handshakeFailed detail => s!"handshake failed: {detail}"
  | io fault => s!"io error: {fault.message}"
  | sealing error => s!"cipher error: {error.message}"

/-- Whether the error ends the whole connection. -/
def isFatal : LinkError → Bool
  | malformed _ | authenticationFailure | handshakeFailed _ | sealing _ => true
  | _ => false

/-- Whether trying again on a fresh connection makes sense. -/
def isRetryable : LinkError → Bool
  | connect _ | unreachable _ | unavailable _ | connectionClosed => true
  | _ => false

/-- A failure of the cipher, as the connection reports it. -/
def ofSeal : SealError → LinkError
  | .authenticationFailure => authenticationFailure
  | error => sealing error

/-- A failure of framing, as the connection reports it. -/
def ofFrame : Frame.Error → LinkError
  | .io fault => io fault
  | .connectionClosed => unreachable "connection closed mid-frame"
  | error => malformed error.message

/-- A malformed control payload, as the connection reports it. -/
def ofPayload (e : Payload.Error) : LinkError := malformed e.message

end LinkError

end SealedRelay
