import SealedRelay.Duration
import SealedRelay.Fault
/-!
# Failures of sockets
-/
namespace SealedRelay

/-- What failed on a socket. -/
inductive SocketError where
  | bind (address : String) (fault : Fault)
  | connect (address : String) (fault : Fault)
  | connectTimeout (address : String) (after : Duration)
  | accept (fault : Fault)
  | io (fault : Fault)
  deriving DecidableEq

namespace SocketError

def message : SocketError → String
  | bind address fault => s!"failed to bind to {address}: {fault.message}"
  | connect address fault => s!"failed to connect to {address}: {fault.message}"
  | connectTimeout address after => s!"connect to {address} timed out after {after.text}"
  | accept fault => s!"failed to accept connection: {fault.message}"
  | io fault => s!"transport I/O error: {fault.message}"

/-- Writes the address in another way. -/
def mapAddress (f : String → String) : SocketError → SocketError
  | bind address fault => bind (f address) fault
  | connect address fault => connect (f address) fault
  | connectTimeout address after => connectTimeout (f address) after
  | accept fault => accept fault
  | io fault => io fault

def kind : SocketError → Fault.Kind
  | bind _ fault | connect _ fault | accept fault | io fault => fault.kind
  | connectTimeout _ _ => .timedOut

end SocketError

end SealedRelay
