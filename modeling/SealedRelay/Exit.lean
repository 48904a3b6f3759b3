import SealedRelay.Gateway.Error
import SealedRelay.Proxy.Error
/-!
# Exit statuses

How a failure ends the program: with a status that tells its class, and a message under the
context in which it happened.
-/
namespace SealedRelay

structure Exit where
  code : Nat
  message : String
  deriving DecidableEq

namespace Exit

/-- Everything went well. -/
def success : Nat := 0

/-- A failure of no other class. -/
def failure : Nat := 1

/-- A socket could not be set up. -/
def transportError : Nat := 3

/-- Access was denied. -/
def permissionDenied : Nat := 50

/-- Data was malformed. -/
def dataInvalid : Nat := 60

/-- The program was called in the wrong way. -/
def usageError : Nat := 64

/-- Something took too long. -/
def timedOut : Nat := 124

/-- Something else went wrong underneath. -/
def internal : Nat := 125

/-- The program was called in the wrong way. -/
def usage (message : String) : Exit := ⟨usageError, message⟩

/-- A failure within a context. -/
def within (code : Nat) (context message : String) : Exit := ⟨code, s!"{context}: {message}"⟩

/-- A failed operation on a socket or file. -/
def ofFault (context : String) (f : Fault) : Exit :=
  let code :=
    match f.kind with
    | .permissionDenied => permissionDenied
    | .timedOut | .wouldBlock => timedOut
    | .addressInUse | .addressNotAvailable | .connectionRefused => transportError
    | _ => internal
  within code context f.message

/-- A failed socket; of its message only the fault underneath is told. -/
def ofSocket (context : String) : SocketError → Exit
  | .bind _ f | .connect _ f | .accept f | .io f => ofFault context f
  | e => within timedOut context e.message

/-- Keys that could not be set up. -/
def ofSeal (context : String) (e : SealError) : Exit :=
  let code :=
    match e with
    | .emptySecret => usageError
    | .authenticationFailure => permissionDenied
    | _ => internal
  within code context e.message

/-- A failed relay connection. -/
def ofLink (context : String) (e : LinkError) : Exit :=
  let code :=
    match e with
    | .connect _ | .unreachable _ | .handshakeFailed _ => transportError
    | .authenticationFailure => permissionDenied
    | .openTimeout _ => timedOut
    | .malformed _ => dataInvalid
    | _ => failure
  within code context e.message

/-- A failure of the local relay. -/
def ofProxy (context : String) (e : Proxy.Error) : Exit :=
  match e with
  | .socket e => ofSocket context e
  | .link e => ofLink context e
  | .keys e => ofSeal context e
  | .io f => ofFault context f
  | .config _ => within usageError context e.message
  | _ => within failure context e.message

/-- A failure of the remote relay. -/
def ofGateway (context : String) (e : Gateway.Error) : Exit :=
  match e with
  | .socket e => ofSocket context e
  | .link e => ofLink context e
  | .keys e => ofSeal context e
  | .config _ => within usageError context e.message

end Exit

end SealedRelay
