import SealedRelay.Pool
import SealedRelay.Proxy.Config
import SealedRelay.Proxy.Registry
/-!
# The supervisor of the local relay

The supervisor admits clients up to a cap, opens their streams on pooled connections, and shuts
everything down.

Opening a stream is a call in several steps: getting a connection, perhaps waiting for a dial, and
waiting for the remote relay to confirm the stream. A connection that was lost in the middle is no
reason to give up: the call starts over, once.
-/
namespace SealedRelay

open Proxy (Config Error Registry Snapshot)

/-- What the local relay shares between its clients. -/
structure Supervisor where
  pool : Pool
  /-- Clients at a time. -/
  maxStreams : Nat
  /-- Clients that are admitted now. -/
  admitted : Nat := 0
  registry : Registry := {}
  shuttingDown : Bool := false

namespace Supervisor

/-- The largest cap that admissions can be counted under. -/
def largestCap : Nat := (UInt64.size - 1) >>> 3

/-- A supervisor that has done nothing yet. -/
def fresh (c : Config) : Supervisor where
  pool := { remote := c.remote, limit := c.maxConnections }
  maxStreams := c.maxStreams

/-- A supervisor with some settings; none if the cap is too large. -/
def new? (c : Config) : Option Supervisor :=
  if c.maxStreams > largestCap then none else some (fresh c)

def available (s : Supervisor) : Nat := s.maxStreams - s.admitted

def admitClient (s : Supervisor) : Except Error Supervisor :=
  if s.shuttingDown then .error .shuttingDown
  else if s.available = 0 then .error (.admissionRejected s.maxStreams)
  else .ok { s with admitted := s.admitted + 1 }

def release (s : Supervisor) : Supervisor := { s with admitted := s.admitted - 1 }

inductive Opening where
  /-- It waits for a dial. -/
  | dialing (attempt : Nat) (again : Bool)
  /-- It waits for its stream on a connection to be confirmed. -/
  | opening (connection : Nat) (again : Bool)
  | done (result : Except Error Nat)

/-- A call asks the pool for a connection, for the first time or again. -/
def ask (s : Supervisor) (look : Nat → Vitals) (again : Bool) : Opening × Supervisor :=
  match s.pool.request look with
  | (.ready c, pool) => (.opening c again, { s with pool })
  | (.wait attempt, pool) => (.dialing attempt again, { s with pool })
  | (.failed e, pool) => (.done (.error (.link e)), { s with pool })

/-- Why no stream is opened any more. -/
def barred (s : Supervisor) : Option Error := if s.shuttingDown then some .shuttingDown else none

def begin (s : Supervisor) (look : Nat → Vitals) : Opening × Supervisor :=
  match s.barred with
  | some e => (.done (.error e), s)
  | none => s.ask look false

/-- The dial that a call waits for has ended. -/
def dialed (s : Supervisor) (look : Nat → Vitals) (attempt : Nat) (again : Bool)
    (r : Except LinkError Unit) : Opening × Supervisor :=
  match s.pool.arrive look attempt r with
  | (⟨.ok c, _⟩, pool) => (.opening c again, { s with pool })
  | (⟨.error e, _⟩, pool) => (.done (.error (.link e)), { s with pool })

/-- The stream that a call waits for was confirmed or has failed. Only the loss of the connection
is worth another attempt. -/
def answered (s : Supervisor) (look : Nat → Vitals) (connection : Nat) (again : Bool)
    (r : Except LinkError Unit) : Opening × Supervisor :=
  match r with
  | .ok () => (.done (.ok connection), s)
  | .error e =>
    if ¬ again ∧ e.isRetryable ∧ (look connection).closed then s.ask look true
    else (.done (.error (.link e)), s)

/-- From now on nobody is admitted and no stream is opened. -/
def stop (s : Supervisor) : Supervisor := { s with shuttingDown := true }

def closeAll (s : Supervisor) : List Nat × Supervisor :=
  let (connections, pool) := s.pool.closeAll
  (connections, { s with pool })

/-- The registry's counts and those of the connections. -/
def stats (s : Supervisor) (look : Nat → Vitals) (wire : WireTraffic) (now : Nat) : Snapshot :=
  { s.registry.snapshot now with
    wire, transports := s.pool.count look, streams := s.pool.streams look }

/-- A supervisor shows its pool and its cap. -/
def debug (s : Supervisor) : String :=
  "Supervisor \x7b manager: " ++ s.pool.debug ++
    s!", max_streams: {s.maxStreams}, available: {s.available}, " ++
    s!"shutting_down: {s.shuttingDown} " ++ "\x7d"

end Supervisor

end SealedRelay
