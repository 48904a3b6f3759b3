import SealedRelay.Frame.Codec
import SealedRelay.Mux.Inbound
import SealedRelay.Seal.Session
/-!
# Encrypted connections

A connection seals the frames its multiplexer queues, opens the frames that arrive, and keeps
itself alive: it sends pings and gives up on a peer that has been silent for too long. Whatever
ends it first fails every stream on it; later causes change nothing.

Times are counted from the start of the connection.
-/
namespace SealedRelay

/-- One end of an established connection. -/
structure Connection where
  id : Nat
  /-- The peer's address, for people. -/
  peer : String
  mux : Mux
  sealer : Sealer
  opener : Opener
  /-- Bytes that have arrived and are not yet a whole frame. -/
  received : Bytes := []
  closed : Bool := false
  bytesSent : Nat := 0
  bytesReceived : Nat := 0
  /-- The millisecond in which the last frame arrived. -/
  lastInbound : Nat := 0
  /-- When the last ping was sent. -/
  lastPing : Duration := ⟨0⟩
  /-- When the next look at the clock is due, in nanoseconds. -/
  tickDue : Nat := 0

namespace Connection

/-- The smallest payload limit, so that control frames always fit. -/
def minWirePayload : Nat := 512

/-- The largest sealed payload with a multiplexer's settings. -/
def wireLimit (c : Mux.Config) : Nat :=
  max c.maxFramePayload minWirePayload + Crypto.Aead.tagSize

def new (id : Nat) (peer : String) (e : End) (session : Session) (config : Mux.Config) :
    Connection where
  id
  peer
  mux := { role := match e with | .client => .initiator | .server => .responder, config }
  sealer := session.sealer
  opener := session.opener

/-- What a cause of death tells the streams. -/
def streamError : LinkError → LinkError
  | .connectionClosed => .connectionClosed
  | cause => .unreachable cause.message

/-- Ends the connection. Only the first cause has any effect. -/
def teardown (c : Connection) (cause : LinkError) : Connection :=
  if c.closed then c
  else
    { c with
      closed := true
      mux := { c.mux.failAll (streamError cause) with outbound := [], sending := false } }

def close (c : Connection) : Connection := c.teardown .connectionClosed

/-- Whether another stream can be opened now. -/
def hasCapacity (c : Connection) : Bool :=
  !c.closed && c.mux.activeStreams < c.mux.config.maxStreams

/-- Opens one frame that arrived and hands it to the multiplexer. -/
def handle (now : Duration) (c : Connection) (wire : Frame) : Connection :=
  if c.closed then c
  else
    let (opened, opener) := c.opener.next wire.routing wire.payload
    let c :=
      { c with
        opener
        bytesReceived := c.bytesReceived + wire.wireSize
        lastInbound := now.millis }
    match opened with
    | .error e => c.teardown (.ofSeal e)
    | .ok payload =>
      let (r, mux) := c.mux.receive { wire with payload }
      let c := { c with mux }
      match r with
      | .error e => c.teardown e
      | .ok () => c

def receive (now : Duration) (c : Connection) (bytes : Bytes) : Connection :=
  if c.closed then c
  else
    let (frames, ending) := Frame.decodeAll (wireLimit c.mux.config) (c.received ++ bytes)
    let c := frames.foldl (handle now) c
    match ending with
    | .more rest => { c with received := rest }
    | .error e rest => { c.teardown (.ofFrame e) with received := rest }

def endOfInput (c : Connection) : Connection :=
  if c.received = [] then c.teardown (.unreachable "connection closed by peer")
  else c.teardown (.ofFrame .connectionClosed)

def socketFailed (c : Connection) (fault : Fault) : Connection := c.teardown (.io fault)

/-- The wire form of the next queued frame, for the socket to write. -/
def nextWire (c : Connection) : Option Bytes × Connection :=
  if c.closed then (none, c)
  else
    match c.mux.outbound with
    | [] => (none, c)
    | f :: outbound =>
      let (sealed, sealer) := c.sealer.next f.routing f.payload
      let c := { c with sealer, mux := { c.mux with outbound } }
      match sealed with
      | .error e => (none, c.teardown (.ofSeal e))
      | .ok payload =>
        match Frame.Codec.write { maxPayload := wireLimit c.mux.config } { f with payload } with
        | .error e => (none, c.teardown (.ofFrame e))
        | .ok codec => (some codec.encoded, c)

def wrote (c : Connection) (size : Nat) : Connection :=
  { c with bytesSent := c.bytesSent + size }

/-- Time between looks at the clock. -/
def period (c : Mux.Config) : Duration :=
  ⟨max (min c.keepaliveInterval.nanos (c.idleTimeout.nanos / 4)) (Duration.ofMillis 10).nanos⟩

/-- The millisecond at which the next look at the clock is due. -/
def tickTime (c : Connection) : Nat := Duration.ticks ⟨c.tickDue⟩

/-- How long the peer has been silent. The last arrival is known to the millisecond below it, the
present time to the nanosecond. -/
def idle (now : Duration) (c : Connection) : Duration := now - .ofMillis c.lastInbound

/-- Looks at the clock: a peer that has been silent for the idle timeout is given up, and a ping is
sent if the last one is a keepalive interval ago. -/
def tick (now : Duration) (c : Connection) : Connection :=
  if c.closed then c
  else
    let idle := c.idle now
    let c := { c with tickDue := c.tickDue + (period c.mux.config).nanos }
    if idle.nanos ≥ c.mux.config.idleTimeout.nanos then
      c.teardown (.unreachable s!"no traffic for {idle.text}")
    else if (now - c.lastPing).nanos ≥ c.mux.config.keepaliveInterval.nanos then
      { c with mux := c.mux.ping, lastPing := now }
    else c

/-- A connection shows its number, its peer and its state. -/
def debug (c : Connection) : String :=
  "TransportConnection \x7b id: " ++ toString c.id ++ ", peer: " ++ Text.quoted c.peer ++
    ", active_streams: " ++ toString c.mux.activeStreams ++ ", closed: " ++ toString c.closed ++
    " \x7d"

end Connection

end SealedRelay
