import SealedRelay.Duration
import SealedRelay.Mux.Stream
/-!
# The multiplexer

A multiplexer carries the streams of one connection: it keeps the table of live streams and
queues the frames to send. Streams are referred to by handles; a handle stays good after its
stream has left the table. One side of a connection initiates streams and the other responds.

Every operation also notes the handles whose waiting calls it wakes, in order.
-/
namespace SealedRelay

namespace Mux

/-- Which side asks for streams. -/
inductive Role where
  | initiator
  | responder
  deriving DecidableEq, Repr

def Role.debug : Role → String
  | initiator => "Initiator"
  | responder => "Responder"

/-- Limits and times of one connection. -/
structure Config where
  /-- The largest data payload; longer writes are cut. -/
  maxFramePayload : Nat := 16 * 1024
  /-- Bytes the other side may send on a fresh stream. -/
  initialWindow : Nat := 256 * 1024
  /-- How long to wait for a stream to be confirmed. -/
  openTimeout : Duration := Duration.ofSecs 10
  /-- Streams at a time. -/
  maxStreams : Nat := 256
  /-- Time between signs of life. -/
  keepaliveInterval : Duration := Duration.ofSecs 15
  /-- A connection that has been silent for this long is dead. -/
  idleTimeout : Duration := Duration.ofSecs 45
  deriving DecidableEq

/-- A position among all streams the multiplexer ever had. -/
abbrev Handle := Nat

end Mux

/-- The streams of one connection, from one side. -/
structure Mux where
  role : Mux.Role
  config : Mux.Config
  /-- Every stream there ever was, in order of creation. -/
  streams : List Mux.Stream := []
  /-- The live streams by number. -/
  table : List (StreamId × Mux.Handle) := []
  nextId : StreamId := 1
  /-- Why the connection failed, once it has. -/
  failed : Option LinkError := none
  /-- Streams that the other side asked for and nobody has taken yet. -/
  incoming : List Mux.Handle := []
  /-- Somebody takes the streams that the other side asks for. -/
  listening : Bool := true
  /-- Frames to send, in order. -/
  outbound : List Frame := []
  /-- Somebody sends the frames. -/
  sending : Bool := true
  /-- Handles whose waiting calls were woken, in order. -/
  woken : List Mux.Handle := []

namespace Mux

def stream (m : Mux) (h : Handle) : Stream := m.streams.getD h Stream.absent

def modify (m : Mux) (h : Handle) (f : Stream → Stream) : Mux :=
  { m with streams := m.streams.modify h f }

/-- Notes that calls waiting on a stream are to look again. -/
def wake (m : Mux) (h : Handle) : Mux := { m with woken := m.woken ++ [h] }

def emitAll (m : Mux) (fs : List Frame) : Mux :=
  if m.sending then { m with outbound := m.outbound ++ fs } else m

def emit (m : Mux) (f : Frame) : Mux := m.emitAll [f]

def emitClose (m : Mux) (id : StreamId) (reason : CloseReason) : Mux :=
  m.emit ⟨.close, id, reason.encode⟩

def emitAck (m : Mux) (id : StreamId) (credit : Nat) : Mux :=
  m.emit ⟨.ack, id, Payload.encodeCredit credit⟩

/-- The handle of the live stream with a number. -/
def lookup (m : Mux) (id : StreamId) : Option Handle := m.table.lookup id

def activeStreams (m : Mux) : Nat := m.table.length

def isFailed (m : Mux) : Bool := m.failed.isSome

def remove (m : Mux) (h : Handle) : Mux :=
  { m with table := m.table.filter fun entry => entry ≠ ((m.stream h).id, h) }

/-- Adds a stream; its handle is the number of streams before it. -/
def insert (m : Mux) (s : Stream) : Mux :=
  { m with
    streams := m.streams ++ [s]
    table := m.table ++ [(s.id, m.streams.length)] }

/-- Ends a stream in both directions, telling the other side if there is a reason to tell. -/
def terminate (m : Mux) (h : Handle) (e : LinkError) (tell : Option CloseReason) : Mux :=
  let m' := m.modify h (·.terminated e)
  match tell with
  | none => m'
  | some reason => m'.emitClose (m.stream h).id reason

/-- Terminates, wakes and removes. -/
def kill (m : Mux) (h : Handle) (e : LinkError) (tell : Option CloseReason) : Mux :=
  ((m.terminate h e tell).wake h).remove h

/-- The outgoing frames are taken by the connection. -/
def takeOutbound (m : Mux) : List Frame × Mux := (m.outbound, { m with outbound := [] })

/-- The noted handles are taken by whoever runs the waiting calls. -/
def takeWoken (m : Mux) : List Handle × Mux := (m.woken, { m with woken := [] })

/-- A multiplexer shows its role and how many streams are live. -/
def debug (m : Mux) : String :=
  "Multiplexer \x7b role: " ++ m.role.debug ++ ", active_streams: " ++ toString m.activeStreams ++
    ", .. \x7d"

end Mux

end SealedRelay
