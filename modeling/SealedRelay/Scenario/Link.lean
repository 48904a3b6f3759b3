import SealedRelay.Connection
import SealedRelay.Scenario.World
import SealedRelay.Talk
/-!
# A connection and its peer in virtual time

One end of a connection faces a peer that holds the other end's keys and does what it is told, or
a socket whose pieces are given beforehand. The pipe between the two takes a limited number of
bytes at once in either direction. The connection reads as soon as there is something to read; the
peer reads at the end of a step, and then all that there is.
-/
namespace SealedRelay.Scenario

/-- What became of bytes that the peer sent. -/
inductive Sent where
  | ok
  /-- The peer has closed its end. -/
  | closed
  /-- This end has closed. -/
  | refused
  /-- The pipe takes nothing. -/
  | stuck
  deriving DecidableEq

/-- A connection and its peer. -/
structure Link where
  /-- The connection; its multiplexer is the only one of the world. -/
  conn : Connection
  world : World
  /-- Somebody still holds the connection. -/
  held : Bool := true
  sealer : Sealer
  opener : Opener
  peerOpen : Bool := true
  /-- This end had closed before the peer did. -/
  closedFirst : Bool := false
  /-- How many bytes are on their way in one direction at most. -/
  pipe : Nat
  socket : Option Channel
  /-- What this end has written and the peer has not read yet. -/
  unread : Bytes := []
  /-- What is left to write of a frame, and how many bytes it has in all. -/
  writing : Option (Bytes × Nat) := none
  /-- What the peer has received since the last row, sealed and opened. -/
  arrived : List (Frame × Except SealError Bytes) := []

namespace Link

/-- Runs an operation of the connection. -/
def on (l : Link) (f : Connection → Connection) : Link :=
  let conn := f { l.conn with mux := l.world.mux 0 }
  { l with conn, world := l.world.setMux 0 conn.mux }

/-- Changes the world. -/
def within (l : Link) (f : World → World) : Link := { l with world := f l.world }

def peerOpens (l : Link) (wire : Bytes) : Link :=
  (Frame.decodeAll Frame.largestPayload wire).1.foldl
    (fun l f =>
      let (r, opener) := l.opener.next f.routing f.payload
      { l with opener, arrived := l.arrived ++ [(f, r)] }) l

/-- Takes at most `n` steps in writing the queued frames, of which the pipe has room for `room`
bytes; none for any number. -/
def pump : Nat → Option Nat → Link → Link
  | 0, _, l => l
  | n + 1, room, l =>
    if l.conn.closed then { l with writing := none }
    else
      match l.writing with
      | some (rest, size) =>
        let taken := min rest.length (room.getD rest.length)
        let l := { l with unread := l.unread ++ rest.take taken }
        if taken < rest.length then { l with writing := some (rest.drop taken, size) }
        else pump n (room.map (· - taken)) ({ l with writing := none }.on (·.wrote size))
      | none =>
        let (wire, conn) := Connection.nextWire { l.conn with mux := l.world.mux 0 }
        let l := l.on fun _ => conn
        match wire, l.socket with
        | none, _ => l
        | some wire, none => pump n room { l with writing := some (wire, wire.length) }
        | some wire, some c =>
          let (r, c) := c.write wire
          let l := { l with socket := some c }
          match r with
          | .ok () => pump n room (l.on (·.wrote wire.length))
          | .error fault => l.on (·.socketFailed fault)

/-- Writes as many of the queued frames as there is room for. Every frame takes two steps, and the
last step finds that there are no more. -/
def write (l : Link) (room : Option Nat) : Link :=
  pump (2 * (l.world.mux 0).outbound.length + 2) room l

/-- Runs the calls, writes what they queued, and runs the calls that a failed write has woken. -/
def run (l : Link) : Link :=
  let l := l.within World.settle
  (l.write (some (l.pipe - l.unread.length))).within World.settle

/-- Runs everything, and then the peer reads until nothing more comes. As it goes on reading, a
pipe of any size but none lets everything through. -/
def settle (l : Link) : Link :=
  let l := l.run
  let l := if l.pipe = 0 then l else (l.write none).within World.settle
  { l.peerOpens l.unread with unread := [] }

/-- Reads at most `n` pieces of the given socket. -/
def readPieces : Nat → Link → Link
  | 0, l => l
  | n + 1, l =>
    match l.socket.map (·.read Frame.largestPayload) with
    | none | some (none, _) => l
    | some (some r, c) =>
      let l := { l with socket := some c }
      match r with
      | .error fault => l.on (·.socketFailed fault)
      | .ok [] => l.on Connection.endOfInput
      | .ok bytes => readPieces n (l.on (Connection.receive l.world.now · bytes))

/-- A connection that has just been established, of which this end is the one given. It reads
first, then writes, and then looks at the clock. A socket that was given beforehand has no peer
that could be told to do something. -/
def new (keys : SessionKeys) (side : End) (id : Nat) (name : String) (config : Mux.Config)
    (pipe : Nat) (socket : Option Channel) : Link :=
  let conn := Connection.new id name side (Session.new keys side) config
  let peer := Session.new keys side.peer
  let l : Link :=
    { conn, world := { muxes := [conn.mux] }, sealer := peer.sealer, opener := peer.opener, pipe
      socket, peerOpen := socket.isNone }
  let pieces := (socket.map (·.pieces.length)).getD 0
  ((readPieces (pieces + 1) l).run.on (Connection.tick ⟨0⟩)).run

/-- The peer sends chunks, none of which is larger than the pipe. -/
def peerSendsChunks (l : Link) : List Bytes → Sent × Link
  | [] => (.ok, l)
  | chunk :: chunks =>
    if ¬ l.peerOpen then (.closed, l)
    else if l.conn.closed then (.refused, l)
    else if l.pipe = 0 then (.stuck, l)
    else (l.on (Connection.receive l.world.now · chunk)).run.peerSendsChunks chunks

/-- The peer sends bytes in pieces, and what is too large for the pipe chunk by chunk. -/
def peerSends (l : Link) (pieces : List Bytes) : Sent × Link :=
  l.peerSendsChunks (pieces.flatMap (Bytes.chunks (max l.pipe 1)))

/-- The peer uses up a nonce. -/
def skipNonce (l : Link) : Link :=
  { l with sealer := { l.sealer with counter := l.sealer.counter + 1 } }

def peerSeals (l : Link) (aad payload : Bytes) : Bytes × Link :=
  let (r, sealer) := l.sealer.next aad payload
  (r.toOption.getD [], { l with sealer })

def sawEnd (l : Link) : Bool :=
  l.closedFirst || (l.conn.closed && l.peerOpen)

def peerCloses (l : Link) : Link :=
  if l.peerOpen then
    ({ l with peerOpen := false, closedFirst := l.sawEnd }.on Connection.endOfInput).run
  else l

def drop (l : Link) : Link := { l.on Connection.close with held := false }

/-- Whether the next look at the clock comes before a call expires at the same time: it does unless
the call was waiting before the last look. -/
def tickFirst (l : Link) : Bool :=
  match l.world.nextDeadline with
  | none => true
  | some (d, _) =>
    let begun := d - l.conn.mux.config.openTimeout.ticks
    let tick := l.conn.tickTime
    let last := tick - (Connection.period l.conn.mux.config).ticks
    tick < d || (tick == d && last ≤ begun)

/-- Moves the clock on, with at most `n` things happening on the way. -/
def advanceTo (target : Duration) : Nat → Link → Link
  | 0, l => l.within ({ · with now := target })
  | n + 1, l =>
    let time := l.within ({ · with now := target })
    if ¬ l.conn.closed ∧ l.tickFirst then
      let t := l.conn.tickTime
      if t > target.millis then time
      else
        let l := l.within ({ · with now := .ofMillis t })
        advanceTo target n (l.on (Connection.tick (.ofMillis t))).run
    else
      match l.world.nextDeadline with
      | none => time
      | some (d, c) =>
        if d > target.millis then time
        else
          let l := l.within fun w => (w.reach d).expire c
          advanceTo target n l.run

def pass (l : Link) (d : Duration) : Link :=
  let l := l.run
  advanceTo (l.world.now + d) (d.ticks + l.world.waiting.length + 1) l

/-- Moves the clock on by whole milliseconds. -/
def advance (l : Link) (ms : Nat) : Link := l.pass (.ofMillis ms)

end Link

end SealedRelay.Scenario
