import SealedRelay.Mux.Local
/-!
# What the other side does to the streams

Frames for unknown streams are dropped. Only what breaks the control rules is an error, and such
a frame changes nothing.
-/
namespace SealedRelay.Mux

/-- A ping is answered unless it is itself an answer. -/
def onPing (m : Mux) (payload : Bytes) : Except LinkError Unit × Mux :=
  if payload = Payload.pingRequest then (.ok (), m.emit ⟨.ping, 0, Payload.pingReply⟩)
  else if payload = Payload.pingReply then (.ok (), m)
  else (.error (.ofPayload (.pingPayload payload.length)), m)

/-- A stream is asked for. It is refused on the initiating side, when its destination is
malformed, when there are too many streams and when nobody takes new ones. -/
def onOpening (m : Mux) (id : StreamId) (payload : Bytes) : Except LinkError Unit × Mux :=
  match m.role with
  | .initiator => (.ok (), m.emitClose id .refused)
  | .responder =>
    match Destination.decode payload with
    | .error _ => (.ok (), m.emitClose id .refused)
    | .ok destination =>
      if m.isFailed then (.ok (), m)
      else if (m.lookup id).isSome then
        (.error (.malformed s!"duplicate OPEN for stream {id.toNat}"), m)
      else if m.table.length ≥ m.config.maxStreams then (.ok (), m.emitClose id .refused)
      else
        let h := m.streams.length
        let m := m.insert { id, destination, recvAllowance := 0 }
        if m.listening then (.ok (), { m with incoming := m.incoming ++ [h] })
        else (.ok (), m.abort h .refused)

/-- Bytes arrive on a stream. Bytes after the end or beyond the allowance reset it. -/
def onData (m : Mux) (h : Handle) (payload : Bytes) : Mux :=
  let s := m.stream h
  if s.remoteClosed ∨ s.phase = .closed ∨ payload.length > s.recvAllowance then
    m.kill h (.streamClosed s.id) (some .reset)
  else
    let m := m.modify h fun s =>
      { s with
        recvAllowance := s.recvAllowance - payload.length
        inbox := if payload = [] then s.inbox else s.inbox ++ [payload] }
    m.wake h

/-- The other side closes a stream: a pending one is thereby refused, an open one is torn down or
its other direction ends. -/
def onClose (m : Mux) (h : Handle) (reason : CloseReason) : Mux :=
  let s := m.stream h
  if s.phase = .pendingOpen then m.kill h (.refused s.id reason) none
  else if reason = .peerUnreachable then
    m.kill h (.unreachable s!"remote lost stream {s.id.toNat}") none
  else if reason.isAbort then m.kill h (.streamClosed s.id) none
  else if s.phase = .closed then m.wake h
  else
    let m := m.modify h fun s =>
      { s with
        remoteClosed := true
        phase := if s.localClosed then .closed else .remoteClosing }
    let m := m.wake h
    if s.localClosed then m.remove h else m

/-- Credit arrives. The first one confirms a stream that this side asked for, which in turn grants
the other side its window. -/
def onAck (m : Mux) (h : Handle) (credit : Nat) : Mux :=
  let s := m.stream h
  match s.phase with
  | .pendingOpen =>
    match m.role with
    | .responder => m
    | .initiator =>
      let m := m.modify h fun s =>
        Stream.tellOpener { s.credited credit with phase := .open_ } (.ok ())
      (m.emitAck s.id m.config.initialWindow).wake h
  | .open_ | .localClosing | .remoteClosing => (m.modify h (·.credited credit)).wake h
  | .closed => m

/-- Routes one frame from the other side. -/
def receive (m : Mux) (f : Frame) : Except LinkError Unit × Mux :=
  match f.kind with
  | .ping => m.onPing f.payload
  | .opening => m.onOpening f.stream f.payload
  | .data =>
    match m.lookup f.stream with
    | none => (.ok (), m)
    | some h => (.ok (), m.onData h f.payload)
  | .close =>
    match CloseReason.decode f.payload with
    | .error e => (.error (.ofPayload e), m)
    | .ok reason =>
      match m.lookup f.stream with
      | none => (.ok (), m)
      | some h => (.ok (), m.onClose h reason)
  | .ack =>
    match Payload.decodeCredit f.payload with
    | .error e => (.error (.ofPayload e), m)
    | .ok credit =>
      match m.lookup f.stream with
      | none => (.ok (), m)
      | some h => (.ok (), m.onAck h credit)

end SealedRelay.Mux
