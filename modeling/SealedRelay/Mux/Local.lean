import SealedRelay.Mux
import SealedRelay.Payload.Address
/-!
# What this side does to its streams

Opening, confirming, sending, reading, ending and dropping streams, and failing them all when the
connection dies. Sending is limited by the credit the other side has granted; reading grants it
new credit once a quarter of the window has been read.
-/
namespace SealedRelay.Mux

/-- The number after `id`, going round past zero. -/
def succId (id : StreamId) : StreamId := if id = 0xffffffff then 1 else id + 1

/-- The first of `tries` numbers from `id` on that is not used, and the number to try next. -/
def freeId (used : StreamId → Bool) : Nat → StreamId → Option StreamId × StreamId
  | 0, id => (none, id)
  | tries + 1, id => if used id then freeId used tries (succId id) else (some id, succId id)

/-- Chooses a number for a new stream: one more try than there are live streams. -/
def allocateId (m : Mux) : Option StreamId × Mux :=
  let (id, next) := freeId (fun id => (m.lookup id).isSome) (m.table.length + 1) m.nextId
  (id, { m with nextId := next })

/-- Asks the other side for a stream. The handle is good once the other side confirms; until then
only the asking call holds it. -/
def openStream (m : Mux) (d : Destination) : Except LinkError Handle × Mux :=
  match m.role with
  | .responder => (.error (.unavailable "responder side cannot open streams"), m)
  | .initiator =>
    match d.encode with
    | .error e => (.error (.ofPayload e), m)
    | .ok payload =>
      match m.failed with
      | some e => (.error (.unavailable e.message), m)
      | none =>
        if m.table.length ≥ m.config.maxStreams then
          (.error (.unavailable s!"stream limit {m.config.maxStreams} reached"), m)
        else
          match m.allocateId with
          | (none, m) => (.error (.unavailable "stream ids exhausted"), m)
          | (some id, m) =>
            let s : Stream :=
              { id, destination := d, recvAllowance := m.config.initialWindow, awaitingOpen := true }
            (.ok m.streams.length, (m.insert s).emit ⟨.opening, id, payload⟩)

/-- What the call that asked for a stream has been told. -/
def openResult (m : Mux) (h : Handle) : Option (Except LinkError Unit) := (m.stream h).opened

/-- The time to confirm a stream is over. -/
def expireOpen (m : Mux) (h : Handle) : Except LinkError Unit × Mux :=
  let s := m.stream h
  let e := LinkError.openTimeout m.config.openTimeout
  match s.opened with
  | some r => (r, m)
  | none =>
    if s.phase = .pendingOpen then
      let m := m.modify h fun s =>
        { s with phase := .closed, awaitingOpen := false, failure := some e }
      (.error e, (m.remove h).emitClose s.id .timeout)
    else (.error e, m)

/-- Sends as much of `data` as the window allows, in data frames of limited size, and tells how
many bytes that was. -/
def send (m : Mux) (h : Handle) (data : Bytes) : Except LinkError Nat × Mux :=
  let s := m.stream h
  match s.failure with
  | some e => (.error e, m)
  | none =>
    if s.phase ≠ .open_ ∧ s.phase ≠ .remoteClosing then (.error (.streamClosed s.id), m)
    else if data = [] then (.ok 0, m)
    else if s.sendWindow = 0 then (.error (.windowExhausted s.id), m)
    else
      let accepted := min data.length s.sendWindow
      let pieces := Bytes.chunks (max m.config.maxFramePayload 1) (data.take accepted)
      let m := m.emitAll (pieces.map fun piece => ⟨.data, s.id, piece⟩)
      (.ok accepted, m.modify h fun s => { s with sendWindow := s.sendWindow - accepted })

def sendTo (m : Mux) (id : StreamId) (data : Bytes) : Except LinkError Nat × Mux :=
  match m.lookup id with
  | none => (.error (.streamClosed id), m)
  | some h => m.send h data

/-- What reading found. -/
inductive ReadOutcome where
  | chunk (bytes : Bytes)
  | eof
  /-- Nothing has arrived yet. -/
  | pending
  deriving DecidableEq

/-- Bytes read after which the other side gets new credit. -/
def Config.creditThreshold (c : Config) : Nat := max (c.initialWindow / 4) 1

/-- The largest credit that one ack can grant. -/
def largestCredit : Nat := UInt32.size - 1

/-- Takes the next chunk that has arrived. -/
def read (m : Mux) (h : Handle) : Except LinkError ReadOutcome × Mux :=
  let s := m.stream h
  match s.inbox with
  | chunk :: inbox =>
    let pending := s.pendingCredit + chunk.length
    if s.remoteClosed = false ∧ pending ≥ m.config.creditThreshold then
      let credit := min pending largestCredit
      let m := m.modify h fun s =>
        { s with
          inbox
          pendingCredit := pending - credit
          recvAllowance := s.recvAllowance + credit }
      (.ok (.chunk chunk), m.emitAck s.id credit)
    else
      (.ok (.chunk chunk), m.modify h fun s => { s with inbox, pendingCredit := pending })
  | [] =>
    match s.failure with
    | some e => (.error e, m)
    | none =>
      if s.remoteClosed then (.ok .eof, m)
      else if s.phase = .closed then (.error (.streamClosed s.id), m)
      else (.ok .pending, m)

/-- Confirms a stream that the other side asked for. -/
def accept (m : Mux) (h : Handle) : Except LinkError Unit × Mux :=
  let s := m.stream h
  if s.phase = .pendingOpen then
    let m := m.modify h fun s =>
      { s with phase := .open_, recvAllowance := m.config.initialWindow }
    (.ok (), (m.emitAck s.id m.config.initialWindow).wake h)
  else (.error (s.failure.getD (.streamClosed s.id)), m)

/-- Ends both directions of a stream. Once the connection has failed nobody is told. -/
def abort (m : Mux) (h : Handle) (reason : CloseReason) : Mux :=
  let s := m.stream h
  if s.phase = .closed then m
  else m.kill h (.streamClosed s.id) (if m.isFailed then none else some reason)

/-- Ends this side's direction. The stream can be read until the other side ends its own. -/
def halfClose (m : Mux) (h : Handle) : Mux :=
  let s := m.stream h
  match s.phase with
  | .closed | .localClosing => m
  | .pendingOpen => m.abort h .reset
  | .open_ | .remoteClosing =>
    let m := m.modify h fun s =>
      { s with
        localClosed := true
        phase := if s.remoteClosed then .closed else .localClosing }
    let m := (m.emitClose s.id .normal).wake h
    if s.remoteClosed then m.remove h else m

def closeStream (m : Mux) (id : StreamId) (reason : CloseReason) : Mux :=
  match m.lookup id with
  | none => m
  | some h => if reason.isAbort then m.abort h reason else m.halfClose h

/-- Forgets a handle; a stream that is not fully closed is torn down. -/
def dropHandle (m : Mux) (h : Handle) : Mux := m.abort h .reset

/-- Forgets the queue of streams that the other side asked for. -/
def dropIncoming (m : Mux) : Mux :=
  m.incoming.foldl dropHandle { m with incoming := [], listening := false }

/-- What taking the next stream of the queue found. -/
inductive NextIncoming where
  | stream (handle : Handle)
  /-- The connection has failed and the queue is empty. -/
  | ended
  | pending
  deriving DecidableEq

/-- Takes the next stream that the other side asked for. -/
def nextIncoming (m : Mux) : NextIncoming × Mux :=
  match m.incoming with
  | h :: rest => (.stream h, { m with incoming := rest })
  | [] => (if m.isFailed then .ended else .pending, m)

/-- Fails every stream and refuses new ones. No frames are sent. -/
def failAll (m : Mux) (e : LinkError) : Mux :=
  let handles := m.table.map (·.2)
  let m := { m with failed := m.failed <|> some e, table := [] }
  handles.foldl
    (fun m h =>
      (if (m.stream h).phase = .closed then m else m.terminate h e none).wake h) m

def ping (m : Mux) : Mux := m.emit ⟨.ping, 0, Payload.pingRequest⟩

end SealedRelay.Mux
