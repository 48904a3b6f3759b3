import SealedRelay.Mux.Inbound

/-!
# Two multiplexers joined by their queues

What one side queues arrives at the other, in order and one frame at a time. Between arrivals each
side makes calls of its own, at any moment and on any handle, also on one that its program would
no longer hold. A run is a list of such actions. Next to the two sides it keeps what calls told
their callers: the bytes that were accepted for sending and the chunks that were read.

A write that waits for credit is a sequence of `send`, and refusing a stream is `abort`.
-/
namespace SealedRelay.Mux

def Role.other : Role → Role
  | initiator => responder
  | responder => initiator

@[simp] theorem Role.other_other (r : Role) : r.other.other = r := by cases r <;> rfl

@[simp] theorem Role.other_ne (r : Role) : r.other ≠ r := by cases r <;> decide

@[simp] theorem Role.ne_other (r : Role) : r ≠ r.other := by cases r <;> decide

theorem Role.eq_or_eq_other (a b : Role) : a = b ∨ a = b.other := by
  cases a <;> cases b <;> simp [Role.other]

theorem Role.forall_of {P : Role → Prop} (a : Role) (ha : P a) (ho : P a.other) (b : Role) : P b := by
  rcases Role.eq_or_eq_other b a with rfl | rfl
  · exact ha
  · exact ho

/-- What a call told its caller about the bytes of a stream. -/
inductive Note where
  /-- These bytes were accepted for sending. -/
  | wrote (id : StreamId) (bytes : Bytes)
  /-- This chunk was read. -/
  | got (id : StreamId) (chunk : Bytes)
  deriving DecidableEq

def Note.wroteOn (id : StreamId) : Note → Bytes
  | wrote i bytes => if i = id then bytes else []
  | got _ _ => []

def Note.gotOn (id : StreamId) : Note → Bytes
  | wrote _ _ => []
  | got i chunk => if i = id then chunk else []

inductive Call where
  | openStream (d : Destination)
  /-- Waiting for the confirmation of a stream has taken too long. -/
  | expireOpen (h : Handle)
  | accept (h : Handle)
  | send (h : Handle) (data : Bytes)
  | sendTo (id : StreamId) (data : Bytes)
  | read (h : Handle)
  | halfClose (h : Handle)
  | abort (h : Handle) (reason : CloseReason)
  | closeStream (id : StreamId) (reason : CloseReason)
  | dropHandle (h : Handle)
  | nextIncoming
  | dropIncoming
  | ping
  /-- The connection has failed. -/
  | failAll (e : LinkError)

def noteSent (id : StreamId) (data : Bytes) : Except LinkError Nat × Mux → List Note × Mux
  | (.ok n, m) => ([.wrote id (data.take n)], m)
  | (.error _, m) => ([], m)

def noteRead (id : StreamId) : Except LinkError ReadOutcome × Mux → List Note × Mux
  | (.ok (.chunk chunk), m) => ([.got id chunk], m)
  | (_, m) => ([], m)

/-- Makes a call. Only the side that asks for streams waits for them to be confirmed, and only the
other side confirms: a handle of the asking side is given out once there is nothing to confirm. -/
def Call.run (m : Mux) : Call → List Note × Mux
  | openStream d => ([], (m.openStream d).2)
  | expireOpen h => ([], if m.role = .initiator then (m.expireOpen h).2 else m)
  | accept h => ([], if m.role = .responder then (m.accept h).2 else m)
  | send h data => noteSent (m.stream h).id data (m.send h data)
  | sendTo id data => noteSent id data (m.sendTo id data)
  | read h => noteRead (m.stream h).id (m.read h)
  | halfClose h => ([], m.halfClose h)
  | abort h reason => ([], m.abort h reason)
  | closeStream id reason => ([], m.closeStream id reason)
  | dropHandle h => ([], m.dropHandle h)
  | nextIncoming => ([], m.nextIncoming.2)
  | dropIncoming => ([], m.dropIncoming)
  | ping => ([], m.ping)
  | failAll e => ([], m.failAll e)

/-- Two multiplexers, one of each role, with what their callers were told. -/
structure Pair where
  initiator : Mux
  responder : Mux
  notes : List (Role × Note) := []

/-- The frames of one stream. Pings belong to none. -/
def ofStream (id : StreamId) (q : List Frame) : List Frame :=
  q.filter fun f => f.stream = id ∧ f.kind ≠ .ping

inductive Action where
  /-- A side makes a call. -/
  | call (side : Role) (c : Call)
  /-- The next frame on its way to a side arrives there. -/
  | deliver (side : Role)

namespace Pair

def mux (p : Pair) : Role → Mux
  | .initiator => p.initiator
  | .responder => p.responder

def set (p : Pair) (m : Mux) : Role → Pair
  | .initiator => { p with initiator := m }
  | .responder => { p with responder := m }

@[simp] theorem mux_set (p : Pair) (m : Mux) (a b : Role) :
    (p.set m a).mux b = if b = a then m else p.mux b := by
  cases a <;> cases b <;> rfl

@[simp] theorem notes_set (p : Pair) (m : Mux) (a : Role) : (p.set m a).notes = p.notes := by
  cases a <;> rfl

def start (c : Role → Config) : Pair where
  initiator := { role := .initiator, config := c .initiator }
  responder := { role := .responder, config := c .responder }

def step (p : Pair) : Action → Pair
  | .call side c =>
    let (notes, m) := c.run (p.mux side)
    { p.set m side with notes := p.notes ++ notes.map (side, ·) }
  | .deliver side =>
    match (p.mux side.other).outbound with
    | [] => p
    | f :: outbound =>
      let p := p.set { p.mux side.other with outbound } side.other
      p.set ((p.mux side).receive f).2 side

def run (p : Pair) (actions : List Action) : Pair := actions.foldl step p

def inFlight (p : Pair) (source : Role) (id : StreamId) : List Frame :=
  ofStream id (p.mux source).outbound

/-- The bytes that were accepted for sending on a stream at one side, in order. -/
def wrote (p : Pair) (side : Role) (id : StreamId) : Bytes :=
  p.notes.flatMap fun (r, n) => if r = side then n.wroteOn id else []

/-- The bytes that were read from a stream at one side, in order. -/
def got (p : Pair) (side : Role) (id : StreamId) : Bytes :=
  p.notes.flatMap fun (r, n) => if r = side then n.gotOn id else []

/-- Nothing is on its way in either direction. -/
def Quiescent (p : Pair) : Prop := ∀ side, (p.mux side).outbound = []

/-- Streams that were ever asked for. -/
def opened (p : Pair) : Nat := p.initiator.streams.length

end Pair

end SealedRelay.Mux
