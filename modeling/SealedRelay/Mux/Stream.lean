import SealedRelay.Destination
import SealedRelay.Link.Error
/-!
# Streams

A stream carries bytes both ways. It starts when one side asks for it, is open once the other
side has confirmed it, and each side ends its own direction; either may also tear it down.
-/
namespace SealedRelay.Mux

/-- Where a stream is in its life. -/
inductive Phase where
  /-- Asked for and not yet confirmed. -/
  | pendingOpen
  | open_
  /-- This side has ended its direction. -/
  | localClosing
  /-- The other side has ended its direction. -/
  | remoteClosing
  | closed
  deriving DecidableEq, Repr

def Phase.debug : Phase → String
  | pendingOpen => "PendingOpen"
  | open_ => "Open"
  | localClosing => "LocalClosing"
  | remoteClosing => "RemoteClosing"
  | closed => "Closed"

/-- One end of a stream. -/
structure Stream where
  id : StreamId
  destination : Destination
  phase : Phase := .pendingOpen
  /-- Bytes that may still be sent. -/
  sendWindow : Nat := 0
  /-- Chunks that have arrived and not been read. -/
  inbox : List Bytes := []
  /-- Bytes that the other side may still send. -/
  recvAllowance : Nat
  /-- Bytes read here for which the other side has not yet got credit. -/
  pendingCredit : Nat := 0
  localClosed : Bool := false
  remoteClosed : Bool := false
  failure : Option LinkError := none
  /-- A call that asked for the stream is still waiting. -/
  awaitingOpen : Bool := false
  /-- What that call was told. -/
  opened : Option (Except LinkError Unit) := none

/-- The stream behind a handle that was never given out: closed from the start. -/
def Stream.absent : Stream where
  id := 0
  destination := .domain "" 0
  phase := .closed
  recvAllowance := 0
  localClosed := true
  remoteClosed := true

namespace Stream

/-- The largest send window; credit beyond it is lost. -/
def largestWindow : Nat := UInt64.size - 1

/-- More credit to send on. -/
def credited (s : Stream) (credit : Nat) : Stream :=
  { s with sendWindow := min (s.sendWindow + credit) largestWindow }

/-- Tells a waiting opener how it went; later news do not reach it. -/
def tellOpener (s : Stream) (r : Except LinkError Unit) : Stream :=
  if s.awaitingOpen then { s with awaitingOpen := false, opened := some r } else s

@[simp] theorem id_tellOpener (s : Stream) (r : Except LinkError Unit) :
    (s.tellOpener r).id = s.id := by unfold tellOpener; split <;> rfl

@[simp] theorem phase_tellOpener (s : Stream) (r : Except LinkError Unit) :
    (s.tellOpener r).phase = s.phase := by unfold tellOpener; split <;> rfl

@[simp] theorem sendWindow_tellOpener (s : Stream) (r : Except LinkError Unit) :
    (s.tellOpener r).sendWindow = s.sendWindow := by unfold tellOpener; split <;> rfl

@[simp] theorem inbox_tellOpener (s : Stream) (r : Except LinkError Unit) :
    (s.tellOpener r).inbox = s.inbox := by unfold tellOpener; split <;> rfl

@[simp] theorem recvAllowance_tellOpener (s : Stream) (r : Except LinkError Unit) :
    (s.tellOpener r).recvAllowance = s.recvAllowance := by unfold tellOpener; split <;> rfl

@[simp] theorem pendingCredit_tellOpener (s : Stream) (r : Except LinkError Unit) :
    (s.tellOpener r).pendingCredit = s.pendingCredit := by unfold tellOpener; split <;> rfl

@[simp] theorem localClosed_tellOpener (s : Stream) (r : Except LinkError Unit) :
    (s.tellOpener r).localClosed = s.localClosed := by unfold tellOpener; split <;> rfl

@[simp] theorem remoteClosed_tellOpener (s : Stream) (r : Except LinkError Unit) :
    (s.tellOpener r).remoteClosed = s.remoteClosed := by unfold tellOpener; split <;> rfl

@[simp] theorem failure_tellOpener (s : Stream) (r : Except LinkError Unit) :
    (s.tellOpener r).failure = s.failure := by unfold tellOpener; split <;> rfl

/-- A stream shows its number, its destination and where it is in its life. -/
def debug (s : Stream) : String :=
  "StreamHandle \x7b id: " ++ toString s.id.toNat ++ ", destination: " ++ s.destination.debug ++
    ", phase: " ++ s.phase.debug ++ " \x7d"

/-- Ends both directions. What has arrived is discarded, and the first failure stays. -/
def terminated (s : Stream) (e : LinkError) : Stream :=
  tellOpener { s with phase := .closed, inbox := [], failure := s.failure <|> some e } (.error e)

@[simp] theorem id_terminated (s : Stream) (e : LinkError) : (s.terminated e).id = s.id := by
  simp [terminated]

@[simp] theorem phase_terminated (s : Stream) (e : LinkError) :
    (s.terminated e).phase = .closed := by simp [terminated]

@[simp] theorem sendWindow_terminated (s : Stream) (e : LinkError) :
    (s.terminated e).sendWindow = s.sendWindow := by simp [terminated]

@[simp] theorem inbox_terminated (s : Stream) (e : LinkError) : (s.terminated e).inbox = [] := by
  simp [terminated]

@[simp] theorem recvAllowance_terminated (s : Stream) (e : LinkError) :
    (s.terminated e).recvAllowance = s.recvAllowance := by simp [terminated]

@[simp] theorem pendingCredit_terminated (s : Stream) (e : LinkError) :
    (s.terminated e).pendingCredit = s.pendingCredit := by simp [terminated]

@[simp] theorem localClosed_terminated (s : Stream) (e : LinkError) :
    (s.terminated e).localClosed = s.localClosed := by simp [terminated]

@[simp] theorem remoteClosed_terminated (s : Stream) (e : LinkError) :
    (s.terminated e).remoteClosed = s.remoteClosed := by simp [terminated]

@[simp] theorem failure_terminated (s : Stream) (e : LinkError) :
    (s.terminated e).failure = (s.failure <|> some e) := by simp [terminated]

theorem failure_terminated_ne_none (s : Stream) (e : LinkError) :
    (s.terminated e).failure ≠ none := by
  rw [failure_terminated]
  cases s.failure <;> simp

end Stream

end SealedRelay.Mux
