import SealedRelay.Bytes
import SealedRelay.Fault
/-!
# Talks over a socket

A talk is one side of an exchange: it reads, writes, and comes to a result. Reading asks for at
most so many bytes and is told some bytes, the end of input (no bytes), or a fault. A patient read
is not told that it was interrupted: it is tried again.

A talk runs over a channel, which holds the pieces that have arrived and what was written. When
the pieces are used up and more may come, the talk waits, and can run on later.
-/
namespace SealedRelay

/-- One side of an exchange that ends with an `α`. -/
inductive Talk (α : Type) where
  | done (a : α)
  | recv (most : Nat) (patient : Bool) (next : Except Fault Bytes → Talk α)
  | send (data : Bytes) (next : Except Fault Unit → Talk α)

namespace Talk

/-- Goes on with `f` once a talk has ended. -/
def bind {α β : Type} (t : Talk α) (f : α → Talk β) : Talk β :=
  match t with
  | done a => f a
  | recv most patient next => recv most patient fun r => (next r).bind f
  | send data next => send data fun r => (next r).bind f

instance : Monad Talk where
  pure := done
  bind := bind

/-- Reads exactly `n` bytes, piece by piece and patiently; the end of input before that is a
fault. -/
def recvExactly (n : Nat) (got : Bytes := []) : Talk (Except Fault Bytes) :=
  if _hn : n = 0 then done (.ok got)
  else
    recv n true fun r =>
      match r with
      | .error f => done (.error f)
      | .ok b =>
        if _hb : b = [] then done (.error .earlyEnd)
        else recvExactly (n - b.length) (got ++ b.take n)
termination_by n
decreasing_by
  have := List.length_pos_iff.2 _hb
  omega

end Talk

/-- A socket as a talk sees it. -/
structure Channel where
  /-- What reads will be told, in order; no piece is empty. -/
  pieces : List (Except Fault Bytes)
  /-- The input ends after the pieces. -/
  ended : Bool
  /-- How many more bytes can be written; none for any number. -/
  room : Option Nat := none
  written : Bytes := []

namespace Channel

/-- A read of at most `most` bytes: the front piece or as much of it as was asked for. -/
def read (c : Channel) (most : Nat) : Option (Except Fault Bytes) × Channel :=
  match c.pieces with
  | [] => (if c.ended then some (.ok []) else none, c)
  | .error f :: pieces => (some (.error f), { c with pieces })
  | .ok b :: pieces =>
    if b.length ≤ most then (some (.ok b), { c with pieces })
    else (some (.ok (b.take most)), { c with pieces := .ok (b.drop most) :: pieces })

/-- What is left once the interruptions at the front have passed. -/
def calm (c : Channel) : Channel :=
  { c with pieces := c.pieces.dropWhile fun
      | .error f => f.kind = .interrupted
      | .ok _ => false }

def write (c : Channel) (data : Bytes) : Except Fault Unit × Channel :=
  match c.room with
  | none => (.ok (), { c with written := c.written ++ data })
  | some n =>
    if data.length ≤ n then
      (.ok (), { c with room := some (n - data.length), written := c.written ++ data })
    else (.error ⟨.brokenPipe, none⟩,
      { c with room := some 0, written := c.written ++ data.take n })

/-- The bytes that were never read, up to the first fault or beyond. -/
def unread (c : Channel) : Bytes :=
  c.pieces.flatMap fun
    | .ok b => b
    | .error _ => []

def arrive (c : Channel) (b : Bytes) : Channel :=
  if b = [] then c else { c with pieces := c.pieces ++ [.ok b] }

end Channel

namespace Talk

/-- Runs a talk over a channel until it ends or has to wait, and gives what is left of it. -/
def run {α : Type} (t : Talk α) (c : Channel) : Talk α × Channel :=
  match t with
  | done a => (done a, c)
  | recv most patient next =>
    match (if patient then c.calm else c).read most with
    | (none, c) => (recv most patient next, c)
    | (some r, c) => (next r).run c
  | send data next =>
    let (r, c) := c.write data
    (next r).run c

/-- The result of a talk that has ended. -/
def result? {α : Type} : Talk α → Option α
  | done a => some a
  | _ => none

end Talk

end SealedRelay
