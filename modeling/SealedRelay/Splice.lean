import SealedRelay.Mux.Call
import SealedRelay.Pipe
/-!
# Splicing a socket and a stream

Bytes from the socket go into the stream and bytes from the stream into the socket. Each direction
that ends closes its sink; once one has ended the other gets some time to end as well, and then
the stream is reset. A failure in either direction resets the stream at once.
-/
namespace SealedRelay

/-- One direction of a splice. -/
structure Pump where
  /-- Bytes taken from the source and not yet put into the sink. -/
  pending : Bytes := []
  /-- How many bytes the piece had that `pending` is left of. -/
  size : Nat := 0
  /-- Bytes of all pieces that went into the sink. -/
  moved : Nat := 0
  ended : Bool := false

/-- How a direction comes to rest. -/
inductive Pump.Rest where
  | waiting
  | ended
  | failed (e : LinkError)
  deriving DecidableEq

/-- A socket and a stream spliced together. -/
structure Splice where
  handle : Mux.Handle
  grace : Duration
  /-- From the socket. -/
  inbound : Pipe
  /-- To the socket. -/
  outbound : Pipe
  up : Pump := {}
  down : Pump := {}
  /-- When the time of the second direction is over, in milliseconds. -/
  deadline : Option Nat := none
  result : Option (Except LinkError Unit) := none

namespace Splice

/-- Bytes read from the socket at once. -/
def pieceSize : Nat := 16 * 1024

/-- Moves bytes from the socket into the stream until there are none or the window is used up. -/
def upload (h : Mux.Handle) (p : Pump) (inbound : Pipe) (m : Mux) :
    Pump.Rest × Pump × Pipe × Mux :=
  match m.writeAll h p.pending with
  | (.waiting pending, m) => (.waiting, { p with pending }, inbound, m)
  | (.done (.error e), m) => (.failed e, p, inbound, m)
  | (.done (.ok ()), m) =>
    let p := { p with pending := [], size := 0, moved := p.moved + p.size }
    if _h : inbound.buffer = [] then
      match inbound.fault with
      | some e => (.failed (.io e), p, inbound, m)
      | none =>
        if inbound.closed then (.ended, { p with ended := true }, inbound, m.halfClose h)
        else (.waiting, p, inbound, m)
    else
      let piece := inbound.buffer.take pieceSize
      upload h { p with pending := piece, size := piece.length }
        { inbound with buffer := inbound.buffer.drop pieceSize } m
termination_by inbound.buffer.length
decreasing_by
  have := List.length_pos_iff.2 _h
  simp only [List.length_drop, pieceSize]
  omega

/-- Moves at most `n` chunks from the stream to the socket. -/
def download (h : Mux.Handle) : Nat → Pump → Pipe → Mux → Pump.Rest × Pump × Pipe × Mux
  | 0, p, outbound, m => (.waiting, p, outbound, m)
  | n + 1, p, outbound, m =>
    match if p.pending = [] then .ok ([], outbound) else outbound.write p.pending with
    | .error e => (.failed (.io e), p, outbound, m)
    | .ok (b :: rest, outbound) => (.waiting, { p with pending := b :: rest }, outbound, m)
    | .ok ([], outbound) =>
      let p := { p with pending := [], size := 0, moved := p.moved + p.size }
      match m.read h with
      | (.error e, m) => (.failed e, p, outbound, m)
      | (.ok .pending, m) => (.waiting, p, outbound, m)
      | (.ok .eof, m) => (.ended, { p with ended := true }, outbound.close, m)
      | (.ok (.chunk c), m) => download h n { p with pending := c, size := c.length } outbound m

/-- The splice is over; its socket is closed. -/
def finish (s : Splice) (r : Except LinkError Unit) : Splice :=
  { s with
    result := some r
    inbound := { s.inbound with buffer := [], closed := true }
    outbound := s.outbound.close }

/-- One direction has come to rest at a time: a failure ends the splice, and the first end starts
the clock for the other direction. -/
def rested (s : Splice) (now : Nat) (r : Pump.Rest) (m : Mux) : Splice × Mux :=
  match r with
  | .waiting => (s, m)
  | .failed e => (s.finish (.error e), m.abort s.handle .reset)
  | .ended =>
    let deadline := s.deadline.getD (now + s.grace.ticks)
    ({ s with deadline := some deadline }, m)

def runUp (s : Splice) (now : Nat) (m : Mux) : Splice × Mux :=
  if s.result.isSome ∨ s.up.ended then (s, m)
  else
    let (r, up, inbound, m) := upload s.handle s.up s.inbound m
    { s with up, inbound }.rested now r m

/-- As many chunks as a run of the download can find, and two more steps to find that there are no
others. -/
def chunks (s : Splice) (m : Mux) : Nat := (m.stream s.handle).inbox.length + 2

def runDown (s : Splice) (n now : Nat) (m : Mux) : Splice × Mux :=
  if s.result.isSome ∨ s.down.ended then (s, m)
  else
    let (r, down, outbound, m) := download s.handle n s.down s.outbound m
    { s with down, outbound }.rested now r m

/-- When both directions have ended the splice has succeeded; when the second has used up its time the
stream is reset, which is no failure. -/
def conclude (s : Splice) (now : Nat) (m : Mux) : Splice × Mux :=
  if s.result.isSome then (s, m)
  else if s.up.ended ∧ s.down.ended then (s.finish (.ok ()), m)
  else if s.deadline.any (· ≤ now) then (s.finish (.ok ()), m.abort s.handle .reset)
  else (s, m)

/-- Runs both directions as far as they go. -/
def run (s : Splice) (now : Nat) (m : Mux) : Splice × Mux :=
  let (s, m) := s.runUp now m
  let (s, m) := s.runDown (s.chunks m) now m
  s.conclude now m

end Splice

end SealedRelay
