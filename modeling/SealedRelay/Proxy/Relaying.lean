import SealedRelay.Proxy.FrontEnd
import SealedRelay.Splice
import SealedRelay.Traffic
/-!
# Relaying one client

Once the stream for a client is open and the client was told so, what it had already sent for its
destination goes onto the stream first. Then its socket and the stream are spliced.
-/
namespace SealedRelay.Proxy

structure Relaying where
  /-- What is left of the bytes that go first. -/
  replay : Bytes
  /-- How many bytes that were. -/
  replaySize : Nat
  splice : Splice

namespace Relaying

/-- The relay of a request on an open stream, over a socket's two directions. -/
def new (request : RelayRequest) (h : Mux.Handle) (grace : Duration) (inbound outbound : Pipe) :
    Relaying where
  replay := request.replay
  replaySize := request.replay.length
  splice := { handle := h, grace, inbound, outbound }

/-- Runs the relay as far as it goes at a time. If the bytes that go first cannot be sent, the
stream is let go of. -/
def run (r : Relaying) (now : Nat) (m : Mux) : Relaying × Mux :=
  if r.splice.result.isSome then (r, m)
  else
    match m.writeAll r.splice.handle r.replay with
    | (.waiting replay, m) => ({ r with replay }, m)
    | (.done (.error e), m) =>
      ({ r with splice := r.splice.finish (.error e) }, m.dropHandle r.splice.handle)
    | (.done (.ok ()), m) =>
      let (splice, m) := r.splice.run now m
      ({ r with replay := [], splice }, m)

/-- The bytes that count as relayed so far. -/
def traffic (r : Relaying) : Traffic where
  upload := (if r.replay = [] then r.replaySize else 0) + r.splice.up.moved
  download := r.splice.down.moved

end Relaying

end SealedRelay.Proxy
