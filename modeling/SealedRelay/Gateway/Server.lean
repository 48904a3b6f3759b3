import SealedRelay.Gateway.Config
import SealedRelay.Gateway.Stats
import SealedRelay.Log
import SealedRelay.Mux.Local
import SealedRelay.Network
/-!
# The remote relay as a whole

The relay listens for local relays and connects their streams to the destinations. Its log tells
the steps of its life.
-/
namespace SealedRelay.Gateway.Server

/-- A relay that has started. -/
structure Running where
  address : Endpoint
  network : Network
  stats : Stats := {}

def start (n : Network) (c : Config) : Log × Except Error Running :=
  match do c.validate; (MasterKey.derive c.secret).mapError .keys with
  | .error e => ([], .error e)
  | .ok _ =>
    match n.bind c.listen with
    | .error e => ([], .error (.socket e))
    | .ok (address, network) =>
      (Log.infos ["listening on tcp socket", "remote relay listening"], .ok { address, network })

/-- Stops a relay that has nothing left to do and gives its last report. -/
def stop (r : Running) : Log × Stats :=
  (Log.infos ["shutting down remote relay", "relay listener closed", "remote relay stopped"],
    r.stats)

/-- What the other side is told about a destination that could not be reached. -/
def refusal : SocketError → CloseReason
  | .connectTimeout _ _ => .timeout
  | _ => .refused

/-- A stream whose destination was dialed is confirmed or refused. A stream that is gone by then is
neither. -/
def answer (m : Mux) (h : Mux.Handle) (s : Stats) (dialed : Except SocketError Unit) :
    Mux × Stats :=
  match dialed with
  | .error e => (m.abort h (refusal e), { s with refused := s.refused + 1 })
  | .ok () =>
    match m.accept h with
    | (.error _, m) => (m, s)
    | (.ok (), m) => (m, { s with opened := s.opened + 1 })

end SealedRelay.Gateway.Server
