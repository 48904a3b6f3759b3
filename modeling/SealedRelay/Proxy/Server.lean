import SealedRelay.Log
import SealedRelay.Network
import SealedRelay.Supervisor
/-!
# The local relay as a whole

The relay listens on its ports, serves the clients that come, and tells about itself over HTTP.
Its log tells the steps of its life.
-/
namespace SealedRelay.Proxy.Server

structure Running where
  supervisor : Supervisor
  /-- Where it listens, in the order of its listeners. -/
  addresses : List Endpoint
  network : Network

/-- Listens on all ports, up to the first that cannot be listened on. -/
def listen (n : Network) : List Listener → Log × Except Error (List Endpoint × Network)
  | [] => ([], .ok ([], n))
  | l :: ls =>
    match n.bind l.address with
    | .error e => ([], .error (.socket e))
    | .ok (e, n) =>
      let (log, r) := listen n ls
      (Log.infos ["listening on tcp socket", "listening"] ++ log,
        r.map fun (es, n) => (e :: es, n))

/-- Starts the relay. It connects to the remote relay only when a client comes. None if the
settings were accepted and yet are more than the relay can count. -/
def start (n : Network) (c : Config) : Log × Option (Except Error Running) :=
  match do c.validate; (MasterKey.derive c.secret).mapError .keys with
  | .error e => ([], some (.error e))
  | .ok _ =>
    match listen n c.listeners with
    | (log, .error e) => (log, some (.error e))
    | (log, .ok (addresses, network)) =>
      match Supervisor.new? c with
      | none => (log, none)
      | some supervisor =>
        (log ++ Log.infos ["local relay started"], some (.ok { supervisor, addresses, network }))

/-- Stops a relay that has nothing left to do: it closes the pool and gives its last report. -/
def stop (r : Running) (look : Nat → Vitals) (wire : WireTraffic) (now : Nat) : Log × Snapshot :=
  let (_, s) := r.supervisor.stop.closeAll
  (Log.infos (["shutting down local relay"] ++ r.addresses.map (fun _ => "listener closed") ++
    ["local relay stopped"]), s.stats look wire now)

/-- The proxy's own pages: its report, and nothing else. -/
def ownPage (s : Snapshot) (version path : String) : Exchange Unit :=
  if path = "/" ∨ path = "/stats" then Http.sendText version s.text
  else Http.sendStatus version 404 "Not Found"

end SealedRelay.Proxy.Server
