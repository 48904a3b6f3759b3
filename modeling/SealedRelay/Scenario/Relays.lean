import SealedRelay.Gateway.Server
import SealedRelay.Proxy.Server
/-!
# Both relays on one machine

A remote and a local relay start on a machine that nothing can be reached on, so no client ever
gets through to them. What is left is whether they start, what they report, and that they stop.
-/
namespace SealedRelay.Scenario

/-- Why the relays did not start. -/
inductive StartFailure where
  | gateway (e : Gateway.Error)
  | proxy (e : Proxy.Error)
  /-- Settings that were accepted and yet are more than the local relay can count. -/
  | uncountable

/-- The relays that are running. -/
structure Relays where
  gateway : Option Gateway.Server.Running
  proxy : Option Proxy.Server.Running

namespace Relays

def startProxy (n : Network) (gateway : Option Gateway.Server.Running) (c : Proxy.Config) :
    Except StartFailure Relays :=
  match (Proxy.Server.start n c).2 with
  | none => .error .uncountable
  | some (.error e) => .error (.proxy e)
  | some (.ok r) => .ok { gateway, proxy := some r }

/-- Starts the remote relay, if there is to be one, and then the local relay. -/
def start (g : Option Gateway.Config) (c : Proxy.Config) : Except StartFailure Relays :=
  match g.map (Gateway.Server.start {}) with
  | none => startProxy {} none c
  | some (_, .error e) => .error (.gateway e)
  | some (_, .ok r) => startProxy r.network (some r) c

def proxyReport (r : Relays) : Option Proxy.Snapshot :=
  r.proxy.map fun p => p.supervisor.stats Pool.noConnections {} 0

def gatewayReport (r : Relays) : Option Gateway.Stats := r.gateway.map (·.stats)

def stopProxy (r : Relays) : Option Proxy.Snapshot × Relays :=
  (r.proxy.map fun p => (Proxy.Server.stop p Pool.noConnections {} 0).2, { r with proxy := none })

def stopGateway (r : Relays) : Option Gateway.Stats × Relays :=
  (r.gateway.map fun g => (Gateway.Server.stop g).2, { r with gateway := none })

end Relays

end SealedRelay.Scenario
