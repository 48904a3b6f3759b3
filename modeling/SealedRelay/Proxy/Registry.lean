import SealedRelay.Proxy.Snapshot
/-!
# The registry of relayed clients

The registry counts what every relayed client sends and receives. When a client is done its counts
are added to the totals, so that no byte is counted twice and none is lost.
-/
namespace SealedRelay.Proxy

structure Registration where
  number : Nat
  client : ScopedEndpoint
  protocol : Protocol
  destination : String
  /-- When it was registered, in milliseconds. -/
  since : Nat
  traffic : Traffic := {}

/-- What is known about one destination from clients that are done. -/
structure Tally where
  destination : String
  /-- Clients ever relayed to it. -/
  connections : Nat := 0
  traffic : Traffic := {}

/-- All clients that are being relayed, and totals. -/
structure Registry where
  /-- In order of their numbers. -/
  active : List Registration := []
  /-- In order of their destinations. -/
  tallies : List Tally := []
  /-- Clients ever registered; the last one's number. -/
  registered : Nat := 0
  /-- Traffic of the clients that are done. -/
  finished : Traffic := {}

namespace Registry

/-- Changes the tally of a destination, which is made if there is none. -/
def tally (destination : String) (f : Tally → Tally) : List Tally → List Tally
  | [] => [f { destination }]
  | t :: ts =>
    if t.destination = destination then f t :: ts
    else if destination < t.destination then f { destination } :: t :: ts
    else t :: tally destination f ts

def register (r : Registry) (now : Nat) (client : ScopedEndpoint) (protocol : Protocol)
    (d : Destination) : Nat × Registry :=
  let number := r.registered + 1
  let destination := d.text
  (number,
    { r with
      registered := number
      active := r.active ++ [{ number, client, protocol, destination, since := now }]
      tallies := tally destination (fun t => { t with connections := t.connections + 1 })
        r.tallies })

def find? (r : Registry) (number : Nat) : Option Registration :=
  r.active.find? (·.number = number)

def count (r : Registry) (number : Nat) (t : Traffic) : Registry :=
  { r with
    active := r.active.map fun a =>
      if a.number = number then { a with traffic := a.traffic + t } else a }

def finish (r : Registry) (number : Nat) : Registry :=
  match r.find? number with
  | none => r
  | some a =>
    { r with
      active := r.active.filter (·.number ≠ number)
      finished := r.finished + a.traffic
      tallies := tally a.destination (fun t => { t with traffic := t.traffic + a.traffic })
        r.tallies }

/-- Traffic of the clients that are being relayed to a destination. -/
def live (r : Registry) (destination : String) : Traffic :=
  Traffic.total ((r.active.filter (·.destination = destination)).map (·.traffic))

def snapshot (r : Registry) (now : Nat) : Snapshot where
  connections := r.registered
  traffic := r.finished + Traffic.total (r.active.map (·.traffic))
  active := r.active.map fun a =>
    { number := a.number, client := a.client.text, protocol := a.protocol
      destination := a.destination, traffic := a.traffic, ageMillis := now - a.since }
  destinations := r.tallies.map fun t =>
    { destination := t.destination, connections := t.connections
      traffic := t.traffic + r.live t.destination }

end Registry

end SealedRelay.Proxy
