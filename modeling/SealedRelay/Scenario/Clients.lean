import SealedRelay.Proxy.Registry
/-!
# Relayed clients by label

A registry whose clients are known by labels. If several are relayed under one label, the oldest
of them is meant.
-/
namespace SealedRelay.Scenario

open Proxy (Protocol Registry)

/-- A registry and the labels of its clients. -/
structure Clients where
  registry : Registry := {}
  /-- The numbers of the clients that are being relayed, the oldest first. -/
  labels : List (String × Nat) := []

namespace Clients

def register (c : Clients) (label : String) (client : ScopedEndpoint) (protocol : Protocol)
    (d : Destination) : Nat × Clients :=
  let (number, registry) := c.registry.register 0 client protocol d
  (number, { registry, labels := c.labels ++ [(label, number)] })

/-- Counts traffic of a client and gives its traffic so far; none if there is no such client. -/
def count (c : Clients) (label : String) (t : Traffic) : Option (Traffic × Clients) := do
  let number ← c.labels.lookup label
  let registry := c.registry.count number t
  let a ← registry.find? number
  return (a.traffic, { c with registry })

def finish (c : Clients) (label : String) : Option Clients := do
  let number ← c.labels.lookup label
  return { registry := c.registry.finish number, labels := c.labels.filter (·.2 ≠ number) }

end Clients

end SealedRelay.Scenario
