import SealedRelay.Network
/-!
# Listeners by name

Ports that the machine chooses are not known beforehand, so listeners have names: in an address
`@name` stands for the port of that listener, and errors are told in the same way.
-/
namespace SealedRelay.Scenario

/-- A machine and the listeners on it. -/
structure Listeners where
  network : Network := {}
  /-- The newest first. -/
  named : List (String × Endpoint) := []

namespace Listeners

/-- Puts ports in the place of names. -/
def fill (l : Listeners) (s : String) : String :=
  l.named.foldl (fun s (name, e) => s.replace s!"@{name}" (toString e.port.toNat)) s

/-- Puts names in the place of ports. -/
def conceal (l : Listeners) (s : String) : String :=
  l.named.foldl (fun s (name, e) => s.replace s!":{e.port.toNat}" s!":@{name}") s

def bind (l : Listeners) (name address : String) : Except SocketError Endpoint × Listeners :=
  match l.network.bind (l.fill address) with
  | .error e => (.error (e.mapAddress l.conceal), l)
  | .ok (e, network) => (.ok e, { network, named := (name, e) :: l.named })

def unbind (l : Listeners) (name : String) : Listeners :=
  match l.named.lookup name with
  | none => l
  | some e => { l with network := l.network.unbind e }

def connect (l : Listeners) (address : String) : Except SocketError Endpoint :=
  (l.network.connect (l.fill address)).mapError (·.mapAddress l.conceal)

end Listeners

end SealedRelay.Scenario
