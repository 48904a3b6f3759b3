import SealedRelay.Address.Shorthand
import SealedRelay.Socket
import SealedRelay.Text.Number
/-!
# Networks

What binding and connecting to an address leads to. This network consists of one machine whose
interfaces are down: programs can listen on it, but nothing can be reached from it, not even
itself. It knows no host names besides its own.
-/
namespace SealedRelay

/-- The text of a host and a port; an IPv6 address goes into brackets. -/
def hostPort (host : String) (port : UInt16) : String :=
  if host.contains ':' && !(host.startsWith "[") then s!"[{host}]:{port.toNat}"
  else s!"{host}:{port.toNat}"

/-- The parts before and after the last colon. -/
def splitPort? (s : List Char) : Option (List Char × List Char) :=
  match s.reverse.span (· ≠ ':') with
  | (_, []) => none
  | (port, _ :: host) => some (host.reverse, port.reverse)

/-- Whether an address belongs to a group of machines. -/
def Ipv6.isMulticast (a : Ipv6) : Bool := a.octets.head? == some 0xff

/-- Whether an address has a meaning on one interface only: its first ten bits say so. -/
def Ipv6.isLinkLocal (a : Ipv6) : Bool := Bytes.toNat (a.octets.take 2) / 64 == 0xfe80 / 64

namespace Ip

/-- The address that stands for all addresses of a machine. -/
def isUnspecified : Ip → Bool
  | v4 a => a.octets.all (· == 0)
  | v6 a => a.octets.all (· == 0)

/-- An address that maps an IPv4 address is that address. -/
def unmapped : Ip → Ip
  | v6 a => a.mapped?.elim (v6 a) v4
  | a => a

/-- Whether somebody who listens at one address is in the way of one who listens at another. The
unspecified address of IPv6 stands for the IPv4 addresses, too. -/
def overlaps (a b : Ip) : Bool :=
  match a.unmapped, b.unmapped with
  | v4 a, v4 b => a == b || (v4 a).isUnspecified || (v4 b).isUnspecified
  | v6 a, v6 b => a == b || (v6 a).isUnspecified || (v6 b).isUnspecified
  | v4 _, v6 b => (v6 b).isUnspecified
  | v6 a, v4 _ => (v6 a).isUnspecified

end Ip

/-- Somebody who listens at one endpoint is in the way of another. -/
def Endpoint.overlaps (a b : Endpoint) : Bool := a.port == b.port && a.ip.overlaps b.ip

/-- The endpoints of the machine that somebody listens at. -/
structure Network where
  taken : List Endpoint := []
  /-- The port that the next program gets that does not ask for one. -/
  nextPort : Nat := 49152

namespace Network

/-- The number of the machine's only interface. -/
def interface : UInt32 := 1

/-- The name of the machine's only interface. -/
def interfaceName : String := "lo"

/-- The scope that a text stands for after an address: a number, or the interface's name after an
address that is the interface's own. -/
def scope? (a : Ipv6) (s : List Char) : Option UInt32 :=
  if a.isLinkLocal ∧ s = interfaceName.toList then some interface
  else
    (Address.whole (Address.digitsIn 10 s.length s)).bind fun digits =>
      let n := Address.ofDigits 10 digits
      if n < UInt32.size then some (UInt32.ofNat n) else none

/-- Whether others can be asked for a name: labels of letters, digits, dashes and underscores with
dots between them, and no dash in front. -/
def isHostName (s : String) : Bool :=
  let allowed (c : Char) : Bool := c.isAlphanum || c == '-' || c == '_'
  !s.startsWith "-" && s.length ≤ 253 &&
    (s.splitOn ".").all fun label =>
      decide (0 < label.length ∧ label.length ≤ 63) && label.toList.all allowed

/-- A fault of looking up a host, with the reason. -/
def lookUpFault (reason : String) : Fault :=
  ⟨.other, some s!"failed to lookup address information: {reason}"⟩

/-- The address of a host, and its scope. Nobody answers questions for other hosts. -/
def lookUp (host : String) : Except Fault (Ip × UInt32) :=
  match Address.shorthand? host, Address.ipv6 host.toList with
  | some a, _ => .ok (.v4 a, 0)
  | none, some (a, []) => .ok (.v6 a, 0)
  | none, some (a, '%' :: scope) =>
    match scope? a scope with
    | some scope => .ok (.v6 a, scope)
    | none => .error (lookUpFault "Name or service not known")
  | none, _ =>
    if host.toLower = "localhost" then .ok (.v4 .loopback, 0)
    else if isHostName host then .error (lookUpFault "Temporary failure in name resolution")
    else .error (lookUpFault "Name or service not known")

/-- The endpoint that a text stands for. -/
def resolve (s : String) : Except Fault ScopedEndpoint :=
  match ScopedEndpoint.ofText? s.toList with
  | some e => .ok e
  | none =>
    match splitPort? s.toList with
    | none => .error ⟨.invalidInput, some "invalid socket address"⟩
    | some (host, port) =>
      match Text.unsigned? 65535 port with
      | none => .error ⟨.invalidInput, some "invalid port value"⟩
      | some port =>
        if '\x00' ∈ host then .error .nulInside
        else
          (lookUp (String.ofList host)).map fun (ip, scope) =>
            { ip, port := UInt16.ofNat port, scope }

/-- Why nobody can listen at an endpoint; none if programs can. IPv4 addresses need no interface;
other addresses belong to one, and the machine's interface has none. -/
def bindFault? (e : ScopedEndpoint) : Option Fault :=
  match e.ip.unmapped with
  | .v4 _ => none
  | .v6 a =>
    if e.ip.isUnspecified then none
    else if a.isMulticast then some .invalidArgument
    else if a.isLinkLocal then
      some (if e.scope = 0 then .invalidArgument
        else if e.scope = interface then .addressUnknown else .noDevice)
    else some .addressUnknown

/-- Listens at an address; port 0 stands for any free port. -/
def bind (n : Network) (address : String) : Except SocketError (Endpoint × Network) :=
  match resolve address with
  | .error f => .error (.bind address f)
  | .ok e =>
    match bindFault? e with
    | some f => .error (.bind address f)
    | none =>
      let free := e.port = 0
      let e : Endpoint := { e with port := if free then UInt16.ofNat n.nextPort else e.port }
      if n.taken.any e.overlaps then .error (.bind address .addressTaken)
      else .ok (e, { taken := e :: n.taken, nextPort := n.nextPort + if free then 1 else 0 })

def unbind (n : Network) (e : Endpoint) : Network := { n with taken := n.taken.erase e }

/-- Why an endpoint cannot be reached. -/
def connectFault (e : ScopedEndpoint) : Fault :=
  match e.ip.unmapped with
  | .v4 _ => .unreachable
  | .v6 a =>
    if a.isMulticast then .unreachable
    else if a.isLinkLocal ∧ e.scope = 0 then .invalidArgument
    else .addressUnknown

def connect (_ : Network) (address : String) : Except SocketError Endpoint :=
  match resolve address with
  | .error f => .error (.connect address f)
  | .ok e => .error (.connect address (connectFault e))

end Network

end SealedRelay
