import SealedRelay.Address
/-!
# Destinations

Where a relayed stream is to be connected: an address, or a domain name that the remote relay
looks up.
-/
namespace SealedRelay

/-- Where a stream is to be connected. -/
inductive Destination where
  | ip (endpoint : Endpoint)
  | domain (name : String) (port : UInt16)
  deriving DecidableEq

namespace Destination

def host : Destination → String
  | ip e => e.ip.text
  | domain name _ => name

/-- What kind of host it is. -/
def family : Destination → String
  | ip ⟨.v4 _, _⟩ => "ipv4"
  | ip ⟨.v6 _, _⟩ => "ipv6"
  | domain _ _ => "domain"

def port : Destination → UInt16
  | ip e => e.port
  | domain _ port => port

/-- Host and port, as in a URL. -/
def text : Destination → String
  | ip e => e.text
  | domain name port => s!"{name}:{port.toNat}"

/-- A destination by its parts, the domain name quoted. -/
def debug : Destination → String
  | ip e => s!"Ip({e.text})"
  | domain name port => s!"Domain({Text.quoted name}, {port.toNat})"

end Destination

end SealedRelay
