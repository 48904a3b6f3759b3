import SealedRelay.Address.Parser
import SealedRelay.Destination
import SealedRelay.Proxy.Error
/-!
# The authority of a URL

`host:port`, `[host]:port`, or a host alone where a default port is known. What stands before the
last `@` is user information and is left out. A host that writes an address is one.
-/
namespace SealedRelay.Proxy.Authority

/-- The text after the last `c`, or all of it. -/
def afterLast (c : Char) (s : List Char) : List Char :=
  (s.reverse.takeWhile (· ≠ c)).reverse

def splitLast (c : Char) (s : List Char) : Option (List Char × List Char) :=
  if c ∈ s then some (((s.reverse.dropWhile (· ≠ c)).drop 1).reverse, afterLast c s) else none

def splitFirst (c : Char) (s : List Char) : Option (List Char × List Char) :=
  if c ∈ s then some (s.takeWhile (· ≠ c), (s.dropWhile (· ≠ c)).drop 1) else none

def split (s : List Char) : Option (List Char × Option (List Char)) :=
  match s with
  | '[' :: rest => do
    let (host, after) ← splitFirst ']' rest
    match after with
    | [] => some (host, none)
    | ':' :: port => some (host, some port)
    | _ => none
  | _ =>
    match splitLast ':' s with
    | some (host, port) => some (host, some port)
    | none => some (s, none)

def destination? (s : List Char) (defaultPort : Option UInt16) : Option Destination := do
  let (host, portText) ← split s
  let port ←
    match portText with
    | some t => (Text.unsigned? 65535 t).map UInt16.ofNat
    | none => defaultPort
  if host.isEmpty then none
  else
    match Ip.ofText? host with
    | some ip => some (.ip ⟨ip, port⟩)
    | none => some (.domain (String.ofList host) port)

def parse (s : List Char) (defaultPort : Option UInt16) : Except Error Destination :=
  let s := afterLast '@' s
  match destination? s defaultPort with
  | some d => .ok d
  | none => .error (.protocol s!"bad authority {Text.quoted (String.ofList s)}")

end SealedRelay.Proxy.Authority
