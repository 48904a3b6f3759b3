import SealedRelay.Handshake
import SealedRelay.Mux
import SealedRelay.Proxy.FrontEnd
/-!
# Settings of the local relay
-/
namespace SealedRelay.Proxy

namespace Mode

/-- The mode with exactly a name. -/
def ofName? : String → Option Mode
  | "socks5" => some socks5
  | "http" => some http
  | "mixed" => some mixed
  | _ => none

/-- Reads a mode in any case of letters; `socks` is short for `socks5`. -/
def parse (s : String) : Except Error Mode :=
  let name := s.toLower
  match if name = "socks" then some socks5 else ofName? name with
  | some mode => .ok mode
  | none => .error (.config s!"unknown listener mode {Text.quoted name}")

end Mode

structure Listener where
  address : String := "127.0.0.1:9527"
  mode : Mode := .mixed
  deriving DecidableEq

/-- Reads an address with or without a mode and `@` in front. -/
def Listener.parse (s : String) : Except Error Listener :=
  let (front, back) := s.toList.span (· ≠ '@')
  match back with
  | [] => .ok { address := s }
  | _ :: address => do
    let mode ← Mode.parse (String.ofList front)
    return { address := String.ofList address, mode }

structure Config where
  secret : Secret
  listeners : List Listener := [{}]
  /-- Where the remote relay is. -/
  remote : String := "127.0.0.1:9528"
  /-- What SOCKS5 clients must present, if anything. -/
  auth : Option Credentials := none
  connectTimeout : Duration := Duration.ofSecs 10
  handshake : Handshake.Config := {}
  mux : Mux.Config := {}
  /-- Connections to the remote relay at a time. -/
  maxConnections : Nat := 4
  /-- Clients at a time. -/
  maxStreams : Nat := 1024
  /-- How long a client's handshake may take. -/
  clientHandshakeTimeout : Duration := Duration.ofSecs 10
  /-- How long the second direction of a relayed stream may go on after the first has ended. -/
  halfCloseGrace : Duration := Duration.ofSecs 5
  /-- How long relayed streams may go on after the relay was told to stop. -/
  shutdownGrace : Duration := Duration.ofSecs 5
  deriving DecidableEq

/-- Checks what no relay could work with. -/
def Config.validate (c : Config) : Except Error Unit :=
  if c.listeners = [] then .error (.config "no listeners configured")
  else if c.secret.bytes = [] then .error (.config "shared secret is empty")
  else if c.maxStreams = 0 ∨ c.maxConnections = 0 ∨ c.mux.maxStreams = 0 then
    .error (.config "stream and connection limits must be positive")
  else if c.mux.maxFramePayload = 0 ∨ c.mux.initialWindow = 0 then
    .error (.config "frame payload and window sizes must be positive")
  else .ok ()

end SealedRelay.Proxy
