import SealedRelay.Destination
import SealedRelay.Proxy.Error
import SealedRelay.Talk
/-!
# SOCKS5 on the server's side

The client offers methods, authenticates if credentials are configured, and names a destination
to connect to. What the protocol can refuse is refused here; whether the destination could be
reached is told later.
-/
namespace SealedRelay.Proxy

structure Credentials where
  username : String
  password : String
  deriving DecidableEq

/-- The password shows as its length alone. -/
def Credentials.debug (c : Credentials) : String :=
  "Socks5Auth \x7b username: " ++ Text.quoted c.username ++
    s!", password: <redacted:{c.password.utf8ByteSize} bytes>" ++ " \x7d"

/-- A conversation with a client, which may fail. -/
abbrev Exchange (α : Type) := ExceptT Error Talk α

namespace Exchange

/-- Reads exactly `n` bytes. -/
def receive (n : Nat) : Exchange Bytes :=
  (Talk.recvExactly n).bind fun r => .done (r.mapError .io)

def transmit (b : Bytes) : Exchange Unit :=
  Talk.send b fun r => .done (r.mapError .io)

end Exchange

end SealedRelay.Proxy

namespace SealedRelay.Proxy.Socks5

open Exchange

def version : UInt8 := 5

/-- The version byte of the username and password exchange. -/
def authVersion : UInt8 := 1

/-- The method without authentication. -/
def noAuth : UInt8 := 0

/-- The method with username and password. -/
def userPass : UInt8 := 2

/-- The answer when no offered method will do. -/
def noneAcceptable : UInt8 := 0xff

def connectCommand : UInt8 := 1

def ipv4Type : UInt8 := 1

def domainType : UInt8 := 3

def ipv6Type : UInt8 := 4

/-- Reply codes. -/
def succeeded : UInt8 := 0

def generalFailure : UInt8 := 1

def commandNotSupported : UInt8 := 7

def addressTypeNotSupported : UInt8 := 8

/-- A reply with a code and the unspecified IPv4 address. -/
def replyBytes (code : UInt8) : Bytes := [version, code, 0, ipv4Type, 0, 0, 0, 0, 0, 0]

def sendReply (code : UInt8) : Exchange Unit := transmit (replyBytes code)

/-- Writes a reply and fails. -/
def refuse {α : Type} (code : UInt8) (e : Error) : Exchange α := do
  sendReply code
  throw e

/-- A string after one byte for its length. -/
def receiveShort : Exchange Bytes := do
  let length ← receive 1
  receive (length.getD 0 0).toNat

def authenticate (c : Credentials) : Exchange Unit := do
  let header ← receive 1
  if header ≠ [authVersion] then
    throw (.protocol s!"bad auth subnegotiation version {(header.getD 0 0).toNat}")
  let username ← receiveShort
  let password ← receiveShort
  let genuine := username = Bytes.ofText c.username ∧ password = Bytes.ofText c.password
  transmit [authVersion, if genuine then 0 else 1]
  if ¬ genuine then throw .authFailed

/-- The choice of a method, and authentication if credentials are configured. -/
def negotiate (auth : Option Credentials) : Exchange Unit := do
  let header ← receive 2
  if header.getD 0 0 ≠ version then throw (.unsupportedVersion (header.getD 0 0))
  let methods ← receive (header.getD 1 0).toNat
  let wanted := if auth.isSome then userPass else noAuth
  if ¬ methods.contains wanted then
    transmit [version, noneAcceptable]
    throw .unsupportedAuth
  transmit [version, wanted]
  match auth with
  | none => pure ()
  | some c => authenticate c

/-- The first `n` bytes of a buffer. -/
def octets (n : Nat) (buffer : Bytes) : Bytes := List.ofFn fun i : Fin n => buffer.getD i 0

theorem length_octets (n : Nat) (buffer : Bytes) : (octets n buffer).length = n := List.length_ofFn

/-- A destination of the given address type. -/
def receiveDestination (type : UInt8) : Exchange Destination := do
  if type = ipv4Type then
    let buffer ← receive 6
    pure (.ip ⟨.v4 ⟨octets 4 buffer, length_octets ..⟩, Bytes.toUInt16 (buffer.drop 4)⟩)
  else if type = ipv6Type then
    let buffer ← receive 18
    pure (.ip ⟨.v6 ⟨octets 16 buffer, length_octets ..⟩, Bytes.toUInt16 (buffer.drop 16)⟩)
  else if type = domainType then
    let name ← receiveShort
    let port ← receive 2
    match Bytes.toText? name with
    | none => refuse generalFailure (.protocol "domain is not utf-8")
    | some text =>
      if text.isEmpty then refuse generalFailure (.protocol "empty domain")
      else pure (.domain text (Bytes.toUInt16 port))
  else refuse addressTypeNotSupported (.unsupportedAddressType type)

def receiveRequest : Exchange Destination := do
  let header ← receive 4
  let at_ (i : Nat) : UInt8 := header.getD i 0
  if at_ 0 ≠ version then refuse generalFailure (.unsupportedVersion (at_ 0))
  else if at_ 1 ≠ connectCommand then
    refuse commandNotSupported (.unsupportedCommand (at_ 1))
  else receiveDestination (at_ 3)

/-- The whole exchange up to the request. -/
def accept (auth : Option Credentials) : Exchange Destination := do
  negotiate auth
  receiveRequest

end SealedRelay.Proxy.Socks5
