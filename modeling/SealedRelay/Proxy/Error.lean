import SealedRelay.Link.Error
/-!
# Failures of the local relay

What goes wrong between a proxy client and the local relay, and how the client is told.
-/
namespace SealedRelay.Proxy

inductive Error where
  | socket (error : SocketError)
  | link (error : LinkError)
  | keys (error : SealError)
  /-- The client's socket failed. -/
  | io (fault : Fault)
  /-- The client does not speak the expected protocol. -/
  | protocol (detail : String)
  | unsupportedVersion (version : UInt8)
  /-- The client offered no acceptable way to authenticate. -/
  | unsupportedAuth
  | authFailed
  | unsupportedCommand (command : UInt8)
  | unsupportedAddressType (type : UInt8)
  | handshakeTimeout
  /-- As many streams as allowed are already open. -/
  | admissionRejected (limit : Nat)
  | shuttingDown
  | config (detail : String)
  deriving DecidableEq

namespace Error

def message : Error → String
  | socket error => error.message
  | link error => error.message
  | keys error => s!"key setup failed: {error.message}"
  | io fault => s!"client io error: {fault.message}"
  | protocol detail => s!"malformed proxy handshake: {detail}"
  | unsupportedVersion version => s!"unsupported SOCKS version {version.toNat}"
  | unsupportedAuth => "no acceptable SOCKS5 authentication method"
  | authFailed => "SOCKS5 authentication failed"
  | unsupportedCommand command => s!"SOCKS5 command 0x{Text.hexByte command} not supported"
  | unsupportedAddressType type => s!"SOCKS5 address type 0x{Text.hexByte type} not supported"
  | handshakeTimeout => "client handshake timed out"
  | admissionRejected limit => s!"admission rejected: {limit} streams already open"
  | shuttingDown => "proxy is shutting down"
  | config detail => s!"invalid configuration: {detail}"

/-- The SOCKS5 reply code for a stream that could not be opened. -/
def socksCode : Error → UInt8
  | link (.refused _ _) | link (.openTimeout _) => 5
  | link (.connect _) | link (.unreachable _) => 3
  | _ => 1

/-- The HTTP status for a stream that could not be opened. -/
def httpStatus : Error → Nat × String
  | shuttingDown | link (.unavailable _) => (503, "Service Unavailable")
  | link (.openTimeout _) => (504, "Gateway Timeout")
  | _ => (502, "Bad Gateway")

end Error

end SealedRelay.Proxy
