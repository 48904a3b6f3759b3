import SealedRelay.Proxy.Http
/-!
# Front ends

A client speaks one of the proxy protocols. Whichever it is, its handshake leads to a destination
to relay to and a way to answer, or to a request for the proxy itself.
-/
namespace SealedRelay.Proxy

/-- How a client asked for its relay. -/
inductive Protocol where
  | socks5
  | httpConnect
  | httpForward
  deriving DecidableEq

def Protocol.name : Protocol → String
  | socks5 => "socks5"
  | httpConnect => "http-connect"
  | httpForward => "http-forward"

def Protocol.ofName? (s : String) : Option Protocol :=
  [socks5, httpConnect, httpForward].find? fun p => p.name = s

/-- Which protocols a port speaks. -/
inductive Mode where
  | socks5
  | http
  /-- Either one, told apart by the first byte. -/
  | mixed
  deriving DecidableEq

def Mode.name : Mode → String
  | socks5 => "socks5"
  | http => "http"
  | mixed => "mixed"

/-- The protocol that one client speaks. -/
inductive FrontEnd where
  | socks5 (auth : Option Credentials)
  | http
  deriving DecidableEq

/-- How a client is answered. -/
inductive ReplyStyle where
  | socks5
  | tunnel (version : String)
  | forward (version : String)
  deriving DecidableEq

/-- A request that waits for its stream. -/
structure RelayRequest where
  destination : Destination
  reply : ReplyStyle
  /-- Bytes read from the client that go to the destination first. -/
  replay : Bytes
  deriving DecidableEq

inductive ClientRequest where
  | relay (request : RelayRequest)
  /-- Something of the proxy's own. -/
  | own (version path : String)
  deriving DecidableEq

namespace RelayRequest

def protocol (r : RelayRequest) : Protocol :=
  match r.reply with
  | .socks5 => .socks5
  | .tunnel _ => .httpConnect
  | .forward _ => .httpForward

/-- Tells the client that its stream is open. The answer to a forwarded request is the
destination's own. -/
def replySuccess (r : RelayRequest) : Exchange Unit :=
  match r.reply with
  | .socks5 => Socks5.sendReply Socks5.succeeded
  | .tunnel version => Http.sendEstablished version
  | .forward _ => pure ()

/-- Tells the client that its stream could not be opened. -/
def replyFailure (r : RelayRequest) (e : Error) : Exchange Unit :=
  match r.reply with
  | .socks5 => Socks5.sendReply e.socksCode
  | .tunnel version | .forward version =>
    let (code, reason) := e.httpStatus
    Http.sendStatus version code reason

end RelayRequest

namespace FrontEnd

/-- The front end of a port, given the first byte the client sent, if it sent any. -/
def detect (mode : Mode) (auth : Option Credentials) (first : Option UInt8) :
    Except Error FrontEnd :=
  match mode with
  | .socks5 => .ok (socks5 auth)
  | .http => .ok http
  | .mixed =>
    match first with
    | none => .error (.protocol "connection closed before handshake")
    | some b => .ok (if b = Socks5.version then socks5 auth else http)

/-- What an HTTP request asks for. -/
def ofHttp (r : Http.Request) : ClientRequest :=
  match r.line.target with
  | .tunnel d => .relay ⟨d, .tunnel r.line.version, r.leftover⟩
  | .forward d => .relay ⟨d, .forward r.line.version, r.buffered⟩
  | .own path => .own r.line.version path

/-- Reads the client's handshake. What breaks the protocol is answered with its failure reply. -/
def handshake : FrontEnd → Exchange ClientRequest
  | socks5 auth => do
    let d ← Socks5.accept auth
    return .relay ⟨d, .socks5, []⟩
  | http => do
    match ← ExceptT.lift Http.receiveRequest.run with
    | .ok r => return ofHttp r
    | .error (.protocol detail) =>
      discard <| ExceptT.lift (Http.sendStatus "HTTP/1.1" 400 "Bad Request").run
      throw (.protocol detail)
    | .error e => throw e

end FrontEnd

end SealedRelay.Proxy
