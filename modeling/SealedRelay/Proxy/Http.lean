import SealedRelay.Proxy.Authority
import SealedRelay.Proxy.Socks5
import SealedRelay.Text.Blank
/-!
# HTTP proxy requests

A request head ends at its first blank line, which must come within 8192 bytes. Only the request
line is looked at: `CONNECT` asks for a tunnel, an absolute `http` target is forwarded as it is,
and a path is addressed to the proxy itself.
-/
namespace SealedRelay.Proxy.Http

open Exchange

/-- The largest request head. -/
def maxHead : Nat := 8 * 1024

/-- The port of an `http` target that names none. -/
def defaultPort : UInt16 := 80

/-- What the client asks for. -/
inductive Target where
  /-- A connection to a destination, without looking inside. -/
  | tunnel (destination : Destination)
  /-- The request itself, sent on to a destination. -/
  | forward (destination : Destination)
  /-- Something of the proxy's own. -/
  | own (path : String)
  deriving DecidableEq

structure Line where
  method : String
  version : String
  target : Target
  deriving DecidableEq

/-- A request and everything read along with it. -/
structure Request where
  line : Line
  /-- All bytes read so far. -/
  buffered : Bytes
  /-- How many of them are the head. -/
  headLength : Nat
  deriving DecidableEq

namespace Request

def head (r : Request) : Bytes := r.buffered.take r.headLength

/-- The bytes read beyond the head. -/
def leftover (r : Request) : Bytes := r.buffered.drop r.headLength

end Request

/-- The offset just past the first blank line, lines ending in LF or CR LF, counted from `n`. -/
def headEnd? (n : Nat) : Bytes → Option Nat
  | [] => none
  | b :: rest =>
    if b = 10 ∧ rest.head? = some 10 then some (n + 2)
    else if b = 10 ∧ rest.take 2 = [13, 10] then some (n + 3)
    else headEnd? (n + 1) rest

/-- Room for a head that is `n` bytes long so far: 1024 bytes, doubled when full. -/
def capacity (n : Nat) : Nat := if n < 1024 then 1024 else 1 <<< (n.log2 + 1)

/-- Reads until the head is complete; gives all bytes read and the length of the head. -/
def receiveHead (buffer : Bytes) : Talk (Except Error (Bytes × Nat)) :=
  match headEnd? 0 buffer with
  | some n => .done (.ok (buffer, n))
  | none =>
    if _hm : buffer.length ≥ maxHead then
      .done (.error (.protocol s!"request head exceeds {maxHead} bytes"))
    else
      .recv (capacity buffer.length - buffer.length) false fun r =>
        match r with
        | .error f => .done (.error (.io f))
        | .ok b =>
          if _hb : b = [] then
            .done (.error (.protocol "connection closed before end of request head"))
          else receiveHead (buffer ++ b)
termination_by maxHead - buffer.length
decreasing_by
  have := List.length_pos_iff.2 _hb
  simp only [List.length_append]
  omega

/-- A letter in lower case, ASCII only. -/
def lower (s : List Char) : List Char := s.map Char.toLower

/-- What a method and a request target ask for. -/
def target (method uri : List Char) : Except Error Target :=
  if lower method = "connect".toList then (Authority.parse uri none).map .tunnel
  else if lower (uri.take 7) = "http://".toList then
    let authority := (uri.drop 7).takeWhile fun c => c ≠ '/' ∧ c ≠ '?' ∧ c ≠ '#'
    (Authority.parse authority (some defaultPort)).map .forward
  else if uri.head? = some '/' then .ok (.own (String.ofList uri))
  else .error (.protocol s!"unsupported request target {Text.quoted (String.ofList uri)}")

def firstLine (s : List Char) : List Char :=
  let line := s.takeWhile (· ≠ '\n')
  if line.length < s.length ∧ line.getLast? = some '\r' then line.dropLast else line

/-- Reads a request line: a method, a target and a version, between blanks. -/
def parseLine (line : List Char) : Except Error Line :=
  match Text.words line with
  | [method, uri, version] =>
    if "HTTP/".toList.isPrefixOf version then
      (target method uri).map fun t => ⟨String.ofList method, String.ofList version, t⟩
    else .error (.protocol s!"bad http version {Text.quoted (String.ofList version)}")
  | _ => .error (.protocol s!"bad request line {Text.quoted (String.ofList line)}")

def parseHead (head : Bytes) : Except Error Line :=
  match Bytes.toText? head with
  | none => .error (.protocol "request head is not utf-8")
  | some text => parseLine (firstLine text.toList)

def receiveRequest : Exchange Request := do
  let (buffered, headLength) ← receiveHead []
  match parseHead (buffered.take headLength) with
  | .ok line => pure ⟨line, buffered, headLength⟩
  | .error e => throw e

/-- The answer to an opened tunnel. -/
def establishedText (version : String) : String :=
  s!"{version} 200 Connection Established\r\n\r\n"

/-- An answer without a body, after which the connection is closed. -/
def statusText (version : String) (code : Nat) (reason : String) : String :=
  s!"{version} {code} {reason}\r\nContent-Length: 0\r\nConnection: close\r\n\r\n"

/-- An answer in plain text, after which the connection is closed. -/
def plainText (version body : String) : String :=
  s!"{version} 200 OK\r\nContent-Type: text/plain; charset=utf-8\r\nContent-Length: " ++
    s!"{body.utf8ByteSize}\r\nConnection: close\r\n\r\n{body}"

def sendEstablished (version : String) : Exchange Unit :=
  transmit (Bytes.ofText (establishedText version))

def sendStatus (version : String) (code : Nat) (reason : String) : Exchange Unit :=
  transmit (Bytes.ofText (statusText version code reason))

def sendText (version body : String) : Exchange Unit :=
  transmit (Bytes.ofText (plainText version body))

end SealedRelay.Proxy.Http
