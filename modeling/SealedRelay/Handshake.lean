import SealedRelay.Link.Error
import SealedRelay.Seal.Session
import SealedRelay.Talk
/-!
# The handshake

Both sides prove to each other that they know the secret, and agree on the keys of the
connection:

* the client sends a hello: the magic `CRLY`, the version and 32 random bytes;
* the server answers with a hello of its own and a proof over both randoms;
* the client checks it and answers with its own proof.

Neither side believes the other before its proof has been checked, and no byte beyond the
handshake is read.
-/
namespace SealedRelay.Handshake

/-- The bytes that every hello starts with. -/
def magic : Bytes := Bytes.ofText "CRLY"

def version : UInt8 := 1

def helloSize : Nat := 4 + 1 + randomSize

/-- What the client's proof is bound to besides the randoms. -/
def clientLabel : Bytes := Bytes.ofText "client"

/-- What the server's proof is bound to besides the randoms. -/
def serverLabel : Bytes := Bytes.ofText "server"

structure Config where
  /-- How long the whole exchange may take. -/
  timeout : Duration := Duration.ofSecs 5
  deriving DecidableEq

def Config.debug (c : Config) : String :=
  "HandshakeConfig \x7b timeout: " ++ c.timeout.text ++ " \x7d"

def hello (random : Bytes) : Bytes := magic ++ version :: random

def parseHello (b : Bytes) : Except LinkError Bytes :=
  if b.take 4 ≠ magic then .error (.handshakeFailed "unknown protocol magic")
  else if b.getD 4 0 ≠ version then
    .error (.handshakeFailed
      s!"unsupported protocol version {(b.getD 4 0).toNat} (local {version.toNat})")
  else .ok (b.drop 5)

/-- Reads a part of the handshake; a peer that leaves in the middle has failed it. -/
def receive (n : Nat) : ExceptT LinkError Talk Bytes :=
  (Talk.recvExactly n).bind fun
    | .ok b => .done (.ok b)
    | .error f =>
      if f.kind = .unexpectedEnd then
        .done (.error (.handshakeFailed "connection closed during handshake"))
      else .done (.error (.io f))

/-- Writes a part of the handshake. -/
def transmit (b : Bytes) : ExceptT LinkError Talk Unit :=
  Talk.send b fun
    | .ok () => .done (.ok ())
    | .error f => .done (.error (.io f))

def check {α : Type} (r : Except LinkError α) : ExceptT LinkError Talk α := .done r

def checkKey {α : Type} (r : Except SealError α) : ExceptT LinkError Talk α :=
  .done (r.mapError .ofSeal)

/-- The client's side, with its random. -/
def client (key : MasterKey) (random : Bytes) : ExceptT LinkError Talk Session := do
  transmit (hello random)
  let reply ← receive (helloSize + proofSize)
  let serverRandom ← check (parseHello (reply.take helloSize))
  checkKey (key.verify serverLabel random serverRandom (reply.drop helloSize))
  transmit (key.proof clientLabel random serverRandom)
  return Session.new (key.sessionKeys random serverRandom) .client

def server (key : MasterKey) (random : Bytes) : ExceptT LinkError Talk Session := do
  let clientRandom ← check (parseHello (← receive helloSize))
  transmit (hello random ++ key.proof serverLabel clientRandom random)
  let proof ← receive proofSize
  checkKey (key.verify clientLabel clientRandom random proof)
  return Session.new (key.sessionKeys clientRandom random) .server

def side (e : End) (key : MasterKey) (random : Bytes) : Talk (Except LinkError Session) :=
  match e with
  | .client => client key random
  | .server => server key random

/-- The failure of a handshake that took too long. -/
def timedOut (c : Config) : LinkError := .handshakeFailed s!"timed out after {c.timeout.text}"

end SealedRelay.Handshake
