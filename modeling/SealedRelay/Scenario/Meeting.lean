import SealedRelay.Handshake
/-!
# Handshakes in virtual time

One side of the handshake faces a script that sends it whatever it likes, in pieces of which the
pipe between them takes what it can hold; or both sides face each other. Nothing gets through a
pipe that holds nothing.
-/
namespace SealedRelay.Scenario

/-- Some bytes for a side's random. Nothing that is observed depends on their values. -/
def sampleRandom : Bytes := (List.range randomSize).map fun i => UInt8.ofNat (7 * i + 3)

/-- Whether what one session seals opens in the other. -/
def crosses (a b : Session) (text : Bytes) : Bool :=
  match (a.sealer.next [] text).1 with
  | .ok sealed => (b.opener.next [] sealed).1.toOption == some text
  | .error _ => false

/-- One side of a handshake and what the script has seen of it. -/
structure Meeting where
  side : End
  key : MasterKey
  config : Handshake.Config
  pipe : Nat
  talk : Talk (Except LinkError Session)
  channel : Channel := { pieces := [], ended := false }
  now : Nat := 0
  result : Option (Except LinkError Session) := none
  /-- The random that the script gave last. -/
  peerRandom : Bytes := []

namespace Meeting

/-- Lets the side go on until it waits, ends, or has run out of time. -/
def settle (m : Meeting) : Meeting :=
  if m.result.isSome then m
  else
    let stuck := m.pipe = 0 ∧ ¬ m.channel.ended
    let (talk, channel) := if stuck then (m.talk, m.channel) else m.talk.run m.channel
    let m := { m with talk, channel }
    match talk.result? with
    | some r => { m with result := some r }
    | none =>
      if (Duration.ofMillis m.now).nanos ≥ m.config.timeout.nanos then
        { m with result := some (.error (Handshake.timedOut m.config)) }
      else m

/-- A handshake that has just begun. -/
def new (side : End) (key : MasterKey) (config : Handshake.Config) (pipe : Nat) : Meeting :=
  settle { side, key, config, pipe, talk := Handshake.side side key sampleRandom }

/-- All bytes that the side has sent. -/
def sent (m : Meeting) : Bytes := m.channel.written

/-- The side's own random, as the script sees it: zeros until it has been sent. -/
def ownRandom (m : Meeting) : Bytes :=
  if m.sent.length < Handshake.helloSize then List.replicate randomSize 0
  else (m.sent.drop 5).take randomSize

def send (m : Meeting) (pieces : List Bytes) : Meeting :=
  pieces.foldl
    (fun m piece => settle { m with channel := m.channel.arrive (piece.take m.pipe) }) m

/-- The script leaves: it sends no more and takes no more. -/
def close (m : Meeting) : Meeting :=
  settle { m with channel := { m.channel with ended := true, room := some 0 } }

def advance (m : Meeting) (ms : Nat) : Meeting := settle { m with now := m.now + ms }

/-- The randoms of both sides, the client's first. -/
def randoms (m : Meeting) : Bytes × Bytes :=
  match m.side with
  | .client => (m.ownRandom, m.peerRandom)
  | .server => (m.peerRandom, m.ownRandom)

/-- A proof by the script, with a secret and a label of its choice and over the randoms in either
order; nothing if the secret is empty. -/
def proof (m : Meeting) (secret label : Bytes) (swapped : Bool) : Bytes :=
  let (cr, sr) := if swapped then m.randoms.swap else m.randoms
  match MasterKey.derive ⟨secret⟩ with
  | .ok key => key.proof label cr sr
  | .error _ => []

/-- Whether the proof that the side sent is right; none if it sent none. -/
def sentProofValid (m : Meeting) : Option Bool :=
  if m.sent.length < Handshake.helloSize + proofSize then none
  else
    let label :=
      match m.side with
      | .client => Handshake.clientLabel
      | .server => Handshake.serverLabel
    let (cr, sr) := m.randoms
    some ((m.sent.drop Handshake.helloSize).take proofSize == m.key.proof label cr sr)

/-- Whether the session fits the one that the other side would have, in both directions; none
unless the handshake succeeded. -/
def sessionFits (m : Meeting) : Option (Bool × Bool) :=
  match m.result with
  | some (.ok s) =>
    let (cr, sr) := m.randoms
    let peer := Session.new (m.key.sessionKeys cr sr) m.side.peer
    let text := Bytes.ofText "check"
    some (crosses s peer text, crosses peer s text)
  | _ => none

end Meeting

/-- Lets two sides talk for at most `n` rounds; the client closes its end once it is done. -/
def converse : Nat → Talk (Except LinkError Session) × Channel →
    Talk (Except LinkError Session) × Channel →
    Talk (Except LinkError Session) × Talk (Except LinkError Session)
  | 0, (client, _), (server, _) => (client, server)
  | n + 1, (client, toClient), (server, toServer) =>
    let (client, toClient) := client.run toClient
    let toServer := toServer.arrive toClient.written
    let toServer := { toServer with ended := client.result?.isSome }
    let (server, toServer) := server.run toServer
    let toClient := { toClient with written := [] }.arrive toServer.written
    converse n (client, toClient) (server, { toServer with written := [] })

/-- Both sides of a handshake against each other. A client that cannot wait for an answer, or whose
hello does not get through, leaves before the server can answer. -/
def meet (clientKey serverKey : MasterKey) (config : Handshake.Config) (pipe : Nat) :
    Except LinkError Session × Except LinkError Session :=
  let empty : Channel := { pieces := [], ended := false }
  let client := Handshake.side .client clientKey sampleRandom
  let server := Handshake.side .server serverKey (sampleRandom.map (· + 1))
  let late : Except LinkError Session := .error (Handshake.timedOut config)
  if config.timeout.nanos = 0 ∨ pipe = 0 then
    let hello := (client.run empty).2.written.take pipe
    let left : Channel := { empty with ended := true, room := some 0 }
    (late, (server.run (left.arrive hello)).1.result?.getD late)
  else
    let (client, server) := converse 4 (client, empty) (server, empty)
    (client.result?.getD late, server.result?.getD late)

end SealedRelay.Scenario
