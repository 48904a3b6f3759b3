import SealedRelay.Seal.Key
/-!
# Sealed sessions

Each direction of a connection has its own key and counter. Sealing uses the counter as nonce
and moves it on; opening expects the payloads in the order they were sealed. The direction is
part of the nonce as well, so the two directions never share one.

Results:
* `open_sealed`: an opener in step with a sealer returns what was sealed.
* `nonce_injective`: two nonces are equal only for the same direction and counter.
-/
namespace SealedRelay

/-- Which way a payload travels. -/
inductive Direction where
  | clientToServer
  | serverToClient
  deriving DecidableEq, Repr

namespace Direction

def toByte : Direction → UInt8
  | clientToServer => 0
  | serverToClient => 1

def opposite : Direction → Direction
  | clientToServer => serverToClient
  | serverToClient => clientToServer

def debug : Direction → String
  | clientToServer => "ClientToServer"
  | serverToClient => "ServerToClient"

def key (d : Direction) (keys : SessionKeys) : Bytes :=
  match d with
  | clientToServer => keys.clientToServer
  | serverToClient => keys.serverToClient

end Direction

/-- The nonce of the payload number `counter` in a direction: the direction, three zeros, and the
counter in eight bytes. -/
def nonce (d : Direction) (counter : Nat) : Bytes :=
  d.toByte :: 0 :: 0 :: 0 :: Bytes.ofNat 8 counter

theorem length_nonce (d : Direction) (counter : Nat) :
    (nonce d counter).length = Crypto.Aead.nonceSize := by
  simp [nonce, Crypto.Aead.nonceSize]

theorem nonce_injective {d d' : Direction} {m n : Nat} (hm : m < UInt64.size) (hn : n < UInt64.size)
    (h : nonce d m = nonce d' n) : d = d' ∧ m = n := by
  simp only [nonce, List.cons.injEq, true_and] at h
  constructor
  · cases d <;> cases d' <;> simp_all [Direction.toByte]
  · have := congrArg Bytes.toNat h.2
    rwa [Bytes.toNat_ofNat_of_lt (by simpa using hm),
      Bytes.toNat_ofNat_of_lt (by simpa using hn)] at this

/-- The counter value at which a direction is used up. -/
def lastCounter : Nat := UInt64.size - 1

structure Sealer where
  key : Bytes
  direction : Direction
  counter : Nat := 0
  deriving DecidableEq

structure Opener where
  key : Bytes
  direction : Direction
  counter : Nat := 0
  deriving DecidableEq

namespace Sealer

def next (s : Sealer) (aad plaintext : Bytes) : Except SealError Bytes × Sealer :=
  if s.counter ≥ lastCounter then (.error .nonceExhausted, s)
  else
    (.ok (Crypto.Aead.encrypt s.key (nonce s.direction s.counter) aad plaintext),
      { s with counter := s.counter + 1 })

def debug (s : Sealer) : String :=
  "Sealer \x7b direction: " ++ s.direction.debug ++ ", counter: " ++ toString s.counter ++
    ", .. \x7d"

end Sealer

namespace Opener

/-- Opens the next payload. The counter moves on whether or not the payload is genuine, and no
plaintext is given unless it is. -/
def next (o : Opener) (aad ciphertext : Bytes) : Except SealError Bytes × Opener :=
  if o.counter ≥ lastCounter then (.error .nonceExhausted, o)
  else
    (match Crypto.Aead.decrypt o.key (nonce o.direction o.counter) aad ciphertext with
      | some plaintext => .ok plaintext
      | none => .error .authenticationFailure,
      { o with counter := o.counter + 1 })

def debug (o : Opener) : String :=
  "Opener \x7b direction: " ++ o.direction.debug ++ ", counter: " ++ toString o.counter ++
    ", .. \x7d"

/-- An opener with a sealer's key, direction and counter opens what the sealer seals. -/
theorem open_sealed {o : Opener} {s : Sealer} {aad plaintext : Bytes} (hk : o.key = s.key)
    (hd : o.direction = s.direction) (hc : o.counter = s.counter) (h : s.counter < lastCounter) :
    ∃ c, s.next aad plaintext = (.ok c, { s with counter := s.counter + 1 }) ∧
      o.next aad c = (.ok plaintext, { o with counter := o.counter + 1 }) := by
  have h' : ¬ s.counter ≥ lastCounter := by omega
  refine ⟨Crypto.Aead.encrypt s.key (nonce s.direction s.counter) aad plaintext, ?_, ?_⟩
  · simp [Sealer.next, h']
  · simp [Opener.next, hk, hd, hc, h']

end Opener

/-- Which end of a connection one is: the client dials, the server accepts. -/
inductive End where
  | client
  | server
  deriving DecidableEq, Repr

namespace End

/-- The direction in which an end sends. -/
def sends : End → Direction
  | client => .clientToServer
  | server => .serverToClient

/-- The end that faces this one. -/
def peer : End → End
  | client => server
  | server => client

end End

structure Session where
  sealer : Sealer
  opener : Opener
  deriving DecidableEq

namespace Session

def new (keys : SessionKeys) (e : End) : Session where
  sealer := { key := e.sends.key keys, direction := e.sends }
  opener := { key := e.sends.opposite.key keys, direction := e.sends.opposite }

def debug (s : Session) : String :=
  "CipherSession \x7b sealer: " ++ s.sealer.debug ++ ", opener: " ++ s.opener.debug ++ " \x7d"

end Session

end SealedRelay
