import SealedRelay.Crypto.Aead
import SealedRelay.Crypto.Hkdf
/-!
# Key material

Both relays are configured with the same secret. Once per process it is expanded into a master
key, from which every connection's two directional keys come, and an authentication key, under
which both sides prove in the handshake that they know the secret.

* master and authentication key: salt `cipher-relay/v1`, infos `master` and `auth`;
* directional keys: salt client random then server random, infos `c2s` and `s2c`.
-/
namespace SealedRelay

/-- Why key material or a sealed payload was not accepted. -/
inductive SealError where
  /-- Wrong key, altered bytes, or a payload out of order. -/
  | authenticationFailure
  /-- The direction has used up its nonces. -/
  | nonceExhausted
  | derivation (what : String)
  | emptySecret
  deriving DecidableEq

def SealError.message : SealError → String
  | authenticationFailure => "authentication failure"
  | nonceExhausted => "nonce counter exhausted"
  | derivation what => s!"key derivation failed: {what}"
  | emptySecret => "shared secret must not be empty"

structure Secret where
  bytes : Bytes
  deriving DecidableEq

/-- A secret shows as its length alone. -/
def Secret.debug (s : Secret) : String := s!"<redacted:{s.bytes.length} bytes>"

def randomSize : Nat := 32

def proofSize : Nat := 32

/-- The keys of one connection, one for each direction. -/
structure SessionKeys where
  clientToServer : Bytes
  serverToClient : Bytes
  deriving DecidableEq

def SessionKeys.debug (_ : SessionKeys) : String :=
  s!"SessionKeys(<redacted:{2 * Crypto.Aead.keySize} bytes>)"

/-- The keys that a process derives once from the secret. -/
structure MasterKey where
  master : Bytes
  auth : Bytes
  deriving DecidableEq

namespace MasterKey

/-- The keys behind a secret, which must not be empty. -/
def derive (secret : Secret) : Except SealError MasterKey :=
  if secret.bytes = [] then .error .emptySecret
  else
    let root := Crypto.Hkdf.extract (Bytes.ofText "cipher-relay/v1") secret.bytes
    .ok {
      master := Crypto.Hkdf.expand root (Bytes.ofText "master") Crypto.Aead.keySize
      auth := Crypto.Hkdf.expand root (Bytes.ofText "auth") Crypto.Aead.keySize }

def debug (_ : MasterKey) : String :=
  s!"MasterKey(<redacted:{2 * Crypto.Aead.keySize} bytes>)"

/-- The proof that one side knows the secret, for its label and both randoms. -/
def proof (k : MasterKey) (label clientRandom serverRandom : Bytes) : Bytes :=
  Crypto.mac k.auth (label ++ clientRandom ++ serverRandom)

@[simp] theorem length_proof (k : MasterKey) (label clientRandom serverRandom : Bytes) :
    (k.proof label clientRandom serverRandom).length = proofSize :=
  Crypto.length_mac ..

/-- Checks a peer's proof. -/
def verify (k : MasterKey) (label clientRandom serverRandom proof : Bytes) :
    Except SealError Unit :=
  if proof = k.proof label clientRandom serverRandom then .ok ()
  else .error .authenticationFailure

/-- The directional keys of the connection with the given randoms. -/
def sessionKeys (k : MasterKey) (clientRandom serverRandom : Bytes) : SessionKeys :=
  let root := Crypto.Hkdf.extract (clientRandom ++ serverRandom) k.master
  { clientToServer := Crypto.Hkdf.expand root (Bytes.ofText "c2s") Crypto.Aead.keySize
    serverToClient := Crypto.Hkdf.expand root (Bytes.ofText "s2c") Crypto.Aead.keySize }

end MasterKey

end SealedRelay
