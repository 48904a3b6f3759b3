import SealedRelay.Crypto.ChaCha20
/-!
# Authenticated encryption with ChaCha20 and Poly1305

A message is encrypted with the keystream from block 1 on; block 0 keys a one-time polynomial
authenticator over the associated data and the ciphertext, whose 16 byte tag follows the
ciphertext.

Results:
* `decrypt_encrypt`: what was encrypted opens again under the same key, nonce and associated data.
* `decrypt_eq_some_iff`: nothing else opens.
* `length_encrypt`: encryption adds exactly the tag.
-/
namespace SealedRelay.Crypto

namespace Poly1305

/-- The number written by `b`, least significant byte first. -/
def leToNat (b : Bytes) : Nat := b.foldr (fun x n => x.toNat + 256 * n) 0

/-- The low `k` bytes of `n`, least significant first. -/
def leOfNat : Nat → Nat → Bytes
  | 0, _ => []
  | k + 1, n => UInt8.ofNat n :: leOfNat k (n / 256)

@[simp] theorem length_leOfNat (k n : Nat) : (leOfNat k n).length = k := by
  induction k generalizing n with
  | zero => rfl
  | succ k ih => simp [leOfNat, ih]

def prime : Nat := (1 <<< 130) - 5

/-- The polynomial in `r` whose coefficients are the 16 byte blocks of `message`, each with a one
above its last byte. -/
def evaluate (r : Nat) (acc : Nat) (message : Bytes) : Nat :=
  if _h : message = [] then acc
  else
    let block := message.take 16
    evaluate r ((acc + leToNat block + Bytes.limit block.length) * r % prime) (message.drop 16)
termination_by message.length
decreasing_by
  have := List.length_pos_iff.2 _h
  simp only [List.length_drop]
  omega

/-- The 16 byte tag of `message` under a 32 byte one-time key. -/
def tag (key message : Bytes) : Bytes :=
  let r := leToNat (key.take 16) &&& 0x0ffffffc0ffffffc0ffffffc0fffffff
  let s := leToNat ((key.drop 16).take 16)
  leOfNat 16 (evaluate r 0 message + s)

@[simp] theorem length_tag (key message : Bytes) : (tag key message).length = 16 := by
  simp [tag]

end Poly1305

namespace Aead

def keySize : Nat := 32

def nonceSize : Nat := 12

def tagSize : Nat := 16

/-- Zeros up to a whole number of 16 byte blocks. -/
def pad16 (b : Bytes) : Bytes := b ++ List.replicate ((16 - b.length % 16) % 16) 0

/-- The tag over associated data, ciphertext and both their lengths. -/
def tagOf (key nonce aad ciphertext : Bytes) : Bytes :=
  Poly1305.tag ((ChaCha20.block key nonce 0).take 32)
    (pad16 aad ++ pad16 ciphertext ++
      Poly1305.leOfNat 8 aad.length ++ Poly1305.leOfNat 8 ciphertext.length)

@[simp] theorem length_tagOf (key nonce aad ciphertext : Bytes) :
    (tagOf key nonce aad ciphertext).length = tagSize :=
  Poly1305.length_tag ..

def encrypt (key nonce aad message : Bytes) : Bytes :=
  let ciphertext := ChaCha20.apply key nonce 1 message
  ciphertext ++ tagOf key nonce aad ciphertext

/-- Splits off the tag, checks it, and only then decrypts. -/
def decrypt (key nonce aad sealed : Bytes) : Option Bytes :=
  let ciphertext := sealed.take (sealed.length - tagSize)
  if tagSize ≤ sealed.length ∧
      sealed.drop (sealed.length - tagSize) = tagOf key nonce aad ciphertext then
    some (ChaCha20.apply key nonce 1 ciphertext)
  else none

@[simp] theorem length_encrypt (key nonce aad message : Bytes) :
    (encrypt key nonce aad message).length = message.length + tagSize := by
  simp [encrypt]

@[simp] theorem decrypt_encrypt (key nonce aad message : Bytes) :
    decrypt key nonce aad (encrypt key nonce aad message) = some message := by
  have hlen : (encrypt key nonce aad message).length - tagSize
      = (ChaCha20.apply key nonce 1 message).length := by simp
  rw [decrypt, hlen]
  simp [encrypt]

theorem decrypt_eq_some_iff {key nonce aad sealed message : Bytes} :
    decrypt key nonce aad sealed = some message ↔ sealed = encrypt key nonce aad message := by
  constructor
  · intro h
    simp only [decrypt] at h
    split at h
    · rename_i hc
      obtain ⟨_, htag⟩ := hc
      have hm := Option.some.inj h
      rw [encrypt, ← hm, ChaCha20.apply_apply, ← htag, List.take_append_drop]
    · simp at h
  · rintro rfl
    exact decrypt_encrypt ..

end Aead

end SealedRelay.Crypto
