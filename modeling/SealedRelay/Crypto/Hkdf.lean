import SealedRelay.Crypto.Sha256
/-!
# Keyed hashing and key expansion over SHA-256

`mac` is the keyed hash of a message; `extract` turns input keying material into a
pseudorandom key and `expand` gives as many bytes of output keying material as asked for.
-/
namespace SealedRelay.Crypto

/-- The keyed hash of `message` under `key`: a long key is hashed first, a short one is filled
with zeros to a whole block. -/
def mac (key message : Bytes) : Bytes :=
  let short := if key.length > Sha256.blockSize then Sha256.digest key else key
  let block := short ++ List.replicate (Sha256.blockSize - short.length) 0
  let inner := Sha256.digest (block.map (· ^^^ 0x36) ++ message)
  Sha256.digest (block.map (· ^^^ 0x5c) ++ inner)

@[simp] theorem length_mac (key message : Bytes) :
    (mac key message).length = Sha256.digestSize := by
  simp [mac]

namespace Hkdf

/-- The pseudorandom key behind a salt and input keying material. -/
def extract (salt material : Bytes) : Bytes := mac salt material

/-- The output blocks from block number `i` on, `n` of them, each keyed on the one before. -/
def blocks (key info : Bytes) : Nat → Nat → Bytes → Bytes
  | 0, _, _ => []
  | n + 1, i, previous =>
    let block := mac key (previous ++ info ++ [UInt8.ofNat i])
    block ++ blocks key info n (i + 1) block

/-- `length` bytes of output keying material bound to `info`. -/
def expand (key info : Bytes) (length : Nat) : Bytes :=
  (blocks key info ((length + Sha256.digestSize - 1) / Sha256.digestSize) 1 []).take length

theorem length_blocks (key info : Bytes) (n i : Nat) (previous : Bytes) :
    (blocks key info n i previous).length = n * Sha256.digestSize := by
  induction n generalizing i previous with
  | zero => simp [blocks]
  | succ n ih => simp [blocks, ih, Nat.succ_mul, Nat.add_comm]

@[simp] theorem length_expand (key info : Bytes) (length : Nat) :
    (expand key info length).length = length := by
  simp only [expand, List.length_take, length_blocks, Sha256.digestSize]
  omega

end Hkdf

end SealedRelay.Crypto
