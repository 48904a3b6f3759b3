import SealedRelay.Bytes
/-!
# The ChaCha20 keystream

A block is twenty rounds over a 4 by 4 square of words made of constants, key, block counter
and nonce, added to the square it started from. The square is kept as four rows, so that one
step mixes all four columns at once.
-/
namespace SealedRelay.Crypto.ChaCha20

/-- Four words side by side. -/
structure Row where
  x0 : UInt32
  x1 : UInt32
  x2 : UInt32
  x3 : UInt32

namespace Row

def add (r s : Row) : Row := ⟨r.x0 + s.x0, r.x1 + s.x1, r.x2 + s.x2, r.x3 + s.x3⟩

/-- Exclusive or of two rows, each word then rotated left by `n` bits. -/
def xorRotl (r s : Row) (n : UInt32) : Row :=
  let rot (x : UInt32) : UInt32 := (x <<< n) ||| (x >>> (32 - n))
  ⟨rot (r.x0 ^^^ s.x0), rot (r.x1 ^^^ s.x1), rot (r.x2 ^^^ s.x2), rot (r.x3 ^^^ s.x3)⟩

/-- The row moved one place to the left, around the end. -/
def shift (r : Row) : Row := ⟨r.x1, r.x2, r.x3, r.x0⟩

def toBytes (r : Row) : Bytes :=
  [r.x0, r.x1, r.x2, r.x3].flatMap fun (x : UInt32) =>
    [x.toUInt8, (x >>> 8).toUInt8, (x >>> 16).toUInt8, (x >>> 24).toUInt8]

@[simp] theorem length_toBytes (r : Row) : r.toBytes.length = 16 := by
  simp [toBytes]

end Row

/-- The square of sixteen words, row by row. -/
structure Square where
  a : Row
  b : Row
  c : Row
  d : Row

namespace Square

/-- The quarter round, on all four columns. -/
def columns (s : Square) : Square :=
  let a := s.a.add s.b
  let d := s.d.xorRotl a 16
  let c := s.c.add d
  let b := s.b.xorRotl c 12
  let a := a.add b
  let d := d.xorRotl a 8
  let c := c.add d
  let b := b.xorRotl c 7
  ⟨a, b, c, d⟩

/-- Columns, then diagonals: row `i` is turned by `i` places, mixed, and turned back. -/
def doubleRound (s : Square) : Square :=
  let s := s.columns
  let s := Square.columns ⟨s.a, s.b.shift, s.c.shift.shift, s.d.shift.shift.shift⟩
  ⟨s.a, s.b.shift.shift.shift, s.c.shift.shift, s.d.shift⟩

def rounds : Nat → Square → Square
  | 0, s => s
  | n + 1, s => rounds n s.doubleRound

def toBytes (s : Square) : Bytes :=
  s.a.toBytes ++ s.b.toBytes ++ s.c.toBytes ++ s.d.toBytes

end Square

/-- The word at byte `4 * i` of `b`, least significant byte first. -/
def wordAt (b : Bytes) (i : Nat) : UInt32 :=
  let x (k : Nat) : UInt32 := (b.getD (4 * i + k) 0).toUInt32
  x 0 ||| (x 1 <<< 8) ||| (x 2 <<< 16) ||| (x 3 <<< 24)

/-- The square that block `counter` starts from. -/
def initial (key nonce : Bytes) (counter : UInt32) : Square where
  a := ⟨0x61707865, 0x3320646e, 0x79622d32, 0x6b206574⟩
  b := ⟨wordAt key 0, wordAt key 1, wordAt key 2, wordAt key 3⟩
  c := ⟨wordAt key 4, wordAt key 5, wordAt key 6, wordAt key 7⟩
  d := ⟨counter, wordAt nonce 0, wordAt nonce 1, wordAt nonce 2⟩

def block (key nonce : Bytes) (counter : UInt32) : Bytes :=
  let s := initial key nonce counter
  let t := s.rounds 10
  Square.toBytes ⟨t.a.add s.a, t.b.add s.b, t.c.add s.c, t.d.add s.d⟩

@[simp] theorem length_block (key nonce : Bytes) (counter : UInt32) :
    (block key nonce counter).length = 64 := by
  simp [block, Square.toBytes]

/-- `length` keystream bytes, from block `counter` on. -/
def keystream (key nonce : Bytes) (counter : UInt32) (length : Nat) : Bytes :=
  ((List.range ((length + 63) / 64)).flatMap fun i =>
    block key nonce (counter + UInt32.ofNat i)).take length

@[simp] theorem length_keystream (key nonce : Bytes) (counter : UInt32) (length : Nat) :
    (keystream key nonce counter length).length = length := by
  have h (l : List Nat) :
      (l.flatMap fun i => block key nonce (counter + UInt32.ofNat i)).length = l.length * 64 := by
    induction l with
    | nil => rfl
    | cons i l ih => simp only [List.flatMap_cons, List.length_append, length_block, ih,
        List.length_cons, Nat.succ_mul, Nat.add_comm]
  rw [keystream, List.length_take, h, List.length_range]
  omega

/-- Message and keystream, byte by byte; the same call encrypts and decrypts. -/
def apply (key nonce : Bytes) (counter : UInt32) (message : Bytes) : Bytes :=
  Bytes.xor message (keystream key nonce counter message.length)

@[simp] theorem length_apply (key nonce : Bytes) (counter : UInt32) (message : Bytes) :
    (apply key nonce counter message).length = message.length := by
  simp [apply]

@[simp] theorem apply_apply (key nonce : Bytes) (counter : UInt32) (message : Bytes) :
    apply key nonce counter (apply key nonce counter message) = message := by
  rw [apply, length_apply, apply]
  exact Bytes.xor_xor_cancel (by simp)

end SealedRelay.Crypto.ChaCha20
