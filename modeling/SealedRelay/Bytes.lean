/-!
# Byte strings and fixed-width numbers in them

A byte string is a list of bytes. Numbers travel big-endian, most significant byte first.

Results:
* `toNat_ofNat`: reading `k` written bytes gives the number back modulo `limit k`.
* `ofNat_toNat`: writing what was read gives the same bytes back, so a fixed-width number has
  exactly one written form.
* `flatten_chunks`: cutting into pieces loses nothing and keeps the order.
* `toText?_ofText`: a text is read as it was written.
-/
namespace SealedRelay

/-- A byte string. -/
abbrev Bytes := List UInt8

namespace Bytes

/-- The low `k` bytes of `n`, most significant first. -/
def ofNat : Nat → Nat → Bytes
  | 0, _ => []
  | k + 1, n => ofNat k (n / 256) ++ [UInt8.ofNat n]

/-- The first number that does not fit into `k` bytes. -/
def limit (k : Nat) : Nat := Nat.pow 256 k

/-- The number written by `b`, most significant byte first. -/
def toNat (b : Bytes) : Nat :=
  b.foldl (fun n x => n * 256 + x.toNat) 0

@[simp] theorem length_ofNat (k n : Nat) : (ofNat k n).length = k := by
  induction k generalizing n with
  | zero => rfl
  | succ k ih => simp [ofNat, ih]

@[simp] theorem limit_zero : limit 0 = 1 := rfl

@[simp] theorem limit_succ (k : Nat) : limit (k + 1) = limit k * 256 := rfl

@[simp] theorem toNat_nil : toNat [] = 0 := rfl

@[simp] theorem toNat_concat (b : Bytes) (x : UInt8) :
    toNat (b ++ [x]) = toNat b * 256 + x.toNat := by
  simp [toNat, List.foldl_append]

theorem toNat_ofNat (k n : Nat) : toNat (ofNat k n) = n % limit k := by
  induction k generalizing n with
  | zero => simp [ofNat, Nat.mod_one]
  | succ k ih =>
    rw [ofNat, toNat_concat, ih, limit_succ, Nat.mul_comm (limit k), Nat.mod_mul,
      UInt8.toNat_ofNat']
    simp only [Nat.reducePow]
    omega

theorem toNat_ofNat_of_lt {k n : Nat} (h : n < limit k) : toNat (ofNat k n) = n := by
  rw [toNat_ofNat, Nat.mod_eq_of_lt h]

theorem toNat_lt (b : Bytes) : toNat b < limit b.length := by
  induction hk : b.length generalizing b with
  | zero => simp [List.length_eq_zero_iff.1 hk]
  | succ k ih =>
    obtain ⟨c, x, rfl⟩ := List.eq_nil_or_concat b |>.resolve_left (by rintro rfl; simp at hk)
    have hc : c.length = k := by simpa using hk
    have := ih c hc
    have := x.toNat_lt
    rw [List.concat_eq_append, toNat_concat, limit_succ]
    omega

theorem ofNat_toNat (b : Bytes) : ofNat b.length (toNat b) = b := by
  induction hk : b.length generalizing b with
  | zero => simp [List.length_eq_zero_iff.1 hk, ofNat]
  | succ k ih =>
    obtain ⟨c, x, rfl⟩ := List.eq_nil_or_concat b |>.resolve_left (by rintro rfl; simp at hk)
    have hc : c.length = k := by simpa using hk
    have hx := x.toNat_lt
    have hdiv : toNat (c ++ [x]) / 256 = toNat c := by rw [toNat_concat]; omega
    have hlow : UInt8.ofNat (toNat (c ++ [x])) = x := by
      apply UInt8.toNat_inj.1
      rw [UInt8.toNat_ofNat', toNat_concat]
      omega
    rw [List.concat_eq_append, ofNat, hdiv, hlow, ih c hc]

/-- A port or other 16-bit number, two bytes. -/
def ofUInt16 (x : UInt16) : Bytes := ofNat 2 x.toNat

/-- A 32-bit number, four bytes. -/
def ofUInt32 (x : UInt32) : Bytes := ofNat 4 x.toNat

/-- A 64-bit number, eight bytes. -/
def ofUInt64 (x : UInt64) : Bytes := ofNat 8 x.toNat

/-- The 16-bit number in `b`; only the last two bytes count. -/
def toUInt16 (b : Bytes) : UInt16 := UInt16.ofNat (toNat b)

/-- The 32-bit number in `b`; only the last four bytes count. -/
def toUInt32 (b : Bytes) : UInt32 := UInt32.ofNat (toNat b)

@[simp] theorem length_ofUInt16 (x : UInt16) : (ofUInt16 x).length = 2 := length_ofNat ..

@[simp] theorem length_ofUInt32 (x : UInt32) : (ofUInt32 x).length = 4 := length_ofNat ..

@[simp] theorem length_ofUInt64 (x : UInt64) : (ofUInt64 x).length = 8 := length_ofNat ..

@[simp] theorem toUInt16_ofUInt16 (x : UInt16) : toUInt16 (ofUInt16 x) = x := by
  have hx : x.toNat < limit 2 := x.toNat_lt
  simp [toUInt16, ofUInt16, toNat_ofNat_of_lt hx]

@[simp] theorem toUInt32_ofUInt32 (x : UInt32) : toUInt32 (ofUInt32 x) = x := by
  have hx : x.toNat < limit 4 := x.toNat_lt
  simp [toUInt32, ofUInt32, toNat_ofNat_of_lt hx]

theorem ofUInt16_toUInt16 {b : Bytes} (h : b.length = 2) : ofUInt16 (toUInt16 b) = b := by
  have hb := toNat_lt b
  rw [h] at hb
  rw [ofUInt16, toUInt16, UInt16.toNat_ofNat', Nat.mod_eq_of_lt (by simpa using hb), ← h]
  exact ofNat_toNat b

theorem ofUInt32_toUInt32 {b : Bytes} (h : b.length = 4) : ofUInt32 (toUInt32 b) = b := by
  have hb := toNat_lt b
  rw [h] at hb
  rw [ofUInt32, toUInt32, UInt32.toNat_ofNat', Nat.mod_eq_of_lt (by simpa using hb), ← h]
  exact ofNat_toNat b

/-- The bytes of a text in UTF-8. -/
def ofText (s : String) : Bytes := s.toByteArray.toList

/-- The text that `b` spells in UTF-8, if it is well-formed. -/
def toText? (b : Bytes) : Option String :=
  String.fromUTF8? (ByteArray.mk b.toArray)

theorem toList_loop (b : ByteArray) (i : Nat) (r : Bytes) :
    ByteArray.toList.loop b i r = r.reverse ++ b.data.toList.drop i := by
  induction hn : b.size - i generalizing i r with
  | zero =>
    have hi : ¬ i < b.size := by omega
    have hlen : b.data.toList.length ≤ i := by simpa using Nat.le_of_not_lt hi
    rw [ByteArray.toList.loop, if_neg hi, List.drop_eq_nil_of_le hlen, List.append_nil]
  | succ n ih =>
    have hi : i < b.size := by omega
    have hlen : i < b.data.toList.length := hi
    have hget : b.get! i = b.data.toList[i] := by
      simp [ByteArray.get!, getElem!_pos b.data i hi]
    rw [ByteArray.toList.loop, if_pos hi, ih (i + 1) _ (by omega), List.drop_eq_getElem_cons hlen,
      List.reverse_cons, List.append_assoc, hget]
    rfl

@[simp] theorem toText?_ofText (s : String) : toText? (ofText s) = some s := by
  have h : ByteArray.mk s.toByteArray.toList.toArray = s.toByteArray := by
    rw [ByteArray.toList, toList_loop]
    rfl
  rw [toText?, ofText, h, String.fromUTF8?, dif_pos s.isValidUTF8]
  rfl

/-- Byte-wise exclusive or, as long as the shorter of the two. -/
def xor (a b : Bytes) : Bytes := List.zipWith (· ^^^ ·) a b

theorem xor_xor_cancel {a k : Bytes} (h : a.length ≤ k.length) : xor (xor a k) k = a := by
  induction a generalizing k with
  | nil => cases k <;> rfl
  | cons x a ih =>
    cases k with
    | nil => simp at h
    | cons y k =>
      have : xor (xor a k) k = a := ih (by simpa using h)
      simp only [xor, List.zipWith_cons_cons] at this ⊢
      rw [this, UInt8.xor_assoc, UInt8.xor_self, UInt8.xor_zero]

@[simp] theorem length_xor (a b : Bytes) : (xor a b).length = min a.length b.length := by
  simp [xor]

/-- Cuts a byte string into pieces of `n` bytes, the last one possibly shorter. -/
def chunks (n : Nat) (b : Bytes) : List Bytes :=
  if _h : b = [] ∨ n = 0 then [] else b.take n :: chunks n (b.drop n)
termination_by b.length
decreasing_by
  have : b ≠ [] := fun e => _h (.inl e)
  have := List.length_pos_iff.2 this
  have : n ≠ 0 := fun e => _h (.inr e)
  simp only [List.length_drop]
  omega

theorem flatten_chunks {n : Nat} (hn : n ≠ 0) (b : Bytes) : (chunks n b).flatten = b := by
  fun_induction chunks n b with
  | case1 b h => simp [h.resolve_right hn]
  | case2 b _ ih => rw [List.flatten_cons, ih, List.take_append_drop]

theorem length_le_of_mem_chunks {n : Nat} {b piece : Bytes} (h : piece ∈ chunks n b) :
    piece.length ≤ n := by
  fun_induction chunks n b with
  | case1 => cases h
  | case2 b _ ih =>
    rcases List.mem_cons.1 h with rfl | h
    · exact (List.length_take_le n b)
    · exact ih h

theorem ne_nil_of_mem_chunks {n : Nat} {b piece : Bytes} (h : piece ∈ chunks n b) : piece ≠ [] := by
  fun_induction chunks n b with
  | case1 => cases h
  | case2 b hb ih =>
    rcases List.mem_cons.1 h with rfl | h
    · simpa [List.take_eq_nil_iff, and_comm] using not_or.1 hb
    · exact ih h

/-- Cuts a byte string into pieces of `n` bytes, or not at all if `n` is zero. -/
def pieces (n : Nat) (b : Bytes) : List Bytes :=
  if b = [] then [] else if n = 0 then [b] else chunks n b

end SealedRelay.Bytes
