import SealedRelay.Frame.Codec

/-!
# Reading frames off a buffer

A decoder that knows the header of a frame waits for exactly the payload that the header declares. So
the bytes of a frame are read as that frame whatever stands behind them, and a beginning of them that
is not all of them is neither a frame nor an error.

Results:
* `decode_toBytes`: a frame is read as it was written.
* `decode_of_isPrefix`: the beginning of a frame makes the decoder wait.
* `decodeAll_toBytes`: frames behind each other are read in order, and the rest is kept.
-/
namespace SealedRelay.Frame

/-- A frame that goes through a decoder with a limit: it keeps the rule for stream numbers, and its
payload keeps to the limit and can be declared in a header. -/
structure Fits (most : Nat) (f : Frame) : Prop where
  stream : ValidStream f.kind f.stream
  payload : f.payload.length ≤ most
  declared : f.payload.length ≤ largestPayload

variable {most : Nat} {f : Frame} {b rest : Bytes}

theorem decode_short (h : b.length < headerSize) : decode most b = .more := by
  unfold decode
  split
  · simp only [headerSize, List.length_cons] at h
    omega
  · rfl

theorem exists_eq_four {b : Bytes} (h : b.length = 4) : ∃ x y z w, b = [x, y, z, w] := by
  match b, h with
  | [x, y, z, w], _ => exact ⟨x, y, z, w, rfl⟩

/-- What the decoder makes of a whole header and of what stands behind it. -/
theorem decode_of_header (most : Nat) (k : UInt8) (stream : StreamId) {size : Nat}
    (hsize : size ≤ largestPayload) (body : Bytes) :
    decode most (k :: Bytes.ofUInt32 stream ++ Bytes.ofNat 4 size ++ body) =
      match Kind.ofByte? k with
      | none => .error (.unknownKind k)
      | some kind =>
        if ¬ValidStream kind stream then .error (.invalidStream kind stream)
        else if most < size then .error (.payloadTooLarge size most)
        else if body.length < size then .more
        else .frame ⟨kind, stream, body.take size⟩ (body.drop size) := by
  obtain ⟨i0, i1, i2, i3, hi⟩ := exists_eq_four (Bytes.length_ofUInt32 stream)
  obtain ⟨l0, l1, l2, l3, hl⟩ := exists_eq_four (Bytes.length_ofNat 4 size)
  have hstream : Bytes.toUInt32 [i0, i1, i2, i3] = stream := by rw [← hi, Bytes.toUInt32_ofUInt32]
  have hdeclared : Bytes.toNat [l0, l1, l2, l3] = size := by
    rw [← hl]
    exact Bytes.toNat_ofNat_of_lt (Nat.lt_of_le_of_lt hsize (by decide))
  have hlength : (body.take size).length < size ↔ body.length < size := by
    rw [List.length_take]
    omega
  cases hk : Kind.ofByte? k <;>
    simp only [hi, hl, hk, List.cons_append, List.nil_append, decode, hstream, hdeclared, hlength]

/-- Behind a header without faults the decoder waits for the payload that the header declares. -/
theorem decode_header {kind : Kind} {stream : StreamId} {size : Nat} (hv : ValidStream kind stream)
    (hmost : size ≤ most) (hsize : size ≤ largestPayload) (body : Bytes) :
    decode most (routingHeader kind stream ++ Bytes.ofNat 4 size ++ body) =
      if body.length < size then .more else .frame ⟨kind, stream, body.take size⟩ (body.drop size) := by
  rw [routingHeader, decode_of_header most kind.toByte stream hsize body, Kind.ofByte?_toByte]
  simp only [hv, not_true_eq_false, if_false, if_neg (Nat.not_lt_of_le hmost)]

/-- A frame is read as it was written, whatever stands behind it. -/
theorem decode_toBytes (h : f.Fits most) (rest : Bytes) :
    decode most (f.toBytes ++ rest) = .frame f rest := by
  have hlength : ¬(f.payload ++ rest).length < f.payload.length := by
    rw [List.length_append]
    omega
  rw [toBytes, routing, List.append_assoc, decode_header h.stream h.payload h.declared, if_neg hlength,
    List.take_left, List.drop_left]

/-- The beginning of a frame makes the decoder wait. -/
theorem decode_of_isPrefix (h : f.Fits most) (hb : b <+: f.toBytes)
    (hlt : b.length < f.toBytes.length) : decode most b = .more := by
  by_cases hshort : b.length < headerSize
  · exact decode_short hshort
  have hheader : (f.routing ++ Bytes.ofNat 4 f.payload.length).length = headerSize := by
    simp [routing, headerSize]
  obtain ⟨body, rfl⟩ : f.routing ++ Bytes.ofNat 4 f.payload.length <+: b :=
    List.prefix_of_prefix_length_le (List.prefix_append _ _) hb (by omega)
  have hbody : body.length < f.payload.length := by
    simp only [toBytes, List.length_append] at hlt
    omega
  rw [routing, decode_header h.stream h.payload h.declared, if_pos hbody]

/-! ## Until there is no frame -/

theorem decodeAll_of_frame (h : decode most b = .frame f rest) :
    decodeAll most b = (f :: (decodeAll most rest).1, (decodeAll most rest).2) := by
  rw [decodeAll]
  split <;> simp_all

theorem decodeAll_of_more (h : decode most b = .more) : decodeAll most b = ([], .more b) := by
  rw [decodeAll]
  split <;> simp_all

theorem decodeAll_of_error {e : Error} (h : decode most b = .error e) :
    decodeAll most b = ([], .error e b) := by
  rw [decodeAll]
  split <;> simp_all

/-- Frames behind each other are read in order, and what the decoder waits with is kept. -/
theorem decodeAll_toBytes {frames : List Frame} (h : ∀ f ∈ frames, f.Fits most)
    (hrest : decode most rest = .more) :
    decodeAll most (frames.flatMap toBytes ++ rest) = (frames, .more rest) := by
  induction frames with
  | nil => exact decodeAll_of_more hrest
  | cons f frames ih =>
    have hf := h f List.mem_cons_self
    have ih := ih fun g hg => h g (List.mem_cons_of_mem f hg)
    rw [List.flatMap_cons, List.append_assoc, decodeAll_of_frame (decode_toBytes hf _), ih]

end SealedRelay.Frame
