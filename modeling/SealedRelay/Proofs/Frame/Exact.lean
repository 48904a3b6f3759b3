import SealedRelay.Proofs.Frame.Decode

/-!
# Decoding as the inverse of encoding

The first nine bytes of a buffer always are the header of something: a byte for the kind, a stream
number and a payload length. The decoder looks at these three in this order, and then at how much
stands behind them. So it can be said in full when it finds a frame, when it finds a fault and when
it waits.

Results:
* `decode_of_length`: what the decoder makes of a buffer that holds a whole header.
* `decode_eq_frame_iff`, `decode_eq_error_iff`, `decode_eq_more_iff`: the three outcomes.
* `decode_exact`: they fit together with the encoder, and a buffer without a frame is left alone.
-/
namespace SealedRelay.Frame

/-! ## Headers -/

def headerKind? (b : Bytes) : Option Kind := Kind.ofByte? (b.getD 0 0)

def headerStream (b : Bytes) : StreamId := Bytes.toUInt32 ((b.drop 1).take 4)

def declaredSize (b : Bytes) : Nat := Bytes.toNat ((b.drop 5).take 4)

/-- What is wrong with the header of a buffer. Of several faults the first counts: that of the kind
before that of the stream number, and that before that of the length. -/
inductive BadHeader (most : Nat) (b : Bytes) : Error → Prop where
  | kind (unknown : headerKind? b = none) : BadHeader most b (.unknownKind (b.getD 0 0))
  | stream {kind : Kind} (known : headerKind? b = some kind)
      (misplaced : ¬ValidStream kind (headerStream b)) :
      BadHeader most b (.invalidStream kind (headerStream b))
  | size {kind : Kind} (known : headerKind? b = some kind)
      (valid : ValidStream kind (headerStream b)) (large : most < declaredSize b) :
      BadHeader most b (.payloadTooLarge (declaredSize b) most)

variable {most : Nat} {f : Frame} {b rest : Bytes} {e : Error}

/-- The beginning of a buffer that is long enough is a header. -/
theorem eq_header_append (h : headerSize ≤ b.length) :
    declaredSize b ≤ largestPayload ∧
      b = b.getD 0 0 :: Bytes.ofUInt32 (headerStream b) ++ Bytes.ofNat 4 (declaredSize b) ++
        b.drop headerSize := by
  match b, h with
  | k :: i0 :: i1 :: i2 :: i3 :: l0 :: l1 :: l2 :: l3 :: body, _ =>
    have hstream : Bytes.ofUInt32 (Bytes.toUInt32 [i0, i1, i2, i3]) = [i0, i1, i2, i3] :=
      Bytes.ofUInt32_toUInt32 rfl
    have hsize : Bytes.ofNat 4 (Bytes.toNat [l0, l1, l2, l3]) = [l0, l1, l2, l3] :=
      Bytes.ofNat_toNat [l0, l1, l2, l3]
    have hlt : Bytes.toNat [l0, l1, l2, l3] < Bytes.limit 4 := Bytes.toNat_lt [l0, l1, l2, l3]
    have hlimit : Bytes.limit 4 - 1 = largestPayload := by decide
    refine ⟨hlimit ▸ Nat.le_sub_one_of_lt hlt, ?_⟩
    simp only [headerStream, declaredSize, headerSize, List.drop_succ_cons, List.drop_zero,
      List.take_succ_cons, List.take_zero, hstream, hsize]
    rfl

/-- What the decoder makes of a buffer that holds a whole header. -/
theorem decode_of_length (most : Nat) (h : headerSize ≤ b.length) :
    decode most b =
      match headerKind? b with
      | none => .error (.unknownKind (b.getD 0 0))
      | some kind =>
        if ¬ValidStream kind (headerStream b) then .error (.invalidStream kind (headerStream b))
        else if most < declaredSize b then .error (.payloadTooLarge (declaredSize b) most)
        else if (b.drop headerSize).length < declaredSize b then .more
        else
          .frame ⟨kind, headerStream b, (b.drop headerSize).take (declaredSize b)⟩
            ((b.drop headerSize).drop (declaredSize b)) := by
  obtain ⟨hsize, hb⟩ := eq_header_append h
  exact (congrArg (decode most) hb).trans (decode_of_header most _ _ hsize _)

theorem length_of_decode_ne_more (h : decode most b ≠ .more) : headerSize ≤ b.length :=
  Nat.le_of_not_lt fun hshort => h (decode_short hshort)

/-! ## The three outcomes -/

/-- A frame is read off a buffer exactly if the buffer begins with its bytes. -/
theorem decode_eq_frame_iff :
    decode most b = .frame f rest ↔ f.Fits most ∧ b = f.toBytes ++ rest := by
  constructor
  · intro hd
    have hne : decode most b ≠ .more := by simp [hd]
    have hlen := length_of_decode_ne_more hne
    obtain ⟨hdeclared, hb⟩ := eq_header_append hlen
    rw [decode_of_length most hlen] at hd
    split at hd
    · cases hd
    rename_i kind hkind
    split at hd
    · cases hd
    rename_i hvalid
    split at hd
    · cases hd
    rename_i hmost
    split at hd
    · cases hd
    rename_i hwhole
    obtain ⟨rfl, rfl⟩ := Decoded.frame.inj hd
    have hsize : ((b.drop headerSize).take (declaredSize b)).length = declaredSize b := by
      rw [List.length_take]
      omega
    refine ⟨⟨Decidable.not_not.1 hvalid, ?_, ?_⟩, ?_⟩
    · rw [hsize]
      exact Nat.le_of_not_lt hmost
    · rwa [hsize]
    · rw [toBytes, routing, routingHeader, hsize, List.append_assoc, List.take_append_drop,
        ← Kind.ofByte?_eq_some_iff.1 hkind]
      exact hb
  · rintro ⟨hf, rfl⟩
    exact decode_toBytes hf rest

/-- A fault is reported exactly if the header is there and has that fault. -/
theorem decode_eq_error_iff :
    decode most b = .error e ↔ headerSize ≤ b.length ∧ BadHeader most b e := by
  constructor
  · intro hd
    have hne : decode most b ≠ .more := by simp [hd]
    have hlen := length_of_decode_ne_more hne
    refine ⟨hlen, ?_⟩
    rw [decode_of_length most hlen] at hd
    split at hd
    · rename_i hkind
      obtain rfl := Decoded.error.inj hd
      exact .kind hkind
    rename_i kind hkind
    split at hd
    · rename_i hvalid
      obtain rfl := Decoded.error.inj hd
      exact .stream hkind hvalid
    rename_i hvalid
    split at hd
    · rename_i hmost
      obtain rfl := Decoded.error.inj hd
      exact .size hkind (Decidable.not_not.1 hvalid) hmost
    split at hd <;> cases hd
  · rintro ⟨hlen, hbad⟩
    rw [decode_of_length most hlen]
    cases hbad with
    | kind unknown => simp only [unknown]
    | stream known misplaced => simp only [known, if_pos misplaced]
    | size known valid large => simp only [known, not_true_eq_false, valid, if_false, if_pos large]

/-- There is something wrong with a header if one of its three parts is wrong. -/
theorem exists_badHeader_iff :
    (∃ e, BadHeader most b e) ↔
      headerKind? b = none ∨
        (∃ kind, headerKind? b = some kind ∧ ¬ValidStream kind (headerStream b)) ∨
        most < declaredSize b := by
  constructor
  · rintro ⟨e, unknown | ⟨known, misplaced⟩ | ⟨-, -, large⟩⟩
    · exact .inl unknown
    · exact .inr (.inl ⟨_, known, misplaced⟩)
    · exact .inr (.inr large)
  · intro h
    cases hkind : headerKind? b with
    | none => exact ⟨_, .kind hkind⟩
    | some kind =>
      by_cases hvalid : ValidStream kind (headerStream b)
      · rcases h with h | ⟨kind', hkind', hbad⟩ | hlarge
        · simp [hkind] at h
        · obtain rfl := Option.some.inj (hkind.symm.trans hkind')
          exact absurd hvalid hbad
        · exact ⟨_, .size hkind hvalid hlarge⟩
      · exact ⟨_, .stream hkind hvalid⟩

/-- The decoder waits exactly if the header or the payload that it declares is not all there, and
there is no fault. -/
theorem decode_eq_more_iff :
    decode most b = .more ↔
      (∀ e, decode most b ≠ .error e) ∧
        (b.length < headerSize ∨ b.length < headerSize + declaredSize b) := by
  by_cases hlen : headerSize ≤ b.length
  · have hdrop : (b.drop headerSize).length = b.length - headerSize := List.length_drop
    rw [decode_of_length most hlen, hdrop]
    split
    · exact ⟨nofun, fun h => absurd rfl (h.1 _)⟩
    split
    · exact ⟨nofun, fun h => absurd rfl (h.1 _)⟩
    split
    · exact ⟨nofun, fun h => absurd rfl (h.1 _)⟩
    split
    · exact ⟨fun _ => ⟨nofun, by omega⟩, fun _ => rfl⟩
    · exact ⟨nofun, fun h => by omega⟩
  · have hshort := Nat.lt_of_not_le hlen
    rw [decode_short hshort]
    exact ⟨fun _ => ⟨nofun, .inl hshort⟩, fun _ => rfl⟩

theorem encode_eq_ok_iff {wire : Bytes} :
    f.encode = .ok wire ↔
      (ValidStream f.kind f.stream ∧ f.payload.length ≤ largestPayload) ∧ wire = f.toBytes := by
  unfold encode
  split
  · rename_i hbad
    simp [hbad]
  rename_i hvalid
  split
  · rename_i hlarge
    simp [Nat.not_le_of_lt hlarge]
  · rename_i hsize
    simp [Decidable.not_not.1 hvalid, Nat.le_of_not_lt hsize, eq_comm]

/-! ## The decoder and the encoder -/

/-- **Decoding undoes encoding, and nothing else.** A frame is found, with some bytes behind it, exactly
if the buffer is what the encoder writes for this frame followed by these bytes, the frame keeps the
rule for stream numbers and its payload keeps to the limit. A fault is reported exactly if a whole
header is there and its kind is unknown, its stream number is not one for its kind or the length it
declares is above the limit. The decoder waits exactly if there is no fault and the header or the
payload is not all there. When it waits or reports a fault the buffer stays as it was. -/
theorem decode_exact (most : Nat) (b : Bytes) :
    (∀ f rest, decode most b = .frame f rest ↔
      (∃ wire, f.encode = .ok wire ∧ b = wire ++ rest) ∧ ValidStream f.kind f.stream ∧
        f.payload.length ≤ most) ∧
    ((∃ e, decode most b = .error e) ↔
      headerSize ≤ b.length ∧
        (headerKind? b = none ∨
          (∃ kind, headerKind? b = some kind ∧ ¬ValidStream kind (headerStream b)) ∨
          most < declaredSize b)) ∧
    (decode most b = .more ↔
      (¬∃ e, decode most b = .error e) ∧
        (b.length < headerSize ∨ b.length < headerSize + declaredSize b)) ∧
    ∀ c : Codec, c.maxPayload = most → c.received = b →
      (decode most b = .more → c.next = (.ok none, c)) ∧
      ∀ e, decode most b = .error e → c.next = (.error e, c) := by
  refine ⟨fun f rest => ?_, ?_, ?_, ?_⟩
  · rw [decode_eq_frame_iff]
    constructor
    · rintro ⟨hf, hb⟩
      exact ⟨⟨_, encode_eq_ok_iff.2 ⟨⟨hf.stream, hf.declared⟩, rfl⟩, hb⟩, hf.stream, hf.payload⟩
    · rintro ⟨⟨wire, hwire, hb⟩, hstream, hpayload⟩
      obtain ⟨⟨-, hdeclared⟩, rfl⟩ := encode_eq_ok_iff.1 hwire
      exact ⟨⟨hstream, hpayload, hdeclared⟩, hb⟩
  · rw [← exists_badHeader_iff, ← exists_and_left]
    exact exists_congr fun e => decode_eq_error_iff
  · rw [not_exists]
    exact decode_eq_more_iff
  · rintro c rfl rfl
    exact ⟨fun hmore => by simp only [Codec.next, hmore],
      fun e herror => by simp only [Codec.next, herror]⟩

end SealedRelay.Frame
