import SealedRelay.Proofs.Frame.Exact

/-!
# Bytes that arrive in pieces

A codec gets its bytes as the network delivers them: after every piece its user takes frames until there
is none, and stops for good at the first error. What the decoder has decided it never takes back when
more bytes arrive: a frame stays that frame, a fault stays that fault. So it does not matter where the
bytes were cut.

Results:
* `decode_append_of_frame`, `decode_append_of_error`: more bytes change no outcome but waiting.
* `decodeAll_append`: frames are taken off two buffers behind each other as off one.
* `Codec.exists_drained`: taking frames comes to an end.
* `arrival_independent`: any cut of the bytes gives the same frames and the same end.
-/
namespace SealedRelay.Frame

/-- How decoding ended: waiting or with an error, and with the bytes that were not decoded. -/
def Ending.of : Option Error → Bytes → Ending
  | none, rest => .more rest
  | some e, rest => .error e rest

/-- What the decoder says where decoding ended. -/
def Decoded.atEnd : Option Error → Decoded
  | none => .more
  | some e => .error e

variable {most : Nat} {f : Frame} {b rest : Bytes} {e : Error}

/-! ## More bytes behind a buffer -/

theorem getD_zero_append (h : headerSize ≤ b.length) (more : Bytes) :
    (b ++ more).getD 0 0 = b.getD 0 0 := by
  match b, h with
  | _ :: _, _ => rfl

theorem take_drop_append {skip n : Nat} (h : skip + n ≤ b.length) (more : Bytes) :
    ((b ++ more).drop skip).take n = (b.drop skip).take n := by
  have hskip : skip ≤ b.length := by omega
  have hn : n ≤ (b.drop skip).length := by
    rw [List.length_drop]
    omega
  rw [List.drop_append_of_le_length hskip, List.take_append_of_le_length hn]

theorem headerKind?_append (h : headerSize ≤ b.length) (more : Bytes) :
    headerKind? (b ++ more) = headerKind? b := by
  rw [headerKind?, headerKind?, getD_zero_append h]

theorem headerStream_append (h : headerSize ≤ b.length) (more : Bytes) :
    headerStream (b ++ more) = headerStream b := by
  have hlen : 1 + 4 ≤ b.length := Nat.le_trans (by decide) h
  rw [headerStream, headerStream, take_drop_append hlen]

theorem declaredSize_append (h : headerSize ≤ b.length) (more : Bytes) :
    declaredSize (b ++ more) = declaredSize b := by
  have hlen : 5 + 4 ≤ b.length := Nat.le_trans (by decide) h
  rw [declaredSize, declaredSize, take_drop_append hlen]

theorem BadHeader.append (h : BadHeader most b e) (hlen : headerSize ≤ b.length) (more : Bytes) :
    BadHeader most (b ++ more) e := by
  have hkind := headerKind?_append hlen more
  have hstream := headerStream_append hlen more
  have hsize := declaredSize_append hlen more
  cases h with
  | kind unknown => exact getD_zero_append hlen more ▸ .kind (hkind.trans unknown)
  | stream known misplaced =>
    exact hstream ▸ .stream (hkind.trans known) (hstream.symm ▸ misplaced)
  | size known valid large =>
    exact hsize ▸ .size (hkind.trans known) (hstream.symm ▸ valid) (hsize.symm ▸ large)

/-- The frame at the front of a buffer stays when more bytes arrive. -/
theorem decode_append_of_frame (h : decode most b = .frame f rest) (more : Bytes) :
    decode most (b ++ more) = .frame f (rest ++ more) := by
  obtain ⟨hf, rfl⟩ := decode_eq_frame_iff.1 h
  rw [List.append_assoc]
  exact decode_toBytes hf _

/-- A fault stays when more bytes arrive. -/
theorem decode_append_of_error (h : decode most b = .error e) (more : Bytes) :
    decode most (b ++ more) = .error e := by
  obtain ⟨hlen, hbad⟩ := decode_eq_error_iff.1 h
  have hlonger : headerSize ≤ (b ++ more).length := by
    rw [List.length_append]
    omega
  exact decode_eq_error_iff.2 ⟨hlonger, hbad.append hlen more⟩

/-- Frames are taken off a buffer and what arrives behind it as off the buffer first, and then off what
is left of it and the rest; unless there was an error. -/
theorem decodeAll_append (most : Nat) (b more : Bytes) :
    decodeAll most (b ++ more) =
      match decodeAll most b with
      | (frames, .more rest) =>
        (frames ++ (decodeAll most (rest ++ more)).1, (decodeAll most (rest ++ more)).2)
      | (frames, .error e rest) => (frames, .error e (rest ++ more)) := by
  fun_induction decodeAll most b with
  | case1 b f rest h frames ending heq ih =>
    rw [decodeAll_of_frame (decode_append_of_frame h more), ih, heq]
    cases ending <;> rfl
  | case2 b h => rfl
  | case3 b e h => exact decodeAll_of_error (decode_append_of_error h more)

theorem decodeAll_append_of_more {fs gs : List Frame} {more : Bytes} {ending : Ending}
    (h : decodeAll most b = (fs, .more rest))
    (hmore : decodeAll most (rest ++ more) = (gs, ending)) :
    decodeAll most (b ++ more) = (fs ++ gs, ending) := by
  simp only [decodeAll_append, h, hmore]

theorem decodeAll_append_of_error {fs : List Frame} (h : decodeAll most b = (fs, .error e rest))
    (more : Bytes) : decodeAll most (b ++ more) = (fs, .error e (rest ++ more)) := by
  simp only [decodeAll_append, h]

/-! ## Taking frames off a codec -/

namespace Codec

variable {c c' c'' : Codec} {fs gs : List Frame} {r r' : Option Error} {pieces : List Bytes}

theorem next_eq_frame_iff :
    c.next = (.ok (some f), c') ↔
      ∃ rest, decode c.maxPayload c.received = .frame f rest ∧ { c with received := rest } = c' := by
  cases hd : decode c.maxPayload c.received <;> simp [next, hd, and_assoc]

theorem next_eq_none_iff :
    c.next = (.ok none, c') ↔ decode c.maxPayload c.received = .more ∧ c = c' := by
  cases hd : decode c.maxPayload c.received <;> simp [next, hd]

theorem next_eq_error_iff :
    c.next = (.error e, c') ↔ decode c.maxPayload c.received = .error e ∧ c = c' := by
  cases hd : decode c.maxPayload c.received <;> simp [next, hd]

/-- Frames are taken off a codec until it gives none, or an error. -/
inductive Drained : Codec → List Frame → Option Error → Codec → Prop where
  | waits {c c' : Codec} (next : c.next = (.ok none, c')) : Drained c [] none c'
  | fails {c c' : Codec} {e : Error} (next : c.next = (.error e, c')) : Drained c [] (some e) c'
  | takes {c c' c'' : Codec} {f : Frame} {fs : List Frame} {r : Option Error}
      (next : c.next = (.ok (some f), c')) (others : Drained c' fs r c'') :
      Drained c (f :: fs) r c''

/-- Taking frames off a codec comes to an end: every frame leaves fewer bytes behind. -/
theorem exists_drained (c : Codec) : ∃ fs r c', Drained c fs r c' := by
  match hd : decode c.maxPayload c.received with
  | .frame f rest =>
    have hlt : rest.length < c.received.length := decode_rest_length hd
    obtain ⟨fs, r, c', h⟩ := exists_drained { c with received := rest }
    exact ⟨f :: fs, r, c', .takes (next_eq_frame_iff.2 ⟨rest, hd, rfl⟩) h⟩
  | .more => exact ⟨[], none, c, .waits (next_eq_none_iff.2 ⟨hd, rfl⟩)⟩
  | .error e => exact ⟨[], some e, c, .fails (next_eq_error_iff.2 ⟨hd, rfl⟩)⟩
termination_by c.received.length

/-- The frames taken off a codec are those of its buffer, and what is left of the buffer stays. -/
theorem Drained.decodeAll_eq (h : Drained c fs r c') :
    decodeAll c.maxPayload c.received = (fs, .of r c'.received) ∧
      decode c.maxPayload c'.received = .atEnd r ∧ c'.maxPayload = c.maxPayload := by
  induction h with
  | waits next =>
    obtain ⟨hd, rfl⟩ := next_eq_none_iff.1 next
    exact ⟨decodeAll_of_more hd, hd, rfl⟩
  | fails next =>
    obtain ⟨hd, rfl⟩ := next_eq_error_iff.1 next
    exact ⟨decodeAll_of_error hd, hd, rfl⟩
  | takes next others ih =>
    obtain ⟨rest, hd, rfl⟩ := next_eq_frame_iff.1 next
    obtain ⟨hall, hend, hsame⟩ := ih
    exact ⟨by rw [decodeAll_of_frame hd, hall], hend, hsame⟩

theorem Drained.unique (h : Drained c fs r c') (h' : Drained c gs r' c'') :
    gs = fs ∧ r' = r ∧ c'' = c' := by
  induction h generalizing gs with
  | waits next =>
    cases h' with
    | waits next' => exact ⟨rfl, rfl, (Prod.mk.inj (next'.symm.trans next)).2⟩
    | fails next' => cases next'.symm.trans next
    | takes next' _ => cases next'.symm.trans next
  | fails next =>
    cases h' with
    | waits next' => cases next'.symm.trans next
    | fails next' =>
      cases next'.symm.trans next
      exact ⟨rfl, rfl, rfl⟩
    | takes next' _ => cases next'.symm.trans next
  | takes next _ ih =>
    cases h' with
    | waits next' => cases next'.symm.trans next
    | fails next' => cases next'.symm.trans next
    | takes next' others' =>
      cases next'.symm.trans next
      obtain ⟨rfl, rfl, rfl⟩ := ih others'
      exact ⟨rfl, rfl, rfl⟩

/-- Pieces arrive at a codec, and frames are taken off it after each of them. After an error nothing is
read any more. -/
inductive Arrived : Codec → List Bytes → List Frame → Option Error → Codec → Prop where
  | nothing (c : Codec) : Arrived c [] [] none c
  | piece {c c' c'' : Codec} {piece : Bytes} {pieces : List Bytes} {fs gs : List Frame}
      {r : Option Error} (drained : Drained (c.feed piece) fs none c')
      (others : Arrived c' pieces gs r c'') : Arrived c (piece :: pieces) (fs ++ gs) r c''
  | fails {c c' : Codec} {piece : Bytes} {pieces : List Bytes} {fs : List Frame} {e : Error}
      (drained : Drained (c.feed piece) fs (some e) c') :
      Arrived c (piece :: pieces) fs (some e) c'

theorem exists_arrived (c : Codec) (pieces : List Bytes) : ∃ fs r c', Arrived c pieces fs r c' := by
  induction pieces generalizing c with
  | nil => exact ⟨[], none, c, .nothing c⟩
  | cons piece pieces ih =>
    obtain ⟨fs, r, c', h⟩ := exists_drained (c.feed piece)
    cases r with
    | none =>
      obtain ⟨gs, r, c'', hrest⟩ := ih c'
      exact ⟨fs ++ gs, r, c'', .piece h hrest⟩
    | some e => exact ⟨fs, some e, c', .fails h⟩

theorem Arrived.unique (h : Arrived c pieces fs r c') (h' : Arrived c pieces gs r' c'') :
    gs = fs ∧ r' = r ∧ c'' = c' := by
  induction h generalizing gs with
  | nothing c =>
    cases h'
    exact ⟨rfl, rfl, rfl⟩
  | piece drained _ ih =>
    cases h' with
    | piece drained' others' =>
      obtain ⟨rfl, -, rfl⟩ := drained.unique drained'
      obtain ⟨rfl, rfl, rfl⟩ := ih others'
      exact ⟨rfl, rfl, rfl⟩
    | fails drained' => cases (drained.unique drained').2.1
  | fails drained =>
    cases h' with
    | piece drained' _ => cases (drained.unique drained').2.1
    | fails drained' => exact drained.unique drained'

/-- The frames taken off a codec while bytes arrive are those of all its bytes. After an error some of
the pieces are `unread`. -/
theorem Arrived.decodeAll_eq (h : Arrived c pieces fs r c')
    (hwaiting : decode c.maxPayload c.received = .more) :
    ∃ unread, decodeAll c.maxPayload (c.received ++ pieces.flatten) =
        (fs, .of r (c'.received ++ unread)) ∧ (r = none → unread = []) ∧
      decode c.maxPayload c'.received = .atEnd r ∧ c'.maxPayload = c.maxPayload := by
  induction h with
  | nothing c =>
    refine ⟨[], ?_, fun _ => rfl, hwaiting, rfl⟩
    rw [List.flatten_nil, List.append_nil]
    exact decodeAll_of_more hwaiting
  | @piece c c' c'' piece pieces fs gs r drained others ih =>
    obtain ⟨hall, hend, hmost⟩ : decodeAll c.maxPayload (c.received ++ piece) =
        (fs, .more c'.received) ∧ decode c.maxPayload c'.received = .more ∧
          c'.maxPayload = c.maxPayload := drained.decodeAll_eq
    rw [hmost] at ih
    obtain ⟨unread, hothers, hread, hlast, hmost'⟩ := ih hend
    refine ⟨unread, ?_, hread, hlast, hmost'⟩
    rw [List.flatten_cons, ← List.append_assoc]
    exact decodeAll_append_of_more hall hothers
  | @fails c c' piece pieces fs e drained =>
    obtain ⟨hall, hend, hmost⟩ : decodeAll c.maxPayload (c.received ++ piece) =
        (fs, .error e c'.received) ∧ decode c.maxPayload c'.received = .error e ∧
          c'.maxPayload = c.maxPayload := drained.decodeAll_eq
    refine ⟨pieces.flatten, ?_, nofun, hend, hmost⟩
    rw [List.flatten_cons, ← List.append_assoc]
    exact decodeAll_append_of_error hall pieces.flatten

/-- The end of a connection is an error exactly if it comes inside a frame. -/
theorem nextAtEnd_eq_connectionClosed_iff :
    c.nextAtEnd.1 = .error .connectionClosed ↔
      decode c.maxPayload c.received = .more ∧ c.received ≠ [] := by
  cases hd : decode c.maxPayload c.received with
  | frame f rest =>
    have hnext := next_eq_frame_iff.2 ⟨rest, hd, rfl⟩
    simp [nextAtEnd, hnext]
  | more =>
    have hnext := next_eq_none_iff.2 ⟨hd, rfl⟩
    simp [nextAtEnd, hnext]
  | error e =>
    have hnext := next_eq_error_iff.2 ⟨hd, rfl⟩
    obtain ⟨-, hbad⟩ := decode_eq_error_iff.1 hd
    cases hbad <;> simp [nextAtEnd, hnext]

end Codec

/-! ## Any cut is as good as none -/

/-- **Decoding does not depend on how bytes arrive.** Taking frames off a codec always comes to an end.
However the bytes that a new codec gets are cut into pieces, with frames taken off it after every piece
until there is none or an error, there is one result. It is that of all the bytes as a single piece: the
same frames, and the same first error or, without one, the same bytes left over. The end of the
connection is then an error of its own exactly if there was no error and the beginning of a frame is
left over. -/
theorem arrival_independent :
    (∀ c : Codec, ∃ fs r c', c.Drained fs r c') ∧
    ∀ (most : Nat) (pieces : List Bytes),
      let start : Codec := { maxPayload := most }
      ∃ fs r c', start.Arrived pieces fs r c' ∧
        (∀ fs₁ r₁ c₁, start.Arrived pieces fs₁ r₁ c₁ → fs₁ = fs ∧ r₁ = r ∧ c₁ = c') ∧
        (∃ c₁, start.Arrived [pieces.flatten] fs r c₁ ∧
          (r = none → c₁.received = c'.received)) ∧
        (c'.nextAtEnd.1 = .error .connectionClosed ↔
          r = none ∧ decode most c'.received = .more ∧ c'.received ≠ []) := by
  refine ⟨Codec.exists_drained, fun most pieces => ?_⟩
  intro start
  have hwaiting : decode start.maxPayload start.received = .more := rfl
  obtain ⟨fs, r, c', h⟩ := start.exists_arrived pieces
  obtain ⟨gs, r', c₁, hwhole⟩ := start.exists_arrived [pieces.flatten]
  obtain ⟨unread, hall, hread, hend, hmost⟩ := h.decodeAll_eq hwaiting
  obtain ⟨unread', hall', hread', -, -⟩ := hwhole.decodeAll_eq hwaiting
  rw [List.flatten_singleton] at hall'
  obtain ⟨rfl, hending⟩ := Prod.mk.inj (hall'.symm.trans hall)
  refine ⟨gs, r, c', h, fun _ _ _ h₁ => h.unique h₁, ?_, ?_⟩
  · cases r with
    | none =>
      cases r' with
      | none =>
        refine ⟨c₁, hwhole, fun _ => ?_⟩
        have hrest := Ending.more.inj hending
        rwa [hread rfl, hread' rfl, List.append_nil, List.append_nil] at hrest
      | some e => cases hending
    | some e =>
      cases r' with
      | none => cases hending
      | some e' =>
        obtain ⟨rfl, -⟩ := Ending.error.inj hending
        exact ⟨c₁, hwhole, nofun⟩
  · rw [Codec.nextAtEnd_eq_connectionClosed_iff, hmost, hend]
    cases r <;> simp [Decoded.atEnd]

end SealedRelay.Frame
