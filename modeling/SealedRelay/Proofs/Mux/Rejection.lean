import SealedRelay.Proofs.Mux.Alone

/-!
# Which frames are rejected

A frame that breaks the control rules is rejected, and the connection that brought it ends. All other
frames are taken, dropped or declined. Nothing is queued and no stream is touched before a frame has been
checked, so a frame that is rejected leaves no trace.

Results:
* `CloseReason.decode_ok_iff`, `Payload.decodeCredit_ok_iff`: the payloads that can be read.
* `receive_error_iff`: the frames that are rejected are the malformed ones.
* `malformed_frames_change_nothing`: and they change nothing.
-/
namespace SealedRelay

theorem CloseReason.ofByte?_isSome_iff (b : UInt8) : (ofByte? b).isSome = true ↔ b.toNat ≤ 4 := by
  have small : ∀ n : Fin 256, (ofByte? (UInt8.ofNat n)).isSome = true ↔ n.val ≤ 4 := by
    decide +kernel
  have hb := small ⟨b.toNat, b.toNat_lt⟩
  rwa [UInt8.ofNat_toNat] at hb

theorem CloseReason.decode_ok_iff {payload : Bytes} :
    (∃ reason, decode payload = .ok reason) ↔ ∃ b : UInt8, b.toNat ≤ 4 ∧ payload = [b] := by
  constructor
  · rintro ⟨reason, hd⟩
    unfold decode at hd
    split at hd
    · rename_i b
      split at hd
      · rename_i hb
        exact ⟨b, (ofByte?_isSome_iff b).1 (by simp [hb]), rfl⟩
      · cases hd
    · cases hd
  · rintro ⟨b, hb, rfl⟩
    obtain ⟨reason, hr⟩ := Option.isSome_iff_exists.1 ((ofByte?_isSome_iff b).2 hb)
    exact ⟨reason, by simp only [decode, hr]⟩

theorem Payload.decodeCredit_ok_iff {payload : Bytes} :
    (∃ credit, decodeCredit payload = .ok credit) ↔ payload.length = 4 := by
  unfold decodeCredit
  split <;> simp [*]

namespace Mux

theorem lookup_isSome_iff {m : Mux} {id : StreamId} :
    (m.lookup id).isSome = true ↔ ∃ h, (id, h) ∈ m.table := by
  constructor
  · intro hl
    obtain ⟨h, hh⟩ := Option.isSome_iff_exists.1 hl
    exact ⟨h, mem_of_lookup hh⟩
  · rintro ⟨h, hin⟩
    rw [Option.isSome_iff_ne_none]
    intro hn
    simpa using List.lookup_eq_none_iff.1 hn _ hin

/-- The frames that break the control rules: a ping that is neither a request nor a reply, a close without
a reason, an ack without a credit, and a question for a stream that is there already. -/
def Rejects (m : Mux) (f : Frame) : Prop :=
  match f.kind with
  | .ping => f.payload ≠ [0] ∧ f.payload ≠ [1]
  | .opening =>
    m.role = .responder ∧ m.failed = none ∧ (∃ d, Destination.decode f.payload = .ok d) ∧
      ∃ h, (f.stream, h) ∈ m.table
  | .data => False
  | .close => ¬∃ b : UInt8, b.toNat ≤ 4 ∧ f.payload = [b]
  | .ack => f.payload.length ≠ 4

variable {m : Mux}

theorem onPing_error_iff {payload : Bytes} :
    (∃ e, (m.onPing payload).1 = .error e) ↔ payload ≠ [0] ∧ payload ≠ [1] := by
  unfold onPing
  split
  · rename_i hrequest
    simp [show payload = [0] from hrequest]
  split
  · rename_i hreply
    simp [show payload = [1] from hreply]
  · rename_i hrequest hreply
    exact iff_of_true ⟨_, rfl⟩ ⟨hrequest, hreply⟩

/-- Whether the number is taken is looked at only once a question could be taken up. The limit on streams
comes after it. -/
theorem onOpening_error_iff {id : StreamId} {payload : Bytes} :
    (∃ e, (m.onOpening id payload).1 = .error e) ↔
      m.role = .responder ∧ m.failed = none ∧ (∃ d, Destination.decode payload = .ok d) ∧
        ∃ h, (id, h) ∈ m.table := by
  unfold onOpening
  split
  · rename_i hr
    simp [hr]
  rename_i hr
  split
  · rename_i hd
    simp [hd]
  rename_i d hd
  split
  · rename_i hf
    have hfailed : m.failed ≠ none := Option.isSome_iff_ne_none.1 hf
    simp [hfailed]
  rename_i hf
  have hfailed : m.failed = none := by simpa [isFailed] using hf
  split
  · rename_i hl
    exact iff_of_true ⟨_, rfl⟩ ⟨hr, hfailed, ⟨d, hd⟩, lookup_isSome_iff.1 hl⟩
  · rename_i hl
    refine iff_of_false ?_ fun h => hl (lookup_isSome_iff.2 h.2.2.2)
    rintro ⟨e, he⟩
    split at he
    · cases he
    · dsimp only at he
      split at he <;> cases he

theorem receive_error_iff (m : Mux) (f : Frame) :
    (∃ e, (m.receive f).1 = .error e) ↔ m.Rejects f := by
  unfold receive Rejects
  cases f.kind with
  | ping => exact onPing_error_iff
  | opening => exact onOpening_error_iff
  | data =>
    dsimp only
    split <;> simp
  | close =>
    dsimp only
    rw [← CloseReason.decode_ok_iff]
    split
    · rename_i e hd
      simp [hd]
    · rename_i reason hd
      split <;> simp [hd]
  | ack =>
    dsimp only
    rw [Ne, ← Payload.decodeCredit_ok_iff]
    split
    · rename_i e hd
      simp [hd]
    · rename_i credit hd
      split <;> simp [hd]

/-- **The frames that are rejected are the malformed ones, and they change nothing.** Whatever a
multiplexer has done before, it rejects a frame exactly if the frame is a ping whose payload is not the
single byte zero or one, a close whose payload is not a single byte up to four, an ack whose payload is not
four bytes, or, on the side that is asked and has not failed, a question that can be read and whose number
is in the table. The error is always that the frame is malformed, and table, streams and queues are as they
were before. -/
theorem malformed_frames_change_nothing (m : Mux) (f : Frame) :
    ((∃ e, (m.receive f).1 = .error e) ↔ m.Rejects f) ∧
      ∀ e, (m.receive f).1 = .error e → (∃ text, e = .malformed text) ∧ (m.receive f).2 = m :=
  ⟨receive_error_iff m f, fun _ he => receive_error he⟩

/-- With all places taken, another question is declined, and one with a number that is taken is rejected. -/
example :
    let d : Bytes := [1, 127, 0, 0, 1, 0, 80]
    let m := (fresh .responder { maxStreams := 1 }).run [.frame ⟨.opening, 1, d⟩]
    (m.receive ⟨.opening, 2, d⟩).2.outbound = [closeFrame 2 .refused] ∧
      (m.receive ⟨.opening, 1, d⟩).1 = .error (.malformed "duplicate OPEN for stream 1") :=
  ⟨by decide +kernel, by rfl⟩

end Mux

end SealedRelay
