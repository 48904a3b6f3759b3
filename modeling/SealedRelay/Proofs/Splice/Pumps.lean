import SealedRelay.Proofs.Mux.Effect
import SealedRelay.Splice

/-!
# What a splice puts on its stream

The upload takes bytes from the socket in pieces and puts each piece on the stream, as far as the window
allows. What it has taken and not yet put there it keeps. So nothing is lost between the two, and when the
socket has ended and nothing is left, all of it is on the stream. The download only grants credit.

Results:
* `writeAll_worked`, `halfClose_worked`: what the calls on a stream queue.
* `upload_passed`, `download_worked`: what the two pumps put on the stream.
* `Splice.run_outcome`: what one run of a splice puts on its stream, and what it leaves.
-/
namespace SealedRelay

namespace Mux

variable {m m₁ m' : Mux} {h : Handle} {out out' : List Frame} {d : Deed}

/-- Frames none of which says that this side has ended. -/
def Unended (out : List Frame) : Prop :=
  ∀ f ∈ out, f.kind = .close → f.payload ≠ CloseReason.normal.encode

theorem unended_nil : Unended [] := nofun

theorem Unended.append (h : Unended out) (h' : Unended out') : Unended (out ++ out') :=
  List.forall_mem_append.2 ⟨h, h'⟩

theorem Unended.not_mem (h : Unended out) (id : StreamId) : closeFrame id .normal ∉ out :=
  fun hin => h _ hin rfl rfl

theorem Kept.trans (k : Kept m m₁ out) (k' : Kept m₁ m' out') : Kept m m' (out ++ out') where
  outbound hs := by rw [k'.outbound (k.sending.trans hs), k.outbound hs, List.append_assoc]
  role := k'.role.trans k.role
  config := k'.config.trans k.config
  failed := k'.failed.trans k.failed
  sending := k'.sending.trans k.sending

/-- `f` is a frame of the stream behind `h`. -/
def Own (m : Mux) (h : Handle) (f : Frame) : Prop := ∃ s, m.streams[h]? = some s ∧ s.id = f.stream

/-- The stream behind `h` takes turns, one after the other, that queue `out` together. -/
inductive Worked (m : Mux) (h : Handle) : List Frame → Mux → Prop where
  | refl : Worked m h [] m
  | turn {m₁ m' : Mux} {s s' : Stream} {d : Deed} {out out' : List Frame} (before : Worked m h out m₁)
      (stream : m₁.streams[h]? = some s) (turn : Turn m₁.role m₁.config s d out' s')
      (moved : Moved m₁ m' h out' s') (lasting : d ≠ .failed) : Worked m h (out ++ out') m'

namespace Worked

theorem trans (w : Worked m h out m₁) (w' : Worked m₁ h out' m') : Worked m h (out ++ out') m' := by
  induction w' with
  | refl => rwa [List.append_nil]
  | turn _ stream turn moved lasting ih =>
    rw [← List.append_assoc]
    exact .turn ih stream turn moved lasting

theorem sound (w : Worked m h out m') (hm : m.Sound) : m'.Sound := by
  induction w with
  | refl => exact hm
  | turn _ stream turn moved lasting ih => exact ih.turned ⟨stream, turn, moved, lasting⟩

theorem kept (w : Worked m h out m') : Kept m m' out := by
  induction w with
  | refl => exact .refl m
  | turn _ _ _ moved _ ih => exact ih.trans moved.toKept

theorem own (w : Worked m h out m') :
    (∀ f, m.Own h f → m'.Own h f) ∧ ∀ f ∈ out, m'.Own h f := by
  induction w with
  | refl => exact ⟨fun _ => id, nofun⟩
  | @turn m₁ m' s s' _ _ _ _ stream turn moved _ ih =>
    have keeps (f : Frame) (hf : m₁.Own h f) : m'.Own h f := by
      obtain ⟨t, ht, hid⟩ := hf
      obtain rfl := Option.some.inj (stream.symm.trans ht)
      exact ⟨s', moved.getElem?_self stream, turn.id_eq.trans hid⟩
    refine ⟨fun f hf => keeps f (ih.1 f hf), fun f hf => ?_⟩
    rcases List.mem_append.1 hf with hf | hf
    · exact keeps f (ih.2 f hf)
    · exact keeps f ⟨s, stream, (turn.out_stream f hf).1.symm⟩

/-- An operation that changes nothing or takes one turn. -/
theorem of_cases {P : List Frame → Prop} (hc : m' = m ∨ Turned m m' h d) (hnone : P [])
    (hturn : ∀ {s s' : Stream} {out : List Frame}, Turn m.role m.config s d out s' → P out) :
    ∃ out, Worked m h out m' ∧ P out := by
  rcases hc with rfl | ⟨stream, turn, moved, lasting⟩
  · exact ⟨[], .refl, hnone⟩
  · exact ⟨_, .turn .refl stream turn moved lasting, hturn turn⟩

end Worked

def Deed.Unending : Deed → Prop
  | .sent _ | .took _ => True
  | .aborted reason => reason ≠ .normal
  | _ => False

theorem Turn.unended {role : Role} {c : Config} {s s' : Stream} (t : Turn role c s d out s')
    (hd : d.Unending) : Unended out := by
  intro f hf hk
  cases t with
  | send => simp [(mem_dataFrames hf).1] at hk
  | take => exact absurd hf List.not_mem_nil
  | takeAndGrant =>
    obtain rfl := List.mem_singleton.1 hf
    cases hk
  | @abort reason =>
    obtain rfl := List.mem_singleton.1 hf
    intro he
    have hdecode := congrArg CloseReason.decode (show reason.encode = CloseReason.normal.encode from he)
    rw [CloseReason.decode_encode, CloseReason.decode_encode] at hdecode
    exact hd (Except.ok.inj hdecode)
  | accept | halfClose | expire | fail => exact hd.elim
  | data | excess | refusal | tear | finish | confirm | early | credit => exact hd.elim

/-! ## Calls -/

/-- What is sent of some bytes is on the stream, and the rest is left. -/
theorem send_worked (m : Mux) (h : Handle) (data : Bytes) :
    ∃ out, Worked m h out (m.send h data).2 ∧ Unended out ∧
      match (m.send h data).1 with
      | .ok n => bytesIn out = data.take n
      | .error _ => bytesIn out = [] := by
  rcases send_cases m h data with ⟨n, hn, stream, turn, moved, lasting⟩ | ⟨hsame, hzero⟩
  · rw [hn]
    exact ⟨_, .turn .refl stream turn moved lasting, turn.unended trivial, turn.bytes_out⟩
  · rw [hsame]
    refine ⟨[], .refl, unended_nil, ?_⟩
    split
    · rename_i n hn
      rw [hzero n hn, List.take_zero, bytesIn_nil]
    · rfl

/-- How far a write has come that has queued `out`. -/
inductive Written (data : Bytes) (out : List Frame) : WriteProgress → Prop where
  | all (sent : bytesIn out = data) : Written data out (.done (.ok ()))
  | partly {rest : Bytes} (sent : bytesIn out ++ rest = data) : Written data out (.waiting rest)
  | failed {e : LinkError} (nothing : bytesIn out = []) : Written data out (.done (.error e))

theorem writeAll_worked (m : Mux) (h : Handle) (data : Bytes) :
    ∃ out, Worked m h out (m.writeAll h data).2 ∧ Unended out ∧
      Written data out (m.writeAll h data).1 := by
  unfold writeAll
  split
  · rename_i hd
    exact ⟨[], .refl, unended_nil, .all hd.symm⟩
  obtain ⟨out, worked, unended, hbytes⟩ := send_worked m h data
  refine ⟨out, ?_⟩
  rcases hsend : m.send h data with ⟨e | n, m'⟩
  · rw [hsend] at worked hbytes
    have hnone : bytesIn out = [] := hbytes
    cases e with
    | windowExhausted => exact ⟨worked, unended, .partly (by rw [hnone, List.nil_append])⟩
    | _ => exact ⟨worked, unended, .failed hnone⟩
  · rw [hsend] at worked hbytes
    have hsent : bytesIn out = data.take n := hbytes
    refine ⟨worked, unended, ?_⟩
    dsimp only
    by_cases hrest : data.drop n = []
    · rw [if_pos hrest]
      exact .all (hsent.trans (List.take_of_length_le (List.drop_eq_nil_iff.1 hrest)))
    · rw [if_neg hrest]
      exact .partly (by rw [hsent, List.take_append_drop])

theorem read_worked (hm : m.Sound) (h : Handle) :
    ∃ out, Worked m h out (m.read h).2 ∧ Unended out ∧ bytesIn out = [] := by
  rcases read_cases hm h with ⟨_, -, stream, turn, moved, lasting⟩ | ⟨hsame, -⟩
  · exact ⟨_, .turn .refl stream turn moved lasting, turn.unended trivial, turn.bytes_out⟩
  · rw [hsame]
    exact ⟨[], .refl, unended_nil, rfl⟩

theorem abort_worked (hm : m.Sound) (h : Handle) :
    ∃ out, Worked m h out (m.abort h .reset) ∧ Unended out ∧ bytesIn out = [] :=
  Worked.of_cases (abort_cases hm h .reset) ⟨unended_nil, rfl⟩ fun turn =>
    ⟨turn.unended nofun, turn.bytes_out⟩

theorem halfClose_worked (hm : m.Sound) (h : Handle) :
    ∃ out, Worked m h out (m.halfClose h) ∧ bytesIn out = [] := by
  rcases halfClose_cases hm h with hsame | turn | turn
  · rw [hsame]
    exact ⟨[], .refl, rfl⟩
  · exact Worked.of_cases (.inr turn) rfl fun turn => turn.bytes_out
  · exact Worked.of_cases (.inr turn) rfl fun turn => turn.bytes_out

end Mux

/-! ## What is passed on -/

namespace Splice

open Mux

variable {m : Mux} {rest rest' rest'' : Bytes} {s s' s'' : Splice} {out out' : List Frame}

/-- What the splice has taken from the socket or can take, and has not put on the stream. -/
def left (s : Splice) : Bytes := s.up.pending ++ s.inbound.buffer

/-- A splice with `rest` still to be put on the stream has queued `out`. It is `s'` then, with `rest'`
still to come. Nothing is lost, and the upload only ends when the socket has ended and nothing is left. -/
structure Passed (rest : Bytes) (s : Splice) (out : List Frame) (rest' : Bytes) (s' : Splice) : Prop where
  handle : s'.handle = s.handle
  result : s'.result = s.result
  closed : s'.inbound.closed = s.inbound.closed
  kept : bytesIn out ++ rest' = rest
  ended : s'.up.ended = true → s.up.ended = true ∨ rest' = [] ∧ s.inbound.closed = true
  stays : s.up.ended = true → s'.up.ended = true
  closing : Unended out ∨ s'.up.ended = true

namespace Passed

/-- Some bytes may be put on the stream, but the upload does not end. -/
theorem partly (handle : s'.handle = s.handle) (result : s'.result = s.result)
    (closed : s'.inbound.closed = s.inbound.closed) (same : s'.up.ended = s.up.ended)
    (unended : Unended out) (kept : bytesIn out ++ rest' = rest) : Passed rest s out rest' s' where
  handle := handle
  result := result
  closed := closed
  kept := kept
  ended h := .inl (same ▸ h)
  stays h := same ▸ h
  closing := .inl unended

theorem refl (rest : Bytes) (s : Splice) : Passed rest s [] rest s :=
  .partly rfl rfl rfl rfl unended_nil rfl

theorem trans (h : Passed rest s out rest' s') (h' : Passed rest' s' out' rest'' s'') :
    Passed rest s (out ++ out') rest'' s'' where
  handle := h'.handle.trans h.handle
  result := h'.result.trans h.result
  closed := h'.closed.trans h.closed
  kept := by rw [bytesIn_append, List.append_assoc, h'.kept, h.kept]
  ended hup := by
    rcases h'.ended hup with hbefore | ⟨hrest, hclosed⟩
    · rcases h.ended hbefore with hfirst | ⟨hrest, hclosed⟩
      · exact .inl hfirst
      · have hkept := h'.kept
        rw [hrest, List.append_eq_nil_iff] at hkept
        exact .inr ⟨hkept.2, hclosed⟩
    · exact .inr ⟨hrest, h.closed ▸ hclosed⟩
  stays hup := h'.stays (h.stays hup)
  closing := by
    rcases h'.closing with unended' | hended
    · exact h.closing.imp (·.append unended') h'.stays
    · exact .inr hended

/-- Nothing is put on the stream, though some credit may be granted or the stream reset. -/
theorem quiet (unended : Unended out) (nothing : bytesIn out = []) (s : Splice) :
    Passed s.left s out s.left s :=
  .partly rfl rfl rfl rfl unended (by rw [nothing, List.nil_append])

end Passed

/-! ## Pumps -/

theorem upload_passed (hm : m.Sound) (s : Splice) :
    let z := upload s.handle s.up s.inbound m
    let s' : Splice := { s with up := z.2.1, inbound := z.2.2.1 }
    ∃ out, Worked m s.handle out z.2.2.2 ∧ Passed s.left s out s'.left s' := by
  induction hn : s.inbound.buffer.length using Nat.strongRecOn generalizing m s with
  | ind n ih =>
    obtain ⟨out, worked, unended, written⟩ := writeAll_worked m s.handle s.up.pending
    rw [upload]
    rcases hwrite : m.writeAll s.handle s.up.pending with ⟨progress, m₁⟩
    rw [hwrite] at worked written
    cases written with
    | failed nothing => exact ⟨out, worked, .quiet unended nothing s⟩
    | partly sent =>
      refine ⟨out, worked, .partly rfl rfl rfl rfl unended ?_⟩
      rw [left, left, ← List.append_assoc, sent]
    | all sent =>
      dsimp only
      split
      · rename_i hempty
        have hgone : bytesIn out ++ ([] ++ s.inbound.buffer) = s.left := by
          rw [hempty, List.append_nil, List.append_nil, sent, left, hempty, List.append_nil]
        split
        · exact ⟨out, worked, .partly rfl rfl rfl rfl unended hgone⟩
        split
        · rename_i hclosed
          obtain ⟨out', worked', nothing⟩ := halfClose_worked (worked.sound hm) s.handle
          refine ⟨out ++ out', worked.trans worked', rfl, rfl, rfl, ?_, fun _ => .inr ⟨hempty, hclosed⟩,
            fun _ => rfl, .inr rfl⟩
          rw [bytesIn_append, nothing, List.append_nil]
          exact hgone
        · exact ⟨out, worked, .partly rfl rfl rfl rfl unended hgone⟩
      · rename_i hmore
        have hless : (s.inbound.buffer.drop pieceSize).length < n := by
          have hpos := List.length_pos_iff.2 hmore
          simp only [List.length_drop, pieceSize]
          omega
        -- the next piece is pending
        let s₁ : Splice :=
          { s with
            up :=
              { s.up with
                pending := s.inbound.buffer.take pieceSize
                size := (s.inbound.buffer.take pieceSize).length
                moved := s.up.moved + s.up.size }
            inbound := { s.inbound with buffer := s.inbound.buffer.drop pieceSize } }
        have hpiece : s₁.left = s.inbound.buffer := List.take_append_drop _ _
        have hpassed : Passed s.left s out s₁.left s₁ :=
          .partly rfl rfl rfl rfl unended (by rw [hpiece, sent, left])
        obtain ⟨out', worked', hpassed'⟩ := ih _ hless (worked.sound hm) s₁ rfl
        exact ⟨out ++ out', worked.trans worked', hpassed.trans hpassed'⟩

/-- The download grants credit at most. -/
theorem download_worked (hm : m.Sound) (h : Mux.Handle) (n : Nat) (p : Pump) (outbound : Pipe) :
    ∃ out, Worked m h out (download h n p outbound m).2.2.2 ∧ Unended out ∧ bytesIn out = [] := by
  induction n generalizing m p outbound with
  | zero => exact ⟨[], .refl, unended_nil, rfl⟩
  | succ n ih =>
    obtain ⟨out, worked, unended, nothing⟩ := read_worked hm h
    rw [download]
    split
    · exact ⟨[], .refl, unended_nil, rfl⟩
    · exact ⟨[], .refl, unended_nil, rfl⟩
    dsimp only
    rcases hread : m.read h with ⟨_ | _ | _ | _, m₁⟩
    all_goals rw [hread] at worked
    · exact ⟨out, worked, unended, nothing⟩
    · obtain ⟨out', worked', unended', nothing'⟩ := ih (worked.sound hm) _ _
      refine ⟨out ++ out', worked.trans worked', unended.append unended', ?_⟩
      rw [bytesIn_append, nothing, nothing', List.append_nil]
    · exact ⟨out, worked, unended, nothing⟩
    · exact ⟨out, worked, unended, nothing⟩

/-! ## Runs -/

/-- What the splice has left is passed on in part, and then the splice may be over. -/
def Outcome (s : Splice) (out : List Frame) (s' : Splice) : Prop :=
  ∃ s₁, Passed s.left s out s₁.left s₁ ∧ (s' = s₁ ∨ ∃ r, s' = s₁.finish r)

theorem Outcome.going (h : Outcome s out s') (hr : s'.result.isSome = false) :
    Passed s.left s out s'.left s' := by
  obtain ⟨s₁, hpassed, rfl | ⟨r, rfl⟩⟩ := h
  · exact hpassed
  · cases hr

theorem Passed.outcome (h : Passed s.left s out s'.left s') (h' : Outcome s' out' s'') :
    Outcome s (out ++ out') s'' := by
  obtain ⟨s₁, hpassed, hend⟩ := h'
  exact ⟨s₁, h.trans hpassed, hend⟩

/-- A failure of a direction ends the splice, and its end only starts the clock. -/
theorem rested_outcome (hm : m.Sound) (s : Splice) (now : Nat) (r : Pump.Rest) :
    let z := s.rested now r m
    ∃ out, Worked m s.handle out z.2 ∧ Outcome s out z.1 := by
  cases r with
  | waiting => exact ⟨[], .refl, s, .refl _ s, .inl rfl⟩
  | ended =>
    exact ⟨[], .refl, (s.rested now .ended m).1, .partly rfl rfl rfl rfl unended_nil rfl, .inl rfl⟩
  | failed e =>
    obtain ⟨out, worked, unended, nothing⟩ := abort_worked hm s.handle
    exact ⟨out, worked, s, .quiet unended nothing s, .inr ⟨_, rfl⟩⟩

theorem runUp_outcome (hm : m.Sound) (s : Splice) (now : Nat) :
    let z := s.runUp now m
    ∃ out, Worked m s.handle out z.2 ∧ Outcome s out z.1 := by
  intro z
  by_cases hstop : s.result.isSome ∨ s.up.ended
  · rw [show z = (s, m) from if_pos hstop]
    exact ⟨[], .refl, s, .refl _ s, .inl rfl⟩
  obtain ⟨out, worked, hpassed⟩ := upload_passed hm s
  rcases hup : upload s.handle s.up s.inbound m with ⟨r, up, inbound, m₁⟩
  rw [hup] at worked hpassed
  have hz : z = { s with up, inbound }.rested now r m₁ := by
    simp only [z, runUp, if_neg hstop, hup]
  obtain ⟨out', worked', outcome⟩ := rested_outcome (worked.sound hm) { s with up, inbound } now r
  rw [hz]
  exact ⟨out ++ out', worked.trans worked', hpassed.outcome outcome⟩

theorem runDown_outcome (hm : m.Sound) (s : Splice) (n now : Nat) :
    let z := s.runDown n now m
    ∃ out, Worked m s.handle out z.2 ∧ Outcome s out z.1 := by
  intro z
  by_cases hstop : s.result.isSome ∨ s.down.ended
  · rw [show z = (s, m) from if_pos hstop]
    exact ⟨[], .refl, s, .refl _ s, .inl rfl⟩
  obtain ⟨out, worked, unended, nothing⟩ := download_worked hm s.handle n s.down s.outbound
  rcases hdown : download s.handle n s.down s.outbound m with ⟨r, down, outbound, m₁⟩
  rw [hdown] at worked
  have hz : z = { s with down, outbound }.rested now r m₁ := by
    simp only [z, runDown, if_neg hstop, hdown]
  have hpassed : Passed s.left s out { s with down, outbound : Splice }.left { s with down, outbound } :=
    .partly rfl rfl rfl rfl unended (by rw [nothing]; rfl)
  obtain ⟨out', worked', outcome⟩ := rested_outcome (worked.sound hm) { s with down, outbound } now r
  rw [hz]
  exact ⟨out ++ out', worked.trans worked', hpassed.outcome outcome⟩

theorem conclude_outcome (hm : m.Sound) (s : Splice) (now : Nat) :
    let z := s.conclude now m
    ∃ out, Worked m s.handle out z.2 ∧ Outcome s out z.1 := by
  dsimp only
  unfold conclude
  split
  · exact ⟨[], .refl, s, .refl _ s, .inl rfl⟩
  split
  · exact ⟨[], .refl, s, .refl _ s, .inr ⟨_, rfl⟩⟩
  split
  · obtain ⟨out, worked, unended, nothing⟩ := abort_worked hm s.handle
    exact ⟨out, worked, s, .quiet unended nothing s, .inr ⟨_, rfl⟩⟩
  · exact ⟨[], .refl, s, .refl _ s, .inl rfl⟩

/-- One part of a run comes after another, and does nothing if the splice is over. -/
theorem Outcome.next {y z : Splice × Mux} (outcome : Outcome s out y.1) (worked : Worked m s.handle out y.2)
    (stops : y.1.result.isSome = true → z = y)
    (next : ∃ out', Worked y.2 y.1.handle out' z.2 ∧ Outcome y.1 out' z.1) :
    ∃ out, Worked m s.handle out z.2 ∧ Outcome s out z.1 := by
  cases hstop : y.1.result.isSome with
  | true =>
    rw [stops hstop]
    exact ⟨out, worked, outcome⟩
  | false =>
    have hpassed := outcome.going hstop
    obtain ⟨out', worked', outcome'⟩ := next
    rw [hpassed.handle] at worked'
    exact ⟨out ++ out', worked.trans worked', hpassed.outcome outcome'⟩

/-- One run of a splice. -/
theorem run_outcome (hm : m.Sound) (s : Splice) (now : Nat) :
    let z := s.run now m
    ∃ out, Worked m s.handle out z.2 ∧ Outcome s out z.1 := by
  let y := s.runUp now m
  let z := y.1.runDown (y.1.chunks y.2) now y.2
  obtain ⟨_, workedUp, up⟩ := runUp_outcome hm s now
  have hy : y.2.Sound := workedUp.sound hm
  obtain ⟨_, workedDown, down⟩ := up.next workedUp (z := z) (fun hstop => if_pos (.inl hstop))
    (runDown_outcome hy y.1 _ now)
  exact down.next workedDown (fun hstop => if_pos hstop)
    (conclude_outcome (workedDown.sound hm) z.1 now)

end Splice

end SealedRelay
