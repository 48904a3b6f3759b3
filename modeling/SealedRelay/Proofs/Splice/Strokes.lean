import SealedRelay.Proofs.Mux.Closing
import SealedRelay.Proofs.Mux.Tenant
import SealedRelay.Proofs.Mux.WriteAll
import SealedRelay.Proofs.Splice.Pumps

/-!
# What each pump does before it rests

A pump takes pieces from its source and puts them into its sink until it has to wait, it ends or it fails.
Here a whole stroke of it is told: what it took, what it passed on and what it still holds, how its counter
moved, and what became of the stream.

Results:
* `Pump.Carried`: what it took is what it passed on and what it holds, and its counter agrees.
* `abort_aborted`, `halfClose_halfClosed`: how it ends its stream.
* `upload_uploaded`: the upload sends, and half-closes the stream if it ends.
* `download_downloaded`: the download reads, and ends when there is nothing more to come.
-/
namespace SealedRelay

open Mux

variable {m m₁ m' : Mux} {h : Mux.Handle} {s s' s'' : Mux.Stream} {p p' p'' : Pump} {i o : Pipe}
  {taken taken' passed passed' : Bytes} {out out' : List Frame}

/-! ## Counting -/

/-- A pump that takes `taken` and passes on `passed`. What it holds is part of the piece that it counts once
all of it has been passed on. -/
structure Pump.Carried (p : Pump) (taken passed : Bytes) (p' : Pump) : Prop where
  bytes : passed ++ p'.pending = p.pending ++ taken
  count : p'.moved + p'.size = p.moved + p.size + taken.length
  fits : p.pending.length ≤ p.size → p'.pending.length ≤ p'.size

namespace Pump.Carried

theorem refl (p : Pump) : Carried p [] [] p where
  bytes := by simp
  count := rfl
  fits := id

theorem trans (a : Carried p taken passed p') (b : Carried p' taken' passed' p'') :
    Carried p (taken ++ taken') (passed ++ passed') p'' where
  bytes := by rw [List.append_assoc, b.bytes, ← List.append_assoc, a.bytes, List.append_assoc]
  count := by rw [b.count, a.count, List.length_append, Nat.add_assoc]
  fits := b.fits ∘ a.fits

theorem partly {rest : Bytes} (hsplit : passed ++ rest = p.pending) :
    Carried p [] passed { p with pending := rest } where
  bytes := by rw [hsplit, List.append_nil]
  count := rfl
  fits hfits := by
    have hlength := congrArg List.length hsplit
    rw [List.length_append] at hlength
    show rest.length ≤ p.size
    omega

theorem all (p : Pump) :
    Carried p [] p.pending { p with pending := [], size := 0, moved := p.moved + p.size } where
  bytes := rfl
  count := rfl
  fits _ := Nat.le_refl 0

/-- All of what it holds is passed on, and it takes the next piece. -/
theorem next (p : Pump) (piece : Bytes) :
    Carried p piece p.pending
      { p with pending := piece, size := piece.length, moved := p.moved + p.size } where
  bytes := rfl
  count := rfl
  fits _ := Nat.le_refl _

theorem ended (a : Carried p taken passed p') : Carried p taken passed { p' with ended := true } :=
  { a with }

end Pump.Carried

/-! ## Ends of the stream -/

namespace Mux

theorem Going.worked {c : Config} (hm : Going c m) (w : Worked m h out m') : Going c m' where
  sound := w.sound hm.sound
  config := w.kept.config.trans hm.config
  sending := w.kept.sending.trans hm.sending

/-- `s'` is `s` after it has been reset, which queued `out`. -/
structure Stream.Aborted (s s' : Stream) (out : List Frame) : Prop where
  next : s.Next s'
  closed : s'.phase = .closed
  aside : s.Aside s' []
  unended : Unended out
  silent : bytesIn out = []

theorem abort_aborted (hm : m.Sound) (hs : m.streams[h]? = some s) :
    ∃ s' out, Worked m h out (m.abort h .reset) ∧ (m.abort h .reset).streams[h]? = some s' ∧
      s.Aborted s' out := by
  obtain ⟨out, worked, unended, silent⟩ := abort_worked hm h
  obtain ⟨s', hs', aside⟩ := abort_aside hm hs h .reset
  obtain ⟨s₁, hs₁, next⟩ := step_moves hm (.call (.abort h .reset)) h s hs
  obtain rfl := Option.some.inj (hs'.symm.trans hs₁)
  have closed := phase_abort hm h .reset
  rw [stream_of_getElem? hs'] at closed
  exact ⟨s', out, worked, hs', next, closed, aside, unended, silent⟩

/-- `s'` is `s` after its user has ended this side's direction, which queued `out`. If the stream does not
fail by that, the other side is told so. -/
structure Stream.HalfClosed (s s' : Stream) (out : List Frame) : Prop where
  next : s.Next s'
  silent : bytesIn out = []
  mute : s'.phase = .localClosing ∨ s'.phase = .closed
  remoteClosed : s'.remoteClosed = s.remoteClosed
  failure : s'.failure = none → s.failure = none
  kept : s'.failure = none → s'.inbox = s.inbox
  inbox : s'.inbox.flatten <+: s.inbox.flatten
  told : s'.failure = none → s.localClosed = false → out = [closeFrame s.id .normal]

/-- A stream that cannot send and has not failed has been ended by this side. -/
theorem Stream.Shape.localClosed_of_mute (shape : s.Shape) (mute : s.phase = .localClosing ∨ s.phase = .closed)
    (hf : s.failure = none) : s.localClosed = true := by
  unfold Stream.Shape at shape
  rcases mute with hp | hp
  · simp only [hp] at shape
    exact shape.1
  · simp only [hp] at shape
    exact (shape.1 hf).1

theorem halfClose_halfClosed (hm : m.Sound) (hs : m.streams[h]? = some s) :
    ∃ s' out, Worked m h out (m.halfClose h) ∧ (m.halfClose h).streams[h]? = some s' ∧
      s.HalfClosed s' out := by
  obtain ⟨s', hs', next⟩ := step_moves hm (.call (.halfClose h)) h s hs
  have hs' : (m.halfClose h).streams[h]? = some s' := hs'
  have mute := phase_halfClose hm h
  rw [stream_of_getElem? hs'] at mute
  rcases halfClose_cases hm h with hsame | ⟨stream, turn, moved, lasting⟩ | ⟨stream, turn, moved, lasting⟩
  · rw [hsame] at hs' ⊢
    obtain rfl := Option.some.inj (hs.symm.trans hs')
    have shape := (hm.stream_sound hs).shape
    refine ⟨s, [], .refl, hs, next, rfl, mute, rfl, fun hf => hf, fun _ => rfl, List.prefix_rfl,
      fun hf hopen => ?_⟩
    rw [shape.localClosed_of_mute mute hf] at hopen
    cases hopen
  · obtain rfl := Option.some.inj (hs.symm.trans stream)
    have worked : Worked m h _ (m.halfClose h) := .turn .refl stream turn moved lasting
    obtain rfl := Option.some.inj (hs'.symm.trans (moved.getElem?_self hs))
    have silent := turn.bytes_out
    refine ⟨_, _, worked, hs', ?_⟩
    cases turn with
    | halfClose => exact ⟨next, silent, mute, rfl, fun hf => hf, fun _ => rfl, List.prefix_rfl, fun _ _ => rfl⟩
  · obtain rfl := Option.some.inj (hs.symm.trans stream)
    have worked : Worked m h _ (m.halfClose h) := .turn .refl stream turn moved lasting
    obtain rfl := Option.some.inj (hs'.symm.trans (moved.getElem?_self hs))
    have silent := turn.bytes_out
    refine ⟨_, _, worked, hs', ?_⟩
    cases turn with
    | abort =>
      have failed := Stream.failure_terminated_ne_none s (.streamClosed s.id)
      refine ⟨next, silent, mute, Stream.remoteClosed_terminated _ _, fun hf => absurd hf failed,
        fun hf => absurd hf failed, ?_, fun hf => absurd hf failed⟩
      rw [Stream.inbox_terminated]
      exact List.nil_prefix

end Mux

/-! ## The upload -/

namespace Mux

/-- `m₁` is `m` after sends on the stream behind `h`, which queued `out`. They have only used up credit. -/
structure Sent (m : Mux) (h : Handle) (out : List Frame) (m₁ : Mux) : Prop where
  worked : Worked m h out m₁
  unended : Unended out
  stream : ∀ s, m.streams[h]? = some s → ∃ w, m₁.streams[h]? = some { s with sendWindow := w }

theorem Sent.trans (a : Sent m h out m₁) (b : Sent m₁ h out' m') : Sent m h (out ++ out') m' where
  worked := a.worked.trans b.worked
  unended := a.unended.append b.unended
  stream s hs := by
    obtain ⟨w, hs₁⟩ := a.stream s hs
    obtain ⟨w', hs'⟩ := b.stream _ hs₁
    exact ⟨w', hs'⟩

theorem send_stream (hs : m.streams[h]? = some s) (data : Bytes) :
    ∃ w, (m.send h data).2.streams[h]? = some { s with sendWindow := w } := by
  rcases send_cases m h data with ⟨_, -, stream, turn, moved, -⟩ | ⟨hsame, -⟩
  · obtain rfl := Option.some.inj (hs.symm.trans stream)
    cases turn
    exact ⟨_, moved.getElem?_self hs⟩
  · exact ⟨s.sendWindow, hsame.symm ▸ hs⟩

theorem writeAll_sent (m : Mux) (h : Handle) (data : Bytes) :
    ∃ out, Sent m h out (m.writeAll h data).2 ∧ Written data out (m.writeAll h data).1 := by
  obtain ⟨out, worked, unended, written⟩ := writeAll_worked m h data
  refine ⟨out, ⟨worked, unended, fun s hs => ?_⟩, written⟩
  rw [writeAll_snd]
  split
  · exact ⟨s.sendWindow, hs⟩
  · rw [step, Call.run, noteSent_snd]
    exact send_stream hs data

end Mux

namespace Splice

/-- The upload took `taken` from its pipe, sent `out` and came to rest with `z`. If it ended, it half-closed
the stream as it was then. -/
structure Uploaded (h : Mux.Handle) (p : Pump) (i : Pipe) (m : Mux) (taken : Bytes) (out : List Frame)
    (m₁ : Mux) (z : Pump.Rest × Pump × Pipe × Mux) : Prop where
  sent : Sent m h out m₁
  carried : p.Carried taken (bytesIn out) z.2.1
  buffer : i.buffer = taken ++ z.2.2.1.buffer
  closed : z.2.2.1.closed = i.closed
  rest : (z.1 = .ended ∧ z.2.1.ended = true ∧ z.2.1.pending = [] ∧ z.2.1.size = 0 ∧ z.2.2.1.buffer = [] ∧
      i.closed = true ∧ z.2.2.2 = m₁.halfClose h) ∨
    (z.1 ≠ .ended ∧ z.2.1.ended = p.ended ∧ z.2.2.2 = m₁)

theorem upload_uploaded (h : Mux.Handle) (p : Pump) (i : Pipe) (m : Mux) :
    ∃ taken out m₁, Uploaded h p i m taken out m₁ (upload h p i m) := by
  fun_induction upload h p i m with
  | case1 p i m rest m₁ hwrite =>
    obtain ⟨out, sent, written⟩ := writeAll_sent m h p.pending
    rw [hwrite] at sent written
    cases written with
    | partly hsplit => exact ⟨[], out, m₁, sent, .partly hsplit, rfl, rfl, .inr ⟨nofun, rfl, rfl⟩⟩
  | case2 p i m e m₁ hwrite =>
    obtain ⟨out, sent, written⟩ := writeAll_sent m h p.pending
    rw [hwrite] at sent written
    cases written with
    | failed nothing => exact ⟨[], out, m₁, sent, nothing ▸ .refl p, rfl, rfl, .inr ⟨nofun, rfl, rfl⟩⟩
  | case3 p i m m₁ hwrite p' hempty e hfault =>
    obtain ⟨out, sent, written⟩ := writeAll_sent m h p.pending
    rw [hwrite] at sent written
    cases written with
    | all hall => exact ⟨[], out, m₁, sent, hall ▸ .all p, rfl, rfl, .inr ⟨nofun, rfl, rfl⟩⟩
  | case4 p i m m₁ hwrite p' hempty hfault hclosed =>
    obtain ⟨out, sent, written⟩ := writeAll_sent m h p.pending
    rw [hwrite] at sent written
    cases written with
    | all hall =>
      exact ⟨[], out, m₁, sent, hall ▸ (Pump.Carried.all p).ended, rfl, rfl,
        .inl ⟨rfl, rfl, rfl, rfl, hempty, hclosed, rfl⟩⟩
  | case5 p i m m₁ hwrite p' hempty hfault hopen =>
    obtain ⟨out, sent, written⟩ := writeAll_sent m h p.pending
    rw [hwrite] at sent written
    cases written with
    | all hall => exact ⟨[], out, m₁, sent, hall ▸ .all p, rfl, rfl, .inr ⟨nofun, rfl, rfl⟩⟩
  | case6 p i m m₁ hwrite p' hmore piece ih =>
    obtain ⟨out, sent, written⟩ := writeAll_sent m h p.pending
    rw [hwrite] at sent written
    cases written with
    | all hall =>
      obtain ⟨taken, out', m₂, sent', carried, buffer, closed, rest⟩ := ih
      have loaded := Pump.Carried.next p piece
      rw [← hall] at loaded
      refine ⟨piece ++ taken, out ++ out', m₂, sent.trans sent', ?_, ?_, closed, rest⟩
      · rw [bytesIn_append]
        exact loaded.trans carried
      · rw [List.append_assoc, ← buffer]
        exact (List.take_append_drop pieceSize i.buffer).symm

/-! ## The download -/

/-- `s'` is `s` after reads that returned `got`. They have only changed what waits to be read, and credit. -/
structure Drawn (got : Bytes) (s s' : Mux.Stream) : Prop where
  id : s'.id = s.id
  phase : s'.phase = s.phase
  localClosed : s'.localClosed = s.localClosed
  remoteClosed : s'.remoteClosed = s.remoteClosed
  failure : s'.failure = s.failure
  inbox : s.inbox.flatten = got ++ s'.inbox.flatten

theorem Drawn.refl (s : Mux.Stream) : Drawn [] s s := ⟨rfl, rfl, rfl, rfl, rfl, rfl⟩

theorem Drawn.trans (a : Drawn taken s s') (b : Drawn taken' s' s'') : Drawn (taken ++ taken') s s'' where
  id := b.id.trans a.id
  phase := b.phase.trans a.phase
  localClosed := b.localClosed.trans a.localClosed
  remoteClosed := b.remoteClosed.trans a.remoteClosed
  failure := b.failure.trans a.failure
  inbox := by rw [List.append_assoc, ← b.inbox, a.inbox]

theorem read_same (hm : m.Sound) {r : Except LinkError ReadOutcome} (hread : m.read h = (r, m₁))
    (hnone : ∀ c, r ≠ .ok (.chunk c)) : m₁ = m := by
  rcases read_cases hm h with ⟨c, hc, -⟩ | ⟨hsame, -⟩
  · rw [hread] at hc
    exact absurd hc (hnone c)
  · rwa [hread] at hsame

theorem read_drawn (hm : m.Sound) {c : Bytes} (hc : (m.read h).1 = .ok (.chunk c))
    (hs : m.streams[h]? = some s) : ∃ s', (m.read h).2.streams[h]? = some s' ∧ Drawn c s s' := by
  rcases read_cases hm h with ⟨c', hc', stream, turn, moved, -⟩ | ⟨-, hnone⟩
  · obtain rfl := Option.some.inj (hs.symm.trans stream)
    cases hc.symm.trans hc'
    refine ⟨_, moved.getElem?_self hs, ?_⟩
    cases turn with
    | take inbox | takeAndGrant inbox =>
      exact ⟨rfl, rfl, rfl, rfl, rfl, by rw [inbox, List.flatten_cons]⟩
  · exact absurd hc (hnone c)

/-- A write puts the front of what a pump holds into the pipe. -/
theorem write_split {rest : Bytes} {o' : Pipe}
    (hw : (if p.pending = [] then .ok ([], o) else o.write p.pending) = .ok (rest, o')) :
    ∃ passed, passed ++ rest = p.pending ∧ o'.buffer = o.buffer ++ passed := by
  split at hw
  · rename_i hempty
    cases hw
    exact ⟨[], hempty.symm, (List.append_nil _).symm⟩
  · unfold Pipe.write at hw
    split at hw
    · cases hw
    split at hw
    · cases hw
    · cases hw
      exact ⟨_, List.take_append_drop _ _, rfl⟩

theorem write_all {o' : Pipe} (hw : (if p.pending = [] then .ok ([], o) else o.write p.pending) = .ok ([], o')) :
    o'.buffer = o.buffer ++ p.pending := by
  obtain ⟨passed, hsplit, hbuffer⟩ := write_split hw
  rw [hbuffer, ← hsplit, List.append_nil]

/-- The download read `got` from the stream, wrote `passed` to its pipe and came to rest with `z`. If it ended
there is nothing more to come. -/
structure Downloaded (h : Mux.Handle) (p : Pump) (o : Pipe) (m : Mux) (got passed : Bytes) (out : List Frame)
    (z : Pump.Rest × Pump × Pipe × Mux) : Prop where
  worked : Worked m h out z.2.2.2
  unended : Unended out
  silent : bytesIn out = []
  stream : ∀ s, m.streams[h]? = some s → ∃ s', z.2.2.2.streams[h]? = some s' ∧ Drawn got s s'
  carried : p.Carried got passed z.2.1
  buffer : z.2.2.1.buffer = o.buffer ++ passed
  rest : (z.1 = .ended ∧ z.2.1.ended = true ∧ z.2.1.pending = [] ∧ z.2.1.size = 0 ∧
      ∀ s', z.2.2.2.streams[h]? = some s' → s'.inbox = [] ∧ s'.failure = none ∧ s'.remoteClosed = true) ∨
    (z.1 ≠ .ended ∧ z.2.1.ended = p.ended)

theorem download_downloaded (hm : m.Sound) (h : Mux.Handle) (n : Nat) (p : Pump) (o : Pipe) :
    ∃ got passed out, Downloaded h p o m got passed out (download h n p o m) := by
  have unmoved (m : Mux) (s : Mux.Stream) (hs : m.streams[h]? = some s) :
      ∃ s', m.streams[h]? = some s' ∧ Drawn [] s s' := ⟨s, hs, .refl s⟩
  fun_induction download h n p o m with
  | case1 p o m =>
    exact ⟨[], [], [], .refl, unended_nil, rfl, unmoved m, .refl p, (List.append_nil _).symm,
      .inr ⟨nofun, rfl⟩⟩
  | case2 n p o m e hwrite =>
    exact ⟨[], [], [], .refl, unended_nil, rfl, unmoved m, .refl p, (List.append_nil _).symm,
      .inr ⟨nofun, rfl⟩⟩
  | case3 n p o m b rest o' hwrite =>
    obtain ⟨passed, hsplit, hbuffer⟩ := write_split hwrite
    exact ⟨[], passed, [], .refl, unended_nil, rfl, unmoved m, .partly hsplit, hbuffer, .inr ⟨nofun, rfl⟩⟩
  | case4 n p o m o' hwrite p' e m₁ hread =>
    obtain rfl := read_same hm hread nofun
    exact ⟨[], p.pending, [], .refl, unended_nil, rfl, unmoved m₁, .all p, write_all hwrite, .inr ⟨nofun, rfl⟩⟩
  | case5 n p o m o' hwrite p' m₁ hread =>
    obtain rfl := read_same hm hread nofun
    exact ⟨[], p.pending, [], .refl, unended_nil, rfl, unmoved m₁, .all p, write_all hwrite, .inr ⟨nofun, rfl⟩⟩
  | case6 n p o m o' hwrite p' m₁ hread =>
    obtain rfl := read_same hm hread nofun
    have last (s : Mux.Stream) (hs : m₁.streams[h]? = some s) :
        s.inbox = [] ∧ s.failure = none ∧ s.remoteClosed = true := read_eof hs (congrArg Prod.fst hread)
    have buffer : o'.buffer = o.buffer ++ p.pending := write_all hwrite
    exact ⟨[], p.pending, [], .refl, unended_nil, rfl, unmoved m₁, (Pump.Carried.all p).ended, buffer,
      .inl ⟨rfl, rfl, rfl, rfl, last⟩⟩
  | case7 n p o m o' hwrite p' c m₁ hread ih =>
    obtain ⟨out, worked, unended, silent⟩ := read_worked hm h
    rw [hread] at worked
    obtain ⟨got, passed, out', worked', unended', silent', stream, carried, buffer, rest⟩ :=
      ih (worked.sound hm)
    refine ⟨c ++ got, p.pending ++ passed, out ++ out', worked.trans worked', unended.append unended', ?_,
      fun s hs => ?_, (Pump.Carried.next p c).trans carried, ?_, rest⟩
    · rw [bytesIn_append, silent, silent', List.append_nil]
    · obtain ⟨s₁, hs₁, drawn⟩ := read_drawn hm (congrArg Prod.fst hread) hs
      rw [hread] at hs₁
      obtain ⟨s', hs', drawn'⟩ := stream s₁ hs₁
      exact ⟨s', hs', drawn.trans drawn'⟩
    · rw [buffer, write_all hwrite, List.append_assoc]

end Splice

end SealedRelay
