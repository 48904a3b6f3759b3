import Mathlib.Data.List.Basic
import SealedRelay.Proofs.Mux.Alone

/-!
# What is left when a connection has failed

A multiplexer whose connection has failed has no live streams and sends nothing. Whatever frames still
reach it change nothing, and of its program's calls only one still finds something to do: reading takes
what had arrived on a stream before.

Results:
* `Over.receive`: frames change nothing.
* `Over.call`: of the calls only reads change a stream.
* `Over.read`: a read takes the next chunk, and changes nothing else that can be told.
* `Over.step`: so after any event; no stream comes to life again.
-/
namespace SealedRelay.Mux

/-- The stream from which an event reads, if it is a read. -/
def Event.reads : Event → Option Handle
  | .call (.read h) => some h
  | _ => none

theorem step_of_reads (m : Mux) {e : Event} {h : Handle} (hr : e.reads = some h) :
    m.step e = (m.read h).2 := by
  unfold Event.reads at hr
  split at hr
  · obtain rfl := Option.some.inj hr
    exact noteRead_snd _ _
  · cases hr

/-- `s'` is `s` with `inbox` still to be read, and perhaps with other credit. -/
def Stream.Left (s : Stream) (inbox : List Bytes) (s' : Stream) : Prop :=
  ∃ credit allowance,
    s' = { s with inbox, pendingCredit := credit, recvAllowance := allowance }

/-- What a reader of a closed stream is told when it has read all that had arrived. -/
def Stream.ending (s : Stream) : Except LinkError ReadOutcome :=
  match s.failure with
  | some e => .error e
  | none => .ok .eof

theorem Stream.left_self (s : Stream) : s.Left s.inbox s := ⟨_, _, rfl⟩

theorem Stream.Left.trans {s s' s'' : Stream} {inbox inbox' : List Bytes} (h : s.Left inbox s')
    (h' : s'.Left inbox' s'') : s.Left inbox' s'' := by
  obtain ⟨credit, allowance, rfl⟩ := h
  obtain ⟨credit', allowance', rfl⟩ := h'
  exact ⟨credit', allowance', rfl⟩

/-- A multiplexer whose connection has failed and whose frames nobody sends. -/
structure Over (m : Mux) : Prop where
  sound : m.Sound
  failed : m.failed.isSome = true
  silent : m.sending = false

namespace Over

variable {m : Mux} {h : Handle} {s : Stream}

theorem table (ho : m.Over) : m.table = [] := ho.sound.failed ho.failed

theorem lookup (ho : m.Over) (id : StreamId) : m.lookup id = none := by
  rw [Mux.lookup, ho.table, List.lookup_nil]

theorem phase (ho : m.Over) (h : Handle) : (m.stream h).phase = .closed := by
  cases hs : m.streams[h]? with
  | none => rw [stream_of_length_le hs, Stream.absent]
  | some s => rw [stream_of_getElem? hs, ho.sound.phase_of_failed ho.failed hs]

theorem emitAll (ho : m.Over) (fs : List Frame) : m.emitAll fs = m := by
  simp [Mux.emitAll, ho.silent]

/-! ## Calls -/

theorem abort (ho : m.Over) (h : Handle) (reason : CloseReason) : m.abort h reason = m := by
  simp [Mux.abort, ho.phase h]

theorem halfClose (ho : m.Over) (h : Handle) : m.halfClose h = m := by
  simp [Mux.halfClose, ho.phase h]

theorem accept (ho : m.Over) (h : Handle) : (m.accept h).2 = m := by
  simp [Mux.accept, ho.phase h]

theorem expireOpen (ho : m.Over) (h : Handle) : (m.expireOpen h).2 = m := by
  simp only [Mux.expireOpen, ho.phase h]
  split <;> rfl

theorem send (ho : m.Over) (h : Handle) (data : Bytes) : (m.send h data).2 = m := by
  have hp : (m.stream h).phase ≠ .open_ ∧ (m.stream h).phase ≠ .remoteClosing := by
    simp [ho.phase h]
  simp only [Mux.send, if_pos hp]
  split <;> rfl

theorem failAll (ho : m.Over) (e : LinkError) : m.failAll e = m := by
  obtain ⟨e', he'⟩ := Option.isSome_iff_exists.1 ho.failed
  have hkept : (m.failed <|> some e) = m.failed := by rw [he']; rfl
  simp only [Mux.failAll, ho.table, List.map_nil, List.foldl_nil, hkept]
  rw [← ho.table]

theorem openStream (ho : m.Over) (d : Destination) : (m.openStream d).2 = m := by
  obtain ⟨e, he⟩ := Option.isSome_iff_exists.1 ho.failed
  unfold Mux.openStream
  split
  · rfl
  split
  · rfl
  · rw [he]

/-- A caller that asks for a stream to a destination that can be sent is told that there is none. -/
theorem openStream_unavailable (ho : m.Over) {d : Destination} {payload : Bytes}
    (hd : d.encode = .ok payload) : ∃ text, (m.openStream d).1 = .error (.unavailable text) := by
  obtain ⟨e, he⟩ := Option.isSome_iff_exists.1 ho.failed
  unfold Mux.openStream
  cases m.role with
  | responder => exact ⟨_, rfl⟩
  | initiator =>
    rw [hd, he]
    exact ⟨_, rfl⟩

/-- Of the calls only reads change a stream. -/
theorem call (ho : m.Over) {c : Call} (hc : ∀ h, c ≠ .read h) :
    ∃ incoming listening, (c.run m).2 = { m with incoming, listening } := by
  have same {m' : Mux} (h : m' = m) : ∃ incoming listening, m' = { m with incoming, listening } :=
    ⟨m.incoming, m.listening, h⟩
  cases c with
  | read h => exact absurd rfl (hc h)
  | openStream d => exact same (ho.openStream d)
  | expireOpen h =>
    refine same ?_
    simp only [Call.run]
    split
    · exact ho.expireOpen h
    · rfl
  | accept h =>
    refine same ?_
    simp only [Call.run]
    split
    · exact ho.accept h
    · rfl
  | send h data => exact same ((noteSent_snd _ _ _).trans (ho.send h data))
  | sendTo id data =>
    refine same ((noteSent_snd _ _ _).trans ?_)
    simp only [sendTo, ho.lookup id]
  | halfClose h => exact same (ho.halfClose h)
  | abort h reason => exact same (ho.abort h reason)
  | closeStream id reason =>
    refine same ?_
    simp only [Call.run, closeStream, ho.lookup id]
  | dropHandle h => exact same (ho.abort h .reset)
  | nextIncoming =>
    simp only [Call.run, nextIncoming]
    split
    · exact ⟨_, _, rfl⟩
    · exact same rfl
  | dropIncoming =>
    have hdropped : Over { m with incoming := [], listening := false } :=
      { ho with sound := { ho.sound with } }
    exact ⟨[], false, List.foldl_fixed' (fun h => hdropped.abort h .reset) _⟩
  | ping => exact same (ho.emitAll _)
  | failAll e => exact same (ho.failAll e)

/-- A read takes the next chunk of its stream, if there is one. -/
theorem read (ho : m.Over) (hs : m.streams[h]? = some s) :
    ∃ s', s.Left s.inbox.tail s' ∧ (m.read h).2 = { m with streams := m.streams.set h s' } := by
  have modified {f : Stream → Stream} {t : Stream} (hf : f s = t) :
      m.modify h f = { m with streams := m.streams.set h t } :=
    congrArg (fun streams => { m with streams }) ((Edited.refl hs).modify hf).streams
  simp only [Mux.read, stream_of_getElem? hs]
  split
  · rename_i chunk rest hi
    rw [hi]
    split
    · rw [emitAck, Mux.emit, Mux.emitAll, if_neg (by simp [Mux.modify, ho.silent])]
      exact ⟨_, ⟨_, _, rfl⟩, modified rfl⟩
    · exact ⟨_, ⟨_, _, rfl⟩, modified rfl⟩
  · rename_i hi
    have hsame : m = { m with streams := m.streams.set h s } := by
      rw [← (Edited.refl hs).streams]
    have hleft : s.Left s.inbox.tail s := by
      rw [hi, List.tail_nil, ← hi]
      exact s.left_self
    refine ⟨s, hleft, ?_⟩
    rw [← hsame]
    split
    · rfl
    split
    · rfl
    split <;> rfl

theorem read_of_cons (hs : m.streams[h]? = some s) {chunk : Bytes} {rest : List Bytes}
    (hi : s.inbox = chunk :: rest) : (m.read h).1 = .ok (.chunk chunk) := by
  simp only [Mux.read, stream_of_getElem? hs, hi]
  split <;> rfl

/-- When everything has been read, the reader is told how the stream ended. -/
theorem read_of_nil (ho : m.Over) (hs : m.streams[h]? = some s) (hi : s.inbox = []) :
    (m.read h).1 = s.ending := by
  simp only [Mux.read, stream_of_getElem? hs, hi]
  cases hf : s.failure with
  | some e => simp only [Stream.ending, hf]
  | none =>
    have hphase := ho.sound.phase_of_failed ho.failed hs
    have hr := (ho.sound.stream_sound hs).shape.remoteClosed hphase hf
    simp only [Stream.ending, hf, if_pos hr]

/-- A read of a handle without a stream changes nothing. -/
theorem read_absent (hs : m.streams[h]? = none) : (m.read h).2 = m := by
  simp [Mux.read, stream_of_length_le hs, Stream.absent]

/-! ## Frames and events -/

/-- Frames change nothing. -/
theorem receive (ho : m.Over) (f : Frame) : (m.receive f).2 = m := by
  unfold Mux.receive
  cases f.kind with
  | ping =>
    simp only [onPing]
    split
    · exact ho.emitAll _
    · split <;> rfl
  | opening =>
    simp only [onOpening]
    split
    · exact ho.emitAll _
    split
    · exact ho.emitAll _
    · rw [isFailed, if_pos ho.failed]
  | data => simp only [ho.lookup]
  | close =>
    dsimp only
    split
    · rfl
    · rw [ho.lookup]
  | ack =>
    dsimp only
    split
    · rfl
    · rw [ho.lookup]

theorem step_of_quiet (ho : m.Over) {e : Event} (hq : e.reads = none) :
    ∃ incoming listening, m.step e = { m with incoming, listening } := by
  cases e with
  | frame f => exact ⟨m.incoming, m.listening, ho.receive f⟩
  | call c =>
    refine ho.call fun h he => ?_
    rw [he] at hq
    cases hq

/-- After any event no stream has come to life again. A stream from which was read has lost its first
chunk; all others are what they were. -/
theorem step (ho : m.Over) (e : Event) :
    (m.step e).Over ∧ (m.step e).streams.length = m.streams.length ∧
      ∀ (h : Handle) s, m.streams[h]? = some s → ∃ s', (m.step e).streams[h]? = some s' ∧
        s.Left (if e.reads = some h then s.inbox.tail else s.inbox) s' := by
  have hsound : (m.step e).Sound :=
    (changes_keep (I := fun _ => True) (fun _ _ _ => trivial) ho.sound trivial
      (step_chain ho.sound e)).1
  have same (hm : ∃ incoming listening, m.step e = { m with incoming, listening })
      (hquiet : ∀ h s, m.streams[h]? = some s → e.reads ≠ some h) :
      (m.step e).Over ∧ (m.step e).streams.length = m.streams.length ∧
        ∀ (h : Handle) s, m.streams[h]? = some s → ∃ s', (m.step e).streams[h]? = some s' ∧
          s.Left (if e.reads = some h then s.inbox.tail else s.inbox) s' := by
    obtain ⟨incoming, listening, hm⟩ := hm
    rw [hm] at hsound ⊢
    refine ⟨⟨hsound, ho.failed, ho.silent⟩, rfl, fun h s hs => ⟨s, hs, ?_⟩⟩
    rw [if_neg (hquiet h s hs)]
    exact s.left_self
  cases hr : e.reads with
  | none => exact hr ▸ same (ho.step_of_quiet hr) (by simp [hr])
  | some h =>
    have hstep := step_of_reads m hr
    cases hs : m.streams[h]? with
    | none =>
      refine hr ▸ same ⟨m.incoming, m.listening, hstep.trans (read_absent hs)⟩ fun k s hk he => ?_
      obtain rfl : h = k := Option.some.inj (hr.symm.trans he)
      simp [hs] at hk
    | some s =>
      obtain ⟨s', hleft, hread⟩ := ho.read hs
      rw [hstep, hread] at hsound ⊢
      refine ⟨⟨hsound, ho.failed, ho.silent⟩, List.length_set, fun k u hk => ?_⟩
      by_cases hne : h = k
      · subst hne
        obtain rfl := Option.some.inj (hs.symm.trans hk)
        have hlt := (List.getElem?_eq_some_iff.1 hs).1
        exact ⟨s', List.getElem?_set_self hlt, by rwa [if_pos rfl]⟩
      · refine ⟨u, (List.getElem?_set_ne hne).trans hk, ?_⟩
        rw [if_neg fun he => hne (Option.some.inj he)]
        exact u.left_self

end Over

end SealedRelay.Mux
