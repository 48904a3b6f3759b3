import Mathlib.Logic.Relation
import SealedRelay.Proofs.Mux.Numbering

/-!
# What each operation does

Every call on a handle, and every frame for a live stream, either changes nothing or is one turn of
that stream. Opening, failing and dropping the queue of incoming streams touch more than one
stream, and have a lemma each.

Results:
* `send_cases`, `read_cases`, `accept_cases`, `abort_cases`, `halfClose_cases`, `expireOpen_cases`:
  the calls on a handle.
* `receive_cases`: the frames.
* `openStream_eq`, `openStream_cases`, `receive_opening`, `failAll_failed`, `dropIncoming_resets`: the rest.
* `config_receive`: no frame changes the settings.
* `receive_error`: a frame that is rejected changes nothing.
-/
namespace SealedRelay.Mux

variable {m : Mux} {h : Handle}

/-! ## Calls on a handle -/

theorem send_cases (m : Mux) (h : Handle) (data : Bytes) :
    (∃ n, (m.send h data).1 = .ok n ∧ Turned m (m.send h data).2 h (.sent (data.take n))) ∨
      ((m.send h data).2 = m ∧ ∀ n, (m.send h data).1 = .ok n → n = 0) := by
  cases hs : m.streams[h]? with
  | none => right; simp [send, stream_of_length_le hs, Stream.absent]
  | some s =>
    simp only [send, stream_of_getElem? hs]
    split
    · simp
    rename_i hf
    split
    · simp
    rename_i hp
    split
    · right; simp
    rename_i hd
    split
    · right; simp
    rename_i hw
    left
    have hphase : s.phase = .open_ ∨ s.phase = .remoteClosing := by
      cases hsp : s.phase <;> simp_all
    have hlen : (data.take (min data.length s.sendWindow)).length = min data.length s.sendWindow := by
      simp
    have hpos : 0 < data.length := List.length_pos_iff.2 hd
    have hne : data.take (min data.length s.sendWindow) ≠ [] := by
      refine List.ne_nil_of_length_pos ?_
      omega
    have t : Turn m.role m.config s (.sent _) _ _ := .send hphase hf hne (by omega)
    rw [hlen] at t
    refine ⟨_, rfl, hs, t, ?_, nofun⟩
    refine Edited.keep (((Edited.refl hs).emitAll _).modify rfl) ?_
    rcases hphase with e | e <;> simp [e]

/-- An end that has credit and may send sends something. -/
theorem send_ok (hf : (m.stream h).failure = none)
    (hp : (m.stream h).phase = .open_ ∨ (m.stream h).phase = .remoteClosing)
    (hw : 0 < (m.stream h).sendWindow) : ∀ data ≠ [], ∃ n, 0 < n ∧ (m.send h data).1 = .ok n := by
  intro data hd
  have hphase : ¬((m.stream h).phase ≠ .open_ ∧ (m.stream h).phase ≠ .remoteClosing) := by
    rcases hp with e | e <;> simp [e]
  have hlen : 0 < data.length := List.length_pos_iff.2 hd
  refine ⟨min data.length (m.stream h).sendWindow, by omega, ?_⟩
  simp only [send, hf, if_neg hphase, if_neg hd, if_neg (Nat.ne_of_gt hw)]

theorem read_cases (hm : m.Sound) (h : Handle) :
    (∃ chunk, (m.read h).1 = .ok (.chunk chunk) ∧ Turned m (m.read h).2 h (.took chunk)) ∨
      ((m.read h).2 = m ∧ ∀ chunk, (m.read h).1 ≠ .ok (.chunk chunk)) := by
  cases hs : m.streams[h]? with
  | none => right; simp [read, stream_of_length_le hs, Stream.absent]
  | some s =>
    simp only [read, stream_of_getElem? hs]
    split
    · rename_i chunk inbox hi
      left
      -- a closed stream may still have chunks to read, and is not in the table then
      have moved {out s'} {m' : Mux} (e : Edited m m' h out s') (hp : s'.phase = s.phase) :
          Moved m m' h out s' := by
        by_cases hc : s.phase = .closed
        · exact e.stay hm hs hc
        · exact e.keep (hp ▸ hc)
      split
      · rename_i hd
        refine ⟨chunk, rfl, hs, .takeAndGrant hi hd.1 hd.2 rfl, ?_, nofun⟩
        exact moved (((Edited.refl hs).modify rfl).emitAll _) rfl
      · rename_i hd
        have early : s.remoteClosed = true ∨
            s.pendingCredit + chunk.length < m.config.creditThreshold := by
          cases hr : s.remoteClosed with
          | true => exact .inl rfl
          | false => exact .inr (Nat.lt_of_not_le fun hle => hd ⟨hr, hle⟩)
        exact ⟨chunk, rfl, hs, .take hi early, moved ((Edited.refl hs).modify rfl) rfl, nofun⟩
    · right
      split
      · simp
      split
      · simp
      split <;> simp

/-- A read finds the end of what is sent only once everything has been read. -/
theorem read_eof {s : Stream} (hs : m.streams[h]? = some s) (he : (m.read h).1 = .ok .eof) :
    s.inbox = [] ∧ s.failure = none ∧ s.remoteClosed = true := by
  simp only [read, stream_of_getElem? hs] at he
  split at he
  · split at he <;> simp at he
  · rename_i hi
    split at he
    · simp at he
    · rename_i hf
      split at he
      · rename_i hr
        exact ⟨hi, hf, hr⟩
      · split at he <;> simp at he

theorem accept_cases (h : Handle) (hr : m.role = .responder) :
    (m.accept h).2 = m ∨ Turned m (m.accept h).2 h .accepted := by
  cases hs : m.streams[h]? with
  | none => left; simp [accept, stream_of_length_le hs, Stream.absent]
  | some s =>
    simp only [accept, stream_of_getElem? hs]
    split
    · rename_i hp
      right
      refine ⟨hs, .accept hr hp, ?_, nofun⟩
      exact (((Edited.refl hs).modify rfl).emitAll [ackFrame s.id m.config.initialWindow]).wake.keep (by simp)
    · exact .inl rfl

/-- Ending a stream in both directions, with news for the other side. -/
theorem kill_moved (hm : m.Sound) {s : Stream} (hs : m.streams[h]? = some s) (e : LinkError) :
    ∀ tell : Option CloseReason,
      Moved m (m.kill h e tell) h (tell.toList.map (closeFrame s.id)) (s.terminated e)
  | none =>
    ((Edited.refl hs).modify rfl).wake.remove hm hs (Stream.id_terminated s e)
      (Stream.phase_terminated s e)
  | some reason => by
    have hid : (m.stream h).id = s.id := by rw [stream_of_getElem? hs]
    rw [kill, terminate, emitClose, hid]
    exact (((Edited.refl hs).modify rfl).emitAll [closeFrame s.id reason]).wake.remove hm hs
      (Stream.id_terminated s e) (Stream.phase_terminated s e)

theorem abort_cases (hm : m.Sound) (h : Handle) (reason : CloseReason) :
    m.abort h reason = m ∨ Turned m (m.abort h reason) h (.aborted reason) := by
  cases hs : m.streams[h]? with
  | none => left; simp [abort, stream_of_length_le hs, Stream.absent]
  | some s =>
    simp only [abort, stream_of_getElem? hs]
    split
    · exact .inl rfl
    · rename_i hp
      right
      have hf : m.isFailed = false := by
        cases hf : m.isFailed with
        | false => rfl
        | true => exact absurd (hm.phase_of_failed hf hs) hp
      rw [hf]
      exact ⟨hs, .abort hp, kill_moved hm hs _ (some reason), nofun⟩

theorem halfClose_turned (hm : m.Sound) {s : Stream} (hs : m.streams[h]? = some s)
    (hp : s.phase = .open_ ∨ s.phase = .remoteClosing) :
    Turned m (m.halfClose h) h .halfClosed := by
  refine ⟨hs, .halfClose hp, ?_, nofun⟩
  have edited {f : Stream → Stream} {t : Stream} (hf : f s = t) :=
    (((Edited.refl hs).modify hf).emitAll [closeFrame s.id .normal]).wake
  cases hr : s.remoteClosed with
  | true =>
    rcases hp with hp | hp
    all_goals
      simp only [halfClose, stream_of_getElem? hs, hp, hr, if_true]
      exact (edited (by simp [hr])).remove hm hs rfl rfl
  | false =>
    rcases hp with hp | hp
    all_goals
      simp only [halfClose, stream_of_getElem? hs, hp, hr, Bool.false_eq_true, if_false]
      exact (edited (by simp [hr])).keep (by simp)

theorem halfClose_cases (hm : m.Sound) (h : Handle) :
    m.halfClose h = m ∨ Turned m (m.halfClose h) h .halfClosed ∨
      Turned m (m.halfClose h) h (.aborted .reset) := by
  cases hs : m.streams[h]? with
  | none => left; simp [halfClose, stream_of_length_le hs, Stream.absent]
  | some s =>
    cases hp : s.phase with
    | closed => left; simp only [halfClose, stream_of_getElem? hs, hp]
    | localClosing => left; simp only [halfClose, stream_of_getElem? hs, hp]
    | open_ => exact .inr (.inl (halfClose_turned hm hs (.inl hp)))
    | remoteClosing => exact .inr (.inl (halfClose_turned hm hs (.inr hp)))
    | pendingOpen =>
      have ha : m.halfClose h = m.abort h .reset := by
        simp only [halfClose, stream_of_getElem? hs, hp]
      rw [ha]
      exact (abort_cases hm h .reset).imp_right .inr

theorem expireOpen_cases (hm : m.Sound) (h : Handle) (hr : m.role = .initiator) :
    (m.expireOpen h).2 = m ∨ Turned m (m.expireOpen h).2 h .expired := by
  cases hs : m.streams[h]? with
  | none => left; simp [expireOpen, stream_of_length_le hs, Stream.absent]
  | some s =>
    simp only [expireOpen, stream_of_getElem? hs]
    split
    · exact .inl rfl
    · split
      · rename_i hp
        right
        refine ⟨hs, .expire hr hp, ?_, nofun⟩
        exact (((Edited.refl hs).modify rfl).remove hm hs rfl rfl).emitAll [closeFrame s.id .timeout]
      · exact .inl rfl

theorem failed_expireOpen (hm : m.Sound) (h : Handle) (hr : m.role = .initiator) :
    (m.expireOpen h).2.failed = m.failed := by
  rcases expireOpen_cases hm h hr with he | turn
  · rw [he]
  · exact turn.kept.choose_spec.failed

/-! ## Frames for live streams -/

theorem onData_turned (hm : m.Sound) {s : Stream} (hs : m.streams[h]? = some s)
    (hp : s.phase ≠ .closed) {f : Frame} (hk : f.kind = .data) :
    Turned m (m.onData h f.payload) h (.arrived f) := by
  simp only [onData, stream_of_getElem? hs]
  split
  · rename_i hbad
    have bad : s.remoteClosed = true ∨ s.recvAllowance < f.payload.length :=
      hbad.imp_right fun ho => ho.resolve_left hp
    exact ⟨hs, .excess hk hp bad, kill_moved hm hs _ (some .reset), nofun⟩
  · rename_i hgood
    simp only [not_or] at hgood
    obtain ⟨hr, -, hroom⟩ := hgood
    refine ⟨hs, .data hk hp (Bool.not_eq_true _ ▸ hr) (Nat.le_of_not_lt hroom), ?_, nofun⟩
    exact ((Edited.refl hs).modify rfl).wake.keep hp

/-- Data within the allowance of a stream that goes on leaves the table as it is, and is not
answered. -/
theorem onData_fits (hlive : (m.stream h).phase ≠ .closed)
    (hgoing : (m.stream h).remoteClosed = false) {payload : Bytes}
    (hroom : payload.length ≤ (m.stream h).recvAllowance) :
    (m.onData h payload).table = m.table ∧ (m.onData h payload).outbound = m.outbound := by
  have hgood : ¬((m.stream h).remoteClosed = true ∨ (m.stream h).phase = .closed ∨
      payload.length > (m.stream h).recvAllowance) := by
    simp [hgoing, hlive, Nat.not_lt_of_le hroom]
  simp only [onData, if_neg hgood]
  exact ⟨rfl, rfl⟩

theorem onClose_turned (hm : m.Sound) {s : Stream} (hs : m.streams[h]? = some s)
    (hp : s.phase ≠ .closed) {f : Frame} (hk : f.kind = .close) {reason : CloseReason}
    (hd : CloseReason.decode f.payload = .ok reason) :
    Turned m (m.onClose h reason) h (.arrived f) := by
  simp only [onClose, stream_of_getElem? hs]
  split
  · rename_i hpend
    exact ⟨hs, .refusal hk hd hpend, kill_moved hm hs _ none, nofun⟩
  rename_i hconf
  split
  · rename_i hlost
    exact ⟨hs, .tear hk hd (by rw [hlost]; rfl) hconf hp, kill_moved hm hs _ none, nofun⟩
  split
  · rename_i hharsh
    exact ⟨hs, .tear hk hd hharsh hconf hp, kill_moved hm hs _ none, nofun⟩
  · rename_i hmild
    have hn : reason = .normal := by simpa [CloseReason.isAbort] using hmild
    refine ⟨hs, .finish hk (hn ▸ hd) hconf hp, ?_, nofun⟩
    split
    · rename_i hl
      exact ((Edited.refl hs).modify (by simp [hl])).wake.remove hm hs (by rfl) (by rfl)
    · rename_i hl
      exact ((Edited.refl hs).modify (by simp [hl])).wake.keep (by simp)

theorem onAck_turned {s : Stream} (hs : m.streams[h]? = some s)
    (hp : s.phase ≠ .closed) {f : Frame} (hk : f.kind = .ack) {credit : Nat}
    (hd : Payload.decodeCredit f.payload = .ok credit) :
    Turned m (m.onAck h credit) h (.arrived f) := by
  have credited (hconf : s.phase ≠ .pendingOpen) :
      Turned m ((m.modify h (·.credited credit)).wake h) h (.arrived f) :=
    ⟨hs, .credit hk hd hconf hp, ((Edited.refl hs).modify rfl).wake.keep hp, nofun⟩
  cases hphase : s.phase with
  | closed => exact absurd hphase hp
  | open_ | localClosing | remoteClosing =>
    simp only [onAck, stream_of_getElem? hs, hphase]
    exact credited (by simp [hphase])
  | pendingOpen =>
    simp only [onAck, stream_of_getElem? hs, hphase]
    split
    · rename_i hr
      exact ⟨hs, .early hk hd hr hphase, (Edited.refl hs).keep hp, nofun⟩
    · rename_i hr
      refine ⟨hs, .confirm hk hd hr hphase, ?_, nofun⟩
      exact (((Edited.refl hs).modify rfl).emitAll [ackFrame s.id m.config.initialWindow]).wake.keep
        (by simp)

/-- A frame of a stream is dropped if it cannot be read or there is no such live stream. Otherwise it
is a turn of that stream. -/
theorem receive_cases (hm : m.Sound) {f : Frame} (ho : f.kind ≠ .opening) (hp : f.kind ≠ .ping) :
    ((m.receive f).2 = m ∧ (f.Garbled ∨ m.lookup f.stream = none)) ∨
      ∃ h, m.lookup f.stream = some h ∧ Turned m (m.receive f).2 h (.arrived f) := by
  cases hl : m.lookup f.stream with
  | none =>
    left
    refine ⟨?_, .inr rfl⟩
    cases hk : f.kind with
    | opening => exact absurd hk ho
    | ping => exact absurd hk hp
    | data => simp only [receive, hk, hl]
    | close => cases hd : CloseReason.decode f.payload <;> simp only [receive, hk, hd, hl]
    | ack => cases hd : Payload.decodeCredit f.payload <;> simp only [receive, hk, hd, hl]
  | some h =>
    obtain ⟨s, hs, -, hlive⟩ := hm.lookup_eq_some_iff.1 hl
    cases hk : f.kind with
    | opening => exact absurd hk ho
    | ping => exact absurd hk hp
    | data =>
      right
      refine ⟨h, rfl, ?_⟩
      simp only [receive, hk, hl]
      exact onData_turned hm hs hlive hk
    | close =>
      cases hd : CloseReason.decode f.payload with
      | error e => exact .inl ⟨by simp only [receive, hk, hd], .inl (.inl ⟨hk, e, hd⟩)⟩
      | ok reason =>
        right
        refine ⟨h, rfl, ?_⟩
        simp only [receive, hk, hd, hl]
        exact onClose_turned hm hs hlive hk hd
    | ack =>
      cases hd : Payload.decodeCredit f.payload with
      | error e => exact .inl ⟨by simp only [receive, hk, hd], .inl (.inr ⟨hk, e, hd⟩)⟩
      | ok credit =>
        right
        refine ⟨h, rfl, ?_⟩
        simp only [receive, hk, hd, hl]
        exact onAck_turned hs hlive hk hd

theorem receive_ping (m : Mux) {f : Frame} (hk : f.kind = .ping) :
    ∃ out, (∀ g ∈ out, g.kind = .ping ∧ g.Readable) ∧ Queued m (m.receive f).2 out := by
  simp only [receive, hk, onPing]
  split
  · exact ⟨_, by simp [Frame.Readable], Queued.emit m _⟩
  · exact ⟨[], by simp, by split <;> exact Queued.refl m⟩

/-! ## New streams -/

/-- Why a caller is turned away before a number is chosen: it is on the wrong side, the destination cannot
be written, the connection has failed, or there are too many streams. -/
def Unavailable (m : Mux) (d : Destination) : Prop :=
  m.role = .responder ∨ (∃ e, d.encode = .error e) ∨ m.failed.isSome = true ∨
    m.config.maxStreams ≤ m.activeStreams

/-- What asking for a stream comes to: the caller is turned away at once, or all numbers are in use, or
there is a new stream with a number that no live stream has, and an opening is queued. -/
theorem openStream_eq (m : Mux) (d : Destination) :
    (m.Unavailable d ∧ ∃ e, m.openStream d = (.error e, m)) ∨
      m.role = .initiator ∧ m.failed = none ∧ m.table.length < m.config.maxStreams ∧
      ∃ payload, d.encode = .ok payload ∧
        ((m.allocateId.1 = none ∧
            m.openStream d = (.error (.unavailable "stream ids exhausted"), m.allocateId.2)) ∨
          ∃ id, m.allocateId.1 = some id ∧
            m.openStream d = (.ok m.streams.length,
              (m.allocateId.2.insert (.asked m.config id d)).emit ⟨.opening, id, payload⟩)) := by
  unfold openStream
  split
  · rename_i hr
    exact .inl ⟨.inl hr, _, rfl⟩
  rename_i hr
  split
  · rename_i e hd
    exact .inl ⟨.inr (.inl ⟨e, hd⟩), _, rfl⟩
  rename_i payload hd
  split
  · rename_i e hf
    exact .inl ⟨.inr (.inr (.inl (by rw [hf]; rfl))), _, rfl⟩
  rename_i hf
  split
  · rename_i hfull
    exact .inl ⟨.inr (.inr (.inr hfull)), _, rfl⟩
  rename_i hroom
  refine .inr ⟨hr, hf, Nat.lt_of_not_le hroom, payload, hd, ?_⟩
  split
  · rename_i m' ha
    exact .inl (by rw [ha]; exact ⟨rfl, rfl⟩)
  · rename_i id m' ha
    obtain rfl : m.allocateId.2 = m' := by rw [ha]
    exact .inr ⟨id, by rw [ha], rfl⟩

/-- Asking for a stream while all numbers are in use changes no stream. -/
theorem queued_allocateId {m : Mux} (ha : m.allocateId.1 = none) : Queued m m.allocateId.2 [] := by
  rw [allocateId_snd]
  refine { Kept.refl m with streams := rfl, table := rfl, nextId := fun hn => ?_ }
  rw [allocateId_of_free hn] at ha
  cases ha

/-- A new stream with the number that was chosen for it, and the question for it. -/
theorem inserted_allocateId (m : Mux) (s : Stream) (f : Frame) :
    Inserted m ((m.allocateId.2.insert s).emit f) s [f] := by
  rw [allocateId_snd]
  let numbered : Mux := { m with nextId := m.allocateId.2.nextId }
  exact { ((Inserted.insert numbered s).emit f : Inserted numbered _ s [f]) with }

/-- Asking for a stream changes nothing, or there is room for one and an opening is queued with a
number that no live stream has: the next one, if that is free. -/
theorem openStream_cases (m : Mux) (d : Destination) :
    Queued m (m.openStream d).2 [] ∨
      m.role = .initiator ∧ m.failed = none ∧ m.table.length < m.config.maxStreams ∧
      ∃ id payload, d.encode = .ok payload ∧ m.lookup id = none ∧
        (m.lookup m.nextId = none →
          id = m.nextId ∧ (m.openStream d).2.nextId = succId m.nextId) ∧
        Inserted m (m.openStream d).2 (.asked m.config id d) [⟨.opening, id, payload⟩] := by
  rcases openStream_eq m d with
    ⟨-, e, he⟩ | ⟨hr, hf, hroom, payload, hd, ⟨ha, he⟩ | ⟨id, ha, he⟩⟩
  · rw [he]
    exact .inl (.refl m)
  · rw [he]
    exact .inl (queued_allocateId ha)
  · rw [he]
    refine .inr ⟨hr, hf, hroom, id, payload, hd, allocateId_free ha, fun hn => ?_,
      inserted_allocateId m _ _⟩
    rw [allocateId_of_free hn] at ha ⊢
    exact ⟨(Option.some.inj ha).symm, nextId_emitAll _ _⟩

theorem failed_openStream (m : Mux) (d : Destination) : (m.openStream d).2.failed = m.failed := by
  rcases openStream_cases m d with queued | ⟨-, -, -, id, payload, -, -, -, inserted⟩
  · exact queued.failed
  · exact inserted.failed

/-- An opening is dropped or refused, or there is room and it makes a stream; one that nobody takes is
then torn down. One that is refused may have the number of a live stream: the side that asks refuses
it before looking, and so does the other side if its destination cannot be read. -/
theorem receive_opening (hm : m.Sound) {f : Frame} (hk : f.kind = .opening) :
    ((m.receive f).2 = m ∧ (m.failed.isSome = true ∨ m.lookup f.stream ≠ none)) ∨
      Queued m (m.receive f).2 [closeFrame f.stream .refused] ∧
        (m.role = .initiator ∨ (∃ e, Destination.decode f.payload = .error e) ∨
          m.lookup f.stream = none) ∨
      m.role = .responder ∧ m.failed = none ∧ m.lookup f.stream = none ∧
      m.table.length < m.config.maxStreams ∧ ∃ d m₁, Inserted m m₁ (.offered f.stream d) [] ∧
        ((m.receive f).2 = m₁ ∨
          Turned m₁ (m.receive f).2 m.streams.length (.aborted .refused)) := by
  simp only [receive, hk, onOpening]
  split
  · rename_i hr
    exact .inr (.inl ⟨Queued.emit m _, .inl hr⟩)
  rename_i hr
  split
  · rename_i e hd
    exact .inr (.inl ⟨Queued.emit m _, .inr (.inl ⟨e, hd⟩)⟩)
  rename_i d _
  split
  · rename_i hf
    exact .inl ⟨rfl, .inl hf⟩
  rename_i hf
  split
  · rename_i hl
    exact .inl ⟨rfl, .inr fun hn => by simp [hn] at hl⟩
  rename_i hl
  have hfailed : m.failed = none := by simpa [isFailed] using hf
  have hfree : m.lookup f.stream = none := by simpa using hl
  split
  · exact .inr (.inl ⟨Queued.emit m _, .inr (.inr hfree)⟩)
  rename_i hroom
  refine .inr (.inr ⟨hr, hfailed, hfree, Nat.lt_of_not_le hroom, d, ?_⟩)
  have hi := Inserted.insert m (.offered f.stream d)
  split
  · refine ⟨_, ?_, .inl rfl⟩
    exact { hi with }
  · have hs : (m.insert (.offered f.stream d)).Sound :=
      hm.inserted hi (hr ▸ Stream.sound_offered m.config f.stream d) (by simp [Stream.offered])
        hfailed hfree
    exact ⟨_, hi, abort_cases hs m.streams.length .refused⟩

/-- A question with a new number finds a place if there is room and somebody takes it. -/
theorem receive_opening_room {f : Frame} (hk : f.kind = .opening) (hr : m.role = .responder)
    {d : Destination} (hd : Destination.decode f.payload = .ok d) (hf : m.failed = none)
    (hl : m.lookup f.stream = none) (hroom : m.table.length < m.config.maxStreams)
    (hlisten : m.listening = true) :
    (m.receive f).2 =
      { m.insert (.offered f.stream d) with incoming := m.incoming ++ [m.streams.length] } := by
  simp only [receive, hk, onOpening, hr, hd, isFailed, hf, hl, Option.isSome_none, Bool.false_eq_true,
    if_false, if_neg (Nat.not_le_of_lt hroom)]
  rw [if_pos]
  · rfl
  · exact hlisten

/-! ## Settings -/

theorem config_kill (m : Mux) (h : Handle) (e : LinkError) (tell : Option CloseReason) :
    (m.kill h e tell).config = m.config := by
  cases tell with
  | none => rfl
  | some reason => exact config_emitAll _ _

theorem config_abort (m : Mux) (h : Handle) (reason : CloseReason) :
    (m.abort h reason).config = m.config := by
  unfold abort
  dsimp only
  split
  · rfl
  · exact config_kill _ _ _ _

theorem config_onOpening (m : Mux) (id : StreamId) (payload : Bytes) :
    (m.onOpening id payload).2.config = m.config := by
  unfold onOpening
  split
  · exact config_emitAll _ _
  split
  · exact config_emitAll _ _
  split
  · rfl
  split
  · rfl
  split
  · exact config_emitAll _ _
  dsimp only
  split
  · rfl
  · exact config_abort _ _ _

theorem config_onData (m : Mux) (h : Handle) (payload : Bytes) :
    (m.onData h payload).config = m.config := by
  unfold onData
  dsimp only
  split
  · exact config_kill _ _ _ _
  · rfl

theorem config_onClose (m : Mux) (h : Handle) (reason : CloseReason) :
    (m.onClose h reason).config = m.config := by
  unfold onClose
  dsimp only
  split
  · exact config_kill _ _ _ _
  split
  · exact config_kill _ _ _ _
  split
  · exact config_kill _ _ _ _
  split
  · rfl
  split <;> rfl

theorem config_onAck (m : Mux) (h : Handle) (credit : Nat) :
    (m.onAck h credit).config = m.config := by
  unfold onAck
  dsimp only
  split
  · split
    · rfl
    · exact config_emitAll _ _
  all_goals rfl

/-- No frame changes the settings. -/
theorem config_receive (m : Mux) (f : Frame) : (m.receive f).2.config = m.config := by
  unfold receive
  cases f.kind with
  | ping =>
    dsimp only [onPing]
    split
    · exact config_emitAll _ _
    · split <;> rfl
  | opening => exact config_onOpening _ _ _
  | data =>
    dsimp only
    split
    · rfl
    · exact config_onData _ _ _
  | close =>
    dsimp only
    split
    · rfl
    split
    · rfl
    · exact config_onClose _ _ _
  | ack =>
    dsimp only
    split
    · rfl
    split
    · rfl
    · exact config_onAck _ _ _

/-- A frame that is rejected breaks the control rules, and changes nothing. -/
theorem receive_error {m : Mux} {f : Frame} {e : LinkError} (he : (m.receive f).1 = .error e) :
    (∃ text, e = .malformed text) ∧ (m.receive f).2 = m := by
  have malformed {text : String} {r : Except LinkError Unit} (hr : r = .error (.malformed text))
      (he : r = .error e) : ∃ text, e = .malformed text :=
    ⟨text, Except.error.inj (he.symm.trans hr)⟩
  unfold receive at he ⊢
  cases hk : f.kind with
  | ping =>
    simp only [hk, onPing] at he ⊢
    split at he
    · cases he
    split at he
    · cases he
    · rename_i hrequest hreply
      rw [if_neg hrequest, if_neg hreply]
      exact ⟨malformed rfl he, rfl⟩
  | opening =>
    simp only [hk, onOpening] at he ⊢
    split at he
    · cases he
    split at he
    · cases he
    split at he
    · cases he
    rename_i hf
    split at he
    · rename_i hl
      rw [if_neg hf, if_pos hl]
      exact ⟨malformed rfl he, rfl⟩
    split at he
    · cases he
    split at he <;> cases he
  | data =>
    simp only [hk] at he
    split at he <;> cases he
  | close =>
    simp only [hk] at he ⊢
    split at he
    · exact ⟨malformed rfl he, rfl⟩
    · split at he <;> cases he
  | ack =>
    simp only [hk] at he ⊢
    split at he
    · exact ⟨malformed rfl he, rfl⟩
    · split at he <;> cases he

/-! ## All streams at once -/

/-- A stream when its connection fails. -/
def Stream.failing (s : Stream) (e : LinkError) : Stream :=
  if s.phase = .closed then s else s.terminated e

theorem Stream.failing_failing (s : Stream) (e : LinkError) :
    (s.failing e).failing e = s.failing e := by
  by_cases hp : s.phase = .closed <;> simp [Stream.failing, hp]

structure Failed (m m' : Mux) (e : LinkError) : Prop where
  streams : m'.streams = m.streams.map (·.failing e)
  table : m'.table = []
  outbound : m'.outbound = m.outbound
  role : m'.role = m.role
  config : m'.config = m.config
  nextId : m'.nextId = m.nextId
  failed : m'.failed.isSome = true
  sending : m'.sending = m.sending

@[simp] theorem Stream.id_failing (s : Stream) (e : LinkError) : (s.failing e).id = s.id := by
  by_cases hp : s.phase = .closed <;> simp [Stream.failing, hp]

theorem Stream.phase_failing (s : Stream) (e : LinkError) : (s.failing e).phase = .closed := by
  by_cases hp : s.phase = .closed <;> simp [Stream.failing, hp]

theorem Failed.sound {m m' : Mux} {e : LinkError} (f : Failed m m' e) (hm : m.Sound) : m'.Sound where
  mem_table := by
    intro id h
    rw [f.table, f.streams]
    refine ⟨fun hin => absurd hin List.not_mem_nil, ?_⟩
    rintro ⟨s, hs, -, hlive⟩
    rw [List.getElem?_map] at hs
    obtain ⟨s₀, -, rfl⟩ := Option.map_eq_some_iff.1 hs
    exact absurd (s₀.phase_failing e) hlive
  nodup := by simp [f.table]
  failed _ := f.table
  streams := by
    rw [f.streams, f.role, f.config]
    intro s hs
    obtain ⟨s₀, hs₀, rfl⟩ := List.mem_map.1 hs
    unfold Stream.failing
    split
    · exact hm.streams s₀ hs₀
    · rename_i hp
      exact (Turn.fail hp).sound (hm.streams s₀ hs₀)

/-- Fails the stream behind one handle. -/
def failOne (e : LinkError) (m : Mux) (h : Handle) : Mux :=
  (if (m.stream h).phase = .closed then m else m.terminate h e none).wake h

theorem failOne_eq (e : LinkError) (m : Mux) (h : Handle) :
    failOne e m h =
      { m with streams := (failOne e m h).streams, woken := (failOne e m h).woken } := by
  unfold failOne
  split <;> rfl

theorem getElem?_failOne (e : LinkError) (m : Mux) (h k : Handle) :
    (failOne e m h).streams[k]? =
      if k = h then m.streams[k]?.map (·.failing e) else m.streams[k]? := by
  have hclosed (hp : (m.stream h).phase = .closed) : (failOne e m h).streams = m.streams := by
    rw [failOne, if_pos hp]
    rfl
  have hlive (hp : (m.stream h).phase ≠ .closed) :
      (failOne e m h).streams = m.streams.modify h (·.terminated e) := by
    rw [failOne, if_neg hp]
    rfl
  by_cases hk : k = h
  · subst hk
    rw [if_pos rfl]
    cases hs : m.streams[k]? with
    | none => rw [hclosed (by rw [stream_of_length_le hs]; rfl), hs, Option.map_none]
    | some s =>
      have hstream := stream_of_getElem? hs
      by_cases hp : s.phase = .closed
      · simp [hclosed (hstream ▸ hp), hs, Stream.failing, hp]
      · simp [hlive (hstream ▸ hp), hs, Stream.failing, hp]
  · rw [if_neg hk]
    by_cases hp : (m.stream h).phase = .closed
    · rw [hclosed hp]
    · rw [hlive hp, List.getElem?_modify_ne _ _ (Ne.symm hk)]

/-- Failing some streams, one after the other, fails each of them. -/
theorem foldl_failOne (e : LinkError) (handles : List Handle) (m : Mux) :
    ∃ streams woken, handles.foldl (failOne e) m = { m with streams, woken } ∧
      ∀ k, streams[k]? = if k ∈ handles then m.streams[k]?.map (·.failing e) else m.streams[k]? := by
  induction handles generalizing m with
  | nil => exact ⟨m.streams, m.woken, rfl, fun k => by simp⟩
  | cons h handles ih =>
    obtain ⟨streams, woken, hfold, hstreams⟩ := ih (failOne e m h)
    refine ⟨streams, woken, ?_, fun k => ?_⟩
    · rw [List.foldl_cons, hfold, failOne_eq]
    · rw [hstreams, getElem?_failOne]
      by_cases hk : k = h
      · simp [hk, Option.map_map, Function.comp_def, Stream.failing_failing]
      · simp [hk]

theorem failAll_failed (hm : m.Sound) (e : LinkError) : Failed m (m.failAll e) e := by
  let m₀ : Mux := { m with failed := m.failed <|> some e, table := [] }
  obtain ⟨streams, woken, hfold, hstreams⟩ := foldl_failOne e (m.table.map (·.2)) m₀
  have hall : m.failAll e = { m₀ with streams, woken } := hfold
  have hmap : streams = m.streams.map (·.failing e) := by
    apply List.ext_getElem?
    intro k
    rw [hstreams, List.getElem?_map, show m₀.streams = m.streams from rfl]
    split
    · rfl
    · rename_i hk
      cases hs : m.streams[k]? with
      | none => rfl
      | some s =>
        -- a stream that is not in the table is closed already
        have hp : s.phase = .closed := Decidable.byContradiction fun hp =>
          hk (List.mem_map_of_mem (hm.mem_table.2 ⟨s, hs, rfl, hp⟩))
        simp [Stream.failing, hp]
  rw [hall]
  exact
    { streams := hmap, table := rfl, outbound := rfl, role := rfl, config := rfl, nextId := rfl
      failed := by cases hf : m.failed <;> simp [m₀, hf]
      sending := rfl }

/-- Some stream is torn down from this side. -/
def Reset (m m' : Mux) : Prop := ∃ h, Turned m m' h (.aborted .reset)

theorem foldl_dropHandle (hm : m.Sound) (handles : List Handle) :
    Relation.ReflTransGen Reset m (handles.foldl dropHandle m) := by
  induction handles generalizing m with
  | nil => exact .refl
  | cons h handles ih =>
    rw [List.foldl_cons, dropHandle]
    rcases abort_cases hm h .reset with he | ht
    · rw [he]
      exact ih hm
    · exact .head ⟨h, ht⟩ (ih (hm.turned ht))

/-- Forgetting the queue tears down the streams in it. -/
theorem dropIncoming_resets (hm : m.Sound) :
    ∃ m₀, Queued m m₀ [] ∧ Relation.ReflTransGen Reset m₀ m.dropIncoming :=
  have q : Queued m { m with incoming := [], listening := false } [] := { Queued.refl m with }
  ⟨_, q, foldl_dropHandle (hm.queued q) m.incoming⟩

end SealedRelay.Mux
