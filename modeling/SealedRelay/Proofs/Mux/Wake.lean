import SealedRelay.Mux.Call
import SealedRelay.Proofs.Mux.Alone

/-!
# Waiting calls are woken in time

A call that waits on a stream looks again only when the stream is woken. So whatever gives a reader
something to read or to be told, and whatever lets a writer go on, has to wake the stream. Here it is shown
for every operation that it wakes the stream, or leaves it no better for those who wait: with the same
phase, failure and end, no more to read and no more to spend. The one exception is giving up on a stream
that was not confirmed in time, for which nobody has a handle yet.

Results:
* `read_pending_iff`, `exhausted_iff`: in which states a reader and a writer wait.
* `step_heeds`, `run_heeds`: every event wakes a stream that it changes for those who wait.
* `no_lost_wakeup`: who waits and has not been woken would wait again.
-/
namespace SealedRelay.Mux

/-! ## Who waits -/

namespace Stream

/-- There is nothing to read and nothing to be told. -/
structure Starved (s : Stream) : Prop where
  inbox : s.inbox = []
  failure : s.failure = none
  going : s.remoteClosed = false
  live : s.phase ≠ .closed

/-- A writer is told that the window is used up. -/
def Stalled (s : Stream) : Prop :=
  (∃ id, s.failure = some (.windowExhausted id)) ∨
    s.failure = none ∧ (s.phase = .open_ ∨ s.phase = .remoteClosing) ∧ s.sendWindow = 0

/-- With credit left on a stream that has not failed nobody is told so. -/
theorem not_stalled {s : Stream} (hf : s.failure = none) (hw : 0 < s.sendWindow) : ¬s.Stalled := by
  rintro (⟨id, hid⟩ | ⟨-, -, hzero⟩)
  · cases hf.symm.trans hid
  · omega

/-- `s'` is no better than `s` for those who wait: there may be less to read and less to spend. -/
structure Drained (s s' : Stream) : Prop where
  phase : s'.phase = s.phase
  failure : s'.failure = s.failure
  remoteClosed : s'.remoteClosed = s.remoteClosed
  inbox : s'.inbox <:+ s.inbox
  sendWindow : s'.sendWindow ≤ s.sendWindow

namespace Drained

variable {s s' s'' : Stream}

theorem refl (s : Stream) : Drained s s := ⟨rfl, rfl, rfl, List.suffix_rfl, Nat.le_refl _⟩

theorem trans (h : Drained s s') (h' : Drained s' s'') : Drained s s'' where
  phase := h'.phase.trans h.phase
  failure := h'.failure.trans h.failure
  remoteClosed := h'.remoteClosed.trans h.remoteClosed
  inbox := h'.inbox.trans h.inbox
  sendWindow := Nat.le_trans h'.sendWindow h.sendWindow

theorem starved (h : Drained s s') (hs : s.Starved) : s'.Starved where
  inbox := List.suffix_nil.1 (hs.inbox ▸ h.inbox)
  failure := h.failure.trans hs.failure
  going := h.remoteClosed.trans hs.going
  live := h.phase ▸ hs.live

theorem stalled (h : Drained s s') (hs : s.Stalled) : s'.Stalled := by
  unfold Stalled
  rw [h.failure, h.phase]
  exact hs.imp_right fun ⟨hf, hp, hw⟩ => ⟨hf, hp, Nat.le_zero.1 (hw ▸ h.sendWindow)⟩

end Drained

end Stream

variable {m m' m'' : Mux} {h k : Handle} {f : Stream → Stream} {data : Bytes}

/-- A reader waits while its stream is starved. -/
theorem read_pending_iff : (m.read h).1 = .ok .pending ↔ (m.stream h).Starved := by
  unfold read
  dsimp only
  split
  · rename_i hi
    refine iff_of_false ?_ fun hs => by simp [hs.inbox] at hi
    split <;> simp
  rename_i hi
  split
  · rename_i hf
    exact iff_of_false nofun fun hs => by simp [hs.failure] at hf
  rename_i hf
  split
  · rename_i hr
    exact iff_of_false nofun fun hs => by simp [hs.going] at hr
  rename_i hr
  split
  · rename_i hp
    exact iff_of_false nofun fun hs => hs.live hp
  · rename_i hp
    exact iff_of_true rfl ⟨hi, hf, Bool.eq_false_iff.2 hr, hp⟩

/-- What comes of sending some bytes: the window is used up, the stream does not send, or the window takes
what it has room for. -/
inductive Sends (m : Mux) (h : Handle) (data : Bytes) : Except LinkError Nat × Mux → Prop where
  | stalled {id : StreamId} (stalled : (m.stream h).Stalled) :
      Sends m h data (.error (.windowExhausted id), m)
  | stopped {e : LinkError} (unstalled : ¬(m.stream h).Stalled) (other : ∀ id, e ≠ .windowExhausted id) :
      Sends m h data (.error e, m)
  | sent {n : Nat} (unfailed : (m.stream h).failure = none)
      (phase : (m.stream h).phase = .open_ ∨ (m.stream h).phase = .remoteClosing)
      (window : 0 < (m.stream h).sendWindow) (amount : n = min data.length (m.stream h).sendWindow) :
      Sends m h data (.ok n, (m.emitAll (dataFrames m.config (m.stream h).id (data.take n))).modify h
        fun s => { s with sendWindow := s.sendWindow - n })

theorem send_sends (m : Mux) (h : Handle) (hd : data ≠ []) : Sends m h data (m.send h data) := by
  unfold send
  dsimp only
  split
  · rename_i e hf
    by_cases he : ∃ id, e = .windowExhausted id
    · obtain ⟨id, rfl⟩ := he
      exact .stalled (.inl ⟨id, hf⟩)
    · refine .stopped ?_ (not_exists.1 he)
      rintro (⟨id, hid⟩ | ⟨hn, -⟩)
      · exact he ⟨id, Option.some.inj (hf.symm.trans hid)⟩
      · cases hf.symm.trans hn
  rename_i hf
  split
  · rename_i hp
    refine .stopped ?_ nofun
    rintro (⟨id, hid⟩ | ⟨-, hphase, -⟩)
    · cases hf.symm.trans hid
    · exact hphase.elim hp.1 hp.2
  rename_i hp
  have hphase : (m.stream h).phase = .open_ ∨ (m.stream h).phase = .remoteClosing := by
    cases hs : (m.stream h).phase <;> simp_all
  split
  · rename_i hw
    exact .stalled (.inr ⟨hf, hphase, hw⟩)
  · rename_i hw
    exact .sent hf hphase (Nat.pos_of_ne_zero hw) rfl

/-- A writer of `data` is told that the window is used up. -/
def Exhausted (m : Mux) (h : Handle) (data : Bytes) : Prop :=
  ∃ id, (m.send h data).1 = .error (.windowExhausted id)

/-- A writer waits while its stream is stalled. -/
theorem exhausted_iff (hd : data ≠ []) : m.Exhausted h data ↔ (m.stream h).Stalled := by
  have sends := send_sends m h hd
  unfold Exhausted
  generalize m.send h data = r at sends ⊢
  cases sends with
  | stalled stalled => exact iff_of_true ⟨_, rfl⟩ stalled
  | stopped unstalled other =>
    exact iff_of_false (fun ⟨id, he⟩ => other id (Except.error.inj he)) unstalled
  | sent unfailed _ window => exact iff_of_false nofun (Stream.not_stalled unfailed window)

/-- A call that has everything still to write waits while its stream is stalled. -/
theorem writeAll_waits_iff (hd : data ≠ []) :
    m.writeAll h data = (.waiting data, m) ↔ (m.stream h).Stalled := by
  have sends := send_sends m h hd
  rw [writeAll, if_neg hd]
  generalize m.send h data = r at sends ⊢
  cases sends with
  | stalled stalled => exact iff_of_true rfl stalled
  | @stopped e unstalled other =>
    refine iff_of_false ?_ unstalled
    cases e with
    | windowExhausted id => exact absurd rfl (other id)
    | _ => nofun
  | @sent n unfailed _ window amount =>
    refine iff_of_false (fun he => ?_) (Stream.not_stalled unfailed window)
    have hlen : 0 < data.length := List.length_pos_iff.2 hd
    have hshorter : data.drop n ≠ data := fun hdrop => by
      have := congrArg List.length hdrop
      rw [List.length_drop] at this
      omega
    have hprogress := congrArg Prod.fst he
    dsimp only at hprogress
    split at hprogress
    · cases hprogress
    · exact hshorter (WriteProgress.waiting.inj hprogress)

/-! ## Operations -/

/-- Between `m` and `m'` the stream behind `h` fails, if it does, with an error of `causes`, or with one that
does not tell a writer to wait. -/
def Tells (causes : LinkError → Prop) (h : Handle) (m m' : Mux) : Prop :=
  ∀ e, (m'.stream h).failure = some e →
    (m.stream h).failure = some e ∨ causes e ∨ ∀ id, e ≠ .windowExhausted id

/-- Between `m` and `m'` the stream behind `h` is woken, or it gets no better for those who wait. -/
structure Heeds (causes : LinkError → Prop) (h : Handle) (m m' : Mux) : Prop where
  wakes : ∃ woken, m'.woken = m.woken ++ woken ∧ (h ∉ woken →
    ∀ s, m.streams[h]? = some s → ∃ s', m'.streams[h]? = some s' ∧ s.Drained s')
  tells : Tells causes h m m'

variable {causes : LinkError → Prop}

namespace Tells

theorem same (hs : m'.streams = m.streams) : Tells causes h m m' := fun e he =>
  .inl (by rwa [stream, hs] at he)

theorem trans (first : Tells causes h m m') (second : Tells causes h m' m'') :
    Tells causes h m m'' := by
  intro e he
  rcases second e he with hbefore | hnew
  · exact first e hbefore
  · exact .inr hnew

theorem grown {s : Stream} (hf : s.failure = none) (hs : m'.streams = m.streams ++ [s]) :
    Tells causes h m m' := by
  intro e he
  rw [stream, hs, List.getD_eq_getElem?_getD, List.getElem?_append] at he
  split at he
  · exact .inl (by rwa [stream, List.getD_eq_getElem?_getD])
  · rw [List.getElem?_singleton] at he
    split at he
    · cases hf.symm.trans he
    · cases he

theorem modified (hs : m'.streams = m.streams.modify k f)
    (keeps : ∀ (s : Stream) e, (f s).failure = some e →
      s.failure = some e ∨ causes e ∨ ∀ id, e ≠ .windowExhausted id) : Tells causes h m m' := by
  intro e he
  rw [stream, hs, List.getD_eq_getElem?_getD, List.getElem?_modify] at he
  cases hh : m.streams[h]? with
  | none =>
    rw [hh] at he
    cases he
  | some s =>
    simp only [hh, Option.map_eq_map, Option.map_some, Option.getD_some] at he
    rw [stream_of_getElem? hh]
    split at he
    · exact keeps s e he
    · exact .inl he

end Tells

namespace Heeds

/-- Nothing is changed that a stream or a waiting call knows of. -/
theorem same (hw : m'.woken = m.woken) (hs : m'.streams = m.streams) : Heeds causes h m m' where
  wakes := ⟨[], by rw [hw, List.append_nil], fun _ s hh => ⟨s, hs ▸ hh, .refl s⟩⟩
  tells := .same hs

theorem refl (h : Handle) (m : Mux) : Heeds causes h m m := same rfl rfl

theorem trans (first : Heeds causes h m m') (second : Heeds causes h m' m'') :
    Heeds causes h m m'' where
  wakes := by
    obtain ⟨woken, hw, drained⟩ := first.wakes
    obtain ⟨woken', hw', drained'⟩ := second.wakes
    refine ⟨woken ++ woken', by rw [hw', hw, List.append_assoc], fun hn s hs => ?_⟩
    rw [List.mem_append, not_or] at hn
    obtain ⟨s', hs', hd⟩ := drained hn.1 s hs
    obtain ⟨s'', hs'', hd'⟩ := drained' hn.2 s' hs'
    exact ⟨s'', hs'', hd.trans hd'⟩
  tells := first.tells.trans second.tells

theorem grown (hw : m'.woken = m.woken) {s : Stream} (hf : s.failure = none)
    (hs : m'.streams = m.streams ++ [s]) : Heeds causes h m m' where
  wakes := by
    refine ⟨[], by rw [hw, List.append_nil], fun _ t ht => ⟨t, ?_, .refl t⟩⟩
    rw [hs, List.getElem?_append_left (List.getElem?_eq_some_iff.1 ht).1, ht]
  tells := .grown hf hs

theorem woken (hw : m'.woken = m.woken ++ [k]) (hs : m'.streams = m.streams.modify k f)
    (keeps : ∀ (s : Stream) e, (f s).failure = some e →
      s.failure = some e ∨ causes e ∨ ∀ id, e ≠ .windowExhausted id) : Heeds causes h m m' where
  wakes := by
    refine ⟨[k], hw, fun hn s hh => ⟨s, ?_, .refl s⟩⟩
    have hk : k ≠ h := fun he => hn (List.mem_singleton.2 he.symm)
    rw [hs, List.getElem?_modify_ne f _ hk, hh]
  tells := .modified hs keeps

theorem drained (hw : m'.woken = m.woken) (hs : m'.streams = m.streams.modify k f)
    (keeps : ∀ s : Stream, (f s).failure = s.failure)
    (drained : ∀ s : Stream, m.streams[k]? = some s → s.Drained (f s)) : Heeds causes h m m' where
  wakes := by
    refine ⟨[], by rw [hw, List.append_nil], fun _ s hh => ?_⟩
    by_cases hk : k = h
    · subst hk
      exact ⟨f s, by rw [hs, List.getElem?_modify_eq, hh]; rfl, drained s hh⟩
    · exact ⟨s, by rw [hs, List.getElem?_modify_ne f _ hk, hh], .refl s⟩
  tells := .modified hs fun s e he => .inl (keeps s ▸ he)

theorem elsewhere (hw : m'.woken = m.woken) (hs : m'.streams = m.streams.modify k f) (hk : k ≠ h) :
    Heeds causes h m m' := by
  have hsame : m'.streams[h]? = m.streams[h]? := by rw [hs, List.getElem?_modify_ne f _ hk]
  refine ⟨⟨[], by rw [hw, List.append_nil], fun _ s hh => ⟨s, hsame.trans hh, .refl s⟩⟩, ?_⟩
  exact fun e he => .inl (by rwa [stream, List.getD_eq_getElem?_getD, hsame] at he)

end Heeds

/-! ### Calls -/

theorem heeds_emit (m : Mux) (fr : Frame) : Heeds causes h m (m.emit fr) :=
  .same (woken_emitAll m _) (streams_emitAll m _)

theorem heeds_foldl {g : Mux → Handle → Mux} (each : ∀ m k, Heeds causes h m (g m k)) (ks : List Handle)
    (m : Mux) : Heeds causes h m (ks.foldl g m) := by
  induction ks generalizing m with
  | nil => exact .refl h m
  | cons k ks ih => exact (each m k).trans (ih (g m k))

theorem tells_terminated {e : LinkError} (he : causes e ∨ ∀ id, e ≠ .windowExhausted id) (s : Stream)
    (e' : LinkError) (hs : (s.terminated e).failure = some e') :
    s.failure = some e' ∨ causes e' ∨ ∀ id, e' ≠ .windowExhausted id := by
  rw [Stream.failure_terminated] at hs
  cases hf : s.failure with
  | some e'' => exact .inl (by rwa [hf] at hs)
  | none =>
    rw [hf] at hs
    exact .inr (Option.some.inj hs ▸ he)

theorem heeds_kill (m : Mux) (k : Handle) (e : LinkError) (tell : Option CloseReason)
    (he : causes e ∨ ∀ id, e ≠ .windowExhausted id) : Heeds causes h m (m.kill k e tell) := by
  cases tell with
  | none => exact .woken rfl rfl (tells_terminated he)
  | some reason =>
    exact .woken (congrArg (· ++ [k]) (woken_emitAll _ _)) (streams_emitAll _ _) (tells_terminated he)

theorem heeds_abort (m : Mux) (k : Handle) (reason : CloseReason) :
    Heeds causes h m (m.abort k reason) := by
  unfold abort
  dsimp only
  split
  · exact .refl h m
  · exact heeds_kill m k _ _ (.inr nofun)

theorem heeds_halfClose (m : Mux) (k : Handle) : Heeds causes h m (m.halfClose k) := by
  unfold halfClose
  dsimp only
  split
  · exact .refl h m
  · exact .refl h m
  · exact heeds_abort m k .reset
  all_goals
    split
    all_goals exact .woken (congrArg (· ++ [k]) (woken_emitAll _ _)) (streams_emitAll _ _) fun _ _ => .inl

theorem heeds_openStream (m : Mux) (d : Destination) : Heeds causes h m (m.openStream d).2 := by
  rcases openStream_eq m d with
    ⟨-, e, he⟩ | ⟨-, -, -, payload, -, ⟨-, he⟩ | ⟨id, -, he⟩⟩
  all_goals rw [he]
  · exact .refl h m
  · exact .same rfl rfl
  · exact .grown (woken_emitAll _ _) rfl (streams_emitAll _ _)

theorem heeds_expireOpen (m : Mux) (hk : k ≠ h) : Heeds causes h m (m.expireOpen k).2 := by
  unfold expireOpen
  dsimp only
  split
  · exact .refl h m
  split
  · exact .elsewhere (woken_emitAll _ _) (streams_emitAll _ _) hk
  · exact .refl h m

theorem tells_expireOpen (m : Mux) (k : Handle) : Tells causes h m (m.expireOpen k).2 := by
  unfold expireOpen
  dsimp only
  split
  · exact .same rfl
  split
  · refine .modified (streams_emitAll _ _) fun _ e he => ?_
    obtain rfl := Option.some.inj he
    exact .inr (.inr nofun)
  · exact .same rfl

theorem heeds_accept (m : Mux) (k : Handle) : Heeds causes h m (m.accept k).2 := by
  unfold accept
  dsimp only
  split
  · exact .woken (congrArg (· ++ [k]) (woken_emitAll _ _)) (streams_emitAll _ _) fun _ _ => .inl
  · exact .refl h m

theorem heeds_send (m : Mux) (k : Handle) (data : Bytes) : Heeds causes h m (m.send k data).2 := by
  unfold send
  dsimp only
  split
  · exact .refl h m
  split
  · exact .refl h m
  split
  · exact .refl h m
  split
  · exact .refl h m
  · refine (Heeds.same (woken_emitAll m _) (streams_emitAll m _)).trans (.drained rfl rfl (fun _ => rfl) ?_)
    exact fun s _ => { Stream.Drained.refl s with sendWindow := Nat.sub_le _ _ }

theorem heeds_read (m : Mux) (k : Handle) : Heeds causes h m (m.read k).2 := by
  unfold read
  dsimp only
  split
  · rename_i chunk inbox hi
    have less (s : Stream) (hs : m.streams[k]? = some s) : inbox <:+ s.inbox := by
      rw [← stream_of_getElem? hs, hi]
      exact List.suffix_cons _ _
    split
    · refine .drained (woken_emitAll _ _) (streams_emitAll _ _) (fun _ => rfl) fun s hs => ?_
      exact { Stream.Drained.refl s with inbox := less s hs }
    · refine .drained rfl rfl (fun _ => rfl) fun s hs => ?_
      exact { Stream.Drained.refl s with inbox := less s hs }
  · split
    · exact .refl h m
    split
    · exact .refl h m
    split <;> exact .refl h m

theorem heeds_failAll (m : Mux) {e : LinkError} (he : causes e) : Heeds causes h m (m.failAll e) := by
  have emptied : Heeds causes h m { m with failed := m.failed <|> some e, table := [] } :=
    .same rfl rfl
  refine emptied.trans (heeds_foldl (fun m k => ?_) (m.table.map (·.2)) _)
  split
  · exact .woken rfl (List.modify_id k m.streams).symm fun _ _ => .inl
  · exact .woken rfl rfl (tells_terminated (.inl he))

/-- Every call wakes the streams that it changes for those who wait, but for giving up on a stream. -/
theorem heeds_call (m : Mux) {c : Call} (patient : c ≠ .expireOpen h)
    (hc : ∀ e, c = .failAll e → causes e) : Heeds causes h m (c.run m).2 := by
  cases c with
  | openStream d => exact heeds_openStream m d
  | expireOpen k =>
    simp only [Call.run]
    split
    · exact heeds_expireOpen m fun he => patient (by rw [he])
    · exact .refl h m
  | accept k =>
    simp only [Call.run]
    split
    · exact heeds_accept m k
    · exact .refl h m
  | send k data =>
    rw [Call.run, noteSent_snd]
    exact heeds_send m k data
  | sendTo id data =>
    rw [Call.run, noteSent_snd, sendTo]
    split
    · exact .refl h m
    · exact heeds_send m _ data
  | read k =>
    rw [Call.run, noteRead_snd]
    exact heeds_read m k
  | halfClose k => exact heeds_halfClose m k
  | abort k reason => exact heeds_abort m k reason
  | closeStream id reason =>
    simp only [Call.run, closeStream]
    split
    · exact .refl h m
    split
    · exact heeds_abort m _ reason
    · exact heeds_halfClose m _
  | dropHandle k => exact heeds_abort m k .reset
  | nextIncoming =>
    simp only [Call.run, nextIncoming]
    split <;> exact .same rfl rfl
  | dropIncoming =>
    have emptied : Heeds causes h m { m with incoming := [], listening := false } := .same rfl rfl
    exact emptied.trans (heeds_foldl (fun m k => heeds_abort m k .reset) m.incoming _)
  | ping => exact heeds_emit m _
  | failAll e => exact heeds_failAll m (hc e rfl)

/-! ### Frames -/

theorem heeds_onOpening (m : Mux) (id : StreamId) (payload : Bytes) :
    Heeds causes h m (m.onOpening id payload).2 := by
  unfold onOpening
  split
  · exact heeds_emit m _
  split
  · exact heeds_emit m _
  split
  · exact .refl h m
  split
  · exact .refl h m
  split
  · exact heeds_emit m _
  · have inserted {s : Stream} (hf : s.failure = none) : Heeds causes h m (m.insert s) :=
      .grown rfl hf rfl
    dsimp only
    split
    · exact (inserted rfl).trans (.same rfl rfl)
    · exact (inserted rfl).trans (heeds_abort _ _ _)

theorem heeds_onData (m : Mux) (k : Handle) (payload : Bytes) : Heeds causes h m (m.onData k payload) := by
  unfold onData
  dsimp only
  split
  · exact heeds_kill m k _ _ (.inr nofun)
  · exact .woken rfl rfl fun _ _ => .inl

theorem heeds_onClose (m : Mux) (k : Handle) (reason : CloseReason) :
    Heeds causes h m (m.onClose k reason) := by
  unfold onClose
  dsimp only
  split
  · exact heeds_kill m k _ _ (.inr nofun)
  split
  · exact heeds_kill m k _ _ (.inr nofun)
  split
  · exact heeds_kill m k _ _ (.inr nofun)
  split
  · exact .woken rfl (List.modify_id k m.streams).symm fun _ _ => .inl
  split <;> exact .woken rfl rfl fun _ _ => .inl

theorem heeds_onAck (m : Mux) (k : Handle) (credit : Nat) : Heeds causes h m (m.onAck k credit) := by
  unfold onAck
  dsimp only
  split
  · split
    · exact .refl h m
    · refine .woken (congrArg (· ++ [k]) (woken_emitAll _ _)) (streams_emitAll _ _) fun s e he => ?_
      rw [Stream.failure_tellOpener] at he
      exact .inl he
  · exact .woken rfl rfl fun _ _ => .inl
  · exact .woken rfl rfl fun _ _ => .inl
  · exact .woken rfl rfl fun _ _ => .inl
  · exact .refl h m

/-- Every frame wakes the streams that it changes for those who wait. -/
theorem heeds_receive (m : Mux) (fr : Frame) : Heeds causes h m (m.receive fr).2 := by
  unfold receive
  cases fr.kind with
  | ping =>
    dsimp only [onPing]
    split
    · exact heeds_emit m _
    · split <;> exact .refl h m
  | opening => exact heeds_onOpening m _ _
  | data =>
    dsimp only
    split
    · exact .refl h m
    · exact heeds_onData m _ _
  | close =>
    dsimp only
    split
    · exact .refl h m
    split
    · exact .refl h m
    · exact heeds_onClose m _ _
  | ack =>
    dsimp only
    split
    · exact .refl h m
    split
    · exact .refl h m
    · exact heeds_onAck m _ _

/-! ## Events -/

/-- Every event wakes a stream that it changes for those who wait. -/
theorem step_heeds (m : Mux) {e : Event} (patient : e ≠ .call (.expireOpen h))
    (hc : ∀ e', e = .call (.failAll e') → causes e') : Heeds causes h m (m.step e) := by
  cases e with
  | call c =>
    exact heeds_call m (fun he => patient (by rw [he])) fun e' he => hc e' (by rw [he])
  | frame fr => exact heeds_receive m fr

/-- No event makes a stream fail with an error that tells a writer to wait, but for failing the connection
with it. -/
theorem step_tells (m : Mux) {e : Event} (hc : ∀ e', e = .call (.failAll e') → causes e') :
    Tells causes h m (m.step e) := by
  by_cases he : e = .call (.expireOpen h)
  · subst he
    simp only [step, Call.run]
    split
    · exact tells_expireOpen m h
    · exact .same rfl
  · exact (step_heeds m he hc).tells

theorem run_heeds (m : Mux) {events : List Event}
    (patient : ∀ e ∈ events, e ≠ .call (.expireOpen h)) :
    Heeds (fun _ => True) h m (m.run events) := by
  induction events generalizing m with
  | nil => exact .refl h m
  | cons e events ih =>
    have first := step_heeds m (patient e List.mem_cons_self) fun _ _ => trivial
    exact first.trans (ih (m.step e) fun e' he' => patient e' (List.mem_cons_of_mem _ he'))

/-! ## No lost wakeup -/

/-- Who waits and has not been woken would wait again, and the stream has not been closed. -/
theorem Heeds.waits (heeds : Heeds causes h m m') :
    ∃ woken, m'.woken = m.woken ++ woken ∧ (h ∉ woken →
      ((m.stream h).Starved → (m'.stream h).Starved) ∧
      ((m.stream h).Stalled → (m'.stream h).Stalled) ∧
      ((m.stream h).phase ≠ .closed → (m'.stream h).phase ≠ .closed)) := by
  obtain ⟨woken, hw, drained⟩ := heeds.wakes
  refine ⟨woken, hw, fun hn => ?_⟩
  cases hs : m.streams[h]? with
  | none =>
    -- nobody waits on a stream that was never there
    rw [stream_of_length_le hs]
    refine ⟨fun starved => absurd rfl starved.live, fun stalled => ?_, fun live => absurd rfl live⟩
    simp [Stream.Stalled, Stream.absent] at stalled
  | some s =>
    obtain ⟨s', hs', hd⟩ := drained hn s hs
    rw [stream_of_getElem? hs, stream_of_getElem? hs']
    exact ⟨hd.starved, hd.stalled, fun live => hd.phase ▸ live⟩

/-- **No wakeup is lost.** If a read would wait before an event and would not after it, or sending
something is turned away before it because the window is used up and not after it, then the event wakes the
stream; the only event for which this is not so gives up on the stream because it was not confirmed in time.
So after any run in which the stream was not woken, a read that waited would wait again, a call that waited
to write would find nothing to do, and the stream has not been closed: not by the other side, not by a reset
and not because the connection failed. -/
theorem no_lost_wakeup (m : Mux) (h : Handle) :
    (∀ e, e ≠ .call (.expireOpen h) → ∃ woken, (m.step e).woken = m.woken ++ woken ∧
      ((m.read h).1 = .ok .pending → ((m.step e).read h).1 ≠ .ok .pending → h ∈ woken) ∧
      ∀ data ≠ [], m.Exhausted h data → ¬(m.step e).Exhausted h data → h ∈ woken) ∧
    ∀ later, (∀ e ∈ later, e ≠ .call (.expireOpen h)) → ∃ woken,
      (m.run later).woken = m.woken ++ woken ∧ (h ∉ woken →
        ((m.read h).1 = .ok .pending → ((m.run later).read h).1 = .ok .pending) ∧
        (∀ data ≠ [], m.writeAll h data = (.waiting data, m) →
          (m.run later).writeAll h data = (.waiting data, m.run later)) ∧
        ((m.stream h).phase ≠ .closed → ((m.run later).stream h).phase ≠ .closed)) := by
  refine ⟨fun e patient => ?_, fun later patient => ?_⟩
  · have heeds : Heeds (fun _ => True) h m (m.step e) := step_heeds m patient fun _ _ => trivial
    obtain ⟨woken, hw, waits⟩ := heeds.waits
    refine ⟨woken, hw, fun hbefore hafter => ?_, fun data hd hbefore hafter => ?_⟩
    · refine Decidable.byContradiction fun hn => hafter ?_
      exact read_pending_iff.2 ((waits hn).1 (read_pending_iff.1 hbefore))
    · refine Decidable.byContradiction fun hn => hafter ?_
      exact (exhausted_iff hd).2 ((waits hn).2.1 ((exhausted_iff hd).1 hbefore))
  · obtain ⟨woken, hw, waits⟩ := (run_heeds m patient).waits
    refine ⟨woken, hw, fun hn => ?_⟩
    obtain ⟨starved, stalled, live⟩ := waits hn
    refine ⟨fun hbefore => ?_, fun data hd hbefore => ?_, live⟩
    · exact read_pending_iff.2 (starved (read_pending_iff.1 hbefore))
    · exact (writeAll_waits_iff hd).2 (stalled ((writeAll_waits_iff hd).1 hbefore))

/-- A reader waits on a stream, and so does a writer once it has used up the window. The connection fails
and wakes them both. -/
example :
    let m := (fresh .initiator {}).run
      [.call (.openStream (.domain "svc.test" 443)), .frame (ackFrame 1 2), .call (.send 0 [7, 8])]
    let m' := m.step (.call (.failAll .connectionClosed))
    (m.stream 0).phase = .open_ ∧ (m.stream 0).inbox = [] ∧ (m.stream 0).sendWindow = 0 ∧
      (m'.stream 0).phase = .closed ∧ m'.woken = m.woken ++ [0] := by
  decide +kernel

end SealedRelay.Mux
