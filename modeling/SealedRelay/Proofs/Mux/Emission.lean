import SealedRelay.Proofs.Mux.Lifecycle

/-!
# What an event queues, and why

A change forgets the frames that go with it. Here an event is told in full: which frames it queues, for
which stream, and what brought it about. A frame is queued by a turn of the stream that it belongs to, to
ask for a stream or to decline one, or it is a ping. Nothing else is ever queued.

Results:
* `step_emitted`: what any event does, with the frames that it queues.
* `Emitted.outbound`, `queued_cons`: they stand at the end of the queue, event after event.
* `Emitted.changes`: what is known of changes holds for it.
-/
namespace SealedRelay.Mux

/-- What brings about a deed of the stream behind `h`: a frame that arrives for it, or a call of the own
program. -/
def Event.Causes (e : Event) (m : Mux) (h : Handle) : Deed → Prop
  | .arrived f => e = .frame f ∧ m.lookup f.stream = some h
  | .took _ => e = .call (.read h)
  | .expired => e = .call (.expireOpen h)
  | .failed => False
  | _ => ∃ c, e = .call c

/-- A request for a sign of life, or the reply to one. -/
def Frame.IsPing (f : Frame) : Prop :=
  f = ⟨.ping, 0, Payload.pingRequest⟩ ∨ f = ⟨.ping, 0, Payload.pingReply⟩

/-- The first thing that an event does to `m`: it becomes `m'`, with `out` queued. -/
inductive Emits (e : Event) (m m' : Mux) : List Frame → Prop where
  /-- No stream is touched. -/
  | quiet {out : List Frame} (queued : Queued m m' out) (pings : ∀ f ∈ out, Frame.IsPing f)
      (numbers : m.nextId ≠ 0 → m'.nextId ≠ 0) : Emits e m m' out
  | turned {h : Handle} {d : Deed} {s s' : Stream} {out : List Frame}
      (stream : m.streams[h]? = some s) (turn : Turn m.role m.config s d out s')
      (moved : Moved m m' h out s') (cause : e.Causes m h d) : Emits e m m' out
  | failed {cause : LinkError} (failed : Failed m m' cause) : Emits e m m' []
  | asked {id : StreamId} {d : Destination} {payload : Bytes} (call : e = .call (.openStream d))
      (role : m.role = .initiator) (encoded : d.encode = .ok payload) (unfailed : m.failed = none)
      (free : m.lookup id = none) (room : m.table.length < m.config.maxStreams)
      (numbers : m.nextId ≠ 0 → id ≠ 0 ∧ m'.nextId ≠ 0)
      (inserted : Inserted m m' (.asked m.config id d) [⟨.opening, id, payload⟩]) :
      Emits e m m' [⟨.opening, id, payload⟩]
  | offered {f : Frame} {d : Destination} (arrival : e = .frame f) (kind : f.kind = .opening)
      (role : m.role = .responder) (unfailed : m.failed = none) (free : m.lookup f.stream = none)
      (room : m.table.length < m.config.maxStreams) (nextId : m'.nextId = m.nextId)
      (inserted : Inserted m m' (.offered f.stream d) []) : Emits e m m' []
  /-- A stream is declined. Whether there is one with its number already may not have been looked
  at. -/
  | declined {f : Frame} (arrival : e = .frame f) (kind : f.kind = .opening)
      (queued : Queued m m' [closeFrame f.stream .refused]) (nextId : m'.nextId = m.nextId)
      (why : m.role = .initiator ∨ (∃ e, Destination.decode f.payload = .error e) ∨
        m.lookup f.stream = none) :
      Emits e m m' [closeFrame f.stream .refused]

/-- All that an event does: after the first thing, streams may be torn down one after the other. -/
inductive Emitted (e : Event) (m : Mux) : Mux → List Frame → Prop where
  | first {m' : Mux} {out : List Frame} (emits : Emits e m m' out) : Emitted e m m' out
  | torn {m₁ m' : Mux} {out : List Frame} {h : Handle} {s : Stream} {reason : CloseReason}
      (before : Emitted e m m₁ out) (stream : m₁.streams[h]? = some s) (live : s.phase ≠ .closed)
      (moved : Moved m₁ m' h [closeFrame s.id reason] (s.terminated (.streamClosed s.id))) :
      Emitted e m m' (out ++ [closeFrame s.id reason])

variable {role : Role} {c : Config} {s s' : Stream} {e : Event} {m m₁ m' : Mux} {h : Handle} {d : Deed}
  {out : List Frame} {id : StreamId} {reason : CloseReason}

/-! ## Aborts -/

theorem closeFrame_inj {id id' : StreamId} {r r' : CloseReason} (h : closeFrame id r = closeFrame id' r') :
    id = id' ∧ r = r' := by
  injection h with _ hid hpayload
  have hr := congrArg CloseReason.decode hpayload
  rw [CloseReason.decode_encode, CloseReason.decode_encode] at hr
  exact ⟨hid, Except.ok.inj hr⟩

theorem Turn.closed_of_abort (t : Turn role c s d out s') (hf : closeFrame id reason ∈ out)
    (harsh : reason.isAbort = true) : s.id = id ∧ s.phase ≠ .closed ∧ s'.phase = .closed := by
  cases t with
  | send => simpa using (mem_dataFrames hf).1
  | take | fail | data | refusal | tear | finish | early | credit =>
    exact absurd hf List.not_mem_nil
  | takeAndGrant | accept | confirm => simpa using congrArg Frame.kind (List.mem_singleton.1 hf)
  | halfClose =>
    obtain ⟨-, rfl⟩ := closeFrame_inj (List.mem_singleton.1 hf)
    cases harsh
  | abort live =>
    exact ⟨(closeFrame_inj (List.mem_singleton.1 hf)).1.symm, live, Stream.phase_terminated _ _⟩
  | expire _ pending =>
    exact ⟨(closeFrame_inj (List.mem_singleton.1 hf)).1.symm, by simp [pending], rfl⟩
  | excess _ live =>
    exact ⟨(closeFrame_inj (List.mem_singleton.1 hf)).1.symm, live, Stream.phase_terminated _ _⟩

/-! ## Numbers -/

theorem nextId_kill (m : Mux) (h : Handle) (e : LinkError) (tell : Option CloseReason) :
    (m.kill h e tell).nextId = m.nextId := by
  cases tell with
  | none => rfl
  | some reason => exact nextId_emitAll _ _

theorem nextId_abort (m : Mux) (h : Handle) (reason : CloseReason) :
    (m.abort h reason).nextId = m.nextId := by
  unfold abort
  dsimp only
  split
  · rfl
  · exact nextId_kill _ _ _ _

theorem Turned.nextId {h : Handle} {d : Deed} (t : Turned m m' h d) : m'.nextId = m.nextId := by
  obtain ⟨_, _, moved, -⟩ := t
  exact moved.nextId

theorem nextId_onOpening (m : Mux) (id : StreamId) (payload : Bytes) :
    (m.onOpening id payload).2.nextId = m.nextId := by
  unfold onOpening
  split
  · exact nextId_emitAll _ _
  split
  · exact nextId_emitAll _ _
  split
  · rfl
  split
  · rfl
  split
  · exact nextId_emitAll _ _
  dsimp only
  split
  · rfl
  · exact nextId_abort _ _ _

/-! ## Effects as changes -/

theorem Emits.change (em : Emits e m m' out) : Change m m' := by
  cases em with
  | quiet queued | declined _ _ queued => exact .of_queued queued
  | @turned _ d _ _ _ stream turn moved cause =>
    exact .turned ⟨stream, turn, moved, fun hd => by rw [hd] at cause; exact cause⟩
  | failed failed => exact .failed failed
  | asked _ role _ unfailed free room _ inserted =>
    refine .inserted inserted ?_ rfl rfl unfailed free room (iff_of_true rfl role)
    exact role ▸ Stream.sound_asked m.config _ _
  | offered _ _ role unfailed free room _ inserted =>
    refine .inserted inserted ?_ rfl rfl unfailed free room (iff_of_false nofun (role ▸ nofun))
    exact role ▸ Stream.sound_offered m.config _ _

/-- An effect puts its frames at the end of the queue. -/
theorem Emits.outbound (em : Emits e m m' out) (hs : m.sending = true) :
    m'.outbound = m.outbound ++ out := by
  cases em with
  | quiet queued | declined _ _ queued => exact queued.outbound hs
  | turned _ _ moved => exact moved.outbound hs
  | failed failed => rw [failed.outbound, List.append_nil]
  | asked _ _ _ _ _ _ _ inserted | offered _ _ _ _ _ _ _ inserted => exact inserted.outbound hs

theorem Emits.nextId_ne_zero (em : Emits e m m' out) (hn : m.nextId ≠ 0) : m'.nextId ≠ 0 := by
  cases em with
  | quiet _ _ numbers => exact numbers hn
  | turned _ _ moved => exact moved.nextId ▸ hn
  | failed failed => exact failed.nextId ▸ hn
  | asked _ _ _ _ _ _ numbers => exact (numbers hn).2
  | offered _ _ _ _ _ _ nextId | declined _ _ _ nextId => exact nextId ▸ hn

namespace Emitted

/-- An event is a chain of changes. -/
theorem changes (em : Emitted e m m' out) : Relation.ReflTransGen Change m m' := by
  induction em with
  | first emits => exact .single emits.change
  | torn _ stream live moved ih =>
    exact ih.tail (.turned ⟨stream, .abort live, moved, nofun⟩)

theorem sound (em : Emitted e m m' out) (hm : m.Sound) : m'.Sound :=
  (changes_keep (I := fun _ => True) (fun _ _ _ => trivial) hm trivial em.changes).1

/-- What an event queues stands at the end of the queue. -/
theorem outbound (em : Emitted e m m' out) (hs : m.sending = true) :
    m'.outbound = m.outbound ++ out ∧ m'.sending = true := by
  induction em with
  | first emits => exact ⟨emits.outbound hs, emits.change.sending.trans hs⟩
  | torn _ _ _ moved ih =>
    obtain ⟨houtbound, hsending⟩ := ih
    exact ⟨by rw [moved.outbound hsending, houtbound, List.append_assoc], moved.sending.trans hsending⟩

theorem nextId_ne_zero (em : Emitted e m m' out) (hn : m.nextId ≠ 0) : m'.nextId ≠ 0 := by
  induction em with
  | first emits => exact emits.nextId_ne_zero hn
  | torn _ _ _ moved ih => exact moved.nextId ▸ ih

theorem isSome_failed (em : Emitted e m m' out) (hf : m.failed.isSome = true) :
    m'.failed.isSome = true := by
  have changes := em.changes
  clear em
  induction changes with
  | refl => exact hf
  | @tail _ z _ ch ih =>
    cases hz : z.failed with
    | some => rfl
    | none => simp [ch.unfailed hz] at ih

theorem same (hm : m' = m) : Emitted e m m' [] := by
  subst hm
  exact .first (.quiet (.refl m') (by simp) id)

theorem of_turned (t : Turned m m' h d) (cause : e.Causes m h d) : ∃ out, Emitted e m m' out := by
  obtain ⟨stream, turn, moved, -⟩ := t
  exact ⟨_, .first (.turned stream turn moved cause)⟩

theorem of_cases (hc : m' = m ∨ Turned m m' h d) (cause : e.Causes m h d) :
    ∃ out, Emitted e m m' out := by
  rcases hc with hm | turn
  · exact ⟨_, same hm⟩
  · exact of_turned turn cause

theorem reset (em : Emitted e m m₁ out) {reason : CloseReason}
    (t : Turned m₁ m' h (.aborted reason)) : ∃ out, Emitted e m m' out := by
  obtain ⟨stream, turn, moved, -⟩ := t
  cases turn with
  | abort live => exact ⟨_, .torn em stream live moved⟩

end Emitted

/-! ## Calls -/

theorem emitted_openStream (m : Mux) (d : Destination) :
    ∃ out, Emitted (.call (.openStream d)) m (m.openStream d).2 out := by
  rcases openStream_eq m d with
    ⟨-, e, he⟩ | ⟨hr, hf, hroom, payload, hd, ⟨ha, he⟩ | ⟨id, ha, he⟩⟩
  · exact ⟨_, .same (by rw [he])⟩
  · rw [he]
    exact ⟨_, .first (.quiet (queued_allocateId ha) (by simp) fun h => (allocateId_ne_zero h).1)⟩
  · rw [he]
    have numbers (h : m.nextId ≠ 0) : id ≠ 0 ∧
        ((m.allocateId.2.insert (.asked m.config id d)).emit ⟨.opening, id, payload⟩).nextId ≠ 0 := by
      refine ⟨(allocateId_ne_zero h).2 id ha, ?_⟩
      exact (nextId_emitAll _ _).symm ▸ (allocateId_ne_zero h).1
    exact ⟨_, .first
      (.asked rfl hr hd hf (allocateId_free ha) hroom numbers (inserted_allocateId m _ _))⟩

theorem emitted_halfClose (hm : m.Sound) (h : Handle) (own : ∃ c, e = .call c) :
    ∃ out, Emitted e m (m.halfClose h) out := by
  rcases halfClose_cases hm h with hsame | turn | turn
  · exact ⟨_, .same hsame⟩
  · exact Emitted.of_turned turn own
  · exact Emitted.of_turned turn own

theorem emitted_resets (em : Emitted e m m₁ out) (resets : Relation.ReflTransGen Reset m₁ m') :
    ∃ out, Emitted e m m' out := by
  induction resets with
  | refl => exact ⟨_, em⟩
  | tail _ reset ih =>
    obtain ⟨_, em⟩ := ih
    obtain ⟨_, turn⟩ := reset
    exact em.reset turn

theorem emitted_call (hm : m.Sound) (call : Call) :
    ∃ out, Emitted (.call call) m (call.run m).2 out := by
  have own : ∃ c, Event.call call = .call c := ⟨call, rfl⟩
  cases call with
  | openStream d => exact emitted_openStream m d
  | expireOpen h =>
    by_cases hr : m.role = .initiator
    · simp only [Call.run, if_pos hr]
      exact Emitted.of_cases (expireOpen_cases hm h hr) rfl
    · exact ⟨_, .same (if_neg hr)⟩
  | accept h =>
    by_cases hr : m.role = .responder
    · simp only [Call.run, if_pos hr]
      exact Emitted.of_cases (accept_cases h hr) own
    · exact ⟨_, .same (if_neg hr)⟩
  | send h data =>
    simp only [Call.run, noteSent_snd]
    rcases send_cases m h data with ⟨_, -, turn⟩ | ⟨hsame, -⟩
    · exact Emitted.of_turned turn own
    · exact ⟨_, .same hsame⟩
  | sendTo id data =>
    simp only [Call.run, noteSent_snd, sendTo]
    split
    · exact ⟨_, .same rfl⟩
    · rename_i h _
      rcases send_cases m h data with ⟨_, -, turn⟩ | ⟨hsame, -⟩
      · exact Emitted.of_turned turn own
      · exact ⟨_, .same hsame⟩
  | read h =>
    simp only [Call.run, noteRead_snd]
    rcases read_cases hm h with ⟨_, -, turn⟩ | ⟨hsame, -⟩
    · exact Emitted.of_turned turn rfl
    · exact ⟨_, .same hsame⟩
  | halfClose h => exact emitted_halfClose hm h own
  | abort h reason => exact Emitted.of_cases (abort_cases hm h reason) own
  | closeStream id reason =>
    simp only [Call.run, closeStream]
    split
    · exact ⟨_, .same rfl⟩
    split
    · exact Emitted.of_cases (abort_cases hm _ reason) own
    · exact emitted_halfClose hm _ own
  | dropHandle h => exact Emitted.of_cases (abort_cases hm h .reset) own
  | nextIncoming =>
    have queued (incoming : List Handle) : Queued m { m with incoming } [] := { Queued.refl m with }
    simp only [Call.run, nextIncoming]
    split
    · exact ⟨_, .first (.quiet (queued _) (by simp) id)⟩
    · exact ⟨_, .same rfl⟩
  | dropIncoming =>
    have queued : Queued m { m with incoming := [], listening := false } [] := { Queued.refl m with }
    exact emitted_resets (.first (.quiet queued (by simp) id))
      (foldl_dropHandle (hm.queued queued) m.incoming)
  | ping =>
    refine ⟨_, .first (.quiet (.emit m _) ?_ fun h => ?_)⟩
    · simp [Frame.IsPing]
    · exact (nextId_emitAll m _).symm ▸ h
  | failAll e => exact ⟨_, .first (.failed (failAll_failed hm e))⟩

/-! ## Frames -/

theorem emitted_ping (m : Mux) (payload : Bytes) : ∃ out, Emitted e m (m.onPing payload).2 out := by
  unfold onPing
  split
  · refine ⟨_, .first (.quiet (.emit m _) ?_ fun h => ?_)⟩
    · simp [Frame.IsPing]
    · exact (nextId_emitAll m _).symm ▸ h
  split <;> exact ⟨_, .same rfl⟩

theorem emitted_opening (hm : m.Sound) {f : Frame} (hk : f.kind = .opening) :
    ∃ out, Emitted (.frame f) m (m.receive f).2 out := by
  have hnext : (m.receive f).2.nextId = m.nextId := by
    simp only [receive, hk]
    exact nextId_onOpening m _ _
  rcases receive_opening hm hk with
    ⟨hsame, -⟩ | ⟨queued, why⟩ | ⟨hr, hf, hfree, hroom, d, m₁, inserted, hend⟩
  · exact ⟨_, .same hsame⟩
  · exact ⟨_, .first (.declined rfl hk queued hnext why)⟩
  · have offered (hnext : m₁.nextId = m.nextId) : Emitted (.frame f) m m₁ [] :=
      .first (.offered rfl hk hr hf hfree hroom hnext inserted)
    rcases hend with hend | turn
    · rw [hend] at hnext ⊢
      exact ⟨_, offered hnext⟩
    · exact (offered (turn.nextId.symm.trans hnext)).reset turn

theorem emitted_frame (hm : m.Sound) (f : Frame) :
    ∃ out, Emitted (.frame f) m (m.receive f).2 out := by
  by_cases hping : f.kind = .ping
  · simp only [receive, hping]
    exact emitted_ping m f.payload
  by_cases hopen : f.kind = .opening
  · exact emitted_opening hm hopen
  · rcases receive_cases hm hopen hping with ⟨hsame, -⟩ | ⟨_, hl, turn⟩
    · exact ⟨_, .same hsame⟩
    · exact Emitted.of_turned turn ⟨rfl, hl⟩

/-! ## Events -/

/-- What any event does, with the frames that it queues. -/
theorem step_emitted (hm : m.Sound) (e : Event) : ∃ out, Emitted e m (m.step e) out := by
  cases e with
  | call call => exact emitted_call hm call
  | frame f => exact emitted_frame hm f

def queued (m : Mux) (events : List Event) : List Frame :=
  (m.run events).outbound.drop m.outbound.length

theorem emitted_queued (hm : m.Sound) (hs : m.sending = true) (e : Event) :
    Emitted e m (m.step e) (m.queued [e]) := by
  obtain ⟨out, em⟩ := step_emitted hm e
  have hout : m.queued [e] = out := by
    rw [queued, run, List.foldl_cons, List.foldl_nil, (em.outbound hs).1, List.drop_left]
  exact hout ▸ em

theorem outbound_run (hm : m.Sound) (hs : m.sending = true) (events : List Event) :
    (m.run events).outbound = m.outbound ++ m.queued events := by
  have grows : m.outbound <+: (m.run events).outbound := by
    induction events generalizing m with
    | nil => exact List.prefix_rfl
    | cons e events ih =>
      have em := emitted_queued hm hs e
      obtain ⟨houtbound, hsending⟩ := em.outbound hs
      exact (houtbound ▸ List.prefix_append _ _).trans (ih (em.sound hm) hsending)
  obtain ⟨out, hout⟩ := grows
  rw [queued, ← hout, List.drop_left]

theorem queued_cons (hm : m.Sound) (hs : m.sending = true) (e : Event) (events : List Event) :
    m.queued (e :: events) = m.queued [e] ++ (m.step e).queued events := by
  have em := emitted_queued hm hs e
  obtain ⟨houtbound, hsending⟩ := em.outbound hs
  have hrest : (m.run (e :: events)).outbound = (m.step e).outbound ++ (m.step e).queued events :=
    outbound_run (em.sound hm) hsending events
  refine (List.append_right_inj m.outbound).1 ?_
  rw [← outbound_run hm hs, hrest, houtbound, List.append_assoc]

end SealedRelay.Mux
