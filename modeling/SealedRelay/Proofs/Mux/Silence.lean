import SealedRelay.Proofs.Mux.Emission

/-!
# What an abort leaves behind

A close with another reason than the normal one tells the other side that a stream is dead. It is dead
here too: it has left the table, and nothing is sent on its number until that is used for a new stream.
There is one exception. Two kinds of openings are refused before anybody looks at the table: those
that arrive at the side that asks for streams, and those with a destination that cannot be read. If
there is a live stream with their number, the refusal is sent all the same and the stream goes on.

Results:
* `Emitted.lookup_of_abort`: a stream that is aborted has left the table, unless a question was refused
  unlooked.
* `Silent.step`: nothing is sent on a number that has left the table.
* `abort_is_final`: both together, for any run.
* `refused_stream_goes_on`: a live stream whose number the other side was told is refused.
-/
namespace SealedRelay.Mux

variable {role : Role} {c : Config} {s s' : Stream} {d : Deed} {out : List Frame} {e : Event}
  {m m' : Mux} {h : Handle} {id : StreamId} {reason : CloseReason}

/-! ## Aborts -/

/-- A number that has left the table stays out of it while streams take turns. -/
theorem Moved.lookup_eq_none (mv : Moved m m' h out s) (hl : m.lookup id = none) :
    m'.lookup id = none := by
  rw [lookup, List.lookup_eq_none_iff] at hl ⊢
  exact fun p hp => hl p (mv.sublist.subset hp)

/-- A stream that closes takes its number out of the table. -/
theorem Moved.lookup_of_closed (mv : Moved m m' h out s') (hm : m.Sound)
    (hs : m.streams[h]? = some s) (live : s.phase ≠ .closed) (closed : s'.phase = .closed) :
    m'.lookup s.id = none := by
  refine Option.eq_none_iff_forall_ne_some.2 fun k hk => ?_
  obtain ⟨hin, hother⟩ := (mv.mem_table _).1 (mem_of_lookup hk)
  have hself : m.lookup s.id = some h := hm.lookup_eq_some_iff.2 ⟨s, hs, rfl, live⟩
  rw [lookup, lookup_of_mem hm.nodup hin] at hself
  exact hother closed (Option.some.inj hself)

/-- An opening that is refused without a look at the table: it arrives at the side that asks for
streams, or its destination cannot be read. -/
def Event.Unlooked (e : Event) (m : Mux) (id : StreamId) : Prop :=
  ∃ payload, e = .frame ⟨.opening, id, payload⟩ ∧
    (m.role = .initiator ∨ ∃ err, Destination.decode payload = .error err)

theorem Event.Unlooked.step_eq (h : e.Unlooked m id) : m.step e = m.emitClose id .refused := by
  obtain ⟨payload, rfl, why⟩ := h
  have hstep : m.step (.frame ⟨.opening, id, payload⟩) = (m.onOpening id payload).2 := rfl
  rw [hstep, onOpening]
  split
  · rfl
  · rename_i hr
    obtain ⟨err, hd⟩ := why.resolve_left (by simp [hr])
    rw [hd]

theorem Emits.lookup_of_abort (em : Emits e m m' out) (hm : m.Sound)
    (hf : closeFrame id reason ∈ out) (harsh : reason.isAbort = true) :
    m'.lookup id = none ∨ e.Unlooked m id := by
  cases em with
  | quiet _ pings => rcases pings _ hf with h | h <;> cases congrArg Frame.kind h
  | turned stream turn moved =>
    obtain ⟨rfl, live, closed⟩ := turn.closed_of_abort hf harsh
    exact .inl (moved.lookup_of_closed hm stream live closed)
  | failed | offered => exact absurd hf List.not_mem_nil
  | asked => cases congrArg Frame.kind (List.mem_singleton.1 hf)
  | @declined f arrival kind queued _ why =>
    obtain ⟨rfl, -⟩ := closeFrame_inj (List.mem_singleton.1 hf)
    have hframe : f = ⟨.opening, f.stream, f.payload⟩ := by rw [← kind]
    rcases why with asking | unread | free
    · exact .inr ⟨f.payload, hframe ▸ arrival, .inl asking⟩
    · exact .inr ⟨f.payload, hframe ▸ arrival, .inr unread⟩
    · exact .inl (by rwa [lookup, queued.table])

/-- After an event that aborts a stream there is none with its number, unless the event was an opening
that was refused unlooked. -/
theorem Emitted.lookup_of_abort (em : Emitted e m m' out) (hm : m.Sound)
    (hf : closeFrame id reason ∈ out) (harsh : reason.isAbort = true) :
    m'.lookup id = none ∨ e.Unlooked m id := by
  induction em with
  | first emits => exact emits.lookup_of_abort hm hf harsh
  | torn before stream live moved ih =>
    rcases List.mem_append.1 hf with hf | hf
    · exact (ih hf).imp_left moved.lookup_eq_none
    · obtain ⟨rfl, -⟩ := closeFrame_inj (List.mem_singleton.1 hf)
      exact .inl (moved.lookup_of_closed (before.sound hm) stream live (Stream.phase_terminated _ _))

/-! ## After it -/

/-- The own program may use a handle: on the side that asks, once it has been told that its stream is
confirmed. -/
def GivenOut (m : Mux) (h : Handle) : Prop := m.role = .initiator → m.openResult h = some (.ok ())

/-- What is left to read of a stream that is closed: nothing for which credit would be granted, unless
its opener never got it. -/
structure Stream.Spent (role : Role) (s : Stream) : Prop where
  pending : s.phase = .pendingOpen → s.opened = none
  closed : s.phase = .closed →
    s.remoteClosed = true ∨ s.inbox = [] ∨ role = .initiator ∧ s.opened = none

theorem Stream.spent_terminated (s : Stream) (e : LinkError) : (s.terminated e).Spent role where
  pending := by simp
  closed _ := .inr (.inl (inbox_terminated s e))

theorem Turn.spent (t : Turn role c s d out s') (h : s.Spent role) : s'.Spent role := by
  cases t with
  | send | credit | early => exact ⟨h.pending, h.closed⟩
  | data _ live => exact ⟨h.pending, fun hp => absurd hp live⟩
  | take inbox | takeAndGrant inbox =>
    have unread (hp : s.phase = .closed) :
        s.remoteClosed = true ∨ role = .initiator ∧ s.opened = none :=
      (h.closed hp).imp_right fun hc => hc.resolve_left (by simp [inbox])
    exact ⟨h.pending, fun hp => (unread hp).imp_right .inr⟩
  | abort | fail | excess | refusal | tear => exact Stream.spent_terminated _ _
  | accept => exact ⟨nofun, nofun⟩
  | confirm => exact ⟨by simp, by simp⟩
  | expire asking pending => exact ⟨nofun, fun _ => .inr (.inr ⟨asking, h.pending pending⟩)⟩
  | halfClose =>
    refine ⟨fun hp => ?_, fun hp => ?_⟩
    · cases hr : s.remoteClosed <;> simp [hr] at hp
    · cases hr : s.remoteClosed <;> simp [hr] at hp ⊢
  | finish =>
    refine ⟨fun hp => ?_, fun _ => .inl rfl⟩
    cases hl : s.localClosed <;> simp [hl] at hp

/-- Only a read makes a closed stream send anything, and only if there is something left to read. -/
theorem Turn.of_closed (t : Turn role c s d out s') (hp : s.phase = .closed) {f : Frame}
    (hf : f ∈ out) : (∃ chunk, d = .took chunk) ∧ s.inbox ≠ [] ∧ s.remoteClosed = false := by
  cases t with
  | takeAndGrant inbox going => exact ⟨⟨_, rfl⟩, by simp [inbox], going⟩
  | take | fail | data | refusal | tear | finish | early | credit =>
    exact absurd hf List.not_mem_nil
  | send phase | halfClose phase => rcases phase with h | h <;> cases hp.symm.trans h
  | accept _ pending | expire _ pending | confirm _ _ _ pending => cases hp.symm.trans pending
  | abort live | excess _ live => exact absurd hp live

theorem Change.spent (ch : Change m m') (h : ∀ s ∈ m.streams, s.Spent m.role) :
    ∀ s ∈ m'.streams, s.Spent m'.role := by
  rw [ch.role]
  cases ch with
  | none _ _ _ streams => rwa [streams]
  | turned turned =>
    obtain ⟨stream, turn, moved, -⟩ := turned
    rw [moved.streams]
    intro u hu
    rcases List.mem_or_eq_of_mem_set hu with hu | rfl
    · exact h u hu
    · exact turn.spent (h _ (List.mem_of_getElem? stream))
  | @failed e failed =>
    rw [failed.streams]
    intro u hu
    obtain ⟨s, hs, rfl⟩ := List.mem_map.1 hu
    unfold Stream.failing
    split
    · exact h s hs
    · exact Stream.spent_terminated s e
  | inserted inserted _ pending untold =>
    rw [inserted.streams]
    intro u hu
    rcases List.mem_append.1 hu with hu | hu
    · exact h u hu
    · obtain rfl := List.mem_singleton.1 hu
      exact ⟨fun _ => untold, fun hp => by cases pending.symm.trans hp⟩

/-- A multiplexer in which no stream has a number. -/
structure Silent (id : StreamId) (m : Mux) : Prop where
  sound : m.Sound
  sending : m.sending = true
  lookup : m.lookup id = none
  spent : ∀ s ∈ m.streams, s.Spent m.role

/-- An event that does not use a number for a new stream, and reads only from handles that the program
may use. An opening with the number may come in if it is refused. -/
structure Event.Leaves (e : Event) (m : Mux) (id : StreamId) : Prop where
  unasked : ∀ payload, ⟨.opening, id, payload⟩ ∉ m.queued [e]
  unoffered : ∀ payload, e = .frame ⟨.opening, id, payload⟩ →
    (m.step e).streams.length = m.streams.length
  given : ∀ h, e = .call (.read h) → m.GivenOut h

/-- Bytes or credit for a stream. -/
def Frame.Speaks (f : Frame) (id : StreamId) : Prop :=
  f.stream = id ∧ (f.kind = .data ∨ f.kind = .ack)

namespace Silent

theorem lookup_inserted {new : Stream} (hl : m.lookup id = none) (inserted : Inserted m m' new out)
    (hne : new.id ≠ id) : m'.lookup id = none := by
  rw [Mux.lookup] at hl ⊢
  rw [inserted.table, List.lookup_append, hl, Option.none_or, List.lookup_cons,
    beq_false_of_ne hne.symm, List.lookup_nil]

/-- Whatever one end does on behalf of a closed or another stream says nothing on the number. -/
theorem turned (hm : Silent id m) (given : ∀ h, e = .call (.read h) → m.GivenOut h)
    (stream : m.streams[h]? = some s) (turn : Turn m.role m.config s d out s')
    (cause : e.Causes m h d) {f : Frame} (hf : f ∈ out) : ¬ Frame.Speaks f id := by
  rintro ⟨hid, -⟩
  have hself : s.id = id := (turn.out_stream f hf).1.symm.trans hid
  by_cases hp : s.phase = .closed
  · obtain ⟨⟨chunk, rfl⟩, hinbox, hgoing⟩ := turn.of_closed hp hf
    rcases (hm.spent s (List.mem_of_getElem? stream)).closed hp with h | h | ⟨asking, untold⟩
    · cases hgoing.symm.trans h
    · exact hinbox h
    · -- a handle whose opener gave up was never given out
      have htold := given h cause asking
      rw [openResult, stream_of_getElem? stream, untold] at htold
      cases htold
  · have hlive := hm.sound.lookup_eq_some_iff.2 ⟨s, stream, hself, hp⟩
    cases hm.lookup.symm.trans hlive

theorem emits (hm : Silent id m) (em : Emits e m m' out)
    (unasked : ∀ payload, ⟨.opening, id, payload⟩ ∉ out)
    (unoffered : ∀ payload, e = .frame ⟨.opening, id, payload⟩ → m'.streams.length = m.streams.length)
    (given : ∀ h, e = .call (.read h) → m.GivenOut h) :
    (∀ f ∈ out, ¬ Frame.Speaks f id) ∧ m'.lookup id = none := by
  cases em with
  | quiet queued pings =>
    refine ⟨fun f hf ⟨_, hk⟩ => ?_, by rw [Mux.lookup, queued.table]; exact hm.lookup⟩
    rcases pings f hf with rfl | rfl <;> simp at hk
  | turned stream turn moved cause =>
    exact ⟨fun f hf => hm.turned given stream turn cause hf, moved.lookup_eq_none hm.lookup⟩
  | failed failed => exact ⟨by simp, by rw [Mux.lookup, failed.table, List.lookup_nil]⟩
  | asked _ _ _ _ _ _ _ inserted =>
    refine ⟨by simp [Frame.Speaks], lookup_inserted hm.lookup inserted fun hid => ?_⟩
    exact unasked _ (List.mem_singleton.2 (by rw [← hid]; rfl))
  | @offered f _ arrival kind _ _ _ _ _ inserted =>
    refine ⟨by simp, lookup_inserted hm.lookup inserted fun hid => ?_⟩
    have hlength := unoffered f.payload (by rw [arrival, ← hid, ← kind]; rfl)
    simp [inserted.streams] at hlength
  | declined _ _ queued =>
    exact ⟨by simp [Frame.Speaks], by rw [Mux.lookup, queued.table]; exact hm.lookup⟩

theorem emitted (hm : Silent id m) (em : Emitted e m m' out)
    (unasked : ∀ payload, ⟨.opening, id, payload⟩ ∉ out)
    (unoffered : ∀ payload, e = .frame ⟨.opening, id, payload⟩ → m'.streams.length = m.streams.length)
    (given : ∀ h, e = .call (.read h) → m.GivenOut h) :
    (∀ f ∈ out, ¬ Frame.Speaks f id) ∧ m'.lookup id = none := by
  induction em with
  | first emits => exact hm.emits emits unasked unoffered given
  | torn _ _ _ moved ih =>
    obtain ⟨hquiet, hl⟩ := ih (fun payload hf => unasked payload (List.mem_append_left _ hf))
      fun payload he => by rw [← unoffered payload he, moved.streams, List.length_set]
    refine ⟨fun f hf => ?_, moved.lookup_eq_none hl⟩
    rcases List.mem_append.1 hf with hf | hf
    · exact hquiet f hf
    · obtain rfl := List.mem_singleton.1 hf
      simp [Frame.Speaks]

/-- Nothing is sent on a number that no stream has, and no stream gets it. -/
theorem step (hm : Silent id m) (leaves : e.Leaves m id) :
    (∀ f ∈ m.queued [e], ¬ Frame.Speaks f id) ∧ Silent id (m.step e) := by
  have em := emitted_queued hm.sound hm.sending e
  obtain ⟨hquiet, hl⟩ := hm.emitted em leaves.unasked leaves.unoffered leaves.given
  refine ⟨hquiet, em.sound hm.sound, (em.outbound hm.sending).2, hl, ?_⟩
  exact (changes_keep (fun ch _ h => ch.spent h) hm.sound hm.spent em.changes).2.2

end Silent

/-- Events that leave a number alone. -/
def Leaves (id : StreamId) : Mux → List Event → Prop
  | _, [] => True
  | m, e :: events => e.Leaves m id ∧ Leaves id (m.step e) events

/-- On the side that is asked, an event that queues nothing and asks for nothing leaves every number
alone. -/
theorem leaves_of_idle (hnone : m.queued [e] = []) (hr : m.role = .responder)
    (unoffered : ∀ payload, e ≠ .frame ⟨.opening, id, payload⟩) : e.Leaves m id where
  unasked := by simp [hnone]
  unoffered payload he := absurd he (unoffered payload)
  given _ _ asking := by cases hr.symm.trans asking

/-- Neither is anything sent on it by one event after the other. -/
theorem Silent.run {events : List Event} (hm : Silent id m) (leaves : Leaves id m events) :
    ∀ f ∈ m.queued events, ¬ Frame.Speaks f id := by
  induction events generalizing m with
  | nil => simp [queued, Mux.run]
  | cons e events ih =>
    obtain ⟨hfirst, hrest⟩ := leaves
    obtain ⟨hquiet, hnext⟩ := hm.step hfirst
    intro f hf
    rw [queued_cons hm.sound hm.sending, List.mem_append] at hf
    exact hf.elim (hquiet f) (ih hnext hrest f)

/-! ## Any run -/

theorem silent_run (role : Role) (c : Config) (events : List Event)
    (hl : ((fresh role c).run events).lookup id = none) : Silent id ((fresh role c).run events) := by
  have hfresh : Mux.Sound (fresh role c) := sound_fresh role c
  have hnone : ∀ s ∈ (fresh role c).streams, s.Spent role := by simp [fresh]
  obtain ⟨hm, -, -, hspent⟩ := run_keeps (fun ch _ h => ch.spent h) hfresh rfl hnone events
  exact ⟨hm, (run_changes hfresh rfl events).2.2, hl, hspent⟩

/-- **An abort is final.** When an event queues a close with another reason than the normal one, no stream
has its number afterwards, and neither bytes nor credit are sent on the number until it is used for a
new stream, by a program that reads only from handles that it was given; openings that are refused are
no such use. The exception is an opening with the number that is refused before the table is looked at,
as one that arrives at the side that asks for streams and one whose destination cannot be read: all that
comes of it is the close, whether there is a live stream with the number or not. -/
theorem abort_is_final (role : Role) (c : Config) (events : List Event) (e : Event) (id : StreamId)
    (reason : CloseReason) (harsh : reason.isAbort = true)
    (told : closeFrame id reason ∈ ((fresh role c).run events).queued [e]) :
    let m := (fresh role c).run events
    ((m.step e).lookup id = none ∨ e.Unlooked m id ∧ m.step e = m.emitClose id .refused) ∧
    ((m.step e).lookup id = none → ∀ later, Leaves id (m.step e) later →
      ∀ f ∈ (m.step e).queued later, f.stream = id → f.kind ≠ .data ∧ f.kind ≠ .ack) := by
  intro m
  obtain ⟨hm, -⟩ := run_keeps (I := fun _ => True) (fun _ _ _ => trivial) (sound_fresh role c) rfl
    trivial events
  have hs : m.sending = true := (run_changes (sound_fresh role c) rfl events).2.2
  refine ⟨?_, fun hl later leaves f hf hid => ?_⟩
  · rcases (emitted_queued hm hs e).lookup_of_abort hm told harsh with hgone | unlooked
    · exact .inl hgone
    · exact .inr ⟨unlooked, unlooked.step_eq⟩
  · have hrun : m.step e = (fresh role c).run (events ++ [e]) := by
      simp only [m, Mux.run, List.foldl_append, List.foldl_cons, List.foldl_nil]
    have hsilent : Silent id (m.step e) := hrun ▸ silent_run role c (events ++ [e]) (hrun ▸ hl)
    have hquiet := hsilent.run leaves f hf
    exact ⟨fun hk => hquiet ⟨hid, .inl hk⟩, fun hk => hquiet ⟨hid, .inr hk⟩⟩

/-- More bytes arrive than were granted, and more of them after the stream was reset. Then an opening with
its number comes in that cannot be read. -/
theorem flooded_stream_is_reset :
    let m := (fresh .responder { initialWindow := 4 }).run
      [.frame ⟨.opening, 1, [1, 127, 0, 0, 1, 0, 80]⟩, .call (.accept 0)]
    let e : Event := .frame ⟨.data, 1, [1, 2, 3, 4, 5]⟩
    let later : List Event :=
      [.frame ⟨.data, 1, [6]⟩, .call (.read 0), .frame ⟨.opening, 1, []⟩, .call (.send 0 [7])]
    CloseReason.reset.isAbort = true ∧ closeFrame 1 .reset ∈ m.queued [e] ∧
      m.lookup 1 = some 0 ∧ (m.step e).lookup 1 = none ∧ Leaves 1 (m.step e) later ∧
      ∀ f ∈ (m.step e).queued later, f.stream = 1 → f.kind ≠ .data ∧ f.kind ≠ .ack := by
  intro m e later
  have told : closeFrame 1 .reset ∈ m.queued [e] := by decide +kernel
  obtain ⟨hgone, hquiet⟩ := abort_is_final .responder { initialWindow := 4 }
    [.frame ⟨.opening, 1, [1, 127, 0, 0, 1, 0, 80]⟩, .call (.accept 0)] e 1 .reset rfl told
  have hgone : (m.step e).lookup 1 = none := by
    rcases hgone with hgone | ⟨⟨payload, he, -⟩, -⟩
    · exact hgone
    · simp [e] at he
  let x : Mux := (m.step e).run (later.take 2)
  have refused : (Event.frame ⟨.opening, 1, []⟩).Leaves x 1 := by
    have hqueued : x.queued [.frame ⟨.opening, 1, []⟩] = [closeFrame 1 .refused] := by decide +kernel
    have hlength : (x.step (.frame ⟨.opening, 1, []⟩)).streams.length = x.streams.length := by
      decide +kernel
    have hunasked (payload : List UInt8) :
        (⟨.opening, 1, payload⟩ : Frame) ∉ x.queued [.frame ⟨.opening, 1, []⟩] := by
      rw [hqueued, List.mem_singleton]
      exact fun hf => by cases congrArg Frame.kind hf
    exact ⟨hunasked, fun _ _ => hlength, nofun⟩
  have hleaves : Leaves 1 (m.step e) later :=
    ⟨leaves_of_idle (by decide +kernel) (by decide +kernel) (by simp),
      leaves_of_idle (by decide +kernel) (by decide +kernel) nofun, refused,
      leaves_of_idle (by decide +kernel) (by decide +kernel) nofun, trivial⟩
  exact ⟨rfl, told, by decide +kernel, hgone, hleaves, hquiet hgone later hleaves⟩

/-- The side that asks is asked for a stream with the number of one that it has. It tells the other side
that the stream is refused, and goes on sending on it. -/
theorem refused_stream_goes_on :
    let m := (fresh .initiator {}).run
      [.call (.openStream (.domain "svc.test" 443)), .frame (ackFrame 1 100)]
    let e : Event := .frame ⟨.opening, 1, [1, 127, 0, 0, 1, 0, 80]⟩
    CloseReason.refused.isAbort = true ∧ m.queued [e] = [closeFrame 1 .refused] ∧
      (m.step e).lookup 1 = some 0 ∧
      (m.step e).queued [.call (.send 0 [0])] = [⟨.data, 1, [0]⟩] := by
  decide +kernel

end SealedRelay.Mux
