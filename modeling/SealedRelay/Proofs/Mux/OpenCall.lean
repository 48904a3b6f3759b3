import Mathlib.Data.List.Induction
import Mathlib.Data.List.Nodup
import SealedRelay.Proofs.Mux.Emission
import SealedRelay.Proofs.Mux.Opener

/-!
# A call that asks for a stream

Such a call is turned away at once, or it queues an opening and waits. While it waits anything may
happen: frames arrive, the program makes other calls, the connection fails, the time to wait is over, and
the caller may lose interest. A call that fails or is given up drops the handle, and with it the stream.

Results:
* `Sound.activeStreams_eq`: the table counts the streams that are not closed.
* `Emitted.waiting`, `Emitted.answered`: what an event does to a stream for which a call waits, or
  waited.
* `Course.beat`: what is known of a call at any time.
* `open_leaves_nothing_behind`: how a call ends, and what it leaves.
-/
namespace SealedRelay.Mux

variable {c : Config} {s s' : Stream} {d : Deed} {out : List Frame} {e : Event} {m m' : Mux}
  {h : Handle} {id : StreamId} {r : Except LinkError Unit}

/-! ## Counting -/

/-- The table counts the streams that are not closed. -/
theorem Sound.activeStreams_eq (hm : m.Sound) :
    m.activeStreams = m.streams.countP fun s => s.phase ≠ .closed := by
  let live := m.streams.zipIdx.filter fun entry => entry.1.phase ≠ .closed
  have htable : (m.table.map Prod.snd).Nodup := by
    refine List.Nodup.map_on ?_ (List.Nodup.of_map Prod.fst hm.nodup)
    rintro ⟨i, k⟩ hi ⟨j, l⟩ hj hkl
    obtain ⟨s, hs, rfl, -⟩ := hm.mem_table.1 hi
    obtain ⟨t, ht, rfl, -⟩ := hm.mem_table.1 hj
    rw [show l = k from hkl.symm, hs] at ht
    rw [Option.some.inj ht, show k = l from hkl]
  have hlive : (live.map Prod.snd).Nodup := by
    have hsub : (live.map Prod.snd).Sublist (m.streams.zipIdx.map Prod.snd) :=
      List.filter_sublist.map Prod.snd
    rw [List.zipIdx_map_snd] at hsub
    exact hsub.nodup (List.nodup_range' 1)
  have hsame : (m.table.map Prod.snd).Perm (live.map Prod.snd) := by
    refine (List.perm_ext_iff_of_nodup htable hlive).2 fun k => ?_
    simp only [live, List.mem_map, List.mem_filter, List.mem_zipIdx_iff_getElem?, Prod.exists,
      exists_eq_right, hm.mem_table, decide_eq_true_eq]
    exact ⟨fun ⟨_, s, hs, _, hp⟩ => ⟨s, hs, hp⟩, fun ⟨s, hs, hp⟩ => ⟨s.id, s, hs, rfl, hp⟩⟩
  calc m.activeStreams
    _ = (live.map Prod.snd).length := by rw [← hsame.length_eq, List.length_map, activeStreams]
    _ = m.streams.zipIdx.countP fun entry => entry.1.phase ≠ .closed := by
      rw [List.length_map, List.countP_eq_length_filter]
    _ = (m.streams.zipIdx.map Prod.fst).countP fun s => s.phase ≠ .closed := by
      rw [List.countP_map]
      rfl
    _ = m.streams.countP fun s => s.phase ≠ .closed := by rw [List.zipIdx_map_fst]

theorem countP_eraseIdx_of_closed {streams : List Stream} (hs : streams[h]? = some s)
    (hp : s.phase = .closed) :
    (streams.eraseIdx h).countP (fun s => s.phase ≠ .closed) =
      streams.countP fun s => s.phase ≠ .closed := by
  obtain ⟨hlt, rfl⟩ := List.getElem?_eq_some_iff.1 hs
  conv_rhs => rw [← List.take_append_drop h streams, ← List.getElem_cons_drop hlt]
  rw [List.eraseIdx_eq_take_drop_succ, List.countP_append, List.countP_append, List.countP_cons]
  simp [hp]

/-! ## Waiting for an answer -/

/-- A call waits for this stream. -/
structure Stream.Waiting (s : Stream) : Prop where
  phase : s.phase = .pendingOpen
  awaiting : s.awaitingOpen = true
  untold : s.opened = none

/-- The call that waited for this stream has its answer, and if that is an error the stream is over. -/
structure Stream.Answered (s : Stream) (r : Except LinkError Unit) : Prop where
  told : s.opened = some r
  settled : s.awaitingOpen = false
  closed : ∀ e, r = .error e → s.phase = .closed

namespace Stream

theorem opened_tellOpener (s : Stream) (r : Except LinkError Unit) :
    (s.tellOpener r).opened = if s.awaitingOpen then some r else s.opened := by
  unfold tellOpener
  split <;> rfl

theorem Waiting.terminated (h : s.Waiting) (e : LinkError) :
    (s.terminated e).Answered (.error e) where
  told := by simp [Stream.terminated, opened_tellOpener, h.awaiting]
  settled := awaitingOpen_terminated s e
  closed _ _ := phase_terminated s e

theorem Answered.terminated (h : s.Answered r) (e : LinkError) : (s.terminated e).Answered r where
  told := by simp [Stream.terminated, opened_tellOpener, h.settled, h.told]
  settled := awaitingOpen_terminated s e
  closed _ _ := phase_terminated s e

theorem Answered.failing (h : s.Answered r) (e : LinkError) : (s.failing e).Answered r := by
  unfold Stream.failing
  split
  · exact h
  · exact h.terminated e

end Stream

/-- A turn of a stream for which a call waits: it goes on waiting, or it is told that the stream is
confirmed or that there is none, or it gives up itself. -/
theorem Turn.waiting (t : Turn .initiator c s d out s') (h : s.Waiting) (lasting : d ≠ .failed) :
    (s'.Waiting ∧ ∀ f ∈ out, f.kind ≠ .close) ∨
      (∃ f credit, d = .arrived f ∧ f.kind = .ack ∧ Payload.decodeCredit f.payload = .ok credit ∧
        s'.Answered (.ok ())) ∨
      (∃ e, s'.Answered (.error e) ∧ ∀ t, e ≠ .openTimeout t) ∨ d = .expired := by
  cases t with
  | take | data => exact .inl ⟨⟨h.phase, h.awaiting, h.untold⟩, by simp⟩
  | takeAndGrant => exact .inl ⟨⟨h.phase, h.awaiting, h.untold⟩, by simp⟩
  | @confirm f credit kind payload =>
    refine .inr (.inl ⟨f, credit, rfl, kind, payload, ?_, ?_, fun _ he => by cases he⟩)
    · simp [Stream.opened_tellOpener, Stream.credited, h.awaiting]
    · exact Stream.awaitingOpen_tellOpener _ _
  | abort | excess | refusal => exact .inr (.inr (.inl ⟨_, h.terminated _, fun _ he => by cases he⟩))
  | expire => exact .inr (.inr (.inr rfl))
  | fail => exact absurd rfl lasting
  | send phase | halfClose phase => rcases phase with hp | hp <;> cases h.phase.symm.trans hp
  | tear _ _ _ confirmed | finish _ _ confirmed | credit _ _ confirmed =>
    exact absurd h.phase confirmed
  | accept asked | early _ _ asked => cases asked

theorem Turn.answered {role : Role} (t : Turn role c s d out s') (h : s.Answered r) :
    s'.Answered r := by
  have closed : ∀ e, r = .error e → s'.phase = .closed := fun e he => t.closed (h.closed e he)
  cases t with
  | abort | fail | excess | refusal | tear => exact h.terminated _
  | expire => exact ⟨h.told, rfl, closed⟩
  | confirm =>
    refine ⟨?_, Stream.awaitingOpen_tellOpener _ _, closed⟩
    simp [Stream.opened_tellOpener, Stream.credited, h.settled, h.told]
  | _ => exact ⟨h.told, h.settled, closed⟩

/-! ## Events -/

theorem Emits.getElem? (em : Emits e m m' out) (hs : m.streams[h]? = some s) :
    m'.streams[h]? = some s ∨
      (∃ d s', m'.streams[h]? = some s' ∧ Turn m.role m.config s d out s' ∧ e.Causes m h d) ∨
      ∃ cause, m'.streams[h]? = some (s.failing cause) ∧ m'.failed.isSome = true := by
  have hlt := (List.getElem?_eq_some_iff.1 hs).1
  cases em with
  | quiet queued | declined _ _ queued => exact .inl (by rw [queued.streams, hs])
  | @turned k d t t' _ stream turn moved cause =>
    by_cases hk : h = k
    · subst hk
      obtain rfl := Option.some.inj (hs.symm.trans stream)
      exact .inr (.inl ⟨d, t', moved.getElem?_self hs, turn, cause⟩)
    · exact .inl ((moved.getElem?_other hk).trans hs)
  | @failed cause failed =>
    refine .inr (.inr ⟨cause, ?_, failed.failed⟩)
    rw [failed.streams, List.getElem?_map, hs]
    rfl
  | asked _ _ _ _ _ _ _ inserted | offered _ _ _ _ _ _ _ inserted =>
    exact .inl (by rw [inserted.streams, List.getElem?_append_left hlt, hs])

/-- What has become of a stream for which a call waits, after an event that queued `out`. -/
inductive Heeded (e : Event) (m' : Mux) (id : StreamId) (out : List Frame) (s' : Stream) : Prop where
  | waits (waiting : s'.Waiting) (silent : closeFrame id .timeout ∉ out)
  | confirmed {f : Frame} {credit : Nat} (arrival : e = .frame f) (kind : f.kind = .ack)
      (stream : f.stream = id) (payload : Payload.decodeCredit f.payload = .ok credit)
      (answered : s'.Answered (.ok ()))
  | refused {cause : LinkError} (answered : s'.Answered (.error cause))
      (failed : ∀ t, cause = .openTimeout t → m'.failed.isSome = true)

theorem Sound.handle_unique (hm : m.Sound) {k : Handle} {t : Stream} (hs : m.streams[h]? = some s)
    (ht : m.streams[k]? = some t) (hp : s.phase ≠ .closed) (hq : t.phase ≠ .closed)
    (hid : t.id = s.id) : h = k := by
  have hself := hm.lookup_eq_some_iff.2 ⟨s, hs, rfl, hp⟩
  have hother := hm.lookup_eq_some_iff.2 ⟨t, ht, hid, hq⟩
  exact Option.some.inj (hself.symm.trans hother)

theorem Emits.waiting (em : Emits e m m' out) (hm : m.Sound) (hr : m.role = .initiator)
    (hs : m.streams[h]? = some s) (hw : s.Waiting) (patient : e ≠ .call (.expireOpen h)) :
    ∃ s', m'.streams[h]? = some s' ∧ s'.id = s.id ∧ Heeded e m' s.id out s' := by
  have hlive : s.phase ≠ .closed := by simp [hw.phase]
  have hlt := (List.getElem?_eq_some_iff.1 hs).1
  cases em with
  | quiet queued pings =>
    refine ⟨s, by rw [queued.streams, hs], rfl, .waits hw fun hf => ?_⟩
    rcases pings _ hf with h | h <;> cases congrArg Frame.kind h
  | @turned k d t t' _ stream turn moved cause =>
    by_cases hk : h = k
    · subst hk
      obtain rfl := Option.some.inj (hs.symm.trans stream)
      rw [hr] at turn
      refine ⟨t', moved.getElem?_self hs, turn.id_eq, ?_⟩
      have lasting : d ≠ .failed := fun hd => by rw [hd] at cause; exact cause
      rcases turn.waiting hw lasting with
        ⟨waiting, silent⟩ | ⟨f, credit, rfl, kind, payload, answered⟩ | ⟨err, answered, other⟩ | rfl
      · exact .waits waiting fun hf => silent _ hf rfl
      · obtain ⟨_, hl, hid, -⟩ := hm.lookup_eq_some_iff.1 cause.2
        obtain rfl := Option.some.inj (hs.symm.trans hl)
        exact .confirmed cause.1 kind hid.symm payload answered
      · exact .refused answered fun t ht => absurd ht (other t)
      · exact absurd cause patient
    · refine ⟨s, (moved.getElem?_other hk).trans hs, rfl, .waits hw fun hf => hk ?_⟩
      obtain ⟨hid, live, -⟩ := turn.closed_of_abort hf rfl
      exact hm.handle_unique hs stream hlive live hid
  | @failed cause failed =>
    refine ⟨s.failing cause, by rw [failed.streams, List.getElem?_map, hs]; rfl, by simp, ?_⟩
    rw [Stream.failing, if_neg hlive]
    exact .refused (hw.terminated cause) fun _ _ => failed.failed
  | asked _ _ _ _ _ _ _ inserted =>
    refine ⟨s, by rw [inserted.streams, List.getElem?_append_left hlt, hs], rfl, .waits hw ?_⟩
    exact fun hf => by cases congrArg Frame.kind (List.mem_singleton.1 hf)
  | offered _ _ _ _ _ _ _ inserted =>
    exact ⟨s, by rw [inserted.streams, List.getElem?_append_left hlt, hs], rfl, .waits hw (by simp)⟩
  | declined _ _ queued =>
    refine ⟨s, by rw [queued.streams, hs], rfl, .waits hw fun hf => ?_⟩
    cases (closeFrame_inj (List.mem_singleton.1 hf)).2

theorem Emits.answered (em : Emits e m m' out) (hs : m.streams[h]? = some s) (ha : s.Answered r) :
    ∃ s', m'.streams[h]? = some s' ∧ s'.id = s.id ∧ s'.Answered r := by
  rcases em.getElem? hs with hsame | ⟨d, s', hs', turn, -⟩ | ⟨cause, hs', -⟩
  · exact ⟨s, hsame, rfl, ha⟩
  · exact ⟨s', hs', turn.id_eq, turn.answered ha⟩
  · exact ⟨_, hs', by simp, ha.failing cause⟩

namespace Emitted

/-- Whatever happens, a call goes on waiting, or it is told that its stream is confirmed by an ack that
arrives, or it is told an error. -/
theorem waiting (em : Emitted e m m' out) (hm : m.Sound) (hr : m.role = .initiator)
    (hs : m.streams[h]? = some s) (hw : s.Waiting) (patient : e ≠ .call (.expireOpen h)) :
    ∃ s', m'.streams[h]? = some s' ∧ s'.id = s.id ∧ Heeded e m' s.id out s' := by
  induction em with
  | first emits => exact emits.waiting hm hr hs hw patient
  | @torn m₁ m' out k t reason before stream live moved ih =>
    obtain ⟨s₁, hs₁, hid, heeded⟩ := ih
    by_cases hk : h = k
    · subst hk
      obtain rfl := Option.some.inj (hs₁.symm.trans stream)
      refine ⟨_, moved.getElem?_self hs₁, (Stream.id_terminated _ _).trans hid, ?_⟩
      cases heeded with
      | waits waiting => exact .refused (waiting.terminated _) nofun
      | confirmed arrival kind stream payload answered =>
        exact .confirmed arrival kind stream payload (answered.terminated _)
      | refused answered => exact absurd (answered.closed _ rfl) live
    · refine ⟨s₁, (moved.getElem?_other hk).trans hs₁, hid, ?_⟩
      cases heeded with
      | waits waiting silent =>
        refine .waits waiting fun hf => ?_
        rcases List.mem_append.1 hf with hf | hf
        · exact silent hf
        · have hsame := (closeFrame_inj (List.mem_singleton.1 hf)).1
          refine hk ((before.sound hm).handle_unique hs₁ stream ?_ live (hsame.symm.trans hid.symm))
          simp [waiting.phase]
      | confirmed arrival kind stream payload answered =>
        exact .confirmed arrival kind stream payload answered
      | refused answered failed => exact .refused answered fun t ht => moved.failed ▸ failed t ht

/-- An answer is final. -/
theorem answered (em : Emitted e m m' out) (hs : m.streams[h]? = some s) (ha : s.Answered r) :
    ∃ s', m'.streams[h]? = some s' ∧ s'.id = s.id ∧ s'.Answered r := by
  induction em with
  | first emits => exact emits.answered hs ha
  | @torn _ _ _ k _ _ _ stream _ moved ih =>
    obtain ⟨s₁, hs₁, hid, ha₁⟩ := ih
    by_cases hk : h = k
    · subst hk
      obtain rfl := Option.some.inj (hs₁.symm.trans stream)
      exact ⟨_, moved.getElem?_self hs₁, (Stream.id_terminated _ _).trans hid, ha₁.terminated _⟩
    · exact ⟨s₁, (moved.getElem?_other hk).trans hs₁, hid, ha₁⟩

end Emitted

/-! ## The call -/

inductive Ending where
  | told (r : Except LinkError Unit)
  /-- The caller has lost interest. -/
  | cancelled

/-- The caller does not get the stream. -/
def Ending.Fails : Ending → Prop
  | told (.ok ()) => False
  | told (.error _) | cancelled => True

/-- A call that has asked for a stream, on its multiplexer: the handle that it holds, and how it has
ended. -/
structure OpenCall where
  mux : Mux
  handle : Handle
  ending : Option Ending := none

/-- One thing that happens while a call waits, or after it has ended. -/
inductive Beat where
  /-- Something else happens to the multiplexer. -/
  | other (e : Event)
  /-- The call looks for its answer, and the time to wait for it may be over. -/
  | poll (expired : Bool)
  | cancel

namespace OpenCall

def beat (x : OpenCall) : Beat → OpenCall
  | .other e => { x with mux := x.mux.step e }
  | .poll expired =>
    if x.ending.isSome then x
    else
      match x.mux.pollOpen x.handle expired with
      | (none, mux) => { x with mux }
      | (some (.ok ()), mux) => { x with mux, ending := some (.told (.ok ())) }
      | (some (.error e), mux) =>
        { x with mux := mux.dropHandle x.handle, ending := some (.told (.error e)) }
  | .cancel =>
    if x.ending.isSome then x
    else { x with mux := x.mux.dropHandle x.handle, ending := some .cancelled }

def through (x : OpenCall) (beats : List Beat) : OpenCall := beats.foldl beat x

variable {x start : OpenCall} {b : Beat} {beats : List Beat} {o : Ending}

theorem through_append (x : OpenCall) (beats later : List Beat) :
    x.through (beats ++ later) = (x.through beats).through later :=
  List.foldl_append

theorem ending_beat (h : x.ending = some o) (b : Beat) : (x.beat b).ending = some o := by
  have ended : x.ending.isSome = true := by rw [h]; rfl
  cases b with
  | other => exact h
  | poll | cancel => rwa [beat, if_pos ended]

theorem ending_through (h : x.ending = some o) (later : List Beat) :
    (x.through later).ending = some o := by
  induction later generalizing x with
  | nil => exact h
  | cons b later ih => exact ih (ending_beat h b)

theorem handle_beat (x : OpenCall) (b : Beat) : (x.beat b).handle = x.handle := by
  cases b with
  | other => rfl
  | poll =>
    rw [beat]
    split
    · rfl
    · split <;> rfl
  | cancel =>
    rw [beat]
    split <;> rfl

end OpenCall

/-! ## What the call does itself -/

theorem dropHandle_of_closed (hs : m.streams[h]? = some s) (hp : s.phase = .closed) :
    m.dropHandle h = m := by
  simp only [dropHandle, abort, stream_of_getElem? hs, if_pos hp]

theorem dropHandle_closes (hm : m.Sound) (hs : m.streams[h]? = some s) :
    ∃ s', (m.dropHandle h).streams[h]? = some s' ∧ s'.id = s.id ∧ s'.phase = .closed := by
  by_cases hp : s.phase = .closed
  · exact ⟨s, by rw [dropHandle_of_closed hs hp, hs], rfl, hp⟩
  · simp only [dropHandle, abort, stream_of_getElem? hs, if_neg hp]
    exact ⟨_, (kill_moved hm hs _ _).getElem?_self hs, Stream.id_terminated _ _,
      Stream.phase_terminated _ _⟩

theorem dropHandle_others (hm : m.Sound) (h : Handle) {k : Handle} (hk : k ≠ h) :
    (m.dropHandle h).streams[k]? = m.streams[k]? := by
  rcases abort_cases hm h .reset with hsame | ⟨-, -, moved, -⟩
  · rw [dropHandle, hsame]
  · exact moved.getElem?_other hk

/-- A call whose time is over gives up, and says so with one close. -/
theorem expireOpen_waiting (hm : m.Sound) (hs : m.streams[h]? = some s) (hw : s.Waiting) :
    ∃ s', s'.id = s.id ∧ s'.phase = .closed ∧
      (m.expireOpen h).1 = .error (.openTimeout m.config.openTimeout) ∧
      Moved m (m.expireOpen h).2 h [closeFrame s.id .timeout] s' := by
  let s' : Stream :=
    { s with phase := .closed, awaitingOpen := false, failure := some (.openTimeout m.config.openTimeout) }
  have edited (f : Stream → Stream) (hf : f s = s') : Edited m (m.modify h f) h [] s' :=
    (Edited.refl hs).modify hf
  refine ⟨s', rfl, rfl, ?_⟩
  simp only [expireOpen, stream_of_getElem? hs, hw.untold, hw.phase, if_true]
  exact ⟨trivial, ((edited _ rfl).remove hm hs rfl rfl).emitAll [closeFrame s.id .timeout]⟩

/-! ## The course of a call -/

namespace OpenCall

/-- An ack for the number of the stream arrived while the stream was waiting for it. -/
def Confirmed (start : OpenCall) (id : StreamId) (beats : List Beat) : Prop :=
  ∃ before f later credit, beats = before ++ .other (.frame f) :: later ∧ f.kind = .ack ∧
    f.stream = id ∧ Payload.decodeCredit f.payload = .ok credit ∧
    ∃ s, (start.through before).mux.streams[start.handle]? = some s ∧ s.id = id ∧
      s.phase = .pendingOpen

theorem Confirmed.concat {start : OpenCall} {beats : List Beat} (h : start.Confirmed id beats)
    (b : Beat) : start.Confirmed id (beats ++ [b]) := by
  obtain ⟨before, f, later, credit, rfl, rest⟩ := h
  exact ⟨before, f, later ++ [b], credit, by simp, rest⟩

/-- Where a call stands, with the stream behind its handle: it waits and has not given up, it has its
answer and has not looked at it, it has got its stream, or the stream is over. -/
inductive Standing (start : OpenCall) (id : StreamId) (beats : List Beat) (x : OpenCall) (s : Stream) :
    Prop where
  | waits {since : List Frame} (going : x.ending = none) (waiting : s.Waiting)
      (outbound : x.mux.outbound = start.mux.outbound ++ since)
      (silent : closeFrame id .timeout ∉ since)
  | answered {r : Except LinkError Unit} (going : x.ending = none) (answered : s.Answered r)
      (confirmed : r = .ok () → start.Confirmed id beats)
      (failed : ∀ t, r = .error (.openTimeout t) → x.mux.failed.isSome = true)
  | given (ended : x.ending = some (.told (.ok ()))) (confirmed : start.Confirmed id beats)
  | finished {o : Ending} (ended : x.ending = some o) (fails : o.Fails) (closed : s.phase = .closed)

/-- What is known of a call after any beats. -/
structure Course (c : Config) (start : OpenCall) (id : StreamId) (beats : List Beat) : Prop where
  asking : Asking c (start.through beats).mux
  handle : (start.through beats).handle = start.handle
  stands : ∃ s, (start.through beats).mux.streams[start.handle]? = some s ∧ s.id = id ∧
    Standing start id beats (start.through beats) s

variable {x start : OpenCall} {b : Beat} {beats : List Beat} {o : Ending}

theorem Standing.other (hx : Asking c x.mux) (hs : x.mux.streams[x.handle]? = some s)
    (hid : s.id = id) (hb : start.through beats = x) (hh : x.handle = start.handle)
    (patient : e ≠ .call (.expireOpen x.handle)) (st : Standing start id beats x s) :
    ∃ s', (x.mux.step e).streams[x.handle]? = some s' ∧ s'.id = id ∧
      Standing start id (beats ++ [.other e]) (x.beat (.other e)) s' := by
  have em := emitted_queued hx.sound hx.sending e
  subst hid
  cases st with
  | @waits since going waiting outbound silent =>
    obtain ⟨s', hs', hid', heeded⟩ := em.waiting hx.sound hx.role hs waiting patient
    refine ⟨s', hs', hid', ?_⟩
    cases heeded with
    | waits waiting' silent' =>
      have outbound' : (x.beat (.other e)).mux.outbound =
          start.mux.outbound ++ (since ++ x.mux.queued [e]) := by
        rw [beat, (em.outbound hx.sending).1, outbound, List.append_assoc]
      exact .waits going waiting' outbound' (by simp [silent, silent'])
    | @confirmed f credit arrival kind stream payload answered =>
      refine .answered going answered (fun _ => ?_) nofun
      subst arrival
      exact ⟨beats, f, [], credit, rfl, kind, stream, payload, s, by rw [hb, ← hh, hs], rfl,
        waiting.phase⟩
    | refused answered failed =>
      exact .answered going answered nofun fun t ht => failed t (Except.error.inj ht)
  | answered going answered confirmed failed =>
    obtain ⟨s', hs', hid', answered'⟩ := em.answered hs answered
    exact ⟨s', hs', hid', .answered going answered' (fun hr => (confirmed hr).concat _)
      fun t ht => em.isSome_failed (failed t ht)⟩
  | given ended confirmed =>
    obtain ⟨s', hs', hnext⟩ := step_moves hx.sound e _ s hs
    exact ⟨s', hs', hnext.id, .given ended (confirmed.concat _)⟩
  | finished ended fails closed =>
    obtain ⟨s', hs', hnext⟩ := step_moves hx.sound e _ s hs
    have hphase := hnext.phase
    rw [closed] at hphase
    exact ⟨s', hs', hnext.id, .finished ended fails hphase.closed⟩

theorem beat_of_ended (ended : x.ending = some o) (own : ∀ e, b ≠ .other e) : x.beat b = x := by
  have hsome : x.ending.isSome = true := by rw [ended]; rfl
  cases b with
  | other e => exact absurd rfl (own e)
  | poll | cancel => rw [beat, if_pos hsome]

/-- Looking for an answer while there is none and there is still time changes nothing. -/
theorem beat_poll_waiting (going : x.ending = none) (hs : x.mux.streams[x.handle]? = some s)
    (hw : s.Waiting) : x.beat (.poll false) = x := by
  have huntold : x.mux.openResult x.handle = none := by
    rw [openResult, stream_of_getElem? hs, hw.untold]
  obtain ⟨mux, handle, ending⟩ := x
  obtain rfl : ending = none := going
  simp [beat, pollOpen, huntold]

theorem beat_poll_expired (hm : x.mux.Sound) (going : x.ending = none)
    (hs : x.mux.streams[x.handle]? = some s) (hw : s.Waiting) :
    x.beat (.poll true) =
      { x with
        mux := (x.mux.expireOpen x.handle).2
        ending := some (.told (.error (.openTimeout x.mux.config.openTimeout))) } := by
  have huntold : x.mux.openResult x.handle = none := by
    rw [openResult, stream_of_getElem? hs, hw.untold]
  obtain ⟨s', -, hp, hresult, moved⟩ := expireOpen_waiting hm hs hw
  have hdrop := dropHandle_of_closed (moved.getElem?_self hs) hp
  simp [beat, going, pollOpen, huntold, hresult, hdrop]

/-- A call that has its answer ends with it when it looks. -/
theorem beat_poll_answered (going : x.ending = none) (hs : x.mux.streams[x.handle]? = some s)
    (ha : s.Answered r) (expired : Bool) :
    x.beat (.poll expired) = { x with ending := some (.told r) } := by
  have htold : x.mux.openResult x.handle = some r := by
    rw [openResult, stream_of_getElem? hs, ha.told]
  cases r with
  | ok => simp [beat, going, pollOpen, htold]
  | error e =>
    have hdrop := dropHandle_of_closed hs (ha.closed e rfl)
    simp [beat, going, pollOpen, htold, hdrop]

theorem Standing.later (st : Standing start id beats x s) (b : Beat) :
    Standing start id (beats ++ [b]) x s := by
  cases st with
  | waits going waiting outbound silent => exact .waits going waiting outbound silent
  | answered going answered confirmed failed =>
    exact .answered going answered (fun hr => (confirmed hr).concat b) failed
  | given ended confirmed => exact .given ended (confirmed.concat b)
  | finished ended fails closed => exact .finished ended fails closed

theorem Standing.poll (hx : Asking c x.mux) (hs : x.mux.streams[x.handle]? = some s)
    (hid : s.id = id) (expired : Bool) (st : Standing start id beats x s) :
    Asking c (x.beat (.poll expired)).mux ∧
      ∃ s', (x.beat (.poll expired)).mux.streams[x.handle]? = some s' ∧ s'.id = id ∧
        Standing start id (beats ++ [.poll expired]) (x.beat (.poll expired)) s' := by
  have later := st.later (.poll expired)
  cases st with
  | waits going waiting =>
    cases expired with
    | false =>
      rw [beat_poll_waiting going hs waiting]
      exact ⟨hx, s, hs, hid, later⟩
    | true =>
      rw [beat_poll_expired hx.sound going hs waiting]
      obtain ⟨s', hid', hp, -, moved⟩ := expireOpen_waiting hx.sound hs waiting
      have hstep : x.mux.step (.call (.expireOpen x.handle)) = (x.mux.expireOpen x.handle).2 :=
        if_pos hx.role
      have hnext := hx.step (.call (.expireOpen x.handle))
      rw [hstep] at hnext
      exact ⟨hnext, s', moved.getElem?_self hs, hid'.trans hid, .finished rfl trivial hp⟩
  | @answered r going answered confirmed =>
    rw [beat_poll_answered going hs answered]
    refine ⟨hx, s, hs, hid, ?_⟩
    cases r with
    | ok => exact .given rfl ((confirmed rfl).concat _)
    | error e => exact .finished rfl trivial (answered.closed e rfl)
  | given ended | finished ended =>
    rw [beat_of_ended ended (by simp)]
    exact ⟨hx, s, hs, hid, later⟩

theorem Standing.cancel (hx : Asking c x.mux) (hs : x.mux.streams[x.handle]? = some s)
    (hid : s.id = id) (st : Standing start id beats x s) :
    Asking c (x.beat .cancel).mux ∧
      ∃ s', (x.beat .cancel).mux.streams[x.handle]? = some s' ∧ s'.id = id ∧
        Standing start id (beats ++ [.cancel]) (x.beat .cancel) s' := by
  cases hending : x.ending with
  | some o =>
    rw [beat_of_ended hending (by simp)]
    exact ⟨hx, s, hs, hid, st.later _⟩
  | none =>
    have hbeat : x.beat .cancel =
        { x with mux := x.mux.dropHandle x.handle, ending := some .cancelled } := by
      simp [beat, hending]
    obtain ⟨s', hs', hid', hp⟩ := dropHandle_closes hx.sound hs
    rw [hbeat]
    exact ⟨hx.step (.call (.dropHandle x.handle)), s', hs', hid'.trans hid, .finished rfl trivial hp⟩

/-- One thing more happens. -/
theorem Course.beat (h : Course c start id beats)
    (patient : b ≠ .other (.call (.expireOpen start.handle))) : Course c start id (beats ++ [b]) := by
  obtain ⟨hx, hh, s, hs, hid, st⟩ := h
  have hnext : start.through (beats ++ [b]) = (start.through beats).beat b := through_append _ _ _
  rw [← hh] at hs patient
  have hstands : Asking c ((start.through beats).beat b).mux ∧
      ∃ s', ((start.through beats).beat b).mux.streams[(start.through beats).handle]? = some s' ∧
        s'.id = id ∧ Standing start id (beats ++ [b]) ((start.through beats).beat b) s' := by
    cases b with
    | other e =>
      exact ⟨hx.step e, st.other hx hs hid rfl hh fun he => patient (by rw [he])⟩
    | poll expired => exact st.poll hx hs hid expired
    | cancel => exact st.cancel hx hs hid
  rw [← hnext, hh] at hstands
  exact ⟨hstands.1, by rw [hnext, handle_beat, hh], hstands.2⟩

/-- At any time while and after a call waits, it is known where it stands. -/
theorem Course.through (hstart : Course c start id [])
    (patient : ∀ b ∈ beats, b ≠ .other (.call (.expireOpen start.handle))) :
    Course c start id beats := by
  induction beats using List.reverseRecOn with
  | nil => exact hstart
  | append_singleton beats b ih =>
    have hbefore := ih fun b' hb' => patient b' (List.mem_append_left _ hb')
    exact hbefore.beat (patient b (by simp))

/-! ## What is left -/

/-- How a call ends after any beats, and what it leaves behind. -/
structure Clean (c : Config) (start : OpenCall) (id : StreamId) (beats : List Beat) : Prop where
  /-- It ends when its time is over, if it has not ended before. -/
  ends : ((start.through beats).beat (.poll true)).ending ≠ none
  /-- It ends once. -/
  once : ∀ o, (start.through beats).ending = some o →
    ∀ later, ((start.through beats).through later).ending = some o
  /-- It gets its stream only after an ack for it arrived while it was pending. -/
  confirmed : (start.through beats).ending = some (.told (.ok ())) → start.Confirmed id beats
  /-- If it does not get it, the stream has left the table, which counts the others. -/
  gone : ∀ o, (start.through beats).ending = some o → o.Fails →
    (∀ i, (i, start.handle) ∉ (start.through beats).mux.table) ∧
      (start.through beats).mux.activeStreams =
        ((start.through beats).mux.streams.eraseIdx start.handle).countP fun s => s.phase ≠ .closed
  /-- Every other stream that is not closed is in the table. -/
  others : ∀ k s, k ≠ start.handle → (start.through beats).mux.streams[k]? = some s →
    s.phase ≠ .closed → (s.id, k) ∈ (start.through beats).mux.table
  /-- What the call does itself leaves the other streams alone. -/
  untouched : ∀ b, (∀ e, b ≠ .other e) → ∀ k, k ≠ start.handle →
    ((start.through beats).beat b).mux.streams[k]? = (start.through beats).mux.streams[k]?
  /-- If it is told nothing in time, it ends with that. -/
  expires : (start.through beats).ending = none →
    (start.through beats).mux.openResult start.handle = none →
    ((start.through beats).beat (.poll true)).ending =
      some (.told (.error (.openTimeout c.openTimeout)))
  /-- When it ends so, on a connection that has not failed, the other side has been told once. -/
  timeout : ∀ b t, (start.through beats).ending = none →
    ((start.through beats).beat b).ending = some (.told (.error (.openTimeout t))) →
    ((start.through beats).beat b).mux.failed = none →
    ∃ since, ((start.through beats).beat b).mux.outbound = start.mux.outbound ++ since ∧
      since.count (closeFrame id .timeout) = 1

theorem beat_poll_ending (hm : x.mux.Sound) (hs : x.mux.streams[x.handle]? = some s)
    (st : Standing start id beats x s) : (x.beat (.poll true)).ending ≠ none := by
  cases st with
  | waits going waiting =>
    rw [beat_poll_expired hm going hs waiting]
    simp
  | answered going answered =>
    rw [beat_poll_answered going hs answered]
    simp
  | given ended | finished ended => simp [ending_beat ended]

theorem beat_untouched (hx : Asking c x.mux) (own : ∀ e, b ≠ .other e) {k : Handle}
    (hk : k ≠ x.handle) : (x.beat b).mux.streams[k]? = x.mux.streams[k]? := by
  cases b with
  | other e => exact absurd rfl (own e)
  | cancel =>
    rw [beat]
    split
    · rfl
    · exact dropHandle_others hx.sound _ hk
  | poll expired =>
    obtain ⟨hsound, hothers⟩ : (x.mux.pollOpen x.handle expired).2.Sound ∧
        (x.mux.pollOpen x.handle expired).2.streams[k]? = x.mux.streams[k]? := by
      unfold pollOpen
      split
      · exact ⟨hx.sound, rfl⟩
      split
      · rcases expireOpen_cases hx.sound x.handle hx.role with hsame | turn
        · rw [hsame]
          exact ⟨hx.sound, rfl⟩
        · have ⟨_, _, moved, _⟩ := turn
          exact ⟨hx.sound.turned turn, moved.getElem?_other hk⟩
      · exact ⟨hx.sound, rfl⟩
    rw [beat]
    split
    · rfl
    split
    · rename_i hpoll
      rwa [hpoll] at hothers
    · rename_i hpoll
      rwa [hpoll] at hothers
    · rename_i hpoll
      rw [hpoll] at hsound hothers
      exact (dropHandle_others hsound _ hk).trans hothers

theorem Standing.timeout (hx : Asking c x.mux) (hs : x.mux.streams[x.handle]? = some s)
    (hid : s.id = id) (st : Standing start id beats x s) (b : Beat) {t : Duration}
    (going : x.ending = none) (ended : (x.beat b).ending = some (.told (.error (.openTimeout t))))
    (lasting : (x.beat b).mux.failed = none) :
    ∃ since, (x.beat b).mux.outbound = start.mux.outbound ++ since ∧
      since.count (closeFrame id .timeout) = 1 := by
  cases b with
  | other => cases going.symm.trans ended
  | cancel => simp [beat, going] at ended
  | poll expired =>
    cases st with
    | @waits since _ waiting outbound silent =>
      cases expired with
      | false =>
        rw [beat_poll_waiting going hs waiting] at ended
        cases going.symm.trans ended
      | true =>
        obtain ⟨_, -, -, -, moved⟩ := expireOpen_waiting hx.sound hs waiting
        rw [beat_poll_expired hx.sound going hs waiting]
        refine ⟨since ++ [closeFrame id .timeout], ?_, ?_⟩
        · exact (moved.outbound hx.sending).trans (by rw [outbound, hid, List.append_assoc])
        · rw [List.count_append, List.count_eq_zero.2 silent, List.count_singleton_self]
    | answered _ answered _ failed =>
      rw [beat_poll_answered going hs answered] at ended lasting
      have hfailed := failed t (Ending.told.inj (Option.some.inj ended))
      simp [show x.mux.failed = none from lasting] at hfailed
    | given ended' | finished ended' => cases going.symm.trans ended'

theorem Course.clean (h : Course c start id beats) : Clean c start id beats := by
  obtain ⟨hx, hh, s, hs, hid, st⟩ := h
  rw [← hh] at hs
  have table : ∀ k t, (start.through beats).mux.streams[k]? = some t → t.phase ≠ .closed →
      (t.id, k) ∈ (start.through beats).mux.table :=
    fun k t ht hp => hx.sound.mem_table.2 ⟨t, ht, rfl, hp⟩
  refine
    { ends := beat_poll_ending hx.sound hs st
      once := fun o ended later => ending_through ended later
      confirmed := fun ended => ?_
      gone := fun o ended fails => ?_
      others := fun k t _ => table k t
      untouched := fun b own k hk => beat_untouched hx own (hh ▸ hk)
      expires := fun going untold => ?_
      timeout := fun b t going ended lasting => st.timeout hx hs hid b going ended lasting }
  · cases st with
    | waits going | answered going => cases going.symm.trans ended
    | given _ confirmed => exact confirmed
    | finished ended' fails =>
      obtain rfl := Option.some.inj (ended'.symm.trans ended)
      exact fails.elim
  · have closed : s.phase = .closed := by
      cases st with
      | waits going | answered going => cases going.symm.trans ended
      | given ended' =>
        obtain rfl := Option.some.inj (ended'.symm.trans ended)
        exact fails.elim
      | finished _ _ closed => exact closed
    rw [← hh]
    refine ⟨fun i hin => ?_, ?_⟩
    · obtain ⟨t, ht, -, hp⟩ := hx.sound.mem_table.1 hin
      obtain rfl := Option.some.inj (hs.symm.trans ht)
      exact hp closed
    · rw [hx.sound.activeStreams_eq, countP_eraseIdx_of_closed hs closed]
  · rw [← hh, openResult, stream_of_getElem? hs] at untold
    cases st with
    | waits going waiting => rw [beat_poll_expired hx.sound going hs waiting, hx.config]
    | answered _ answered => cases answered.told.symm.trans untold
    | given ended | finished ended => cases going.symm.trans ended

end OpenCall

/-! ## Any call -/

theorem Asking.run (hm : Asking c m) (events : List Event) : Asking c (m.run events) := by
  induction events generalizing m with
  | nil => exact hm
  | cons e events ih => exact ih (hm.step e)

theorem course_start (hm : Asking c m) {dest : Destination} {payload : Bytes}
    (inserted : Inserted m (m.openStream dest).2 (.asked c id dest) [⟨.opening, id, payload⟩]) :
    OpenCall.Course c { mux := (m.openStream dest).2, handle := m.streams.length } id [] where
  asking := hm.step (.call (.openStream dest))
  handle := rfl
  stands := by
    refine ⟨.asked c id dest, ?_, rfl, ?_⟩
    · exact inserted.streams ▸ List.getElem?_concat_length
    · exact .waits rfl ⟨rfl, rfl, rfl⟩ (List.append_nil _).symm List.not_mem_nil

/-- **Asking for a stream leaves nothing behind when it fails.** A caller that is turned away at once,
because it is on the wrong side, the destination cannot be written, the connection has failed or there
are too many streams, finds everything as it was; if all numbers are in use no more changes than where
the search for one starts. Any other caller has queued an opening and waits. Whatever happens then, in
any order, it ends once and at the latest when its time is over. It gets the stream only after an ack
for it has arrived while it was pending. If it fails or is given up, the stream has left the table and
every other stream is counted as before; and if it fails because its time was over, the other side has
been told that exactly once. -/
theorem open_leaves_nothing_behind (role : Role) (c : Config) (events : List Event)
    (d : Destination) :
    let m := (fresh role c).run events
    let m' := (m.openStream d).2
    (m.Unavailable d → ∃ e, m.openStream d = (.error e, m)) ∧
    (∀ e, (m.openStream d).1 = .error e → m.Unavailable d ∨
      UInt32.size - 1 ≤ m.activeStreams ∧ m' = { m with nextId := m'.nextId }) ∧
    ∀ h, (m.openStream d).1 = .ok h → ∃ id payload, d.encode = .ok payload ∧ m.lookup id = none ∧
      m'.streams = m.streams ++ [.asked c id d] ∧ m'.outbound = m.outbound ++ [⟨.opening, id, payload⟩] ∧
      ∀ beats, (∀ b ∈ beats, b ≠ .other (.call (.expireOpen h))) →
        OpenCall.Clean c { mux := m', handle := h } id beats := by
  intro m m'
  obtain ⟨hsound, hrole, hconfig, -⟩ := run_keeps (I := fun _ => True) (fun _ _ _ => trivial)
    (sound_fresh role c) rfl trivial events
  rcases openStream_eq m d with
    ⟨why, e, he⟩ | ⟨hr, hf, hroom, payload, hd, ⟨ha, he⟩ | ⟨id, ha, he⟩⟩
  · refine ⟨fun _ => ⟨e, he⟩, fun _ _ => .inl why, fun h hok => ?_⟩
    cases hok.symm.trans (congrArg Prod.fst he)
  all_goals
    have available : ¬ m.Unavailable d := by
      rintro (hr' | ⟨e, hd'⟩ | hf' | hfull)
      · cases hr.symm.trans hr'
      · cases hd.symm.trans hd'
      · simp [hf] at hf'
      · exact Nat.not_le_of_lt hroom hfull
  · refine ⟨fun why => absurd why available, fun _ _ => .inr ⟨allocateId_none ha, ?_⟩, fun h hok => ?_⟩
    · simp only [m', he]
      exact allocateId_snd m
    · cases hok.symm.trans (congrArg Prod.fst he)
  · refine ⟨fun why => absurd why available, fun e herr => ?_, fun h hok => ?_⟩
    · cases herr.symm.trans (congrArg Prod.fst he)
    · obtain rfl : m.streams.length = h := Except.ok.inj ((congrArg Prod.fst he).symm.trans hok)
      obtain rfl : role = .initiator := hrole.symm.trans hr
      have asking : Asking c m := (asking_fresh c).run events
      have inserted : Inserted m m' (.asked c id d) [⟨.opening, id, payload⟩] := by
        simp only [m', he, asking.config]
        exact inserted_allocateId m _ _
      refine ⟨id, payload, hd, allocateId_free ha, inserted.streams, inserted.outbound asking.sending,
        fun beats patient => ?_⟩
      exact ((course_start asking inserted).through patient).clean

/-- The loopback address. -/
def loopback : Destination := .ip ⟨.v4 .loopback, 80⟩

/-- Next to an open stream another one is asked for. -/
def second : OpenCall where
  mux := (((fresh .initiator {}).run [.call (.openStream loopback), .frame (ackFrame 1 8)]).openStream
    loopback).2
  handle := 1

/-- Bytes arrive for it, and no ack until its time is over. -/
theorem open_times_out :
    let before := second.through [.poll false, .other (.frame ⟨.data, 2, [7]⟩)]
    let x := before.beat (.poll true)
    x.ending = some (.told (.error (.openTimeout (.ofSecs 10)))) ∧ (∀ i, (i, 1) ∉ x.mux.table) ∧
      x.mux.activeStreams = 1 ∧
      ∃ since, x.mux.outbound = second.mux.outbound ++ since ∧
        since.count (closeFrame 2 .timeout) = 1 := by
  intro before x
  obtain ⟨-, -, hasked⟩ := open_leaves_nothing_behind .initiator {}
    [.call (.openStream loopback), .frame (ackFrame 1 8)] loopback
  obtain ⟨id, payload, -, -, hstreams, -, hclean⟩ := hasked 1 (by rfl)
  obtain rfl : id = 2 := by
    have hlast : second.mux.streams.getLast?.map Stream.id = some 2 := by decide +kernel
    rw [show second.mux.streams = _ from hstreams, List.getLast?_concat] at hlast
    exact Option.some.inj hlast
  have going : before.ending = none := Option.isNone_iff_eq_none.1 (by decide +kernel)
  have untold : before.mux.openResult 1 = none := Option.isNone_iff_eq_none.1 (by decide +kernel)
  have clean := hclean [.poll false, .other (.frame ⟨.data, 2, [7]⟩)] (by simp)
  have ended := clean.expires going untold
  obtain ⟨hgone, -⟩ := (hclean [.poll false, .other (.frame ⟨.data, 2, [7]⟩), .poll true] (by simp)).gone
    _ ended trivial
  have lasting : x.mux.failed = none := Option.isNone_iff_eq_none.1 (by decide +kernel)
  exact ⟨ended, hgone, by decide +kernel, clean.timeout (.poll true) _ going ended lasting⟩

end SealedRelay.Mux
