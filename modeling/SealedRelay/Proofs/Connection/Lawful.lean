import SealedRelay.Proofs.Connection.Teardown
import SealedRelay.Proofs.Frame.Exact
import SealedRelay.Proofs.Mux.Emission
import SealedRelay.Proofs.Payload.Destination

/-!
# A connection can send whatever it queues

The writer of a connection seals each frame and hands it to the encoder, and a frame that the encoder
rejects would end the connection. There is none: a frame is queued for a stream that is there or for the
number of a frame that has arrived, so its number is not zero unless it is a ping; and its payload is a
piece of data that was cut to the limit, or it is one of the small ones, for which there is always room.

Results:
* `Turn.out_lawful`, `Lawful.step`: every frame that is queued keeps the rules.
* `Upright.after`: so it is whatever happens to a connection.
* `queue_never_ends_connection`: what is queued can be written, sealed, and read by the other side.
-/
namespace SealedRelay

/-! ## Frames -/

/-- A frame that keeps the rules for numbers, and the limit on payloads of a connection. -/
structure Frame.Lawful (c : Mux.Config) (f : Frame) : Prop where
  stream : ValidStream f.kind f.stream
  payload : f.payload.length ≤ max c.maxFramePayload Connection.minWirePayload

theorem Frame.validStream_of_ne {kind : Kind} {stream : StreamId} (hk : kind ≠ .ping)
    (hid : stream ≠ 0) : ValidStream kind stream := by
  simp [ValidStream, Kind.isConnectionLevel, hk, hid]

theorem Frame.stream_ne_zero {f : Frame} (h : ValidStream f.kind f.stream) (hk : f.kind ≠ .ping) :
    f.stream ≠ 0 := fun hid => by simp [ValidStream, Kind.isConnectionLevel, hk, hid] at h

/-- If the limit leaves room for the seal, a frame that keeps the rules can be sent. -/
theorem Frame.Lawful.sendable {c : Mux.Config} {f : Frame} (h : f.Lawful c)
    (hsize : c.maxFramePayload + Crypto.Aead.tagSize ≤ largestPayload) :
    f.Sendable (Connection.wireLimit c) where
  stream := h.stream
  payload := Nat.add_le_add_right h.payload _
  declared := by
    have hsmall : Connection.minWirePayload + Crypto.Aead.tagSize ≤ largestPayload := by decide
    have := h.payload
    omega

/-- The longest destination is a domain name of 255 bytes. -/
theorem Destination.length_encode {d : Destination} {payload : Bytes} (h : d.encode = .ok payload) :
    payload.length ≤ 259 := by
  cases encode_eq_ok_iff.1 h with
  | ipv4 a | ipv6 a => simp [a.size]
  | @domain name n length =>
    have hlt := n.toNat_lt
    simp only [List.length_append, List.length_cons, ← length, Bytes.length_ofUInt16]
    omega

theorem Frame.validStream_of_decodeAll (most : Nat) (b : Bytes) :
    ∀ f ∈ (decodeAll most b).1, ValidStream f.kind f.stream := by
  fun_induction decodeAll most b with
  | case1 _ f rest hd frames ending hall ih =>
    rw [hall] at ih
    exact List.forall_mem_cons.2 ⟨(decode_eq_frame_iff.1 hd).1.stream, ih⟩
  | case2 | case3 => simp

namespace Mux

variable {role : Role} {c : Config} {s s' : Stream} {d : Deed} {out : List Frame} {e : Event}
  {m m' : Mux}

theorem lawful_closeFrame {id : StreamId} (hid : id ≠ 0) (reason : CloseReason) :
    (closeFrame id reason).Lawful c where
  stream := Frame.validStream_of_ne (by simp) hid
  payload := Nat.le_trans (by simp [closeFrame, CloseReason.encode, Connection.minWirePayload])
    (Nat.le_max_right _ _)

theorem lawful_ackFrame {id : StreamId} (hid : id ≠ 0) (n : Nat) : (ackFrame id n).Lawful c where
  stream := Frame.validStream_of_ne (by simp) hid
  payload := Nat.le_trans
    (by simp [ackFrame, Payload.encodeCredit, Connection.minWirePayload]) (Nat.le_max_right _ _)

/-- A turn of a stream with a number queues nothing that breaks the rules. -/
theorem Turn.out_lawful (t : Turn role c s d out s') (hid : s.id ≠ 0) : ∀ f ∈ out, f.Lawful c := by
  intro f hf
  cases t with
  | send =>
    obtain ⟨piece, hpiece, rfl⟩ := List.mem_map.1 hf
    have hlength := Bytes.length_le_of_mem_chunks hpiece
    refine ⟨Frame.validStream_of_ne (by simp) hid, Nat.le_trans hlength ?_⟩
    have : 1 ≤ Connection.minWirePayload := by decide
    omega
  | take | fail | data | refusal | tear | finish | early | credit =>
    exact absurd hf List.not_mem_nil
  | halfClose | abort | expire | excess =>
    exact List.mem_singleton.1 hf ▸ lawful_closeFrame hid _
  | takeAndGrant | accept | confirm => exact List.mem_singleton.1 hf ▸ lawful_ackFrame hid _

/-- A multiplexer that gives no stream the number zero, and whose frames keep the rules. -/
structure Lawful (c : Config) (m : Mux) : Prop where
  sound : m.Sound
  config : m.config = c
  sending : m.sending = true
  nextId : m.nextId ≠ 0
  ids : ∀ s ∈ m.streams, s.id ≠ 0
  outbound : ∀ f ∈ m.outbound, f.Lawful c

theorem lawful_fresh (role : Role) (c : Config) : Lawful c { role, config := c } where
  sound := sound_fresh role c
  config := rfl
  sending := rfl
  nextId := show (1 : StreamId) ≠ 0 by decide
  ids := by simp
  outbound := by simp

theorem lawful_ping {f : Frame} (h : Frame.IsPing f) : f.Lawful c := by
  have hroom : 1 ≤ max c.maxFramePayload Connection.minWirePayload :=
    Nat.le_trans (by decide) (Nat.le_max_right _ _)
  rcases h with rfl | rfl <;> exact ⟨by decide, hroom⟩

theorem Lawful.emits (h : Lawful c m) (em : Emits e m m' out)
    (valid : ∀ f, e = .frame f → Frame.ValidStream f.kind f.stream) :
    (∀ s ∈ m'.streams, s.id ≠ 0) ∧ ∀ f ∈ out, f.Lawful c := by
  -- a stream that is asked for gets the number of the opening, which the decoder has let through
  have numbered {f : Frame} (he : e = .frame f) (hk : f.kind = .opening) : f.stream ≠ 0 :=
    Frame.stream_ne_zero (valid f he) (by simp [hk])
  cases em with
  | quiet queued pings =>
    exact ⟨queued.streams ▸ h.ids, fun f hf => lawful_ping (pings f hf)⟩
  | turned stream turn moved =>
    have hid := h.ids _ (List.mem_of_getElem? stream)
    refine ⟨fun u hu => ?_, h.config ▸ turn.out_lawful hid⟩
    rw [moved.streams] at hu
    rcases List.mem_or_eq_of_mem_set hu with hu | rfl
    · exact h.ids u hu
    · exact turn.id_eq ▸ hid
  | failed failed =>
    refine ⟨fun u hu => ?_, by simp⟩
    rw [failed.streams] at hu
    obtain ⟨s, hs, rfl⟩ := List.mem_map.1 hu
    exact s.id_failing _ ▸ h.ids s hs
  | asked _ _ encoded _ _ _ numbers inserted =>
    obtain ⟨hid, -⟩ := numbers h.nextId
    refine ⟨fun u hu => ?_, fun f hf => ?_⟩
    · rw [inserted.streams] at hu
      rcases List.mem_append.1 hu with hu | hu
      · exact h.ids u hu
      · exact List.mem_singleton.1 hu ▸ hid
    · obtain rfl := List.mem_singleton.1 hf
      refine ⟨Frame.validStream_of_ne (by simp) hid, ?_⟩
      exact Nat.le_trans (Destination.length_encode encoded)
        (Nat.le_trans (by decide) (Nat.le_max_right _ _))
  | offered arrival kind _ _ _ _ _ inserted =>
    refine ⟨fun u hu => ?_, by simp⟩
    rw [inserted.streams] at hu
    rcases List.mem_append.1 hu with hu | hu
    · exact h.ids u hu
    · exact List.mem_singleton.1 hu ▸ numbered arrival kind
  | declined arrival kind queued =>
    refine ⟨queued.streams ▸ h.ids, fun f hf => ?_⟩
    exact List.mem_singleton.1 hf ▸ lawful_closeFrame (numbered arrival kind) _

/-- Whatever happens to a multiplexer, no stream gets the number zero and every frame that it queues keeps
the rules, if the frames that arrive have valid numbers. -/
theorem Lawful.emitted (h : Lawful c m) (em : Emitted e m m' out)
    (valid : ∀ f, e = .frame f → Frame.ValidStream f.kind f.stream) : Lawful c m' := by
  have start : (∀ s ∈ m'.streams, s.id ≠ 0) ∧ ∀ f ∈ out, f.Lawful c := by
    induction em with
    | first emits => exact h.emits emits valid
    | torn _ stream _ moved ih =>
      obtain ⟨hids, hout⟩ := ih
      have hid := hids _ (List.mem_of_getElem? stream)
      refine ⟨fun u hu => ?_, fun f hf => ?_⟩
      · rw [moved.streams] at hu
        rcases List.mem_or_eq_of_mem_set hu with hu | rfl
        · exact hids u hu
        · rwa [Stream.id_terminated]
      · rcases List.mem_append.1 hf with hf | hf
        · exact hout f hf
        · exact List.mem_singleton.1 hf ▸ lawful_closeFrame hid _
  obtain ⟨hids, hout⟩ := start
  obtain ⟨houtbound, hsending⟩ := em.outbound h.sending
  refine ⟨em.sound h.sound, ?_, hsending, em.nextId_ne_zero h.nextId, hids, fun f hf => ?_⟩
  · obtain ⟨-, hconfig, -⟩ := changes_keep (I := fun _ => True) (fun _ _ _ => trivial) h.sound trivial
      em.changes
    exact hconfig.trans h.config
  · rw [houtbound] at hf
    exact (List.mem_append.1 hf).elim (h.outbound f) (hout f)

theorem Lawful.step (h : Lawful c m) (e : Event)
    (valid : ∀ f, e = .frame f → Frame.ValidStream f.kind f.stream) : Lawful c (m.step e) :=
  h.emitted (emitted_queued h.sound h.sending e) valid

/-- Taking the first frames off the queue breaks no rule. -/
theorem Lawful.taken (h : Lawful c m) {q : List Frame} (hq : ∀ f ∈ q, f ∈ m.outbound) :
    Lawful c { m with outbound := q } where
  sound := { h.sound with }
  config := h.config
  sending := h.sending
  nextId := h.nextId
  ids := h.ids
  outbound f hf := h.outbound f (hq f hf)

/-- Nothing is queued any more when a multiplexer is over. -/
theorem Over.outbound_step (ho : m.Over) (e : Event) : (m.step e).outbound = m.outbound := by
  cases hr : e.reads with
  | none =>
    obtain ⟨incoming, listening, hstep⟩ := ho.step_of_quiet hr
    rw [hstep]
  | some h =>
    rw [step_of_reads m hr]
    cases hs : m.streams[h]? with
    | none => rw [read_absent hs]
    | some s =>
      obtain ⟨s', -, hread⟩ := ho.read hs
      rw [hread]

end Mux

namespace Connection

open Mux (Config)

variable {config : Config} {x z : Connection} {mo : Moment} {moments : List Moment}

/-! ## Connections -/

/-- A connection that goes on with lawful frames in its queue, or has ended with none. -/
inductive Upright (config : Config) (x : Connection) : Prop where
  | running (isOpen : x.closed = false) (mux : x.mux.Lawful config)
  | stopped (ended : x.Over) (empty : x.mux.outbound = [])

/-- What the reader hands over has passed the decoder. -/
def Moment.Decoded : Moment → Prop
  | .late f => Frame.ValidStream f.kind f.stream
  | .event _ => True

namespace Upright

theorem outbound (h : Upright config x) : ∀ f ∈ x.mux.outbound, f.Lawful config := by
  cases h with
  | running _ mux => exact mux.outbound
  | stopped _ empty => simp [empty]

theorem teardown (isOpen : x.closed = false) (sound : x.mux.Sound) (cause : LinkError) :
    Upright config (x.teardown cause) := by
  refine .stopped (ended_teardown rfl sound isOpen).toOver ?_
  rw [Connection.teardown, if_neg (by simp [isOpen])]

theorem handle (h : Upright config x) (now : Duration) {w : Frame}
    (valid : Frame.ValidStream w.kind w.stream) : Upright config (x.handle now w) := by
  cases h with
  | stopped ended empty =>
    rw [handle_of_closed ended.closed]
    exact .stopped ended empty
  | running isOpen mux =>
    rcases ho : x.opener.next w.routing w.payload with ⟨e | payload, o⟩
    · rw [handle_unopened isOpen ho]
      exact teardown (x := x.noted now w o x.mux) isOpen mux.sound _
    · have hmux := mux.step (.frame { w with payload }) fun f hf => by
        obtain rfl := Mux.Event.frame.inj hf
        exact valid
      let y := x.noted now w o (x.mux.receive { w with payload }).2
      rw [handle_opened isOpen ho]
      split
      · exact teardown (x := y) isOpen hmux.sound _
      · exact .running (x := y) isOpen hmux

theorem foldl_handle (h : Upright config x) (now : Duration) {frames : List Frame}
    (valid : ∀ w ∈ frames, Frame.ValidStream w.kind w.stream) :
    Upright config (frames.foldl (Connection.handle now) x) := by
  induction frames generalizing x with
  | nil => exact h
  | cons w frames ih =>
    obtain ⟨hw, hrest⟩ := List.forall_mem_cons.1 valid
    exact ih (h.handle now hw) hrest

theorem received (h : Upright config x) (rest : Bytes) : Upright config { x with received := rest } := by
  cases h with
  | running isOpen mux => exact .running isOpen mux
  | stopped ended empty => exact .stopped ⟨ended.closed, ended.mux⟩ empty

theorem receive (h : Upright config x) (now : Duration) (b : Bytes) : Upright config (x.receive now b) := by
  cases hclosed : x.closed with
  | true => rwa [Connection.receive, if_pos hclosed]
  | false =>
    have handled : Upright config ((x.decoded b).1.foldl (Connection.handle now) x) :=
      h.foldl_handle now (Frame.validStream_of_decodeAll _ _)
    rw [receive_eq hclosed]
    dsimp only
    split
    · exact handled.received _
    · refine received ?_ _
      cases handled with
      | running isOpen mux => exact teardown isOpen mux.sound _
      | stopped ended empty =>
        rw [ended.teardown]
        exact .stopped ended empty

theorem nextWire (h : Upright config x) : Upright config x.nextWire.2 := by
  cases h with
  | stopped ended empty =>
    rw [Connection.nextWire, if_pos ended.closed]
    exact .stopped ended empty
  | running isOpen mux =>
    unfold Connection.nextWire
    rw [if_neg (by simp [isOpen])]
    split
    · exact .running isOpen mux
    rename_i f outbound hq
    have taken : ({ x.mux with outbound } : Mux).Lawful config :=
      mux.taken fun g hg => hq ▸ List.mem_cons_of_mem f hg
    let y (sealer : Sealer) : Connection := { x with sealer, mux := { x.mux with outbound } }
    dsimp only
    split
    · exact teardown (x := y _) isOpen taken.sound _
    split
    · exact teardown (x := y _) isOpen taken.sound _
    · exact .running (x := y _) isOpen taken

theorem tick (h : Upright config x) (now : Duration) : Upright config (x.tick now) := by
  cases h with
  | stopped ended empty =>
    rw [Connection.tick, if_pos ended.closed]
    exact .stopped ended empty
  | running isOpen mux =>
    unfold Connection.tick
    rw [if_neg (by simp [isOpen])]
    let y : Connection := { x with tickDue := x.tickDue + (period x.mux.config).nanos }
    dsimp only
    split
    · exact teardown (x := y) isOpen mux.sound _
    split
    · exact .running isOpen (mux.step (.call .ping) fun _ he => by cases he)
    · exact .running isOpen mux

theorem after (h : Upright config x) (mo : Moment) (decoded : mo.Decoded) :
    Upright config (x.after mo) := by
  cases h with
  | stopped ended empty =>
    cases hc : mo.isCall with
    | false =>
      rw [ended.after_of_not_call hc]
      exact .stopped ended empty
    | true =>
      obtain ⟨c, rfl⟩ := Moment.exists_of_isCall hc
      exact .stopped (ended.after _).1 ((ended.mux.outbound_step (.call c)).trans empty)
  | running isOpen mux =>
    cases mo with
    | late f =>
      have hmux := mux.step (.frame f) fun g hg => by
        obtain rfl := Mux.Event.frame.inj hg
        exact decoded
      let y : Connection := { x with mux := (x.mux.receive f).2 }
      simp only [Connection.after]
      split
      · exact teardown (x := y) isOpen hmux.sound _
      · exact .running (x := y) isOpen hmux
    | event e =>
      cases e with
      | call c => exact .running isOpen (mux.step (.call c) fun _ he => by cases he)
      | bytes now b => exact receive (.running isOpen mux) now b
      | endOfInput =>
        simp only [Connection.after, step, endOfInput]
        split <;> exact teardown isOpen mux.sound _
      | socketFailed | close => exact teardown isOpen mux.sound _
      | write => exact nextWire (.running isOpen mux)
      | tick now => exact tick (.running isOpen mux) now

theorem through (h : Upright config x) (decoded : ∀ mo ∈ moments, mo.Decoded) :
    Upright config (x.through moments) := by
  induction moments generalizing x with
  | nil => exact h
  | cons mo moments ih =>
    obtain ⟨hmo, hrest⟩ := List.forall_mem_cons.1 decoded
    exact ih (h.after mo hmo) hrest

end Upright

theorem upright_new (id : Nat) (peer : String) (e : End) (session : Session) (config : Config) :
    Upright config (new id peer e session config) :=
  .running rfl (Mux.lawful_fresh _ config)

/-! ## The writer -/

/-- A frame can be sent: it is a ping exactly if its number is zero, and however it is sealed, it keeps to
the limit, the encoder takes it, and the decoder of a side that takes payloads at least as large gives it
back. -/
structure Passes (c : Config) (f : Frame) : Prop where
  number : f.stream = 0 ↔ f.kind = .ping
  encoded : ∀ (s : Sealer) payload, (s.next f.routing f.payload).1 = .ok payload →
    payload.length ≤ max c.maxFramePayload minWirePayload + Crypto.Aead.tagSize ∧
      ∃ codec, Frame.Codec.write { maxPayload := wireLimit c } { f with payload } = .ok codec ∧
        ∀ c' : Config, c.maxFramePayload ≤ c'.maxFramePayload → ∀ rest,
          Frame.decode (wireLimit c') (codec.encoded ++ rest) = .frame { f with payload } rest

theorem passes_of_lawful {c : Config} {f : Frame} (h : f.Lawful c)
    (hsize : c.maxFramePayload + Crypto.Aead.tagSize ≤ Frame.largestPayload) : Passes c f where
  number := by
    rw [← show f.kind.isConnectionLevel = true ↔ f.stream = 0 from h.stream]
    cases f.kind <;> simp [Frame.Kind.isConnectionLevel]
  encoded s payload hnext := by
    have hs : s.counter < lastCounter := by
      by_contra hs
      rw [Sealer.next, if_pos (Nat.le_of_not_lt hs)] at hnext
      cases hnext
    rw [Sealer.next_eq hs] at hnext
    obtain rfl := Except.ok.inj hnext
    have fits := Sealer.fits_sealFrame (h.sendable hsize) s
    refine ⟨fits.payload, _, Frame.write_of_fits fits, fun c' hle rest => ?_⟩
    have hlimit : wireLimit c ≤ wireLimit c' := by
      unfold wireLimit
      omega
    exact Frame.decode_toBytes { fits with payload := Nat.le_trans fits.payload hlimit } rest

/-- The writer of an open connection has nothing to do, writes a frame, or has no nonces left. -/
inductive Writes (x : Connection) : Prop where
  | idle (queue : x.mux.outbound = []) (next : x.nextWire = (none, x))
  | frame (wire : Bytes) (next : x.nextWire.1 = some wire) (isOpen : x.nextWire.2.closed = false)
  | exhausted (spent : lastCounter ≤ x.sealer.counter) (y : Connection) (isOpen : y.closed = false)
      (next : x.nextWire = (none, y.teardown (.ofSeal .nonceExhausted)))

theorem Upright.writes (h : Upright config x) (isOpen : x.closed = false)
    (hsize : config.maxFramePayload + Crypto.Aead.tagSize ≤ Frame.largestPayload) : x.Writes := by
  cases h with
  | stopped ended => exact absurd (ended.closed.symm.trans isOpen) nofun
  | running _ mux =>
    cases hq : x.mux.outbound with
    | nil => exact .idle hq (by simp [Connection.nextWire, isOpen, hq])
    | cons f q =>
      have sendable : f.Sendable (wireLimit x.mux.config) :=
        mux.config ▸ (mux.outbound f (hq ▸ List.mem_cons_self)).sendable hsize
      by_cases hs : x.sealer.counter < lastCounter
      · have hnext := nextWire_eq isOpen hq sendable hs
        exact .frame _ (congrArg Prod.fst hnext) ((congrArg (·.2.closed) hnext).trans isOpen)
      · have spent := Nat.le_of_not_lt hs
        exact .exhausted spent { x with mux := { x.mux with outbound := q } } isOpen
          (nextWire_exhausted isOpen hq spent)

/-- **A connection never ends itself with its own frames.** Let there be room for the seal above the
largest payload of a connection. Whatever happens to it, with frames from its reader that have passed the
decoder, every frame in its queue passes its own encoder once it is sealed, and the decoder of every side
that takes payloads at least as large. So as long as it is open its writer stops only when it has used up
its nonces. -/
theorem queue_never_ends_connection (id : Nat) (peer : String) (e : End) (session : Session)
    (config : Config)
    (hsize : config.maxFramePayload + Crypto.Aead.tagSize ≤ Frame.largestPayload)
    (moments : List Moment) (decoded : ∀ mo ∈ moments, mo.Decoded) :
    let x := (new id peer e session config).through moments
    (∀ f ∈ x.mux.outbound, Passes config f) ∧ (x.closed = false → x.Writes) := by
  intro x
  have hx : Upright config x := (upright_new id peer e session config).through decoded
  exact ⟨fun f hf => passes_of_lawful (hx.outbound f hf) hsize, fun isOpen => hx.writes isOpen hsize⟩

/-- A limit below the size of any other frame: data is cut to it, and the longest name goes out all the
same. -/
theorem small_limit_writes_long_name :
    let config : Config := { maxFramePayload := 2 }
    let d : Destination := .domain (String.ofList (List.replicate 255 'a')) 80
    let x := (new 0 "relay" .client (Session.new ⟨[], []⟩ .client) config).through
      [.event (.call (.openStream d)), .late (Mux.ackFrame 1 8),
        .event (.call (.send 0 [1, 2, 3]))]
    x.mux.outbound.map (·.payload.length) = [259, 4, 2, 1] ∧
      (∀ f ∈ x.mux.outbound, Passes config f) ∧ x.Writes := by
  intro config d x
  obtain ⟨passes, writes⟩ := queue_never_ends_connection 0 "relay" .client
    (Session.new ⟨[], []⟩ .client) config (by decide)
    [.event (.call (.openStream d)), .late (Mux.ackFrame 1 8),
      .event (.call (.send 0 [1, 2, 3]))] (by simp [Moment.Decoded]; decide)
  exact ⟨by decide +kernel, passes, writes (by decide +kernel)⟩

end Connection

end SealedRelay
