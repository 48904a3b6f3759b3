import SealedRelay.Proofs.Mux.Lifecycle
import SealedRelay.Proofs.Mux.Wake

/-!
# A call that writes everything

Such a call sends what the window has room for and waits for the rest. Each time its stream is woken it
looks again. While it waits anything may happen: credit of any size arrives, the stream is closed or reset,
other calls are made, and the connection fails.

Results:
* `WriteCall.Course.look`: each time it looks, a call queues the next piece of its bytes and keeps the rest.
* `WriteCall.Course.other`: whatever else happens, it knows what is left.
* `WriteCall.Awake.look_suspended`: a call that is suspended has nothing to go on with.
* `nothing_lost_or_repeated`: what such a call has queued at any time.
-/
namespace SealedRelay.Mux

variable {m : Mux} {h : Handle} {c : Config} {data rest : Bytes} {id : StreamId} {e : Event}

/-! ## Writers that wait -/

/-- A stream that tells its writers to wait has been confirmed. -/
theorem Stream.Stalled.confirmed {s : Stream} (hs : s.Stalled) (shape : s.Shape) :
    s.phase ≠ .pendingOpen := by
  rintro hp
  rcases hs with ⟨id, hid⟩ | ⟨-, ho | hr, -⟩
  · cases (shape.failure_eq_none (by simp [hp])).symm.trans hid
  · cases hp.symm.trans ho
  · cases hp.symm.trans hr

/-- Giving up comes too late for a stream that has been confirmed. -/
theorem expireOpen_of_confirmed (hp : (m.stream h).phase ≠ .pendingOpen) :
    (m.expireOpen h).2 = m := by
  unfold expireOpen
  dsimp only
  split
  · rfl
  · rw [if_neg hp]

theorem woken_expireOpen (m : Mux) (h : Handle) : (m.expireOpen h).2.woken = m.woken := by
  unfold expireOpen
  dsimp only
  split
  · rfl
  split
  · exact woken_emitAll _ _
  · rfl

/-- A stream that tells its writers to wait goes on doing so until it is woken. -/
theorem step_stalled (hm : m.Sound) (e : Event) :
    ∃ woken, (m.step e).woken = m.woken ++ woken ∧
      (h ∉ woken → (m.stream h).Stalled → ((m.step e).stream h).Stalled) := by
  by_cases he : e = .call (.expireOpen h)
  · subst he
    have hstep : m.step (.call (.expireOpen h)) =
        if m.role = .initiator then (m.expireOpen h).2 else m := rfl
    refine ⟨[], ?_, fun _ stalled => ?_⟩
    · rw [hstep, List.append_nil]
      split
      · exact woken_expireOpen m h
      · rfl
    · have confirmed : (m.stream h).phase ≠ .pendingOpen := by
        rcases stream_cases m h with hs | ⟨s, hs, hstream⟩
        · rw [hs]
          nofun
        · rw [hstream] at stalled ⊢
          exact stalled.confirmed (hm.stream_sound hs).shape
      rw [hstep, expireOpen_of_confirmed confirmed, ite_self]
      exact stalled
  · have heeds : Heeds (fun _ => True) h m (m.step e) := step_heeds m he fun _ _ => trivial
    obtain ⟨woken, hw, waits⟩ := heeds.waits
    exact ⟨woken, hw, fun hn => (waits hn).2.1⟩

/-- Writing everything makes one send of what is left. -/
theorem writeAll_snd (m : Mux) (h : Handle) (data : Bytes) :
    (m.writeAll h data).2 = if data = [] then m else m.step (.call (.send h data)) := by
  rw [step, Call.run, noteSent_snd, writeAll]
  split
  · rfl
  · split <;> simp [*]

/-! ## The call -/

structure WriteCall where
  mux : Mux
  handle : Handle
  progress : WriteProgress
  /-- The frames that it has queued. -/
  sent : List Frame := []
  /-- The wakeups that had been noted when it looked last. -/
  looked : Nat := 0

/-- How far a call has come that has queued `sent`. -/
inductive Account (data : Bytes) (sent : List Frame) : WriteProgress → Prop where
  | all (bytes : bytesIn sent = data) : Account data sent (.done (.ok ()))
  | partly {rest : Bytes} (bytes : bytesIn sent ++ rest = data) : Account data sent (.waiting rest)
  | short {rest : Bytes} {e : LinkError} (bytes : bytesIn sent ++ rest = data) (left : rest ≠ []) :
      Account data sent (.done (.error e))

namespace Account

variable {sent : List Frame} {progress : WriteProgress}

theorem isPrefix (account : Account data sent progress) : bytesIn sent <+: data := by
  cases account with
  | all bytes => exact bytes ▸ List.prefix_rfl
  | partly bytes | short bytes => exact ⟨_, bytes⟩

theorem bytes_done (account : Account data sent (.done (.ok ()))) : bytesIn sent = data := by
  cases account with
  | all bytes => exact bytes

theorem bytes_waiting (account : Account data sent (.waiting rest)) : bytesIn sent ++ rest = data := by
  cases account with
  | partly bytes => exact bytes

theorem bytes_error {e : LinkError} (account : Account data sent (.done (.error e))) :
    bytesIn sent ≠ data := by
  cases account with
  | short bytes left =>
    intro hall
    rw [hall] at bytes
    exact left (List.append_right_eq_self.1 bytes)

end Account

/-- A piece of what is written on a stream. -/
structure Frame.Piece (c : Config) (id : StreamId) (f : Frame) : Prop where
  kind : f.kind = .data
  stream : f.stream = id
  some_ : f.payload ≠ []
  short : f.payload.length ≤ max c.maxFramePayload 1

namespace WriteCall

/-- The call looks whether it can go on, unless it has ended. -/
def look (x : WriteCall) : WriteCall :=
  match x.progress with
  | .done _ => x
  | .waiting rest =>
    let (progress, mux) := x.mux.writeAll x.handle rest
    { x with
      mux
      progress
      sent := x.sent ++ mux.outbound.drop x.mux.outbound.length
      looked := mux.woken.length }

inductive Moment where
  /-- Something else happens to the multiplexer. -/
  | other (e : Event)
  | look

def after (x : WriteCall) : Moment → WriteCall
  | .other e => { x with mux := x.mux.step e }
  | .look => x.look

def through (x : WriteCall) (moments : List Moment) : WriteCall := moments.foldl after x

def start (m : Mux) (h : Handle) (data : Bytes) : WriteCall :=
  look { mux := m, handle := h, progress := .waiting data }

/-- The call has more to write, and its stream has not been woken since it looked. -/
def Suspended (x : WriteCall) : Prop :=
  (∃ rest, x.progress = .waiting rest) ∧ x.handle ∉ x.mux.woken.drop x.looked

/-- What is known of a call at any time. -/
structure Course (c : Config) (h : Handle) (id : StreamId) (data : Bytes) (x : WriteCall) : Prop where
  going : Going c x.mux
  handle : x.handle = h
  pieces : ∀ f ∈ x.sent, Frame.Piece c id f
  account : Account data x.sent x.progress
  noted : x.looked ≤ x.mux.woken.length

/-- A call that waits has something left and has been told to wait, unless its stream has been woken
since. -/
def Awake (id : StreamId) (x : WriteCall) : Prop :=
  ∀ rest, x.progress = .waiting rest → rest ≠ [] ∧
    ∃ s, x.mux.streams[x.handle]? = some s ∧ s.id = id ∧
      (x.handle ∈ x.mux.woken.drop x.looked ∨ s.Stalled)

variable {x : WriteCall} {moments : List Moment}

theorem awake_of_done {r : Except LinkError Unit} (hp : x.progress = .done r) : x.Awake id :=
  fun rest hrest => by cases hp.symm.trans hrest

/-- Looking with nothing left to write, or while the stream says to wait or does not send, queues nothing. -/
theorem Course.unmoved (hx : Course c h id data x) {progress : WriteProgress}
    (account : Account data x.sent progress) :
    Course c h id data
      { x with
        progress
        sent := x.sent ++ x.mux.outbound.drop x.mux.outbound.length
        looked := x.mux.woken.length } := by
  rw [List.drop_length, List.append_nil]
  exact { hx with account, noted := Nat.le_refl _ }

theorem Course.advanced (hx : Course c h id data x) (bytes : bytesIn x.sent ++ rest = data) {n : Nat}
    {frames : List Frame} (pieces : ∀ f ∈ frames, Frame.Piece c id f)
    (sent : bytesIn frames = rest.take n) {mux : Mux} (going : Going c mux)
    (outbound : mux.outbound = x.mux.outbound ++ frames) :
    Course c h id data
      { x with
        mux
        progress := if rest.drop n = [] then .done (.ok ()) else .waiting (rest.drop n)
        sent := x.sent ++ mux.outbound.drop x.mux.outbound.length
        looked := mux.woken.length } where
  going := going
  handle := hx.handle
  pieces f hf := by
    rw [outbound, List.drop_left, List.mem_append] at hf
    exact hf.elim (hx.pieces f) (pieces f)
  account := by
    have hall : bytesIn (x.sent ++ frames) ++ rest.drop n = data := by
      rw [bytesIn_append, sent, List.append_assoc, List.take_append_drop, bytes]
    rw [outbound, List.drop_left]
    dsimp only
    split
    · rename_i hrest
      exact .all (by rwa [hrest, List.append_nil] at hall)
    · exact .partly hall
  noted := Nat.le_refl _

/-- Each time it looks, a call queues the next piece of its bytes and keeps the rest. -/
theorem Course.look (hx : Course c h id data x)
    (named : ∀ rest, x.progress = .waiting rest → ∀ s, x.mux.streams[x.handle]? = some s → s.id = id) :
    Course c h id data x.look ∧ x.look.Awake id := by
  cases hp : x.progress with
  | done r =>
    have hlook : x.look = x := by simp only [WriteCall.look, hp]
    rw [hlook]
    exact ⟨hx, awake_of_done hp⟩
  | waiting rest =>
    have hbytes : bytesIn x.sent ++ rest = data := (hp ▸ hx.account).bytes_waiting
    simp only [WriteCall.look, hp, writeAll]
    split
    · rename_i hd
      refine ⟨hx.unmoved (.all ?_), awake_of_done rfl⟩
      rw [← hbytes, hd, List.append_nil]
    rename_i hd
    have sends := send_sends x.mux x.handle hd
    have going : Going c (x.mux.send x.handle rest).2 := by
      have hstep := hx.going.step (.call (.send x.handle rest))
      rwa [step, Call.run, noteSent_snd] at hstep
    generalize x.mux.send x.handle rest = r at sends going ⊢
    cases sends with
    | stalled stalled =>
      refine ⟨hx.unmoved (.partly hbytes), fun rest' hrest => ⟨?_, ?_⟩⟩
      · cases hrest
        exact hd
      rcases stream_cases x.mux x.handle with hs | ⟨s, hs, hstream⟩
      · rw [hs] at stalled
        simp [Stream.Stalled, Stream.absent] at stalled
      · exact ⟨s, hs, named rest hp s hs, .inr (hstream ▸ stalled)⟩
    | @stopped e _ other =>
      cases e with
      | windowExhausted id => exact absurd rfl (other id)
      | _ => exact ⟨hx.unmoved (.short hbytes hd), awake_of_done rfl⟩
    | @sent n unfailed phase window amount =>
      obtain ⟨s, hs, hstream⟩ := (stream_cases x.mux x.handle).resolve_left fun ha => by
        simp [ha, Stream.absent] at phase
      rw [hstream] at unfailed phase window amount going ⊢
      have pieces : ∀ f ∈ dataFrames x.mux.config s.id (rest.take n), Frame.Piece c id f := by
        intro f hf
        obtain ⟨hkind, hstream⟩ := mem_dataFrames hf
        obtain ⟨hsome, hshort⟩ := payload_of_mem_dataFrames hf
        exact ⟨hkind, hstream.trans (named rest hp s hs), hsome, hx.going.config ▸ hshort⟩
      have houtbound := ((Kept.refl x.mux).emitAll
        (dataFrames x.mux.config s.id (rest.take n))).outbound hx.going.sending
      refine ⟨hx.advanced hbytes pieces (bytesIn_dataFrames _ _ _) going houtbound, fun rest' hrest => ?_⟩
      dsimp only at hrest
      split at hrest
      · cases hrest
      rename_i hleft
      cases hrest
      refine ⟨hleft, { s with sendWindow := s.sendWindow - n }, ?_, named rest hp s hs, .inr ?_⟩
      · dsimp only [modify]
        rw [streams_emitAll, List.getElem?_modify_eq, hs]
        rfl
      · -- something is left only if the window is used up
        have hlen : 0 < (rest.drop n).length := List.length_pos_iff.2 hleft
        rw [List.length_drop] at hlen
        exact .inr ⟨unfailed, phase, by dsimp only; omega⟩

/-- Whatever else happens, a call knows what is left, and it waits or has been woken. -/
theorem Course.other (hx : Course c h id data x) (awake : x.Awake id) (e : Event) :
    Course c h id data (x.after (.other e)) ∧ (x.after (.other e)).Awake id := by
  obtain ⟨woken, hw, stays⟩ := step_stalled (h := x.handle) hx.going.sound e
  have hnoted : x.looked ≤ (x.mux.step e).woken.length := by
    rw [hw, List.length_append]
    exact Nat.le_add_right_of_le hx.noted
  refine ⟨{ hx with going := hx.going.step e, noted := hnoted }, fun rest hrest => ?_⟩
  obtain ⟨hleft, s, hs, hid, hwaits⟩ := awake rest hrest
  obtain ⟨s', hs', hnext⟩ := step_moves hx.going.sound e x.handle s hs
  refine ⟨hleft, s', hs', hnext.id.trans hid, ?_⟩
  simp only [after, hw, List.drop_append_of_le_length hx.noted, List.mem_append]
  rcases hwaits with hwoken | stalled
  · exact .inl (.inl hwoken)
  · by_cases hn : x.handle ∈ woken
    · exact .inl (.inr hn)
    · refine .inr ?_
      rw [← stream_of_getElem? hs']
      exact stays hn (by rwa [stream_of_getElem? hs])

theorem Course.through (hx : Course c h id data x) (awake : x.Awake id) (moments : List Moment) :
    Course c h id data (x.through moments) ∧ (x.through moments).Awake id := by
  induction moments generalizing x with
  | nil => exact ⟨hx, awake⟩
  | cons moment moments ih =>
    have hnext : Course c h id data (x.after moment) ∧ (x.after moment).Awake id := by
      cases moment with
      | other e => exact hx.other awake e
      | look =>
        refine hx.look fun rest hp t ht => ?_
        obtain ⟨-, s, hs, hid, -⟩ := awake rest hp
        rw [Option.some.inj (ht.symm.trans hs), hid]
    exact ih hnext.1 hnext.2

/-- A suspended call misses nothing: had it looked again, it would not have gone on. -/
theorem Awake.look_suspended (awake : x.Awake id) (hx : x.Suspended) :
    x.look = { x with looked := x.mux.woken.length } := by
  obtain ⟨⟨rest, hp⟩, hasleep⟩ := hx
  obtain ⟨hleft, s, hs, -, hwaits⟩ := awake rest hp
  have stalled : (x.mux.stream x.handle).Stalled := by
    rw [stream_of_getElem? hs]
    exact hwaits.resolve_left hasleep
  have hwrite : x.mux.writeAll x.handle rest = (.waiting rest, x.mux) :=
    (writeAll_waits_iff hleft).2 stalled
  simp only [look, hp, hwrite, List.drop_length, List.append_nil]

theorem course_start (hm : Going c m) (h : Handle) (data : Bytes) :
    Course c h (m.stream h).id data (start m h data) ∧ (start m h data).Awake (m.stream h).id := by
  refine Course.look ⟨hm, rfl, by simp, .partly (List.nil_append _), Nat.zero_le _⟩ fun _ _ s hs => ?_
  rw [stream_of_getElem? hs]

end WriteCall

/-! ## Failures that tell a writer to wait -/

/-- No stream has failed with an error that tells its writers to wait. -/
def Unbarred (m : Mux) : Prop := ∀ h id, (m.stream h).failure ≠ some (.windowExhausted id)

namespace Unbarred

theorem step (hm : m.Unbarred) (hc : ∀ id, e ≠ .call (.failAll (.windowExhausted id))) :
    (m.step e).Unbarred := by
  intro h id hf
  have tells : Tells (fun e' => ∀ id, e' ≠ .windowExhausted id) h m (m.step e) :=
    step_tells m fun e' he id hid => hc id (by rw [he, hid])
  rcases tells _ hf with hbefore | hplain | hplain
  · exact hm h id hbefore
  · exact hplain id rfl
  · exact hplain id rfl

theorem run (hm : m.Unbarred) {events : List Event}
    (hc : ∀ id, .call (.failAll (.windowExhausted id)) ∉ events) : (m.run events).Unbarred := by
  induction events generalizing m with
  | nil => exact hm
  | cons e events ih =>
    have hfirst : (m.step e).Unbarred := hm.step fun id he => hc id (by simp [he])
    exact ih hfirst fun id hin => hc id (List.mem_cons_of_mem _ hin)

theorem look {x : WriteCall} (hx : x.mux.Unbarred) : x.look.mux.Unbarred := by
  cases hp : x.progress with
  | done r => simpa only [WriteCall.look, hp] using hx
  | waiting rest =>
    simp only [WriteCall.look, hp, writeAll_snd]
    split
    · exact hx
    · exact hx.step nofun

theorem through {x : WriteCall} (hx : x.mux.Unbarred) {moments : List WriteCall.Moment}
    (hc : ∀ id, .other (.call (.failAll (.windowExhausted id))) ∉ moments) :
    (x.through moments).mux.Unbarred := by
  induction moments generalizing x with
  | nil => exact hx
  | cons moment moments ih =>
    have hfirst : (x.after moment).mux.Unbarred := by
      cases moment with
      | other e => exact hx.step fun id he => hc id (by simp [he])
      | look => exact hx.look
    exact ih hfirst fun id hin => hc id (List.mem_cons_of_mem _ hin)

end Unbarred

/-! ## Any call -/

/-- **A call that writes everything neither loses nor repeats a byte.** Whatever happens while it runs, in
any order, the frames that it has queued are data frames of its stream, none of them empty or longer than the
limit, and what they carry, one after the other, is the beginning of its bytes: all of them once it has
succeeded, and not all of them if it has failed. It is suspended only while the window is used up, unless the
connection was failed with the very error that tells a writer so. -/
theorem nothing_lost_or_repeated (role : Role) (c : Config) (events : List Event) (h : Handle)
    (data : Bytes) (moments : List WriteCall.Moment) :
    let m := (fresh role c).run events
    let x := (WriteCall.start m h data).through moments
    (∀ f ∈ x.sent, f.kind = .data ∧ f.stream = (m.stream h).id ∧ f.payload ≠ [] ∧
      f.payload.length ≤ max c.maxFramePayload 1) ∧
    bytesIn x.sent <+: data ∧
    (x.progress = .done (.ok ()) → bytesIn x.sent = data) ∧
    (∀ e, x.progress = .done (.error e) → bytesIn x.sent ≠ data) ∧
    ((∀ id, .call (.failAll (.windowExhausted id)) ∉ events) →
      (∀ id, .other (.call (.failAll (.windowExhausted id))) ∉ moments) →
      x.Suspended → (x.mux.stream h).sendWindow = 0) := by
  intro m x
  have hm : Going c m := going_run role c events
  obtain ⟨hstart, hawake⟩ := WriteCall.course_start hm h data
  obtain ⟨hx, awake⟩ := hstart.through hawake moments
  have account : Account data x.sent x.progress := hx.account
  refine ⟨fun f hf => ?_, account.isPrefix, fun hdone => (hdone ▸ account).bytes_done,
    fun e hdone => (hdone ▸ account).bytes_error, fun hbefore hwhile hsuspended => ?_⟩
  · have piece := hx.pieces f hf
    exact ⟨piece.kind, piece.stream, piece.some_, piece.short⟩
  · obtain ⟨⟨rest, hrest⟩, hasleep⟩ := hsuspended
    obtain ⟨-, s, hs, -, hwaits⟩ := awake rest hrest
    have hunbarred : x.mux.Unbarred := by
      have hfresh : (fresh role c).Unbarred := fun _ _ => nofun
      refine Unbarred.through (Unbarred.look ?_) hwhile
      exact hfresh.run hbefore
    have hself : x.mux.streams[h]? = some s := hx.handle ▸ hs
    have hstream := stream_of_getElem? hself
    rcases hwaits.resolve_left hasleep with ⟨id, hid⟩ | ⟨-, -, hw⟩
    · exact absurd (hstream ▸ hid) (hunbarred h id)
    · rw [hstream, hw]

/-- A stream with four bytes of credit. Its connection is failed with the error that tells a writer to wait:
before a call begins to write, or while one waits that has just been given eight bytes more. Either call is
suspended, and will not go on, with the window open. -/
theorem suspended_with_open_window :
    let m := (fresh .initiator {}).run
      [.call (.openStream (.ip ⟨.v4 .loopback, 80⟩)), .frame (ackFrame 1 4)]
    let failure : Event := .call (.failAll (.windowExhausted 1))
    let late := WriteCall.start (m.step failure) 0 [1]
    let early := (WriteCall.start m 0 [1, 2, 3, 4, 5, 6]).through
      [.other (.frame (ackFrame 1 8)), .other failure, .look]
    (late.Suspended ∧ (late.mux.stream 0).sendWindow = 4) ∧
      (early.Suspended ∧ (early.mux.stream 0).sendWindow = 8) := by
  intro m failure late early
  exact ⟨⟨⟨⟨[1], by rfl⟩, by decide +kernel⟩, by decide +kernel⟩,
    ⟨⟨⟨[5, 6], by rfl⟩, by decide +kernel⟩, by decide +kernel⟩⟩

end SealedRelay.Mux
