import SealedRelay.Proofs.Mux.Effect
import SealedRelay.Proofs.Mux.Pair

/-!
# One multiplexer against any other side

Here the other side may send any frames at all, in any order and at any time. An event makes one
change to the streams of a multiplexer, and then may tear some of them down.

Results:
* `step_cases`: an event is a change, with streams torn down after it.
* `run_keeps`: what every change keeps holds after any run against any other side.
* `memory_bounded`: such a run never fills more than the limits.
-/
namespace SealedRelay.Mux

inductive Event where
  /-- Its own program makes a call. -/
  | call (c : Call)
  /-- The other side sends this frame. -/
  | frame (f : Frame)

def step (m : Mux) : Event → Mux
  | .call c => (c.run m).2
  | .frame f => (m.receive f).2

def run (m : Mux) (events : List Event) : Mux := events.foldl step m

def fresh (role : Role) (c : Config) : Mux := { role, config := c }

/-! ## Changes -/

/-- What one event can do to the streams of a multiplexer. -/
inductive Change (m m' : Mux) : Prop where
  /-- Nothing. -/
  | none (role : m'.role = m.role) (config : m'.config = m.config) (failed : m'.failed = m.failed)
      (streams : m'.streams = m.streams) (table : m'.table = m.table)
      (sending : m'.sending = m.sending)
  | turned {h : Handle} {d : Deed} (turn : Turned m m' h d)
  | failed {e : LinkError} (failed : Failed m m' e)
  /-- There is a new stream. -/
  | inserted {s : Stream} {out : List Frame} (inserted : Inserted m m' s out)
      (sound : s.Sound m.role m.config) (pending : s.phase = .pendingOpen)
      (untold : s.opened = .none) (unfailed : m.failed = .none) (free : m.lookup s.id = .none)
      (room : m.table.length < m.config.maxStreams)
      (waiting : s.awaitingOpen = true ↔ m.role = .initiator)

/-- Some stream is torn down from this side. -/
def Torn (m m' : Mux) : Prop := ∃ h reason, Turned m m' h (.aborted reason)

variable {m m' : Mux} {I : Mux → Prop}

namespace Change

theorem sound (ch : Change m m') (hm : m.Sound) : m'.Sound := by
  cases ch with
  | none role config failed streams table =>
    refine ⟨?_, ?_, ?_, ?_⟩
    · rw [table, streams]
      exact hm.mem_table
    · rw [table]
      exact hm.nodup
    · rw [table, failed]
      exact hm.failed
    · rw [streams, role, config]
      exact hm.streams
  | turned turn => exact hm.turned turn
  | failed failed => exact failed.sound hm
  | inserted inserted sound pending _ unfailed free =>
    exact hm.inserted inserted sound (by simp [pending]) unfailed free

theorem role (ch : Change m m') : m'.role = m.role := by
  cases ch with
  | none role => exact role
  | turned turn => exact turn.kept.choose_spec.role
  | failed failed => exact failed.role
  | inserted inserted => exact inserted.role

theorem config (ch : Change m m') : m'.config = m.config := by
  cases ch with
  | none _ config => exact config
  | turned turn => exact turn.kept.choose_spec.config
  | failed failed => exact failed.config
  | inserted inserted => exact inserted.config

theorem sending (ch : Change m m') : m'.sending = m.sending := by
  cases ch with
  | none _ _ _ _ _ sending => exact sending
  | turned turn => exact turn.kept.choose_spec.sending
  | failed failed => exact failed.sending
  | inserted inserted => exact inserted.sending

theorem unfailed (ch : Change m m') (h : m'.failed = .none) : m.failed = .none := by
  cases ch with
  | none _ _ failed => exact failed.symm.trans h
  | turned turn => exact turn.kept.choose_spec.failed.symm.trans h
  | failed failed => exact absurd failed.failed (by simp [h])
  | inserted _ _ _ _ unfailed => exact unfailed

/-- There are never more streams at a time than the limit. -/
theorem table_le (ch : Change m m') (h : m.table.length ≤ m.config.maxStreams) :
    m'.table.length ≤ m'.config.maxStreams := by
  rw [ch.config]
  cases ch with
  | none _ _ _ _ table => rwa [table]
  | turned turn =>
    obtain ⟨-, -, mv⟩ := turn
    exact Nat.le_trans mv.sublist.length_le h
  | failed failed => simp [failed.table]
  | inserted inserted _ _ _ _ _ room =>
    rw [inserted.table, List.length_append, List.length_singleton]
    exact room

theorem of_queued {out : List Frame} (q : Queued m m' out) : Change m m' :=
  .none q.role q.config q.failed q.streams q.table q.sending

/-- An operation that changes nothing or takes one turn of one stream. -/
theorem of_cases {h : Handle} {d : Deed} (hc : m' = m ∨ Turned m m' h d) : Change m m' := by
  rcases hc with rfl | turn
  · exact of_queued (.refl m')
  · exact .turned turn

end Change

/-! ## Events -/

@[simp] theorem noteSent_snd (id : StreamId) (data : Bytes) (r : Except LinkError Nat × Mux) :
    (noteSent id data r).2 = r.2 := by
  obtain ⟨_ | _, _⟩ := r <;> rfl

@[simp] theorem noteRead_snd (id : StreamId) (r : Except LinkError ReadOutcome × Mux) :
    (noteRead id r).2 = r.2 := by
  obtain ⟨_ | _ | _ | _, _⟩ := r <;> rfl

theorem change_send (m : Mux) (h : Handle) (data : Bytes) : Change m (m.send h data).2 := by
  rcases send_cases m h data with ⟨_, -, turn⟩ | ⟨hsame, -⟩
  · exact .turned turn
  · exact .of_cases (.inl hsame : _ ∨ Turned m _ h .failed)

theorem change_halfClose (hm : m.Sound) (h : Handle) : Change m (m.halfClose h) := by
  rcases halfClose_cases hm h with hsame | turn | turn
  · exact .of_cases (.inl hsame : _ ∨ Turned m _ h .failed)
  · exact .turned turn
  · exact .turned turn

theorem change_sendTo (m : Mux) (id : StreamId) (data : Bytes) :
    Change m (m.sendTo id data).2 := by
  unfold sendTo
  split
  · exact .of_queued (.refl m)
  · exact change_send m _ data

theorem change_closeStream (hm : m.Sound) (id : StreamId) (reason : CloseReason) :
    Change m (m.closeStream id reason) := by
  unfold closeStream
  split
  · exact .of_queued (.refl m)
  split
  · exact .of_cases (abort_cases hm _ reason)
  · exact change_halfClose hm _

theorem change_nextIncoming (m : Mux) : Change m m.nextIncoming.2 := by
  unfold nextIncoming
  split
  · have queued (rest : List Handle) : Queued m { m with incoming := rest } [] :=
      { Queued.refl m with }
    exact .of_queued (queued _)
  · exact .of_queued (.refl m)

/-- A call is a change. Only forgetting the queue of incoming streams can tear down more of them. -/
theorem call_cases (hm : m.Sound) (call : Call) :
    ∃ m₁, Change m m₁ ∧ Relation.ReflTransGen Torn m₁ (call.run m).2 := by
  have single {m' : Mux} (ch : Change m m') (hrun : (call.run m).2 = m') :
      ∃ m₁, Change m m₁ ∧ Relation.ReflTransGen Torn m₁ (call.run m).2 :=
    ⟨m', ch, hrun ▸ .refl⟩
  cases call with
  | openStream d =>
    refine single ?_ rfl
    rcases openStream_cases m d with
      queued | ⟨hr, hf, hroom, id, payload, -, hfree, -, inserted⟩
    · exact .of_queued queued
    · refine .inserted inserted ?_ rfl rfl hf hfree hroom ?_
      · exact hr ▸ Stream.sound_asked m.config id d
      · exact iff_of_true rfl hr
  | expireOpen h =>
    by_cases hr : m.role = .initiator
    · exact single (.of_cases (expireOpen_cases hm h hr)) (if_pos hr)
    · exact single (.of_queued (.refl m)) (if_neg hr)
  | accept h =>
    by_cases hr : m.role = .responder
    · exact single (.of_cases (accept_cases h hr)) (if_pos hr)
    · exact single (.of_queued (.refl m)) (if_neg hr)
  | send h data => exact single (change_send m h data) (noteSent_snd _ _ _)
  | sendTo id data => exact single (change_sendTo m id data) (noteSent_snd _ _ _)
  | read h =>
    refine single ?_ (noteRead_snd _ _)
    rcases read_cases hm h with ⟨_, -, turn⟩ | ⟨hsame, -⟩
    · exact .turned turn
    · exact hsame.symm ▸ .of_queued (.refl m)
  | halfClose h => exact single (change_halfClose hm h) rfl
  | abort h reason => exact single (.of_cases (abort_cases hm h reason)) rfl
  | closeStream id reason => exact single (change_closeStream hm id reason) rfl
  | dropHandle h => exact single (.of_cases (abort_cases hm h .reset)) rfl
  | nextIncoming => exact single (change_nextIncoming m) rfl
  | dropIncoming =>
    obtain ⟨m₁, queued, resets⟩ := dropIncoming_resets hm
    have torn {a b : Mux} : Reset a b → Torn a b := fun ⟨h, turn⟩ => ⟨h, .reset, turn⟩
    exact ⟨m₁, .of_queued queued, Relation.ReflTransGen.mono (fun _ _ => torn) _ _ resets⟩
  | ping => exact single (.of_queued (.emit m _)) rfl
  | failAll e => exact single (.failed (failAll_failed hm e)) rfl

/-- A frame is a change. A new stream that nobody takes is torn down at once. -/
theorem receive_changes (hm : m.Sound) (f : Frame) :
    ∃ m₁, Change m m₁ ∧ Relation.ReflTransGen Torn m₁ (m.receive f).2 := by
  by_cases hping : f.kind = .ping
  · obtain ⟨_, -, queued⟩ := receive_ping m hping
    exact ⟨_, .of_queued queued, .refl⟩
  by_cases hopen : f.kind = .opening
  · rcases receive_opening hm hopen with
      ⟨hsame, -⟩ | ⟨queued, -⟩ | ⟨hr, hf, hfree, hroom, d, m₁, inserted, hend⟩
    · exact ⟨m, .of_queued (.refl m), by rw [hsame]⟩
    · exact ⟨_, .of_queued queued, .refl⟩
    · have offered : Change m m₁ := by
        refine .inserted inserted ?_ rfl rfl hf hfree hroom ?_
        · exact hr ▸ Stream.sound_offered m.config f.stream d
        · exact iff_of_false nofun (hr ▸ nofun)
      rcases hend with hend | turn
      · exact ⟨m₁, offered, hend ▸ .refl⟩
      · exact ⟨m₁, offered, .single ⟨_, _, turn⟩⟩
  · rcases receive_cases hm hopen hping with ⟨hsame, -⟩ | ⟨_, -, turn⟩
    · exact ⟨m, .of_queued (.refl m), by rw [hsame]⟩
    · exact ⟨_, .turned turn, .refl⟩

/-- An event is a change, with streams torn down after it. -/
theorem step_cases (hm : m.Sound) (e : Event) :
    ∃ m₁, Change m m₁ ∧ Relation.ReflTransGen Torn m₁ (m.step e) := by
  cases e with
  | call call => exact call_cases hm call
  | frame f => exact receive_changes hm f

/-! ## Runs -/

theorem step_chain (hm : m.Sound) (e : Event) : Relation.ReflTransGen Change m (m.step e) := by
  obtain ⟨m₁, ch, torn⟩ := step_cases hm e
  exact .head ch (Relation.ReflTransGen.mono (fun _ _ ⟨_, _, turn⟩ => .turned turn) _ _ torn)

/-- An event is a chain of changes, and the connection stays the same. -/
theorem step_changes (hm : m.Sound) (hs : m.sending = true) (e : Event) :
    Relation.ReflTransGen Change m (m.step e) ∧ (m.step e).role = m.role ∧
      (m.step e).sending = true := by
  have changes := step_chain hm e
  have same {m' : Mux} (t : Relation.ReflTransGen Change m m') :
      m'.role = m.role ∧ m'.sending = m.sending := by
    induction t with
    | refl => exact ⟨rfl, rfl⟩
    | tail _ ch ih => exact ⟨ch.role.trans ih.1, ch.sending.trans ih.2⟩
  exact ⟨changes, (same changes).1, (same changes).2.trans hs⟩

/-- What every change keeps holds after a chain of them. -/
theorem changes_keep (keep : ∀ {m m'}, Change m m' → m.Sound → I m → I m') (hm : m.Sound)
    (hi : I m) (t : Relation.ReflTransGen Change m m') :
    m'.Sound ∧ m'.config = m.config ∧ I m' := by
  induction t with
  | refl => exact ⟨hm, rfl, hi⟩
  | tail _ ch ih => exact ⟨ch.sound ih.1, ch.config.trans ih.2.1, keep ch ih.1 ih.2.2⟩

theorem run_changes (hm : m.Sound) (hs : m.sending = true) (events : List Event) :
    Relation.ReflTransGen Change m (m.run events) ∧ (m.run events).role = m.role ∧
      (m.run events).sending = true := by
  induction events generalizing m with
  | nil => exact ⟨.refl, rfl, hs⟩
  | cons e events ih =>
    obtain ⟨changes, hrole, hsending⟩ := step_changes hm hs e
    have hm' := (changes_keep (I := fun _ => True) (fun _ _ _ => trivial) hm trivial changes).1
    obtain ⟨rest, hrole', hsending'⟩ := ih hm' hsending
    exact ⟨changes.trans rest, hrole'.trans hrole, hsending'⟩

/-- What every change keeps holds after any run, whatever the other side sends. -/
theorem run_keeps (keep : ∀ {m m'}, Change m m' → m.Sound → I m → I m') (hm : m.Sound)
    (hs : m.sending = true) (hi : I m) (events : List Event) :
    (m.run events).Sound ∧ (m.run events).role = m.role ∧ (m.run events).config = m.config ∧
      I (m.run events) := by
  obtain ⟨changes, hrole, -⟩ := run_changes hm hs events
  obtain ⟨hsound, hconfig, hi'⟩ := changes_keep keep hm hi changes
  exact ⟨hsound, hrole, hconfig, hi'⟩

/-- What is always true of a multiplexer with these settings. -/
structure Going (c : Config) (m : Mux) : Prop where
  sound : m.Sound
  config : m.config = c
  sending : m.sending = true

theorem Going.step {c : Config} (hm : Going c m) (e : Event) : Going c (m.step e) := by
  obtain ⟨changes, -, hsending⟩ := step_changes hm.sound hm.sending e
  obtain ⟨hsound, hconfig, -⟩ :=
    changes_keep (I := fun _ => True) (fun _ _ _ => trivial) hm.sound trivial changes
  exact ⟨hsound, hconfig.trans hm.config, hsending⟩

theorem going_run (role : Role) (c : Config) (events : List Event) :
    Going c ((fresh role c).run events) := by
  obtain ⟨hsound, -, hconfig, -⟩ := run_keeps (I := fun _ => True) (fun _ _ _ => trivial)
    (sound_fresh role c) rfl trivial events
  exact ⟨hsound, hconfig, (run_changes (sound_fresh role c) rfl events).2.2⟩

/-! ## Bounded memory -/

/-- **Memory is bounded.** Whatever the other side sends and the own program calls, the table never
holds more streams than the limit. What a stream still takes, what waits to be read and what was
read but not granted again is at most the first window together, and exactly that while a stream that
this side asked for or has confirmed has not failed. What was read and not granted again stays below
the threshold, so that granting it fits an ack. -/
theorem memory_bounded (role : Role) (c : Config) (hw : c.initialWindow < UInt32.size)
    (events : List Event) :
    let m := (fresh role c).run events
    m.table.length ≤ c.maxStreams ∧
      ∀ s ∈ m.streams,
        s.recvAllowance + s.inbox.flatten.length + s.pendingCredit ≤ c.initialWindow ∧
        ((s.phase ≠ .closed ∨ s.failure = none) → (role = .initiator ∨ s.phase ≠ .pendingOpen) →
          s.recvAllowance + s.inbox.flatten.length + s.pendingCredit = c.initialWindow) ∧
        s.inbox.flatten.length ≤ c.initialWindow ∧
        (s.remoteClosed = false → s.pendingCredit < max (c.initialWindow / 4) 1) ∧
        ∀ chunk rest, s.inbox = chunk :: rest →
          min (s.pendingCredit + chunk.length) largestCredit = s.pendingCredit + chunk.length := by
  intro m
  obtain ⟨hm, hrole, hconfig, htable⟩ :=
    run_keeps (m := fresh role c) (fun ch _ h => ch.table_le h) (sound_fresh role c) rfl
      (Nat.zero_le _) events
  rw [hconfig] at htable
  refine ⟨htable, fun s hs => ?_⟩
  have sound := hm.streams s hs
  rw [hrole, hconfig] at sound
  have room : s.recvAllowance + s.inbox.flatten.length + s.pendingCredit ≤ c.initialWindow :=
    sound.room
  have hsmall : c.initialWindow ≤ largestCredit := by
    simp only [largestCredit]
    omega
  refine ⟨room, fun hlive => sound.full ?_, ?_, sound.lazy hsmall, fun chunk rest hi => ?_⟩
  · exact hlive.elim sound.shape.failure_eq_none id
  · omega
  · rw [hi, List.flatten_cons, List.length_append] at room
    omega

/-- The other side asks for more streams than it may, for one of them twice, and sends on one that
nobody has confirmed. Three bytes arrive on another one, and the first is read. -/
def intrusion : List Event :=
  let d : Bytes := [1, 127, 0, 0, 1, 0, 80]
  [.frame ⟨.opening, 1, d⟩, .frame ⟨.opening, 1, d⟩, .frame ⟨.opening, 2, d⟩,
    .frame ⟨.opening, 3, d⟩, .call (.accept 0), .frame ⟨.data, 2, [9]⟩, .frame ⟨.data, 1, [1]⟩,
    .frame ⟨.data, 1, [2, 3]⟩, .call (.read 0)]

theorem memory_bounded_under_intrusion :
    let m := (fresh .responder { initialWindow := 8, maxStreams := 2 }).run intrusion
    m.table.length ≤ 2 ∧ m.streams.length = 2 ∧ ∀ s ∈ m.streams, s.id = 1 →
      s.inbox.flatten.length = 2 ∧ s.pendingCredit = 1 ∧
        s.recvAllowance + s.inbox.flatten.length + s.pendingCredit = 8 := by
  intro m
  obtain ⟨htable, hstreams⟩ := memory_bounded .responder { initialWindow := 8, maxStreams := 2 }
    (by decide) intrusion
  have hlive : ∀ s ∈ m.streams, s.id = 1 → s.phase = .open_ := by decide +kernel
  have hread : ∀ s ∈ m.streams, s.id = 1 → s.inbox.flatten.length = 2 ∧ s.pendingCredit = 1 := by
    decide +kernel
  refine ⟨htable, by decide +kernel, fun s hs hid => ?_⟩
  obtain ⟨hinbox, hpending⟩ := hread s hs hid
  have hopen := hlive s hs hid
  exact ⟨hinbox, hpending, (hstreams s hs).2.1 (.inl (by simp [hopen])) (.inr (by simp [hopen]))⟩

end SealedRelay.Mux
