import SealedRelay.Proofs.Mux.Alone

/-!
# The life of a stream

A stream is asked for, confirmed, ended by one side, and closed; it can also be closed from anywhere.
Whatever happens to a multiplexer moves each of its streams one step along this way at most, and what
goes with the phase moves along: the flags of the directions that have ended, the failure, the call that
waits for the confirmation and the entry in the table.

Results:
* `Turn.next`, `Turn.waits`: what a turn does to phase, failure and waiting call.
* `step_moves`: an event moves every stream one step at most.
* `run_settles`: closed streams stay closed, and failures stay as they are.
* `stream_life`: all of it holds at any time of any run.
-/
namespace SealedRelay.Mux

/-- The phases in which a stream can be after one thing has happened. -/
inductive Phase.Next : Phase → Phase → Prop where
  | stay (p : Phase) : Next p p
  | confirm : Next .pendingOpen .open_
  | endHere : Next .open_ .localClosing
  | endThere : Next .open_ .remoteClosing
  | close (p : Phase) : Next p .closed

theorem Phase.Next.closed {p : Phase} (h : Phase.Next .closed p) : p = .closed := by
  cases h <;> rfl

theorem Phase.Next.confirmed {p p' : Phase} (h : Phase.Next p p') (hp : p ≠ .pendingOpen) :
    p' ≠ .pendingOpen := by
  cases h with
  | stay => exact hp
  | confirm => exact absurd rfl hp
  | endHere | endThere | close => nofun

theorem Phase.Next.ended {p p' : Phase} (h : Phase.Next p p') (hp : p = .localClosing ∨ p = .closed) :
    p' = .localClosing ∨ p' = .closed := by
  cases h with
  | stay => exact hp
  | confirm | endThere => simp at hp
  | endHere => exact .inl rfl
  | close => exact .inr rfl

/-- A stream after one thing has happened: at most one step further, and with the failure it had. -/
structure Stream.Next (s s' : Stream) : Prop where
  id : s'.id = s.id
  phase : Phase.Next s.phase s'.phase
  failure : ∀ e, s.failure = some e → s'.failure = some e

/-- A call waits for a stream exactly while this side has asked for it and it is not confirmed. -/
def Stream.Waits (role : Role) (s : Stream) : Prop :=
  s.awaitingOpen = true ↔ role = .initiator ∧ s.phase = .pendingOpen

namespace Stream

variable {role : Role} {s s' : Stream} {e : LinkError}

@[simp] theorem awaitingOpen_tellOpener (s : Stream) (r : Except LinkError Unit) :
    (s.tellOpener r).awaitingOpen = false := by
  unfold tellOpener
  split
  · rfl
  · rename_i hw
    simpa using hw

@[simp] theorem awaitingOpen_terminated (s : Stream) (e : LinkError) :
    (s.terminated e).awaitingOpen = false := by
  simp [terminated]

theorem waits_of_not_pending (hw : s.awaitingOpen = false) (hp : s.phase ≠ .pendingOpen) :
    s.Waits role := by
  simp [Waits, hw, hp]

theorem waits_terminated (s : Stream) (e : LinkError) : (s.terminated e).Waits role :=
  waits_of_not_pending (awaitingOpen_terminated s e) (by simp)

theorem Waits.awaitingOpen (h : s.Waits role) (hp : s.phase ≠ .pendingOpen) :
    s.awaitingOpen = false :=
  Bool.eq_false_iff.2 fun hw => hp (h.1 hw).2

theorem Waits.of_responder (h : s.Waits .responder) : s.awaitingOpen = false :=
  Bool.eq_false_iff.2 fun hw => by simpa using (h.1 hw).1

namespace Next

theorem refl (s : Stream) : Next s s := ⟨rfl, .stay _, fun _ he => he⟩

/-- Tearing down is a step from anywhere, and keeps the first failure. -/
theorem terminated (h : Next s s') (e : LinkError) : Next s (s'.terminated e) where
  id := (id_terminated s' e).trans h.id
  phase := by
    rw [phase_terminated]
    exact .close _
  failure e' he := by
    rw [failure_terminated, h.failure e' he]
    rfl

end Next

end Stream

/-! ## Turns -/

namespace Turn

variable {role : Role} {c : Config} {s s' : Stream} {d : Deed} {out : List Frame}

/-- A turn moves a stream one step at most, and keeps its failure. -/
theorem next (t : Turn role c s d out s') (h : s.Shape) : s.Next s' := by
  have unfailed (hp : s.phase ≠ .closed) (e : LinkError) : s.failure ≠ some e := by
    simp [h.failure_eq_none hp]
  cases t with
  | send | take | takeAndGrant | data | early | credit => exact ⟨rfl, .stay _, fun _ => id⟩
  | abort | fail | excess | refusal | tear => exact (Stream.Next.refl s).terminated _
  | accept _ phase =>
    refine ⟨rfl, ?_, fun _ => id⟩
    rw [phase]
    exact .confirm
  | confirm _ _ _ phase =>
    refine ⟨by simp [Stream.credited], ?_, fun e he => by simpa [Stream.credited] using he⟩
    rw [phase, Stream.phase_tellOpener]
    exact .confirm
  | expire _ phase =>
    exact ⟨rfl, .close _, fun e he => absurd he (unfailed (by simp [phase]) e)⟩
  | halfClose phase =>
    refine ⟨rfl, ?_, fun _ => id⟩
    rcases phase with hp | hp
    · have hgoing : s.remoteClosed = false := by
        simp only [Stream.Shape, hp] at h
        exact h.2.1
      simp only [hp, hgoing, Bool.false_eq_true, if_false]
      exact .endHere
    · have hended : s.remoteClosed = true := by
        simp only [Stream.Shape, hp] at h
        exact h.2.1
      simp only [hended, if_true]
      exact .close _
  | finish _ _ confirmed phase =>
    refine ⟨rfl, ?_, fun _ => id⟩
    unfold Stream.Shape at h
    cases hp : s.phase with
    | pendingOpen => exact absurd hp confirmed
    | closed => exact absurd hp phase
    | open_ =>
      simp only [hp] at h
      simp only [h.1, Bool.false_eq_true, if_false]
      exact .endThere
    | localClosing =>
      simp only [hp] at h
      simp only [h.1, if_true]
      exact .close _
    | remoteClosing =>
      simp only [hp] at h
      simp only [h.1, Bool.false_eq_true, if_false]
      exact .stay _

/-- A turn ends the wait for a stream exactly if it ends the stream's being unconfirmed. -/
theorem waits (t : Turn role c s d out s') (h : s.Waits role) : s'.Waits role := by
  cases t with
  | send | take | takeAndGrant | data | early | credit => exact h
  | abort | fail | excess | refusal | tear => exact Stream.waits_terminated _ _
  | expire => exact Stream.waits_of_not_pending rfl (by simp)
  | confirm => exact Stream.waits_of_not_pending (Stream.awaitingOpen_tellOpener _ _) (by simp)
  | accept asked =>
    subst asked
    exact Stream.waits_of_not_pending h.of_responder (by simp)
  | halfClose phase =>
    have hp : s.phase ≠ .pendingOpen := by rcases phase with hs | hs <;> simp [hs]
    refine Stream.waits_of_not_pending (h.awaitingOpen hp) ?_
    cases s.remoteClosed <;> simp
  | finish _ _ confirmed =>
    refine Stream.waits_of_not_pending (h.awaitingOpen confirmed) ?_
    cases s.localClosed <;> simp

end Turn

/-! ## Events -/

variable {m m₁ m' : Mux}

/-- Every stream of `m` is still there, at most one step further. -/
def Moves (m m' : Mux) : Prop :=
  ∀ (h : Handle) s, m.streams[h]? = some s → ∃ s', m'.streams[h]? = some s' ∧ s.Next s'

/-- Calls wait for the streams that this side has asked for, until they are confirmed. -/
def AllWait (m : Mux) : Prop := ∀ s ∈ m.streams, s.Waits m.role

theorem Turned.moves {h : Handle} {d : Deed} (t : Turned m m' h d) (hm : m.Sound) : m.Moves m' := by
  obtain ⟨stream, turn, moved, -⟩ := t
  intro k s hs
  by_cases hk : k = h
  · subst hk
    obtain rfl := Option.some.inj (stream.symm.trans hs)
    exact ⟨_, moved.getElem?_self hs, turn.next (hm.stream_sound hs).shape⟩
  · exact ⟨s, (moved.getElem?_other hk).trans hs, .refl s⟩

theorem Turned.allWait {h : Handle} {d : Deed} (t : Turned m m' h d) (hw : m.AllWait) :
    m'.AllWait := by
  obtain ⟨stream, turn, moved, -⟩ := t
  intro u hu
  rw [moved.role]
  rw [moved.streams] at hu
  rcases List.mem_or_eq_of_mem_set hu with hu | rfl
  · exact hw u hu
  · exact turn.waits (hw _ (List.mem_of_getElem? stream))

theorem Change.moves (ch : Change m m') (hm : m.Sound) : m.Moves m' := by
  cases ch with
  | none _ _ _ streams => exact fun h s hs => ⟨s, streams ▸ hs, .refl s⟩
  | turned turn => exact turn.moves hm
  | @failed e failed =>
    intro h s hs
    refine ⟨s.failing e, by rw [failed.streams, List.getElem?_map, hs]; rfl, ?_⟩
    unfold Stream.failing
    split
    · exact .refl s
    · exact (Stream.Next.refl s).terminated e
  | inserted inserted =>
    intro h s hs
    have hlt := (List.getElem?_eq_some_iff.1 hs).1
    exact ⟨s, by rw [inserted.streams, List.getElem?_append_left hlt, hs], .refl s⟩

theorem Change.allWait (ch : Change m m') (hw : m.AllWait) : m'.AllWait := by
  cases ch with
  | none role _ _ streams =>
    unfold AllWait
    rwa [streams, role]
  | turned turn => exact turn.allWait hw
  | @failed e failed =>
    intro u hu
    rw [failed.role]
    rw [failed.streams] at hu
    obtain ⟨s, hs, rfl⟩ := List.mem_map.1 hu
    unfold Stream.failing
    split
    · exact hw s hs
    · exact Stream.waits_terminated s e
  | @inserted s _ inserted _ pending _ _ _ _ waiting =>
    intro u hu
    rw [inserted.role]
    rw [inserted.streams] at hu
    rcases List.mem_append.1 hu with hu | hu
    · exact hw u hu
    · obtain rfl := List.mem_singleton.1 hu
      exact waiting.trans (and_iff_left pending).symm

/-- A stream that is torn down after a step has still moved one step only. -/
theorem Moves.torn (h : m.Moves m₁) (t : Torn m₁ m') : m.Moves m' := by
  obtain ⟨k, reason, stream, turn, moved, -⟩ := t
  intro i s hs
  obtain ⟨s₁, hs₁, hnext⟩ := h i s hs
  by_cases hi : i = k
  · subst hi
    obtain rfl := Option.some.inj (stream.symm.trans hs₁)
    refine ⟨_, moved.getElem?_self hs₁, ?_⟩
    cases turn
    exact hnext.terminated _
  · exact ⟨s₁, (moved.getElem?_other hi).trans hs₁, hnext⟩

/-- An event moves every stream one step at most. -/
theorem step_moves (hm : m.Sound) (e : Event) : m.Moves (m.step e) := by
  obtain ⟨m₁, ch, torn⟩ := step_cases hm e
  generalize m.step e = m' at torn ⊢
  induction torn with
  | refl => exact ch.moves hm
  | tail _ t ih => exact ih.torn t

/-! ## Runs -/

/-- Closed streams stay closed, and failures stay as they are. -/
theorem run_settles (hm : m.Sound) (hs : m.sending = true) (events : List Event) :
    ∀ (h : Handle) s, m.streams[h]? = some s → ∃ s', (m.run events).streams[h]? = some s' ∧
      (s.phase = .closed → s'.phase = .closed) ∧ ∀ e, s.failure = some e → s'.failure = some e := by
  induction events generalizing m with
  | nil => exact fun h s hin => ⟨s, hin, id, fun _ => id⟩
  | cons e events ih =>
    intro h s hin
    obtain ⟨changes, -, hsending⟩ := step_changes hm hs e
    have hm' := (changes_keep (I := fun _ => True) (fun _ _ _ => trivial) hm trivial changes).1
    obtain ⟨s₁, hin₁, hnext⟩ := step_moves hm e h s hin
    obtain ⟨s', hin', hclosed, hfailure⟩ := ih hm' hsending h s₁ hin₁
    refine ⟨s', hin', fun hp => hclosed ?_, fun e he => hfailure e (hnext.failure e he)⟩
    exact Phase.Next.closed (hp ▸ hnext.phase)

/-- What each step of its life keeps holds of a stream after any run. -/
theorem run_stream {c : Config} {P : Stream → Prop} (keeps : ∀ {s s'}, Stream.Next s s' → P s → P s')
    (hm : Going c m) {h : Handle} {s : Stream} (hs : m.streams[h]? = some s) (hp : P s)
    (events : List Event) :
    ∃ s', (m.run events).streams[h]? = some s' ∧ P s' := by
  induction events generalizing m s with
  | nil => exact ⟨s, hs, hp⟩
  | cons e events ih =>
    obtain ⟨s₁, hs₁, hnext⟩ := step_moves hm.sound e h s hs
    exact ih (hm.step e) hs₁ (keeps hnext hp)

/-- **The life of a stream.** At any time of any run a stream is in the table, under its number,
exactly while it is not closed. Its closing flags and its failure fit its phase: none before it is
ended, one flag while one direction is ended, and when it is closed either both flags or a failure. A
call waits for it exactly while this side has asked for it and it is not confirmed. Whatever happens
next moves it one step at most, closed streams stay closed, and a failure stays what it is. -/
theorem stream_life (role : Role) (c : Config) (events : List Event) :
    let m := (fresh role c).run events
    (m.table.map Prod.fst).Nodup ∧
    (∀ (id : StreamId) (h : Handle), (id, h) ∈ m.table ↔
      ∃ s, m.streams[h]? = some s ∧ s.id = id ∧ s.phase ≠ .closed) ∧
    (∀ s ∈ m.streams, s.Shape ∧
      (s.awaitingOpen = true ↔ role = .initiator ∧ s.phase = .pendingOpen)) ∧
    (∀ (e : Event) (h : Handle) s, m.streams[h]? = some s →
      ∃ s', (m.step e).streams[h]? = some s' ∧ s.Next s') ∧
    ∀ (later : List Event) (h : Handle) s, m.streams[h]? = some s →
      ∃ s', (m.run later).streams[h]? = some s' ∧ (s.phase = .closed → s'.phase = .closed) ∧
        ∀ e, s.failure = some e → s'.failure = some e := by
  intro m
  obtain ⟨hm, hrole, -, hwait⟩ := run_keeps (m := fresh role c) (fun ch _ hw => ch.allWait hw)
    (sound_fresh role c) rfl (by simp [AllWait, fresh]) events
  obtain ⟨-, -, hsending⟩ := run_changes (sound_fresh role c) rfl events
  have hstream : ∀ s ∈ m.streams, s.Shape ∧
      (s.awaitingOpen = true ↔ role = .initiator ∧ s.phase = .pendingOpen) := by
    intro s hs
    refine ⟨(hm.streams s hs).shape, ?_⟩
    have hw := hwait s hs
    rwa [hrole] at hw
  exact ⟨hm.nodup, fun _ _ => hm.mem_table, hstream, fun e => step_moves hm e,
    run_settles hm hsending⟩

example :
    let d : Destination := .domain "a.test" 80
    ((fresh .initiator {}).run [.call (.openStream d), .call (.openStream d), .call (.openStream d),
      .frame (ackFrame 1 8), .frame (ackFrame 2 8), .call (.halfClose 0),
      .frame (closeFrame 2 .normal), .frame (closeFrame 3 .refused)]).streams.map (·.phase) =
      [.localClosing, .remoteClosing, .closed] := by decide +kernel

end SealedRelay.Mux
