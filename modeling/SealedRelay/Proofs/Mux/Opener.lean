import SealedRelay.Mux.Call
import SealedRelay.Proofs.Mux.Emission

/-!
# What a caller that asks for a stream is told

A connection that has not failed turns a caller away for one reason only, when it is asked for a
stream: it has as many as it may have, or every number is in use. If not, the stream gets the first
free number. Later, whatever the other side does, a waiting caller is told something else.

Results:
* `openStream_unavailable`: why a caller is turned away.
* `openStream_firstFree`: in every run, a stream that can be had gets the first free number.
* `Asking.pollOpen_ne`: nobody who waits is turned away while the connection lasts.
-/
namespace SealedRelay.Mux

/-! ## Asking -/

/-- A connection that has not failed turns a caller away when it is full, or all numbers are in
use. -/
theorem openStream_unavailable {m : Mux} {d : Destination} {text : String}
    (hr : m.role = .initiator) (hf : m.failed = none)
    (h : (m.openStream d).1 = .error (.unavailable text)) :
    min m.config.maxStreams (UInt32.size - 1) ≤ m.table.length := by
  unfold openStream at h
  simp only [hr, hf] at h
  split at h
  · simp [LinkError.ofPayload] at h
  split at h
  · rename_i hfull
    exact Nat.le_trans (Nat.min_le_left _ _) hfull
  split at h
  · rename_i hnone
    exact Nat.le_trans (Nat.min_le_right _ _) (allocateId_none (by rw [hnone]))
  · simp at h

theorem Going.nextId_run {m : Mux} {c : Config} (hm : Going c m) (hn : m.nextId ≠ 0)
    (events : List Event) : (m.run events).nextId ≠ 0 := by
  induction events generalizing m with
  | nil => exact hn
  | cons e events ih =>
    obtain ⟨_, em⟩ := step_emitted hm.sound e
    exact ih (hm.step e) (em.nextId_ne_zero hn)

/-- Whatever has happened before, a stream that can be had gets the first free number, and the next search
starts behind it. -/
theorem openStream_firstFree (role : Role) (c : Config) (events : List Event) (d : Destination) :
    let m := (fresh role c).run events
    ¬ m.Unavailable d → m.activeStreams < idLimit →
      ∃ id, m.FirstFree id ∧ (m.openStream d).1 = .ok m.streams.length ∧
        (m.openStream d).2.streams = m.streams ++ [.asked c id d] ∧
        (m.openStream d).2.lookup id = some m.streams.length ∧
        (m.openStream d).2.nextId = succId id := by
  intro m available hroom
  have going : Going c m := going_run role c events
  have hone : (fresh role c).nextId ≠ 0 := show (1 : StreamId) ≠ 0 by decide
  have hn : m.nextId ≠ 0 := (going_run role c []).nextId_run hone events
  obtain ⟨id, hfirst, hchosen⟩ := exists_firstFree hn hroom
  rcases openStream_eq m d with
    ⟨why, -⟩ | ⟨-, -, -, payload, -, ⟨ha, -⟩ | ⟨id', ha, he⟩⟩
  · exact absurd why available
  · rw [hchosen] at ha
    cases ha
  · obtain rfl : id = id' := by
      rw [hchosen] at ha
      exact Option.some.inj ha
    have inserted := inserted_allocateId m (.asked m.config id d) ⟨.opening, id, payload⟩
    rw [he]
    refine ⟨id, hfirst, rfl, ?_, inserted.lookup_self hfirst.free, ?_⟩
    · rw [← going.config]
      exact inserted.streams
    · rw [emit, nextId_emitAll, hchosen]
      rfl

/-! ## Waiting -/

/-- Who waits for the stream may still get it, and was not turned away. -/
structure Stream.Welcome (s : Stream) : Prop where
  waiting : s.awaitingOpen = true → s.phase = .pendingOpen
  told : ∀ text, s.opened ≠ some (.error (.unavailable text))

theorem Stream.welcome_tellOpener {s : Stream} {r : Except LinkError Unit}
    (hs : ∀ text, s.opened ≠ some (.error (.unavailable text)))
    (hr : s.awaitingOpen = true → ∀ text, r ≠ .error (.unavailable text)) :
    (s.tellOpener r).Welcome := by
  unfold Stream.tellOpener
  split
  · rename_i hw
    exact ⟨nofun, fun text he => hr hw text (Option.some.inj he)⟩
  · rename_i hw
    exact ⟨fun hw' => absurd hw' hw, hs⟩

theorem Stream.Welcome.terminated {s : Stream} (h : s.Welcome) {e : LinkError}
    (he : s.phase = .pendingOpen → ∀ text, e ≠ .unavailable text) : (s.terminated e).Welcome :=
  welcome_tellOpener h.told fun hw text hr => he (h.waiting hw) text (Except.error.inj hr)

/-- No turn of the side that asks turns away who waits, unless it is the end of the connection. -/
theorem Turn.welcome {c : Config} {s s' : Stream} {d : Deed} {out : List Frame}
    (t : Turn .initiator c s d out s') (lasting : d ≠ .failed) (h : s.Welcome) : s'.Welcome := by
  have confirmed (hp : s.phase ≠ .pendingOpen) : s.awaitingOpen ≠ true := fun hw =>
    hp (h.waiting hw)
  cases t with
  | send | take | takeAndGrant | data | credit => exact ⟨h.waiting, h.told⟩
  | early => exact h
  | fail => exact absurd rfl lasting
  | abort | excess | refusal => exact h.terminated fun _ => nofun
  | tear _ _ _ hp => exact h.terminated fun hpend => absurd hpend hp
  | expire => exact ⟨nofun, h.told⟩
  | confirm => exact Stream.welcome_tellOpener h.told fun _ => nofun
  | accept asked => cases asked
  | halfClose phase =>
    have hp : s.phase ≠ .pendingOpen := by rcases phase with hs | hs <;> simp [hs]
    exact ⟨fun hw => absurd hw (confirmed hp), h.told⟩
  | finish _ _ hp => exact ⟨fun hw => absurd hw (confirmed hp), h.told⟩

variable {m m' : Mux}

/-- Neither does any change of the side that asks, unless its connection fails. -/
theorem Change.welcome (ch : Change m m') (hr : m.role = .initiator)
    (h : m.failed = .none → ∀ s ∈ m.streams, s.Welcome) (hf : m'.failed = .none) :
    ∀ s ∈ m'.streams, s.Welcome := by
  have hold := h (ch.unfailed hf)
  cases ch with
  | none _ _ _ streams => rwa [streams]
  | failed failed => exact absurd failed.failed (by simp [hf])
  | turned turn =>
    obtain ⟨hs, turn, moved, lasting⟩ := turn
    rw [hr] at turn
    rw [moved.streams]
    intro s hin
    rcases List.mem_or_eq_of_mem_set hin with hin | rfl
    · exact hold s hin
    · exact turn.welcome lasting (hold _ (List.mem_of_getElem? hs))
  | inserted inserted _ pending untold =>
    rw [inserted.streams]
    intro s hin
    rcases List.mem_append.1 hin with hin | hin
    · exact hold s hin
    · obtain rfl := List.mem_singleton.1 hin
      exact ⟨fun _ => pending, by simp [untold]⟩

/-! ## The side that asks -/

/-- What is always true of the side that asks for streams. -/
structure Asking (c : Config) (m : Mux) : Prop where
  role : m.role = .initiator
  config : m.config = c
  sending : m.sending = true
  sound : m.Sound
  room : m.table.length ≤ c.maxStreams
  welcome : m.failed = none → ∀ s ∈ m.streams, s.Welcome

theorem asking_fresh (c : Config) : Asking c (fresh .initiator c) where
  role := rfl
  config := rfl
  sending := rfl
  sound := sound_fresh .initiator c
  room := Nat.zero_le _
  welcome _ _ hs := absurd hs List.not_mem_nil

namespace Asking

variable {c : Config}

theorem changes (h : Asking c m) (changes : Relation.ReflTransGen Change m m') : Asking c m' := by
  let I (m : Mux) : Prop :=
    m.role = .initiator ∧ m.sending = true ∧ m.table.length ≤ m.config.maxStreams ∧
      (m.failed = none → ∀ s ∈ m.streams, s.Welcome)
  have keep {m m' : Mux} (ch : Change m m') (_ : m.Sound) (hi : I m) : I m' :=
    ⟨ch.role.trans hi.1, ch.sending.trans hi.2.1, ch.table_le hi.2.2.1, ch.welcome hi.1 hi.2.2.2⟩
  have start : I m := ⟨h.role, h.sending, h.config ▸ h.room, h.welcome⟩
  obtain ⟨hsound, hconfig, hrole, hsending, hroom, hwelcome⟩ :=
    changes_keep keep h.sound start changes
  have hc : m'.config = c := hconfig.trans h.config
  exact ⟨hrole, hc, hsending, hsound, hc ▸ hroom, hwelcome⟩

theorem step (h : Asking c m) (e : Event) : Asking c (m.step e) := h.changes (step_chain h.sound e)

theorem unfailed (h : Asking c m) {e : Event} (hf : (m.step e).failed = none) :
    m.failed = none := by
  have back {m' : Mux} (t : Relation.ReflTransGen Change m m') (hf : m'.failed = none) :
      m.failed = none := by
    induction t with
    | refl => exact hf
    | tail _ ch ih => exact ih (ch.unfailed hf)
  exact back (step_changes h.sound h.sending e).1 hf

theorem pollOpen_cases (h : Asking c m) (k : Handle) (expired : Bool) :
    (m.pollOpen k expired).2 = m ∨ (m.pollOpen k expired).2 = m.step (.call (.expireOpen k)) := by
  unfold pollOpen
  split
  · exact .inl rfl
  · split
    · exact .inr (if_pos h.role).symm
    · exact .inl rfl

theorem failed_pollOpen (h : Asking c m) (k : Handle) (expired : Bool) :
    (m.pollOpen k expired).2.failed = m.failed := by
  unfold pollOpen
  split
  · rfl
  · split
    · exact failed_expireOpen h.sound k h.role
    · rfl

/-- A waiting caller is told something else than that it is turned away. -/
theorem pollOpen_ne (h : Asking c m) (hf : m.failed = none) {k : Handle} {expired : Bool}
    {r : Except LinkError Unit} (hr : (m.pollOpen k expired).1 = some r) (text : String) :
    r ≠ .error (.unavailable text) := by
  unfold pollOpen at hr
  cases ho : m.openResult k with
  | some told =>
    simp only [ho] at hr
    obtain rfl := Option.some.inj hr
    rw [openResult] at ho
    cases hs : m.streams[k]? with
    | none => simp [stream_of_length_le hs, Stream.absent] at ho
    | some s =>
      rw [stream_of_getElem? hs] at ho
      rintro rfl
      exact (h.welcome hf s (List.mem_of_getElem? hs)).told text ho
  | none =>
    cases expired with
    | false => simp [ho] at hr
    | true =>
      simp only [ho, if_true] at hr
      obtain rfl := Option.some.inj hr
      rw [openResult] at ho
      by_cases hp : (m.stream k).phase = .pendingOpen <;> simp [expireOpen, ho, hp]

end Asking

end SealedRelay.Mux
