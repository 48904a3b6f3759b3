import SealedRelay.Proofs.Mux.Turn

/-!
# What holds of one end of a stream at any time

These facts do not depend on the other side: every turn keeps them, whatever frames arrive.

Results:
* `Stream.Shape`: phase, closing flags and failure always fit together.
* `Turn.sound`: an end keeps its shape, and its allowance, its unread bytes and its ungranted credit
  together never exceed the initial window.
-/
namespace SealedRelay.Mux

/-- The closing flags and the failure that go with the phase of a stream. -/
def Stream.Shape (s : Stream) : Prop :=
  match s.phase with
  | .pendingOpen | .open_ => s.localClosed = false ∧ s.remoteClosed = false ∧ s.failure = none
  | .localClosing => s.localClosed = true ∧ s.remoteClosed = false ∧ s.failure = none
  | .remoteClosing => s.localClosed = false ∧ s.remoteClosed = true ∧ s.failure = none
  | .closed => s.failure = none ↔ s.localClosed = true ∧ s.remoteClosed = true

/-- Bytes that the other side may still send, that wait to be read, and that were read without
having been granted again. -/
def Stream.held (s : Stream) : Nat :=
  s.recvAllowance + s.inbox.flatten.length + s.pendingCredit

/-- One end of a stream at any time. -/
structure Stream.Sound (role : Role) (c : Config) (s : Stream) : Prop where
  shape : s.Shape
  /-- Empty chunks are not kept. -/
  chunks : [] ∉ s.inbox
  /-- The asked side holds nothing before it has confirmed. -/
  unasked : role = .responder → s.phase = .pendingOpen →
    s.recvAllowance = 0 ∧ s.inbox = [] ∧ s.pendingCredit = 0
  room : s.held ≤ c.initialWindow
  full : s.failure = none → (role = .initiator ∨ s.phase ≠ .pendingOpen) → s.held = c.initialWindow
  /-- Credit that is due is granted at once, if it fits an ack. -/
  lazy : c.initialWindow ≤ largestCredit → s.remoteClosed = false →
    s.pendingCredit < c.creditThreshold

namespace Stream

variable {role : Role} {c : Config} {s : Stream}

theorem Shape.failure_eq_none (h : s.Shape) (hp : s.phase ≠ .closed) : s.failure = none := by
  unfold Shape at h
  cases hs : s.phase <;> simp_all

theorem Shape.localClosed (h : s.Shape) (hp : s.phase = .localClosing) : s.localClosed = true := by
  simp only [Shape, hp] at h
  exact h.1

/-- An end that has closed gracefully knows that the other side has ended its direction. -/
theorem Shape.remoteClosed (h : s.Shape) (hp : s.phase = .closed) (hf : s.failure = none) :
    s.remoteClosed = true := by
  simp only [Shape, hp, hf, true_iff] at h
  exact h.2

end Stream

theorem Config.creditThreshold_pos (c : Config) : 0 < c.creditThreshold := by
  unfold Config.creditThreshold
  omega

theorem Config.creditThreshold_le {c : Config} (h : 1 ≤ c.initialWindow) :
    c.creditThreshold ≤ c.initialWindow := by
  unfold Config.creditThreshold
  omega

namespace Turn

variable {role : Role} {c : Config} {s s' : Stream} {d : Deed} {out : List Frame}

theorem shape_terminated {e : LinkError} (h : s.Shape) (hp : s.phase ≠ .closed) :
    (s.terminated e).Shape := by
  have hf : (s.terminated e).failure ≠ none := Stream.failure_terminated_ne_none s e
  unfold Stream.Shape at h ⊢
  cases hs : s.phase <;> simp_all

theorem shape (t : Turn role c s d out s') (h : s.Shape) : s'.Shape := by
  cases t with
  | abort phase | fail phase | excess _ phase | tear _ _ _ _ phase => exact shape_terminated h phase
  | refusal _ _ phase => exact shape_terminated h (by simp [phase])
  | halfClose phase => rcases phase with hp | hp <;> simp_all [Stream.Shape]
  | finish _ _ confirmed phase => cases hp : s.phase <;> simp_all [Stream.Shape]
  | expire _ phase | accept _ phase => simp_all [Stream.Shape]
  | confirm _ _ _ phase => simp_all [Stream.Shape, Stream.credited]
  | send | take | takeAndGrant | data | early | credit => exact h

theorem chunks (t : Turn role c s d out s') (h : [] ∉ s.inbox) : [] ∉ s'.inbox := by
  cases t with
  | take inbox | takeAndGrant inbox =>
    rw [inbox] at h
    exact fun hm => h (List.mem_cons_of_mem _ hm)
  | @data f =>
    by_cases hp : f.payload = []
    · simpa [hp] using h
    · simpa [hp] using h
  | abort | fail | excess | refusal | tear => simp
  | _ => simpa [Stream.credited] using h

/-- What an end holds stays the same, but for the first window and when the stream fails. -/
theorem held_cases (t : Turn role c s d out s') :
    (s'.held = s.held ∧ (role = .responder → s.phase = .pendingOpen → s'.phase = .pendingOpen)) ∨
      (s'.failure ≠ none ∧ s'.held ≤ s.held) ∨
      (role = .responder ∧ s.phase = .pendingOpen ∧
        s'.held = c.initialWindow + s.inbox.flatten.length + s.pendingCredit) := by
  cases t with
  | accept asked phase => exact .inr (.inr ⟨asked, phase, rfl⟩)
  | take inbox => exact .inl ⟨by simp [Stream.held, inbox]; omega, fun _ hp => hp⟩
  | takeAndGrant inbox _ _ amount =>
    exact .inl ⟨by simp [Stream.held, inbox]; omega, fun _ hp => hp⟩
  | @data f _ _ _ room =>
    refine .inl ⟨?_, fun _ hp => hp⟩
    by_cases hp : f.payload = []
    · simp [Stream.held, hp]
    · simp [Stream.held, hp]; omega
  | abort | fail | excess | refusal | tear =>
    exact .inr (.inl ⟨Stream.failure_terminated_ne_none _ _, by simp [Stream.held]⟩)
  | expire => exact .inr (.inl ⟨by simp, Nat.le_refl _⟩)
  | halfClose phase =>
    exact .inl ⟨rfl, fun _ hp => by rcases phase with hs | hs <;> simp [hs] at hp⟩
  | confirm _ _ asking =>
    exact .inl ⟨by simp [Stream.held, Stream.credited], by simp [asking]⟩
  | send | early => exact .inl ⟨rfl, fun _ hp => hp⟩
  | credit => exact .inl ⟨rfl, fun _ hp => hp⟩
  | finish _ _ confirmed => exact .inl ⟨rfl, fun _ hp => absurd hp confirmed⟩

theorem room (t : Turn role c s d out s') (h : s.Sound role c) : s'.held ≤ c.initialWindow := by
  have hr := h.room
  rcases t.held_cases with ⟨he, -⟩ | ⟨-, he⟩ | ⟨asked, phase, he⟩
  · omega
  · omega
  · obtain ⟨-, hi, hp⟩ := h.unasked asked phase
    simp [he, hi, hp]

theorem full (t : Turn role c s d out s') (h : s.Sound role c) (hf : s'.failure = none)
    (hp : role = .initiator ∨ s'.phase ≠ .pendingOpen) : s'.held = c.initialWindow := by
  rcases t.held_cases with ⟨he, hpend⟩ | ⟨hn, -⟩ | ⟨asked, phase, he⟩
  · rw [he]
    refine h.full (t.inbox_eq hf).1 ?_
    cases role with
    | initiator => exact .inl rfl
    | responder => exact .inr fun hs => hp.resolve_left (by simp) (hpend rfl hs)
  · exact absurd hf hn
  · obtain ⟨-, hi, hp⟩ := h.unasked asked phase
    simp [he, hi, hp]

theorem unasked (t : Turn role c s d out s') (h : s.Sound role c) (asked : role = .responder)
    (hp : s'.phase = .pendingOpen) :
    s'.recvAllowance = 0 ∧ s'.inbox = [] ∧ s'.pendingCredit = 0 := by
  have hs := h.unasked asked
  cases t with
  | take inbox | takeAndGrant inbox =>
    have hi := (hs hp).2.1
    simp [inbox] at hi
  | @data f _ _ _ room =>
    obtain ⟨ha, hi, hc⟩ := hs hp
    have hnil : f.payload = [] := List.eq_nil_of_length_eq_zero (by omega)
    simp [ha, hi, hc, hnil]
  | send phase => rcases phase with hs | hs <;> simp [hs] at hp
  | halfClose => cases hr : s.remoteClosed <;> simp [hr] at hp
  | finish => cases hl : s.localClosed <;> simp [hl] at hp
  | early => exact hs hp
  | credit _ _ confirmed => exact absurd hp confirmed
  | accept | abort | expire | fail | excess | refusal | tear | confirm => simp at hp

theorem lazy (t : Turn role c s d out s') (h : s.Sound role c)
    (hw : c.initialWindow ≤ largestCredit) (hr : s'.remoteClosed = false) :
    s'.pendingCredit < c.creditThreshold := by
  have hs := h.lazy hw
  have hroom := h.room
  cases t with
  | take _ early => exact early.resolve_left fun hc => by simp [hc] at hr
  | takeAndGrant inbox _ _ amount =>
    -- the credit that is due fits an ack, so nothing is left over
    simp only [Stream.held, inbox, List.flatten_cons, List.length_append] at hroom
    have := c.creditThreshold_pos
    simp only
    omega
  | finish => simp at hr
  | _ => simpa [Stream.credited] using hs (by simpa [Stream.credited] using hr)

/-- Every turn keeps an end sound. -/
theorem sound (t : Turn role c s d out s') (h : s.Sound role c) : s'.Sound role c where
  shape := t.shape h.shape
  chunks := t.chunks h.chunks
  unasked := t.unasked h
  room := t.room h
  full := t.full h
  lazy := t.lazy h

end Turn

/-! ## New streams -/

/-- The stream that an opening asks for, from the side that asks. -/
def Stream.asked (c : Config) (id : StreamId) (d : Destination) : Stream :=
  { id, destination := d, recvAllowance := c.initialWindow, awaitingOpen := true }

/-- The stream that an opening asks for, from the side that is asked. -/
def Stream.offered (id : StreamId) (d : Destination) : Stream :=
  { id, destination := d, recvAllowance := 0 }

theorem Stream.sound_asked (c : Config) (id : StreamId) (d : Destination) :
    (Stream.asked c id d).Sound .initiator c where
  shape := ⟨rfl, rfl, rfl⟩
  chunks := List.not_mem_nil
  unasked := by simp
  room := Nat.le_refl _
  full _ _ := rfl
  lazy _ _ := c.creditThreshold_pos

theorem Stream.sound_offered (c : Config) (id : StreamId) (d : Destination) :
    (Stream.offered id d).Sound .responder c where
  shape := ⟨rfl, rfl, rfl⟩
  chunks := List.not_mem_nil
  unasked _ _ := ⟨rfl, rfl, rfl⟩
  room := Nat.zero_le _
  full _ h := absurd rfl (h.resolve_left (by simp))
  lazy _ _ := c.creditThreshold_pos

end SealedRelay.Mux
