import SealedRelay.Proofs.Mux.Integrity

/-!
# Both ends agree on which streams exist

Closing frames can cross on the way, so the two ends of a stream may disagree for a while. But what
each of them comes to is settled by its phase and the frames on their way to it. These two fates
always agree, if nobody ends both directions with the reason that stands for one, and no connection
fails. With nothing on its way the fate of an end is its phase.

Results:
* `Turn.phase_arrived`: a frame that arrives does to the phase what `Phase.told` says.
* `Conversation.Reachable.settled`: the fates of the two ends agree.
-/
namespace SealedRelay

/-- A close that ends both directions. -/
def Frame.Harsh (f : Frame) : Prop :=
  f.kind = .close ∧ ∃ reason, CloseReason.decode f.payload = .ok reason ∧ reason.isAbort = true

namespace Mux

theorem harsh_closeFrame (id : StreamId) {reason : CloseReason} (h : reason.isAbort = true) :
    Frame.Harsh (closeFrame id reason) :=
  ⟨rfl, reason, CloseReason.decode_encode reason, h⟩

namespace Phase

/-- The phase after the other side has ended its direction. -/
def finished : Phase → Phase
  | open_ | remoteClosing => remoteClosing
  | pendingOpen | localClosing | closed => closed

/-- The phase after this side has ended its direction. -/
def ended : Phase → Phase
  | open_ => localClosing
  | remoteClosing => closed
  | p => p

/-- The phase after a frame has arrived, but for data that should not have been sent. -/
def told (role : Role) (p : Phase) (f : Frame) : Phase :=
  match f.kind with
  | .close =>
    match CloseReason.decode f.payload with
    | .ok reason => if reason.isAbort then closed else p.finished
    | .error _ => p
  | .ack =>
    match Payload.decodeCredit f.payload with
    | .ok _ => if role = .initiator ∧ p = pendingOpen then open_ else p
    | .error _ => p
  | _ => p

/-- The phases of the two ends of a stream that they agree on. -/
def Agree : Phase → Phase → Prop
  | pendingOpen, pendingOpen | open_, open_ | localClosing, remoteClosing
  | remoteClosing, localClosing | closed, closed => True
  | _, _ => False

variable {role : Role} {p r : Phase} {f : Frame} {q : List Frame}

theorem Agree.symm (h : Agree p r) : Agree r p := by
  cases p <;> cases r <;> first | exact trivial | exact h

theorem Agree.eq_pendingOpen (h : Agree pendingOpen r) : r = pendingOpen := by
  cases r <;> first | rfl | exact h.elim

theorem Agree.eq_closed (h : Agree closed r) : r = closed := by
  cases r <;> first | rfl | exact h.elim

/-! ## Frames on their way -/

@[simp] theorem told_closed (role : Role) (f : Frame) : told role closed f = closed := by
  unfold told
  split
  · split
    · split <;> rfl
    · rfl
  · split
    · simp
    · rfl
  · rfl

theorem told_of_harsh (h : f.Harsh) : told role p f = closed := by
  obtain ⟨hk, reason, hd, ha⟩ := h
  simp [told, hk, hd, ha]

theorem told_of_garbled (h : f.Garbled) : told role p f = p := by
  rcases h with ⟨hk, e, he⟩ | ⟨hk, e, he⟩ <;> simp [told, hk, he]

theorem told_of_data (hk : f.kind = .data) : told role p f = p := by simp [told, hk]

/-- An ack changes nothing, but for the confirmation that the asking side waits for. -/
theorem told_of_ack (hk : f.kind = .ack) (h : role = .responder ∨ p ≠ pendingOpen) :
    told role p f = p := by
  have hn : ¬(role = .initiator ∧ p = pendingOpen) := by
    rintro ⟨rfl, rfl⟩
    simp at h
  simp only [told, hk, if_neg hn]
  split <;> rfl

theorem told_ackFrame (id : StreamId) (n : Nat) :
    told .initiator pendingOpen (ackFrame id n) = open_ := by
  simp [told, ackFrame, Payload.decodeCredit, Payload.encodeCredit]

theorem told_closeFrame (id : StreamId) : told role p (closeFrame id .normal) = p.finished := by
  simp [told, closeFrame, CloseReason.isAbort]

theorem told_ne_pendingOpen (h : p ≠ pendingOpen) : told role p f ≠ pendingOpen := by
  unfold told
  split
  · split
    · split
      · simp
      · cases p <;> simp [finished] at h ⊢
    · exact h
  · split
    · simp [h]
    · exact h
  · exact h

/-- What an end comes to when frames arrive there. -/
def fate (role : Role) (p : Phase) (q : List Frame) : Phase := q.foldl (told role) p

@[simp] theorem fate_nil (role : Role) (p : Phase) : fate role p [] = p := rfl

@[simp] theorem fate_cons (role : Role) (p : Phase) (f : Frame) (q : List Frame) :
    fate role p (f :: q) = fate role (told role p f) q := rfl

@[simp] theorem fate_append (role : Role) (p : Phase) (q r : List Frame) :
    fate role p (q ++ r) = fate role (fate role p q) r := List.foldl_append

theorem fate_closed (role : Role) (q : List Frame) : fate role closed q = closed := by
  induction q with
  | nil => rfl
  | cons f q ih => rw [fate_cons, told_closed, ih]

theorem fate_of_harsh (h : ∃ f ∈ q, f.Harsh) : fate role p q = closed := by
  obtain ⟨f, hf, hh⟩ := h
  obtain ⟨l, r, rfl⟩ := List.append_of_mem hf
  rw [fate_append, fate_cons, told_of_harsh hh, fate_closed]

theorem fate_of_data (h : ∀ f ∈ q, f.kind = .data) : fate role p q = p := by
  induction q with
  | nil => rfl
  | cons f q ih =>
    rw [fate_cons, told_of_data (h f List.mem_cons_self)]
    exact ih fun g hg => h g (List.mem_cons_of_mem f hg)

/-- Only an end that waits for its confirmation will still be waiting. -/
theorem eq_pendingOpen_of_fate (h : fate role p q = pendingOpen) : p = pendingOpen := by
  induction q generalizing p with
  | nil => exact h
  | cons f q ih =>
    exact Decidable.byContradiction fun hp => told_ne_pendingOpen hp (ih h)

/-! ## Ending a direction -/

/-- An end that can still end its direction, or is closed. -/
def Speaking (p : Phase) : Prop := p = open_ ∨ p = remoteClosing ∨ p = closed

theorem Speaking.told (h : p.Speaking) : (told role p f).Speaking := by
  unfold Phase.told
  split
  · split
    · split
      · exact .inr (.inr rfl)
      · rcases h with rfl | rfl | rfl <;> simp [Speaking, finished]
    · exact h
  · split
    · rcases h with rfl | rfl | rfl <;> simp [Speaking]
    · exact h
  · exact h

/-- It makes no difference whether this side ends its direction before or after a frame arrives. -/
theorem ended_told (h : p.Speaking) : Phase.told role p.ended f = (Phase.told role p f).ended := by
  unfold Phase.told
  split
  · split
    · split
      · rfl
      · rcases h with rfl | rfl | rfl <;> rfl
    · rfl
  · split
    · rcases h with rfl | rfl | rfl <;> simp [ended]
    · rfl
  · rfl

theorem Speaking.fate (h : p.Speaking) : (fate role p q).Speaking := by
  induction q generalizing p with
  | nil => exact h
  | cons f q ih => exact ih h.told

theorem ended_fate (h : p.Speaking) : Phase.fate role p.ended q = (Phase.fate role p q).ended := by
  induction q generalizing p with
  | nil => rfl
  | cons f q ih => rw [fate_cons, fate_cons, ended_told h, ih h.told]

/-- If one end ends its direction and the other is told, they agree as before. -/
theorem Agree.ended (h : Agree p r) (hp : p.Speaking) : Agree p.ended r.finished := by
  rcases hp with rfl | rfl | rfl <;> cases r <;> first | exact trivial | exact h.elim

end Phase

/-! ## Turns -/

/-- The phase that a stream takes when this side ends its direction. -/
theorem Stream.Shape.ended {s : Stream} (shape : s.Shape)
    (phase : s.phase = .open_ ∨ s.phase = .remoteClosing) :
    (if s.remoteClosed then Phase.closed else .localClosing) = s.phase.ended := by
  rcases phase with hp | hp <;> simp_all [Stream.Shape, Phase.ended]

namespace Turn

variable {role : Role} {c : Config} {s s' : Stream} {d : Deed} {out : List Frame} {f : Frame}

/-- A frame that arrives does to the phase what it says, and is answered by nothing but the
confirmation of the asking side; or it is data that should not have been sent. -/
theorem phase_arrived (t : Turn role c s (.arrived f) out s') (shape : s.Shape) :
    (s'.phase = s.phase.told role f ∧
      (out = [] ∨ role = .initiator ∧ ∃ n, out = [ackFrame s.id n])) ∨
      (s'.phase = .closed ∧ ∃ g ∈ out, g.Harsh) := by
  cases t with
  | data kind => exact .inl ⟨(Phase.told_of_data kind).symm, .inl rfl⟩
  | excess => exact .inr ⟨by simp, _, List.mem_singleton_self _, harsh_closeFrame _ rfl⟩
  | refusal kind payload phase =>
    refine .inl ⟨?_, .inl rfl⟩
    simp [Phase.told, kind, payload, phase, Phase.finished]
  | tear kind payload harsh =>
    refine .inl ⟨?_, .inl rfl⟩
    simp [Phase.told, kind, payload, harsh]
  | finish kind payload confirmed live =>
    refine .inl ⟨?_, .inl rfl⟩
    simp only [Stream.Shape] at shape
    cases hp : s.phase <;>
      simp_all [Phase.told, CloseReason.isAbort, Phase.finished]
  | confirm kind payload asking phase =>
    refine .inl ⟨?_, .inr ⟨asking, _, rfl⟩⟩
    simp [Phase.told, kind, payload, asking, phase]
  | early kind payload asked =>
    exact .inl ⟨(Phase.told_of_ack kind (.inl asked)).symm, .inl rfl⟩
  | credit kind payload confirmed =>
    exact .inl ⟨(Phase.told_of_ack kind (.inr confirmed)).symm, .inl rfl⟩

/-- An idle stream can only be given up, and the other side is told. -/
theorem given_up (t : Turn .initiator c s d out s') (here : d.IsLocal) (manners : d.Polite)
    (h : Idle s) : s'.phase = .closed ∧ (∃ f ∈ out, f.Harsh) ∧ ∀ f ∈ out, f.Harsh := by
  obtain ⟨hphase, -, hinbox, -⟩ := h
  have told {id : StreamId} {reason : CloseReason} (ha : reason.isAbort = true) :
      (∃ f ∈ [closeFrame id reason], f.Harsh) ∧ ∀ f ∈ [closeFrame id reason], f.Harsh := by
    simpa using harsh_closeFrame id ha
  cases t with
  | send phase | halfClose phase => rcases phase with h | h <;> simp [h] at hphase
  | take inbox | takeAndGrant inbox => simp [hinbox] at inbox
  | accept asked => cases asked
  | abort => exact ⟨by simp, told manners⟩
  | expire => exact ⟨rfl, told rfl⟩
  | fail => exact manners.elim
  | _ => exact absurd rfl (here _)

end Turn

/-! ## The fates of the two ends -/

/-- The phase of an end; where there is none, nothing will change that. -/
def Half.phase (x : Half) : Phase :=
  match x.stream with
  | some s => s.phase
  | none => .closed

theorem Half.phase_of_some {x : Half} {s : Stream} (h : x.stream = some s) : x.phase = s.phase := by
  simp [Half.phase, h]

theorem Half.phase_of_none {x : Half} (h : x.stream = none) : x.phase = .closed := by
  simp [Half.phase, h]

namespace Conversation

variable {c : Role → Config} {v v' : Conversation}

/-- What an end comes to once everything on its way to it has arrived. -/
def fate (v : Conversation) (a : Role) : Phase := (v a).phase.fate a (v a.other).queue

/-- Both ends come to the same. While the question is on its way the asking end waits, or it has
given up and said so. -/
structure Settled (v : Conversation) : Prop where
  asked : (∃ f ∈ (v .initiator).queue, f.kind = .opening) →
    (v .initiator).phase = .pendingOpen ∧ (∀ f ∈ (v .initiator).queue, f.kind ≠ .close) ∨
      (v .initiator).phase = .closed ∧ ∃ f ∈ (v .initiator).queue, f.Harsh
  agree : (∀ f ∈ (v .initiator).queue, f.kind ≠ .opening) →
    Phase.Agree (v.fate .initiator) (v.fate .responder)
  harsh : (∀ s, (v .responder).stream = some s → s.phase = .pendingOpen) →
    ∀ f ∈ (v .initiator).queue, f.kind = .close → f.Harsh

/-- What the two ends come to agrees, from either side. -/
theorem Settled.agree_of (h : Settled v) (hn : ∀ f ∈ (v .initiator).queue, f.kind ≠ .opening)
    (a : Role) : Phase.Agree (v.fate a) (v.fate a.other) := by
  cases a with
  | initiator => exact h.agree hn
  | responder => exact (h.agree hn).symm

namespace Settled

variable {a : Role} {s s' : Stream} {d : Deed} {out q : List Frame} {f : Frame}

/-- Confirming a stream, with nothing but refusals of it on their way. -/
theorem agree_accept (h : Settled v) (ho : Orderly c v)
    (hn : ∀ f ∈ (v .initiator).queue, f.kind ≠ .opening)
    (stream : (v .responder).stream = some s) (hp : s.phase = .pendingOpen) (n : Nat) :
    Phase.Agree (Phase.open_.fate .responder (v .initiator).queue)
      ((v.fate .initiator).told .initiator (ackFrame s.id n)) := by
  have hpend : ∀ t, (v .responder).stream = some t → t.phase = .pendingOpen := fun t ht =>
    Option.some.inj (stream.symm.trans ht) ▸ hp
  have hag := h.agree_of hn .responder
  have hfate : v.fate .responder = Phase.pendingOpen.fate .responder (v .initiator).queue := by
    rw [← hp, ← Half.phase_of_some stream]
    rfl
  rw [hfate] at hag
  cases hq : (v .initiator).queue with
  | nil =>
    rw [hq] at hag
    rw [show v.fate .initiator = .pendingOpen from hag.eq_pendingOpen, Phase.told_ackFrame]
    exact trivial
  | cons f q =>
    have hf : f ∈ (v .initiator).queue := hq ▸ List.mem_cons_self
    have hk := ((ho.unconfirmed hpend).asks f hf).resolve_left (hn f hf)
    have hharsh : ∃ g ∈ f :: q, g.Harsh := ⟨f, List.mem_cons_self, h.harsh hpend f hf hk⟩
    rw [hq, Phase.fate_of_harsh hharsh] at hag
    rw [Phase.fate_of_harsh hharsh, show v.fate .initiator = .closed from hag.eq_closed,
      Phase.told_closed]
    exact trivial

theorem agree_act (h : Settled v) (ho : Orderly c v)
    (hn : ∀ f ∈ (v .initiator).queue, f.kind ≠ .opening) (stream : (v a).stream = some s)
    (turn : Turn a (c a) s d out s') (here : d.IsLocal) (manners : d.Polite) :
    Phase.Agree (s'.phase.fate a (v a.other).queue) ((v.fate a.other).fate a.other out) := by
  have sound := ho.sound a s stream
  have hag := h.agree_of hn a
  have hfate : v.fate a = s.phase.fate a (v a.other).queue := by
    rw [← Half.phase_of_some stream]
    rfl
  rw [hfate] at hag
  cases turn with
  | send =>
    rw [Phase.fate_of_data fun f hf => (mem_dataFrames hf).1]
    exact hag
  | take => exact hag
  | @takeAndGrant _ _ credit inbox =>
    rw [Phase.fate_cons, Phase.told_of_ack (ackFrame_kind _ _), Phase.fate_nil]
    · exact hag
    · -- the asking side does not wait while there is something to read at the other
      cases a with
      | initiator => exact .inl rfl
      | responder =>
        refine .inr fun hpend => ?_
        have hfate := (hpend ▸ hag.symm).eq_pendingOpen
        have hempty := (sound.unasked rfl (Phase.eq_pendingOpen_of_fate hfate)).2.1
        simp [hempty] at inbox
  | accept asked phase =>
    subst asked
    exact h.agree_accept ho hn stream phase (c .responder).initialWindow
  | halfClose phase =>
    have hspeaking : s.phase.Speaking := by
      rcases phase with hp | hp <;> simp [Phase.Speaking, hp]
    rw [Phase.fate_cons, Phase.told_closeFrame, Phase.fate_nil, sound.shape.ended phase,
      Phase.ended_fate hspeaking]
    exact hag.ended hspeaking.fate
  | abort =>
    rw [Stream.phase_terminated, Phase.fate_closed,
      Phase.fate_of_harsh ⟨_, List.mem_singleton_self _, harsh_closeFrame _ manners⟩]
    exact trivial
  | expire =>
    rw [Phase.fate_closed,
      Phase.fate_of_harsh ⟨_, List.mem_singleton_self _, harsh_closeFrame _ rfl⟩]
    exact trivial
  | fail => exact manners.elim
  | _ => exact absurd rfl (here _)

theorem agree_arrive (h : Settled v) (ho : Orderly c v)
    (hn : ∀ f ∈ (v .initiator).queue, f.kind ≠ .opening) (stream : (v a).stream = some s)
    (queue : (v a.other).queue = f :: q) (turn : Turn a (c a) s (.arrived f) out s') :
    Phase.Agree (s'.phase.fate a q) ((v.fate a.other).fate a.other out) := by
  have hag := h.agree_of hn a
  have hfate : v.fate a = (s.phase.told a f).fate a q := by
    rw [← Half.phase_of_some stream, ← Phase.fate_cons, ← queue]
    rfl
  rw [hfate] at hag
  rcases turn.phase_arrived (ho.sound a s stream).shape with ⟨hphase, hout⟩ | ⟨hclosed, hharsh⟩
  · rw [hphase]
    rcases hout with rfl | ⟨ha, n, rfl⟩
    · exact hag
    · -- the confirmation of the asking side does not change the other's phase
      subst ha
      have hside : Role.initiator.other = .responder := rfl
      rw [Phase.fate_cons, Phase.told_of_ack (ackFrame_kind _ _) (.inl hside), Phase.fate_nil]
      exact hag
  · rw [hclosed, Phase.fate_closed, Phase.fate_of_harsh hharsh]
    exact trivial

theorem turn_initiator (h : Settled v) (self : v' .initiator = (v .initiator).after d out s')
    (other : v' .responder = { v .responder with queue := q })
    (turn : Turn .initiator (c .initiator) s d out s')
    (given_up : (∃ f ∈ (v .initiator).queue, f.kind = .opening) →
      s'.phase = .closed ∧ ∃ f ∈ (v .initiator).queue ++ out, f.Harsh)
    (agree : (∀ f ∈ (v .initiator).queue, f.kind ≠ .opening) →
      Phase.Agree (s'.phase.fate .initiator q) ((v.fate .responder).fate .responder out))
    (harsh : (∀ s, (v .responder).stream = some s → s.phase = .pendingOpen) →
      ∀ f ∈ out, f.kind = .close → f.Harsh) : Settled v' where
  asked := by
    rintro ⟨f, hf, hk⟩
    rw [self] at hf ⊢
    rcases List.mem_append.1 hf with hf | hf
    · exact .inr (given_up ⟨f, hf, hk⟩)
    · exact absurd hk (turn.out_stream f hf).2.2
  agree hn := by
    have hfi : v'.fate .initiator = s'.phase.fate .initiator q := by
      simp [fate, Role.other, self, other, Half.phase, Half.after]
    have hfr : v'.fate .responder = (v.fate .responder).fate .responder out := by
      simp [fate, Role.other, self, other, Half.phase, Half.after]
    rw [hfi, hfr]
    refine agree fun f hf => hn f ?_
    rw [self]
    exact List.mem_append_left out hf
  harsh hr f hf hk := by
    rw [other] at hr
    rw [self] at hf
    exact (List.mem_append.1 hf).elim (fun hf => h.harsh hr f hf hk) fun hf => harsh hr f hf hk

/-- A turn of the asked side, which is confirmed by then. -/
theorem turn_responder (self : v' .responder = (v .responder).after d out s')
    (other : v' .initiator = { v .initiator with queue := q })
    (hq : ∀ f ∈ q, f.kind ≠ .opening) (confirmed : s'.phase ≠ .pendingOpen)
    (agree : Phase.Agree (s'.phase.fate .responder q) ((v.fate .initiator).fate .initiator out)) :
    Settled v' where
  asked := by
    rintro ⟨f, hf, hk⟩
    rw [other] at hf
    exact absurd hk (hq f hf)
  agree hn := by
    have hfr : v'.fate .responder = s'.phase.fate .responder q := by
      simp [fate, Role.other, self, other, Half.phase, Half.after]
    have hfi : v'.fate .initiator = (v.fate .initiator).fate .initiator out := by
      simp [fate, Role.other, self, other, Half.phase, Half.after]
    rw [hfi, hfr]
    exact agree.symm
  harsh hr := absurd (hr s' (by simp [self, Half.after])) confirmed

end Settled

/-- Once the asked side has an end, the question has been answered. -/
theorem Orderly.answered (ho : Orderly c v) {s : Stream} (hs : (v .responder).stream = some s) :
    ∀ f ∈ (v .initiator).queue, f.kind ≠ .opening := by
  intro f hf hk
  simp [(ho.fresh f hf hk).1] at hs

/-- A frame that no stream takes says nothing about the phase. -/
theorem told_of_deaf {a : Role} {f : Frame}
    (deaf : f.Garbled ∨ ∀ s, (v a).stream = some s → s.phase = .closed) :
    (v a).phase.told a f = (v a).phase := by
  rcases deaf with hg | hclosed
  · exact Phase.told_of_garbled hg
  · have hp : (v a).phase = .closed := by
      cases hs : (v a).stream with
      | none => exact Half.phase_of_none hs
      | some s => rw [Half.phase_of_some hs, hclosed s hs]
    rw [hp, Phase.told_closed]

theorem fate_of_drop {a : Role} {f : Frame} {q : List Frame} (queue : (v a.other).queue = f :: q)
    (deaf : f.Garbled ∨ ∀ s, (v a).stream = some s → s.phase = .closed) (self : v' a = v a)
    (other : v' a.other = { v a.other with queue := q }) (b : Role) : v'.fate b = v.fate b := by
  have htold := told_of_deaf deaf
  revert b
  refine Role.forall_of a ?_ ?_
  · simp [fate, self, other, queue, htold]
  · simp [fate, self, other, Half.phase]

variable {polite : Prop}

theorem Settled.drop (h : Settled v) (ho : Orderly c v) {a : Role} {f : Frame} {q : List Frame}
    (queue : (v a.other).queue = f :: q) (kind : f.kind ≠ .opening)
    (deaf : f.Garbled ∨ ∀ s, (v a).stream = some s → s.phase = .closed) (self : v' a = v a)
    (other : v' a.other = { v a.other with queue := q }) : Settled v' := by
  have hfate := fate_of_drop queue deaf self other
  have hstream : ∀ b, (v' b).stream = (v b).stream :=
    Role.forall_of a (by rw [self]) (by rw [other])
  cases a with
  | initiator =>
    have hq : (v .responder).queue = f :: q := queue
    have hr : v' .responder = { v .responder with queue := q } := other
    refine ⟨fun ⟨g, hg, hk⟩ => ?_, fun hn => ?_, fun hpend => ?_⟩
    · have hempty := (ho.fresh g (self ▸ hg) hk).2
      simp [hq] at hempty
    · rw [hfate, hfate]
      exact h.agree (self ▸ hn)
    · rw [self]
      exact h.harsh fun s hs => hpend s ((hstream .responder).trans hs)
  | responder =>
    have hq : (v .initiator).queue = f :: q := queue
    have hi : v' .initiator = { v .initiator with queue := q } := other
    have hrest := ho.rest hq
    refine ⟨fun ⟨g, hg, hk⟩ => ?_, fun _ => ?_, fun hpend g hg => ?_⟩
    · rw [hi] at hg
      exact absurd hk (hrest g hg)
    · rw [hfate, hfate]
      refine h.agree fun g hg => ?_
      rw [hq] at hg
      rcases List.mem_cons.1 hg with rfl | hg
      · exact kind
      · exact hrest g hg
    · rw [hi] at hg
      exact h.harsh (fun s hs => hpend s ((hstream .responder).trans hs)) g
        (hq ▸ List.mem_cons_of_mem f hg)

/-- The question is answered while the other side has queued nothing. -/
theorem Settled.answer (h : Settled v) (ho : Orderly c v) {f : Frame} {q out : List Frame}
    {t : Option Stream} (queue : (v .initiator).queue = f :: q) (kind : f.kind = .opening)
    (self : v' .responder = { v .responder with stream := t, queue := (v .responder).queue ++ out })
    (other : v' .initiator = { v .initiator with queue := q })
    (agree : (v .initiator).phase = .pendingOpen ∧ q = [] ∨
        (v .initiator).phase = .closed ∧ (∃ f ∈ q, f.Harsh) →
      Phase.Agree ((v .initiator).phase.fate .initiator out)
        ((v' .responder).phase.fate .responder q)) : Settled v' := by
  have hf : f ∈ (v .initiator).queue := queue ▸ List.mem_cons_self
  have hfresh := ho.fresh f hf kind
  have hpend : ∀ s, (v .responder).stream = some s → s.phase = .pendingOpen := by simp [hfresh.1]
  have hrest := ho.rest queue
  have hclose : ∀ g ∈ q, g.kind = .close := fun g hg =>
    ((ho.unconfirmed hpend).asks g (queue ▸ List.mem_cons_of_mem f hg)).resolve_left (hrest g hg)
  refine ⟨fun ⟨g, hg, hk⟩ => ?_, fun _ => ?_, fun _ g hg hk => ?_⟩
  · rw [other] at hg
    exact absurd hk (hrest g hg)
  · have hfi : v'.fate .initiator = (v .initiator).phase.fate .initiator out := by
      simp [fate, Role.other, self, other, hfresh, Half.phase]
    have hfr : v'.fate .responder = (v' .responder).phase.fate .responder q := by
      simp [fate, Role.other, other]
    rw [hfi, hfr]
    rcases h.asked ⟨f, hf, kind⟩ with ⟨hp, hno⟩ | ⟨hp, g, hg, hh⟩
    · refine agree (.inl ⟨hp, List.eq_nil_iff_forall_not_mem.2 fun g hg => ?_⟩)
      exact hno g (queue ▸ List.mem_cons_of_mem f hg) (hclose g hg)
    · refine agree (.inr ⟨hp, g, ?_, hh⟩)
      rw [queue] at hg
      rcases List.mem_cons.1 hg with rfl | hg
      · exact absurd (hh.1.symm.trans kind) (by simp)
      · exact hg
  · rw [other] at hg
    exact h.harsh hpend g (queue ▸ List.mem_cons_of_mem f hg) hk

theorem Settled.act (h : Settled v) (ho : Orderly c v) {a : Role} {s s' : Stream} {d : Deed}
    {out : List Frame} (stream : (v a).stream = some s) (turn : Turn a (c a) s d out s')
    (here : d.IsLocal) (manners : d.Polite) (self : v' a = (v a).after d out s')
    (other : v' a.other = v a.other) : Settled v' := by
  cases a with
  | initiator =>
    refine h.turn_initiator self other turn (fun hopen => ?_)
      (fun hn => h.agree_act ho hn stream turn here manners) (fun hr => ?_)
    · obtain ⟨f, hf, hk⟩ := hopen
      have u := ho.unconfirmed (by simp [(ho.fresh f hf hk).1])
      obtain ⟨hclosed, ⟨g, hg, hh⟩, -⟩ := turn.given_up here manners (u.asker s stream)
      exact ⟨hclosed, g, List.mem_append_right _ hg, hh⟩
    · have u := ho.unconfirmed hr
      exact fun f hf _ => (turn.given_up here manners (u.asker s stream)).2.2 f hf
  | responder =>
    have hn := ho.answered stream
    refine Settled.turn_responder self other hn (fun hp => ?_)
      (h.agree_act ho hn stream turn here manners)
    have hi := ((ho.sound _ _ stream).unasked rfl (turn.pending_before hp)).2.1
    exact turn.confirmed_of_local here hi hp

theorem Settled.arrive (h : Settled v) (ho : Orderly c v) {a : Role} {s s' : Stream} {f : Frame}
    {out q : List Frame} (stream : (v a).stream = some s) (queue : (v a.other).queue = f :: q)
    (turn : Turn a (c a) s (.arrived f) out s') (self : v' a = (v a).after (.arrived f) out s')
    (other : v' a.other = { v a.other with queue := q }) : Settled v' := by
  cases a with
  | initiator =>
    have hq : (v .responder).queue = f :: q := queue
    refine h.turn_initiator self other turn (fun hopen => ?_)
      (fun hn => h.agree_arrive ho hn stream queue turn) (fun hr => ?_)
    · obtain ⟨g, hg, hk⟩ := hopen
      have hempty := (ho.fresh g hg hk).2
      simp [hq] at hempty
    · have u := ho.unconfirmed hr
      have hk := u.refuses f (hq ▸ List.mem_cons_self)
      simp [(turn.idle_of_close hk (u.asker s stream)).2]
  | responder =>
    have hn := ho.answered stream
    have hq : (v .initiator).queue = f :: q := queue
    refine Settled.turn_responder self other (fun g hg => hn g (hq ▸ List.mem_cons_of_mem f hg))
      (fun hp => ?_) (h.agree_arrive ho hn stream queue turn)
    have u := ho.unconfirmed fun t ht =>
      Option.some.inj (stream.symm.trans ht) ▸ turn.pending_before hp
    have hf : f ∈ (v .initiator).queue := hq ▸ List.mem_cons_self
    exact turn.confirmed_of_close ((u.asks f hf).resolve_left (hn f hf)) hp

theorem Step.settled (s : Step c polite v v') (hpol : polite) (ho : Orderly c v) (h : Settled v) :
    Settled v' := by
  cases s with
  | act a stream turn here manners self other =>
    exact h.act ho stream turn here (manners hpol) self other
  | arrive a stream queue turn self other => exact h.arrive ho stream queue turn self other
  | drop a queue kind deaf self other => exact h.drop ho queue kind deaf self other
  | @ask i d f fresh kind self other =>
    have hva := ho.unasked fresh
    rw [hva] at self other
    refine ⟨fun _ => .inl ?_, fun hn => ?_, fun _ g hg hk => ?_⟩
    · simp [self, Half.phase, Stream.asked, kind]
    · exact absurd kind (hn f (by simp [self]))
    · rw [self] at hg
      obtain rfl : g = f := by simpa using hg
      simp [kind] at hk
  | @offer i d f q queue kind self other =>
    have hself : v' .responder =
        { v .responder with
          stream := some (.offered i d)
          queue := (v .responder).queue ++ [] } := by
      rw [List.append_nil]
      exact self
    refine h.answer ho queue kind hself other fun hcases => ?_
    have hphase : (v' .responder).phase = .pendingOpen := by simp [self, Half.phase, Stream.offered]
    rcases hcases with ⟨hp, rfl⟩ | ⟨hp, hh⟩
    · rw [hp, hphase]
      exact trivial
    · rw [hp, Phase.fate_of_harsh hh]
      exact trivial
  | @decline i f q queue kind self other =>
    have hfresh := ho.fresh f (queue ▸ List.mem_cons_self) kind
    refine h.answer ho queue kind self other fun _ => ?_
    have hphase : (v' .responder).phase = .closed := by simp [self, Half.phase, hfresh]
    rw [hphase, Phase.fate_closed,
      Phase.fate_of_harsh ⟨_, List.mem_singleton_self _, harsh_closeFrame i rfl⟩]
    exact trivial
  | ignore rude => exact absurd hpol rude

theorem Reachable.settled (r : Reachable c polite v) (hpol : polite) : Settled v := by
  induction r with
  | start => exact ⟨by simp, fun _ => trivial, by simp⟩
  | step r s ih => exact s.settled hpol r.orderly ih

/-- With nothing on its way the phases of the two ends agree. -/
theorem Reachable.agree_of_quiet (r : Reachable c polite v) (hpol : polite)
    (hq : ∀ a, (v a).queue = []) : Phase.Agree (v .initiator).phase (v .responder).phase := by
  have hag := (r.settled hpol).agree (by simp [hq])
  simpa [fate, hq] using hag

end Conversation

namespace Pair

variable {c : Role → Config} {polite : Prop} {p : Pair} {side : Role} {id : StreamId}

/-- A number is in the table while its stream is not closed. -/
theorem Matched.mem_table (hp : p.Matched c polite) (hl : p.opened < idLimit) :
    id ∈ (p.mux side).table.map Prod.fst ↔ (p.view id side).phase ≠ .closed := by
  have sound := hp.sound.sound side
  constructor
  · intro hid
    obtain ⟨⟨i, h⟩, hm, rfl⟩ := List.mem_map.1 hid
    obtain ⟨s, -, -, hlive, hv⟩ := hp.find_of_lookup hl (lookup_of_mem sound.nodup hm)
    rw [Half.phase_of_some hv]
    exact hlive
  · intro hlive
    cases hv : (p.view id side).stream with
    | none => exact absurd (Half.phase_of_none hv) hlive
    | some s =>
      rw [Half.phase_of_some hv] at hlive
      obtain ⟨h, hs, hid⟩ := (hp.unique_mux hl side).find_eq_some_iff.1 hv
      exact List.mem_map.2 ⟨(id, h), sound.mem_table.2 ⟨s, hs, hid, hlive⟩, rfl⟩

/-- The phase that a number sees is that of the stream in the table. -/
theorem Matched.phase_of_lookup (hp : p.Matched c polite) (hl : p.opened < idLimit) {h : Handle}
    (hlook : (p.mux side).lookup id = some h) :
    (p.view id side).phase = ((p.mux side).stream h).phase := by
  obtain ⟨s, hs, -, -, hv⟩ := hp.find_of_lookup hl hlook
  rw [Half.phase_of_some hv, stream_of_getElem? hs]

/-- **Both ends agree on which streams exist.** If programs end both directions of a stream only with
a reason for that, and the connection does not fail, then with nothing on its way in either direction
the two tables hold the same numbers, and the phases of each stream fit together. -/
theorem tables_agree (c : Role → Config) (actions : List Action)
    (hpolite : ∀ a ∈ actions, a.Polite) (hl : ((start c).run actions).opened < UInt32.size - 1)
    (hq : ((start c).run actions).Quiescent) :
    let p := (start c).run actions
    (∀ id, id ∈ p.initiator.table.map Prod.fst ↔ id ∈ p.responder.table.map Prod.fst) ∧
      ∀ id h k, p.initiator.lookup id = some h → p.responder.lookup id = some k →
        ((p.initiator.stream h).phase, (p.responder.stream k).phase) ∈
          [(Phase.pendingOpen, Phase.pendingOpen), (.open_, .open_),
            (.localClosing, .remoteClosing), (.remoteClosing, .localClosing)] := by
  intro p
  have hp : p.Matched c True := run_start_matched c actions (fun _ => hpolite) hl
  have hag (id : StreamId) :
      Phase.Agree (p.view id .initiator).phase (p.view id .responder).phase := by
    refine (hp.reachable id).agree_of_quiet trivial fun a => ?_
    rw [show (p.view id a).queue = ofStream id (p.mux a).outbound from rfl, hq a]
    rfl
  refine ⟨fun id => ?_, fun id h k hx hy => ?_⟩
  · have hag := hag id
    show id ∈ (p.mux .initiator).table.map Prod.fst ↔ id ∈ (p.mux .responder).table.map Prod.fst
    rw [hp.mem_table hl, hp.mem_table hl]
    refine not_congr ⟨fun hclosed => ?_, fun hclosed => ?_⟩
    · exact (hclosed ▸ hag).eq_closed
    · exact (hclosed ▸ hag.symm).eq_closed
  · have hag := hag id
    have hx' : (p.mux .initiator).lookup id = some h := hx
    have hlive := (hp.live hl hx').2
    rw [hp.phase_of_lookup hl hx', hp.phase_of_lookup hl (show (p.mux .responder).lookup id = _ from hy)]
      at hag
    show ((p.mux .initiator).stream h |>.phase, (p.mux .responder).stream k |>.phase) ∈ _
    revert hag hlive
    cases ((p.mux .initiator).stream h).phase <;> cases ((p.mux .responder).stream k).phase <;>
      simp [Phase.Agree]

theorem tables_agree_after_exchange :
    let p := (start fun _ => {}).run exchange
    (1 ∈ p.initiator.table.map Prod.fst ↔ 1 ∈ p.responder.table.map Prod.fst) ∧
      ((p.initiator.stream 0).phase, (p.responder.stream 0).phase) ∈
        [(Phase.pendingOpen, Phase.pendingOpen), (.open_, .open_),
          (.localClosing, .remoteClosing), (.remoteClosing, .localClosing)] := by
  intro p
  have hpolite : ∀ a ∈ exchange, a.Polite := by simp [exchange, Action.Polite]
  have hl : p.opened < UInt32.size - 1 := by decide +kernel
  have hq : p.Quiescent := fun side => by cases side <;> decide +kernel
  have h := tables_agree (fun _ => {}) exchange hpolite hl hq
  exact ⟨h.1 1, h.2 1 0 0 (by decide +kernel) (by decide +kernel)⟩

end Pair

end Mux

end SealedRelay
