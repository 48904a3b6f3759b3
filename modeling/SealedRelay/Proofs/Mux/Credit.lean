import SealedRelay.Proofs.Mux.Integrity

/-!
# Credit is conserved

In each direction of a stream, what the sending end may still send, the bytes on their way and the
credit on its way back make up what the receiving end is still willing to take. Each turn moves some
of it from one of the four places to another. Credit gets lost only with a stream that has closed.

Results:
* `Turn.sendWindow_eq`: the send window loses what is sent and gains the credit that arrives.
* `Turn.granted_eq`: what an end is willing to take is what its acks say, less what has arrived.
* `Conversation.Reachable.balanced`: every reachable conversation keeps its accounts.
-/
namespace SealedRelay.Mux

/-- What an end has told the other side it will still take. -/
def Stream.granted (s : Stream) : Nat := if s.phase = .pendingOpen then 0 else s.recvAllowance

theorem Stream.granted_le (s : Stream) : s.granted ≤ s.recvAllowance := by
  unfold granted
  split <;> omega

namespace Turn

variable {role : Role} {c : Config} {s s' : Stream} {d : Deed} {out : List Frame}

/-- The send window loses what is sent and gains at most the credit that arrives. -/
theorem sendWindow_le (t : Turn role c s d out s') :
    s'.sendWindow + d.bytesSent.length ≤ s.sendWindow + creditIn d.frames := by
  cases t with
  | send _ _ _ room => simp [Deed.bytesSent, Deed.frames]; omega
  | confirm kind payload | credit kind payload =>
    simp only [Deed.bytesSent, Deed.frames, Stream.credited, Stream.sendWindow_tellOpener, creditIn_cons,
      creditIn_nil, Frame.credit_of_decode kind payload, List.length_nil]
    omega
  | _ => simp [Deed.bytesSent, Deed.frames]

/-- All of it, if the window does not overflow and the end has been confirmed. -/
theorem sendWindow_eq (t : Turn role c s d out s')
    (fits : s.sendWindow + creditIn d.frames ≤ Stream.largestWindow)
    (confirmed : role = .responder → s.phase = .pendingOpen → creditIn d.frames = 0) :
    s'.sendWindow + d.bytesSent.length = s.sendWindow + creditIn d.frames := by
  cases t with
  | send _ _ _ room => simp [Deed.bytesSent, Deed.frames]; omega
  | confirm kind payload | credit kind payload =>
    simp [Deed.bytesSent, Deed.frames, Stream.credited, Frame.credit_of_decode kind payload] at fits ⊢
    omega
  | early _ _ asked phase => simp [Deed.bytesSent, confirmed asked phase]
  | data kind | excess kind | refusal kind | tear kind | finish kind =>
    simp [Deed.bytesSent, Deed.frames, Frame.credit, kind]
  | _ => simp [Deed.bytesSent, Deed.frames]

/-- What an end is willing to take grows by the credit it queues and shrinks by what arrives. -/
theorem granted_eq (t : Turn role c s d out s') (hw : c.initialWindow < UInt32.size)
    (live : s'.phase ≠ .closed)
    (pending : s.phase = .pendingOpen →
      s.inbox = [] ∧ bytesIn d.frames = [] ∧ (role = .initiator → s.recvAllowance = c.initialWindow)) :
    s'.granted + (bytesIn d.frames).length = s.granted + creditIn out := by
  cases t with
  | send => simp [Stream.granted, Deed.frames]
  | take => simp [Stream.granted, Deed.frames]
  | @takeAndGrant _ _ credit inbox _ _ amount =>
    have hcredit : credit < UInt32.size := by
      simp only [largestCredit] at amount
      omega
    have hp : s.phase ≠ .pendingOpen := fun hp => by simp [(pending hp).1] at inbox
    simp [Stream.granted, Deed.frames, hp, ackFrame_credit s.id hcredit]
  | accept _ phase => simp [Stream.granted, Deed.frames, phase, ackFrame_credit s.id hw]
  | halfClose phase =>
    have hp : s.phase ≠ .pendingOpen := by rcases phase with h | h <;> simp [h]
    cases hr : s.remoteClosed <;> simp [Stream.granted, Deed.frames, hp]
  | abort | expire | fail | excess | refusal | tear => simp at live
  | @data f kind _ _ room =>
    by_cases hp : s.phase = .pendingOpen
    · simp [Stream.granted, hp, (pending hp).2.1]
    · simp [Stream.granted, hp, Deed.frames, Frame.bytes, kind]
      omega
  | finish kind _ confirmed =>
    cases hl : s.localClosed <;> simp [Stream.granted, Deed.frames, Frame.bytes, kind, confirmed]
  | confirm kind _ asking phase =>
    simp [Stream.granted, Deed.frames, Frame.bytes, kind, phase, Stream.credited,
      (pending phase).2.2 asking, ackFrame_credit s.id hw]
  | early kind | credit kind =>
    simp only [Deed.frames, bytesIn_cons, Frame.bytes, kind, creditIn_nil]
    rfl

/-- An end that waits for its confirmation, and to which nothing comes, still has its first
allowance. -/
theorem recvAllowance_of_pending (t : Turn role c s d out s') (hp : s'.phase = .pendingOpen)
    (hi : s.inbox = []) (hb : bytesIn d.frames = []) : s'.recvAllowance = s.recvAllowance := by
  cases t with
  | takeAndGrant inbox => simp [hi] at inbox
  | accept | abort | expire | fail | excess | refusal | tear | confirm => simp at hp
  | halfClose => cases hr : s.remoteClosed <;> simp [hr] at hp
  | finish => cases hl : s.localClosed <;> simp [hl] at hp
  | @data f kind =>
    have hnil : f.payload = [] := by simpa [Deed.frames, Frame.bytes, kind] using hb
    simp [hnil]
  | send | take | early | credit => rfl

end Turn

/-! ## The accounts of one direction -/

/-- What one end may still send. -/
def Half.window (x : Half) : Nat :=
  match x.stream with
  | some s => s.sendWindow
  | none => 0

/-- What `x` may still send to `y`, what is on its way, and the credit on its way back. -/
def Half.promised (x y : Half) : Nat :=
  x.window + (bytesIn x.queue).length + creditIn y.queue

/-- The direction from `x` to `y` keeps its accounts. -/
structure Ledger (x y : Half) : Prop where
  le : ∀ t, y.stream = some t → t.phase ≠ .closed → x.promised y ≤ t.granted
  eq : ∀ s t, x.stream = some s → s.phase ≠ .closed → y.stream = some t → t.phase ≠ .closed →
    x.promised y = t.granted

namespace Ledger

variable {x y : Half} {role : Role} {c : Config} {s s' : Stream} {d : Deed} {out q : List Frame}

theorem sent (h : Ledger x y) (hs : x.stream = some s) (turn : Turn role c s d out s')
    (hq : y.queue = d.frames ++ q)
    (fits : ∀ t, y.stream = some t → t.granted ≤ Stream.largestWindow)
    (confirmed : role = .responder → s.phase = .pendingOpen → creditIn d.frames = 0) :
    Ledger (x.after d out s') { y with queue := q } := by
  have hbefore : x.promised y =
      s.sendWindow + (bytesIn x.queue).length + (creditIn d.frames + creditIn q) := by
    simp [Half.promised, Half.window, hs, hq]
  have hafter : (x.after d out s').promised { y with queue := q } =
      s'.sendWindow + ((bytesIn x.queue).length + d.bytesSent.length) + creditIn q := by
    simp [Half.promised, Half.window, Half.after, turn.bytes_out]
  have hle := turn.sendWindow_le
  refine ⟨fun t ht htl => ?_, fun u t hu hul ht htl => ?_⟩
  · have := h.le t ht htl
    omega
  · obtain rfl := Option.some.inj hu
    have heq := h.eq s t hs (fun hc => hul (turn.closed hc)) ht htl
    have hfit := fits t ht
    have hwindow := turn.sendWindow_eq (by omega) confirmed
    omega

theorem received (h : Ledger x y) (hs : y.stream = some s) (turn : Turn role c s d out s')
    (hq : x.queue = d.frames ++ q) (hw : c.initialWindow < UInt32.size)
    (pending : s.phase = .pendingOpen →
      s.inbox = [] ∧ (role = .initiator → s.recvAllowance = c.initialWindow)) :
    Ledger { x with queue := q } (y.after d out s') := by
  have hbefore : x.promised y =
      x.window + ((bytesIn d.frames).length + (bytesIn q).length) + creditIn y.queue := by
    simp [Half.promised, hq]
  have hafter : Half.promised { x with queue := q } (y.after d out s') =
      x.window + (bytesIn q).length + (creditIn y.queue + creditIn out) := by
    simp [Half.promised, Half.window, Half.after]
  have granted (hl : s'.phase ≠ .closed) :
      s'.granted + (bytesIn d.frames).length = s.granted + creditIn out := by
    refine turn.granted_eq hw hl fun hp => ⟨(pending hp).1, ?_, (pending hp).2⟩
    -- while this end has granted nothing, nothing is on its way to it
    have hle := h.le s hs (by simp [hp])
    simp only [Stream.granted, hp, if_true] at hle
    exact List.eq_nil_of_length_eq_zero (by omega)
  refine ⟨fun t ht htl => ?_, fun u t hu hul ht htl => ?_⟩
  · obtain rfl := Option.some.inj ht
    have := h.le s hs fun hc => htl (turn.closed hc)
    have := granted htl
    omega
  · obtain rfl := Option.some.inj ht
    have := h.eq u s hu hul hs fun hc => htl (turn.closed hc)
    have := granted htl
    omega

/-- A frame is lost on its way to `y`, which is closed or cannot read it. -/
theorem lost {f : Frame} (h : Ledger x y) (hq : x.queue = f :: q)
    (hf : ∀ t, y.stream = some t → t.phase ≠ .closed → f.bytes = []) :
    Ledger { x with queue := q } y := by
  have heq (t : Stream) (ht : y.stream = some t) (htl : t.phase ≠ .closed) :
      Half.promised { x with queue := q } y = x.promised y := by
    simp [Half.promised, Half.window, hq, hf t ht htl]
  exact ⟨fun t ht htl => heq t ht htl ▸ h.le t ht htl,
    fun u t hu hul ht htl => heq t ht htl ▸ h.eq u t hu hul ht htl⟩

/-- A frame is lost on its way to `x`, which is closed or cannot read it. -/
theorem lost_back {f : Frame} (h : Ledger x y) (hq : y.queue = f :: q)
    (hf : ∀ s, x.stream = some s → s.phase ≠ .closed → f.credit = 0) :
    Ledger x { y with queue := q } := by
  have hle : x.promised { y with queue := q } ≤ x.promised y := by
    simp [Half.promised, hq]
  refine ⟨fun t ht htl => Nat.le_trans hle (h.le t ht htl), fun u t hu hul ht htl => ?_⟩
  have heq : x.promised { y with queue := q } = x.promised y := by
    simp [Half.promised, hq, hf u hu hul]
  exact heq ▸ h.eq u t hu hul ht htl

theorem unused (hx : x.window = 0) (hb : bytesIn x.queue = []) (hc : creditIn y.queue = 0)
    (hy : ∀ t, y.stream = some t → t.phase = .pendingOpen ∨ t.phase = .closed) : Ledger x y := by
  have hzero : x.promised y = 0 := by simp [Half.promised, hx, hb, hc]
  have hgranted (t : Stream) (ht : y.stream = some t) (htl : t.phase ≠ .closed) : t.granted = 0 := by
    simp [Stream.granted, (hy t ht).resolve_right htl]
  exact ⟨fun t ht htl => by simp [hzero],
    fun _ t _ _ ht htl => by rw [hzero, hgranted t ht htl]⟩

end Ledger

namespace Conversation

variable {c : Role → Config} {polite : Prop} {v v' : Conversation}

/-- Both directions keep their accounts, and the asking end has its first allowance until it is
confirmed. -/
structure Balanced (c : Role → Config) (v : Conversation) : Prop where
  ledger : ∀ a, Ledger (v a) (v a.other)
  untouched : ∀ s, (v .initiator).stream = some s → s.phase = .pendingOpen →
    s.recvAllowance = (c .initiator).initialWindow

theorem Unconfirmed.ledger (u : Unconfirmed v)
    (hr : ∀ s, (v .responder).stream = some s → s.phase = .pendingOpen ∧ s.sendWindow = 0)
    (a : Role) : Ledger (v a) (v a.other) := by
  have hasks : ∀ f ∈ (v .initiator).queue, f.kind ≠ .data ∧ f.kind ≠ .ack := by
    intro f hf
    rcases u.asks f hf with hk | hk <;> simp [hk]
  have hrefuses : ∀ f ∈ (v .responder).queue, f.kind ≠ .data ∧ f.kind ≠ .ack := by
    intro f hf
    simp [u.refuses f hf]
  cases a with
  | initiator =>
    refine .unused ?_ (bytesIn_eq_nil fun f hf => (hasks f hf).1)
      (creditIn_eq_zero fun f hf => (hrefuses f hf).2) fun t ht => .inl (hr t ht).1
    unfold Half.window
    split
    · rename_i s hs
      exact (u.asker s hs).sendWindow
    · rfl
  | responder =>
    refine .unused ?_ (bytesIn_eq_nil fun f hf => (hrefuses f hf).1)
      (creditIn_eq_zero fun f hf => (hasks f hf).2) fun t ht => (u.asker t ht).phase
    unfold Half.window
    split
    · rename_i s hs
      exact (hr s hs).2
    · rfl

namespace Balanced

/-- An end that waits for its confirmation has nothing to read. -/
theorem pending (b : Balanced c v) (ho : Orderly c v) {a : Role} {s : Stream}
    (hs : (v a).stream = some s) (hp : s.phase = .pendingOpen) :
    s.inbox = [] ∧ (a = .initiator → s.recvAllowance = (c a).initialWindow) := by
  have sound := ho.sound a s hs
  cases a with
  | responder => exact ⟨(sound.unasked rfl hp).2.1, by simp⟩
  | initiator =>
    have hr := b.untouched s hs hp
    refine ⟨?_, fun _ => hr⟩
    have hroom := sound.room
    simp only [Stream.held, hr] at hroom
    have hnil : s.inbox.flatten = [] := List.eq_nil_of_length_eq_zero (by omega)
    refine List.eq_nil_iff_forall_not_mem.2 fun chunk hm => sound.chunks ?_
    rw [← List.flatten_eq_nil_iff.1 hnil chunk hm]
    exact hm

/-- A turn of one end, which may take a frame off the other's queue. -/
theorem turn (b : Balanced c v) (ho : Orderly c v) (hw : ∀ a, (c a).initialWindow < UInt32.size)
    {a : Role} {s s' : Stream} {d : Deed} {out q : List Frame} (stream : (v a).stream = some s)
    (queue : (v a.other).queue = d.frames ++ q) (turn : Turn a (c a) s d out s')
    (self : v' a = (v a).after d out s') (other : v' a.other = { v a.other with queue := q }) :
    Balanced c v' where
  ledger := by
    refine Role.forall_of a ?_ ?_
    · rw [self, other]
      refine (b.ledger a).sent stream turn queue (fun t ht => ?_) fun ha hp => ?_
      · have hroom := (ho.sound _ t ht).room
        have hgranted := t.granted_le
        have hwindow := hw a.other
        simp only [Stream.held, Stream.largestWindow, UInt32.size, UInt64.size] at *
        omega
      · -- nobody grants anything to the asked side before it has confirmed
        subst ha
        have u := ho.unconfirmed fun t ht => Option.some.inj (stream.symm.trans ht) ▸ hp
        refine creditIn_eq_zero fun f hf => ?_
        have hf : f ∈ (v .initiator).queue :=
          show f ∈ (v Role.responder.other).queue from queue ▸ List.mem_append_left q hf
        rcases u.asks f hf with hk | hk <;> simp [hk]
    · have hl := b.ledger a.other
      rw [Role.other_other] at hl ⊢
      rw [self, other]
      exact hl.received stream turn queue (hw a) (b.pending ho stream)
  untouched := by
    intro t ht hp
    cases a with
    | responder =>
      rw [show v' .initiator = { v .initiator with queue := q } from other] at ht
      exact b.untouched t ht hp
    | initiator =>
      obtain rfl : s' = t := by simpa [self, Half.after] using ht
      have hs := turn.pending_before hp
      have hle := (b.ledger .responder).le s stream (by simp [hs])
      simp only [Stream.granted, hs, if_true, Half.promised] at hle
      have hq : (v .responder).queue = d.frames ++ q := queue
      have hb : bytesIn d.frames = [] := by
        rw [hq, bytesIn_append, List.length_append] at hle
        exact List.eq_nil_of_length_eq_zero (by omega)
      rw [turn.recvAllowance_of_pending hp (b.pending ho stream hs).1 hb]
      exact b.untouched s stream hs

end Balanced

theorem Step.balanced (s : Step c polite v v') (ho : Orderly c v)
    (hw : ∀ a, (c a).initialWindow < UInt32.size) (b : Balanced c v) : Balanced c v' := by
  have ho' := ho.step s
  cases s with
  | act a stream turn here manners self other =>
    exact b.turn ho hw stream (by simp [here.frames_eq]) turn self other
  | arrive a stream queue turn self other => exact b.turn ho hw stream queue turn self other
  | drop a queue kind deaf self other =>
    rename_i f q
    refine ⟨Role.forall_of a ?_ ?_, fun s hs => b.untouched s ?_⟩
    · rw [self, other]
      refine (b.ledger a).lost_back queue fun s hs hlive => ?_
      exact (deaf.resolve_right fun hclosed => hlive (hclosed s hs)).credit
    · have hl := b.ledger a.other
      rw [Role.other_other] at hl ⊢
      rw [self, other]
      refine hl.lost queue fun s hs hlive => ?_
      exact (deaf.resolve_right fun hclosed => hlive (hclosed s hs)).bytes
    · cases a with
      | initiator => exact self ▸ hs
      | responder =>
        rw [show v' .initiator = { v .initiator with queue := q } from other] at hs
        exact hs
  | ask fresh kind self other =>
    have hva := ho.unasked fresh
    rw [hva] at self other
    refine ⟨(ho'.unconfirmed (by simp [other])).ledger (by simp [other]), ?_⟩
    rw [self]
    simp [Stream.asked]
  | offer queue kind self other =>
    refine ⟨(ho'.unconfirmed (by simp [self, Stream.offered])).ledger ?_, ?_⟩
    · simp [self, Stream.offered]
    · rw [other]
      exact b.untouched
  | decline queue kind self other | ignore rude queue kind self other =>
    have hfresh := ho.fresh _ (queue ▸ List.mem_cons_self) kind
    refine ⟨(ho'.unconfirmed (by simp [self, hfresh])).ledger (by simp [self, hfresh]), ?_⟩
    rw [other]
    exact b.untouched

theorem Reachable.balanced (r : Reachable c polite v) (hw : ∀ a, (c a).initialWindow < UInt32.size) :
    Balanced c v := by
  induction r with
  | start => exact ⟨((Orderly.start c).unconfirmed (by simp)).ledger (by simp), by simp⟩
  | step r s ih => exact s.balanced r.orderly hw ih

/-- With nothing on its way, an end that has not ended its direction can send all that the other
end, having read everything, has not kept back. -/
theorem Reachable.window_of_quiet (r : Reachable c polite v)
    (hw : ∀ a, (c a).initialWindow < UInt32.size) {a : Role} (hone : 1 ≤ (c a.other).initialWindow)
    {s t : Stream} (hs : (v a).stream = some s) (hsl : s.phase ≠ .closed) (hopen : s.localClosed = false)
    (ht : (v a.other).stream = some t) (htl : t.phase ≠ .closed) (htp : t.phase ≠ .pendingOpen)
    (hq : (v a).queue = []) (hq' : (v a.other).queue = []) (hi : t.inbox = []) :
    (c a.other).initialWindow - (c a.other).creditThreshold + 1 ≤ s.sendWindow := by
  have sound := r.orderly.sound a.other t ht
  have heq := ((r.balanced hw).ledger a).eq s t hs hsl ht htl
  have hfull := sound.full (sound.shape.failure_eq_none htl) (.inr htp)
  -- the other end still reads, since it has not been told that nothing more comes
  have hgoing : t.remoteClosed = false := by
    cases hr : t.remoteClosed with
    | false => rfl
    | true =>
      rcases (r.channel a).mute (.inr ⟨t, ht, hr⟩) s hs with hp | hp
      · simp [(r.orderly.sound a s hs).shape.localClosed hp] at hopen
      · exact absurd hp hsl
  have hsmall : (c a.other).initialWindow ≤ largestCredit := by
    have := hw a.other
    simp only [largestCredit]
    omega
  have hlazy := sound.lazy hsmall hgoing
  have hthreshold := Config.creditThreshold_le hone
  have hwindow : (v a).window = s.sendWindow := by simp [Half.window, hs]
  simp only [Half.promised, hwindow, hq, hq', bytesIn_nil, creditIn_nil, List.length_nil,
    Stream.granted, if_neg htp] at heq
  simp only [Stream.held, hi, List.flatten_nil, List.length_nil] at hfull
  omega

end Conversation

namespace Pair

variable {c : Role → Config} {polite : Prop} {p : Pair} {side : Role}

/-- Of a stream that is live at both ends, one end's promises are what the other has granted. -/
theorem Matched.promised_eq (hp : p.Matched c polite) (hw : ∀ side, (c side).initialWindow < UInt32.size)
    (hl : p.opened < idLimit) {id : StreamId} {h k : Handle}
    (hx : (p.mux side).lookup id = some h) (hy : (p.mux side.other).lookup id = some k) :
    ((p.mux side).stream h).sendWindow + (bytesIn (p.inFlight side id)).length +
      creditIn (p.inFlight side.other id) = ((p.mux side.other).stream k).granted := by
  obtain ⟨hs, hsl⟩ := hp.live hl hx
  obtain ⟨ht, htl⟩ := hp.live hl hy
  have heq := (((hp.reachable id).balanced hw).ledger side).eq _ _ hs hsl ht htl
  have hwindow : (p.view id side).window = ((p.mux side).stream h).sendWindow := by
    simp [Half.window, hs]
  rwa [Half.promised, hwindow] at heq

/-- Data that arrives next at a live stream fits into its allowance, and finds its end open. -/
theorem Matched.data_fits (hp : p.Matched c polite) (hw : ∀ side, (c side).initialWindow < UInt32.size)
    (hl : p.opened < idLimit) {f : Frame} {q : List Frame} {k : Handle}
    (queue : p.toward side = f :: q) (kind : f.kind = .data)
    (hlook : (p.mux side).lookup f.stream = some k) :
    f.payload.length ≤ ((p.mux side).stream k).recvAllowance ∧
      ((p.mux side).stream k).remoteClosed = false := by
  obtain ⟨ht, htl⟩ := hp.live hl hlook
  have hqueue := queue_view_of_toward queue rfl (by simp [kind])
  refine ⟨?_, ?_⟩
  · have hle := (((hp.reachable f.stream).balanced hw).ledger side.other).le _
      (by rwa [Role.other_other]) htl
    have hgranted := ((p.mux side).stream k).granted_le
    simp only [Half.promised, hqueue, bytesIn_cons, Frame.bytes, kind, if_true,
      List.length_append] at hle
    omega
  · -- whoever has announced its end sends no data after it
    cases hr : ((p.mux side).stream k).remoteClosed with
    | false => rfl
    | true =>
      have hdone := ((hp.reachable f.stream).channel side.other).done _ (by rwa [Role.other_other]) hr
      exact absurd kind (hdone f (hqueue ▸ List.mem_cons_self))

theorem Matched.receive_data (hp : p.Matched c polite)
    (hw : ∀ side, (c side).initialWindow < UInt32.size) (hl : p.opened < idLimit) {f : Frame}
    {q : List Frame} {k : Handle} (queue : p.toward side = f :: q) (kind : f.kind = .data)
    (hlook : (p.mux side).lookup f.stream = some k) :
    ((p.mux side).receive f).2.lookup f.stream = some k ∧
      ((p.mux side).receive f).2.outbound = (p.mux side).outbound := by
  obtain ⟨hroom, hgoing⟩ := hp.data_fits hw hl queue kind hlook
  obtain ⟨htable, hout⟩ := onData_fits (hp.live hl hlook).2 hgoing hroom
  have hreceive : ((p.mux side).receive f).2 = (p.mux side).onData k f.payload := by
    simp only [receive, kind, hlook]
  rw [hreceive]
  refine ⟨?_, hout⟩
  rw [lookup, htable]
  exact hlook

/-- **Credit is conserved.** For a stream that is live at both ends, what one end may still send, the
bytes on their way and the credit on its way back are at most what the other end is willing to take,
and exactly that once the other end is past waiting for its confirmation. So data that arrives at a
live stream never exceeds the allowance, and does not reset it. -/
theorem credit_conserved (c : Role → Config) (hw : ∀ side, (c side).initialWindow < UInt32.size)
    (actions : List Action) (hl : ((start c).run actions).opened < UInt32.size - 1) (side : Role) :
    let p := (start c).run actions
    (∀ id h k, (p.mux side).lookup id = some h → (p.mux side.other).lookup id = some k →
      let promised := ((p.mux side).stream h).sendWindow +
        (bytesIn (p.inFlight side id)).length + creditIn (p.inFlight side.other id)
      let allowance := ((p.mux side.other).stream k).recvAllowance
      promised ≤ allowance ∧
        (((p.mux side.other).stream k).phase ≠ .pendingOpen → promised = allowance)) ∧
      ∀ f q k, (p.mux side).outbound = f :: q → f.kind = .data →
        (p.mux side.other).lookup f.stream = some k →
        f.payload.length ≤ ((p.mux side.other).stream k).recvAllowance ∧
          ((p.step (.deliver side.other)).mux side.other).lookup f.stream = some k := by
  intro p
  have hp : p.Matched c False := run_start_matched c actions False.elim hl
  refine ⟨fun id h k hx hy => ?_, fun f q k hq hk hy => ?_⟩
  · have heq := hp.promised_eq hw hl hx hy
    refine ⟨heq ▸ Stream.granted_le _, fun hpend => ?_⟩
    rwa [Stream.granted, if_neg hpend] at heq
  · have queue : p.toward side.other = f :: q := by rwa [toward, Role.other_other]
    rw [mux_deliver queue]
    exact ⟨(hp.data_fits hw hl queue hk hy).1, (hp.receive_data hw hl queue hk hy).1⟩

theorem credit_conserved_while_sending :
    let p := (start fun _ => {}).run (exchange.take 6)
    (p.mux .initiator).lookup 1 = some 0 ∧ (p.mux .responder).lookup 1 = some 0 ∧
      ((p.mux .initiator).stream 0).sendWindow + (bytesIn (p.inFlight .initiator 1)).length +
          creditIn (p.inFlight .responder 1) = ((p.mux .responder).stream 0).recvAllowance ∧
      ((p.step (.deliver .responder)).mux .responder).lookup 1 = some 0 := by
  intro p
  have hl : p.opened < UInt32.size - 1 := by decide +kernel
  have hx : (p.mux .initiator).lookup 1 = some 0 := by decide +kernel
  have hy : (p.mux .responder).lookup 1 = some 0 := by decide +kernel
  have hphase : ((p.mux .responder).stream 0).phase ≠ .pendingOpen := by decide +kernel
  have hqueue : (p.mux .initiator).outbound = [⟨.data, 1, [1, 2, 3]⟩] := by decide +kernel
  have h := credit_conserved (fun _ => {}) (fun _ => by decide) (exchange.take 6) hl .initiator
  exact ⟨hx, hy, (h.1 1 0 0 hx hy).2 hphase, (h.2 _ _ 0 hqueue rfl hy).2⟩

/-- **A writer does not stay stuck.** With nothing on its way in either direction, an end that has not
ended its direction can send as soon as the other end has read what arrived. -/
theorem writer_can_send (c : Role → Config)
    (hw : ∀ side, 1 ≤ (c side).initialWindow ∧ (c side).initialWindow < UInt32.size)
    (actions : List Action) (hl : ((start c).run actions).opened < UInt32.size - 1)
    (hq : ((start c).run actions).Quiescent) (side : Role) :
    let p := (start c).run actions
    ∀ id h k, (p.mux side).lookup id = some h → (p.mux side.other).lookup id = some k →
      ((p.mux side).stream h).phase ≠ .pendingOpen →
      ((p.mux side.other).stream k).phase ≠ .pendingOpen →
      ((p.mux side).stream h).localClosed = false →
      ((p.mux side.other).stream k).inbox = [] →
      (c side.other).initialWindow - max ((c side.other).initialWindow / 4) 1 + 1 ≤
          ((p.mux side).stream h).sendWindow ∧
        0 < ((p.mux side).stream h).sendWindow ∧
        ∀ data ≠ [], ∃ n, 0 < n ∧ ((p.mux side).send h data).1 = .ok n := by
  intro p id h k hx hy hxp hyp hopen hi
  have hp : p.Matched c False := run_start_matched c actions False.elim hl
  obtain ⟨hs, hsl⟩ := hp.live hl hx
  obtain ⟨ht, htl⟩ := hp.live hl hy
  have hnone (a : Role) : (p.view id a).queue = [] := by
    rw [show (p.view id a).queue = ofStream id (p.mux a).outbound from rfl, hq a]
    rfl
  have hwindow := (hp.reachable id).window_of_quiet (fun a => (hw a).2) (hw side.other).1 hs hsl hopen
    ht htl hyp (hnone side) (hnone side.other) hi
  refine ⟨hwindow, by omega, ?_⟩
  have shape := ((hp.reachable id).orderly.sound side _ hs).shape
  refine send_ok (shape.failure_eq_none hsl) ?_ (by omega)
  cases hphase : ((p.mux side).stream h).phase with
  | pendingOpen => exact absurd hphase hxp
  | closed => exact absurd hphase hsl
  | localClosing => simp [shape.localClosed hphase] at hopen
  | open_ => exact .inl rfl
  | remoteClosing => exact .inr rfl

/-- Three bytes use up the window, and are read. -/
theorem writer_can_send_again :
    let p := (start fun _ => { initialWindow := 3 }).run
      (exchange.take 6 ++ [.deliver .responder, .call .responder (.read 0), .deliver .initiator])
    3 ≤ ((p.mux .initiator).stream 0).sendWindow := by
  intro p
  have hl : p.opened < UInt32.size - 1 := by decide +kernel
  have hq : p.Quiescent := fun side => by cases side <;> decide +kernel
  have h := writer_can_send (fun _ => { initialWindow := 3 }) (fun _ => by decide) _ hl hq .initiator 1 0 0
    (by decide +kernel) (by decide +kernel) (by decide +kernel) (by decide +kernel) (by decide +kernel)
    (by decide +kernel)
  exact h.1

end Pair

end SealedRelay.Mux
