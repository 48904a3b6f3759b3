import SealedRelay.Proofs.Mux.Pair
import SealedRelay.Proofs.Mux.Sound

/-!
# The two ends of one stream

A conversation is what a pair looks like from one stream: at each side its end of the stream, the
frames of the stream that are on their way from there, and the bytes that were accepted and read
there. It starts silent, one side asks, the other side makes its end or refuses, and from then on
each end takes its turns.

Results:
* `Reachable.orderly`: in every reachable conversation the question travels ahead of everything else,
  and nothing but refusals answers it before it is confirmed.
-/
namespace SealedRelay.Mux

/-- One end of a stream, what is on its way from there, and what callers were told there. -/
structure Half where
  stream : Option Stream := none
  queue : List Frame := []
  wrote : Bytes := []
  got : Bytes := []

/-- A half after a turn of its stream. -/
def Half.after (x : Half) (d : Deed) (out : List Frame) (s : Stream) : Half where
  stream := some s
  queue := x.queue ++ out
  wrote := x.wrote ++ d.bytesSent
  got := x.got ++ d.bytesTaken

/-- The two ends of one stream. -/
abbrev Conversation := Role → Half

namespace Conversation

inductive Step (c : Role → Config) (polite : Prop) (v v' : Conversation) : Prop where
  /-- One side does something. -/
  | act (a : Role) {s s' : Stream} {d : Deed} {out : List Frame} (stream : (v a).stream = some s)
      (turn : Turn a (c a) s d out s') (here : d.IsLocal) (manners : polite → d.Polite)
      (self : v' a = (v a).after d out s') (other : v' a.other = v a.other)
  /-- A frame arrives and is a turn of the stream. -/
  | arrive (a : Role) {s s' : Stream} {f : Frame} {q out : List Frame}
      (stream : (v a).stream = some s) (queue : (v a.other).queue = f :: q)
      (turn : Turn a (c a) s (.arrived f) out s')
      (self : v' a = (v a).after (.arrived f) out s')
      (other : v' a.other = { v a.other with queue := q })
  /-- A frame arrives that cannot be read, or where there is no live stream. -/
  | drop (a : Role) {f : Frame} {q : List Frame} (queue : (v a.other).queue = f :: q)
      (kind : f.kind ≠ .opening)
      (deaf : f.Garbled ∨ ∀ s, (v a).stream = some s → s.phase = .closed)
      (self : v' a = v a) (other : v' a.other = { v a.other with queue := q })
  /-- The stream is asked for. -/
  | ask {i : StreamId} {d : Destination} {f : Frame} (fresh : (v .initiator).stream = none)
      (kind : f.kind = .opening)
      (self : v' .initiator =
        { v .initiator with
          stream := some (.asked (c .initiator) i d)
          queue := (v .initiator).queue ++ [f] })
      (other : v' .responder = v .responder)
  /-- The other side makes its end. -/
  | offer {i : StreamId} {d : Destination} {f : Frame} {q : List Frame}
      (queue : (v .initiator).queue = f :: q) (kind : f.kind = .opening)
      (self : v' .responder = { v .responder with stream := some (.offered i d) })
      (other : v' .initiator = { v .initiator with queue := q })
  /-- The other side refuses to make one. -/
  | decline {i : StreamId} {f : Frame} {q : List Frame} (queue : (v .initiator).queue = f :: q)
      (kind : f.kind = .opening)
      (self : v' .responder =
        { v .responder with queue := (v .responder).queue ++ [closeFrame i .refused] })
      (other : v' .initiator = { v .initiator with queue := q })
  /-- The connection has failed there. -/
  | ignore {f : Frame} {q : List Frame} (rude : ¬polite) (queue : (v .initiator).queue = f :: q)
      (kind : f.kind = .opening) (self : v' .responder = v .responder)
      (other : v' .initiator = { v .initiator with queue := q })

inductive Reachable (c : Role → Config) (polite : Prop) : Conversation → Prop where
  | start : Reachable c polite fun _ => {}
  | step {v v' : Conversation} (r : Reachable c polite v) (s : Step c polite v v') :
      Reachable c polite v'

/-! ## Before the confirmation -/

/-- The asked side has not confirmed the stream, or will never have an end of it. -/
structure Unconfirmed (v : Conversation) : Prop where
  wrote : ∀ a, (v a).wrote = []
  got : ∀ a, (v a).got = []
  asks : ∀ f ∈ (v .initiator).queue, f.kind = .opening ∨ f.kind = .close
  refuses : ∀ f ∈ (v .responder).queue, f.kind = .close
  asker : ∀ s, (v .initiator).stream = some s → Turn.Idle s

/-- A conversation in which the question comes first. -/
structure Orderly (c : Role → Config) (v : Conversation) : Prop where
  sound : ∀ a s, (v a).stream = some s → s.Sound a (c a)
  unasked : (v .initiator).stream = none → ∀ a, v a = {}
  first : (v .initiator).queue.Pairwise fun _ g => g.kind ≠ .opening
  fresh : ∀ f ∈ (v .initiator).queue, f.kind = .opening →
    (v .responder).stream = none ∧ (v .responder).queue = []
  answers : ∀ f ∈ (v .responder).queue, f.kind ≠ .opening
  unconfirmed : (∀ s, (v .responder).stream = some s → s.phase = .pendingOpen) → Unconfirmed v

variable {c : Role → Config} {polite : Prop} {v v' : Conversation}

namespace Orderly

theorem start (c : Role → Config) : Orderly c fun _ => {} where
  sound _ _ h := by simp at h
  unasked _ _ := rfl
  first := .nil
  fresh _ hf := absurd hf List.not_mem_nil
  answers _ hf := absurd hf List.not_mem_nil
  unconfirmed _ := by constructor <;> simp

/-- A turn of the asking side, after which `q` is on its way to it. -/
theorem turn_initiator (hv : Orderly c v) {s s' : Stream} {d : Deed} {out q : List Frame}
    (stream : (v .initiator).stream = some s) (turn : Turn .initiator (c .initiator) s d out s')
    (self : v' .initiator = (v .initiator).after d out s')
    (other : v' .responder = { v .responder with queue := q })
    (hq : ∀ f ∈ q, f ∈ (v .responder).queue)
    (idle : Unconfirmed v →
      Turn.Idle s' ∧ d.bytesSent = [] ∧ d.bytesTaken = [] ∧ ∀ f ∈ out, f.kind = .close) :
    Orderly c v' where
  sound := by
    intro a t ht
    cases a with
    | initiator =>
      obtain rfl : s' = t := by simpa [self, Half.after] using ht
      exact turn.sound (hv.sound _ _ stream)
    | responder => exact hv.sound _ _ (by simpa [other] using ht)
  unasked h := by simp [self, Half.after] at h
  first := by
    rw [self]
    refine List.pairwise_append.2 ⟨hv.first, ?_, ?_⟩
    · exact List.pairwise_of_forall_mem_list fun _ _ g hg => (turn.out_stream g hg).2.2
    · exact fun _ _ g hg => (turn.out_stream g hg).2.2
  fresh f hf hk := by
    rw [other]
    rw [self] at hf
    rcases List.mem_append.1 hf with hf | hf
    · obtain ⟨hnone, hnil⟩ := hv.fresh f hf hk
      exact ⟨hnone, List.eq_nil_iff_forall_not_mem.2 fun g hg => by simpa [hnil] using hq g hg⟩
    · exact absurd hk (turn.out_stream f hf).2.2
  answers := by
    rw [other]
    exact fun f hf => hv.answers f (hq f hf)
  unconfirmed hr := by
    rw [other] at hr
    have u := hv.unconfirmed hr
    obtain ⟨hidle, hsent, htook, hout⟩ := idle u
    refine ⟨?_, ?_, ?_, ?_, ?_⟩
    · intro a
      cases a <;> simp [self, other, Half.after, hsent, u.wrote]
    · intro a
      cases a <;> simp [self, other, Half.after, htook, u.got]
    · rw [self]
      intro f hf
      exact (List.mem_append.1 hf).elim (u.asks f) fun hf => .inr (hout f hf)
    · rw [other]
      exact fun f hf => u.refuses f (hq f hf)
    · intro t ht
      obtain rfl : s' = t := by simpa [self, Half.after] using ht
      exact hidle

/-- A turn of the asked side, after which `q` is on its way to it. -/
theorem turn_responder (hv : Orderly c v) {s s' : Stream} {d : Deed} {out q : List Frame}
    (stream : (v .responder).stream = some s) (turn : Turn .responder (c .responder) s d out s')
    (self : v' .responder = (v .responder).after d out s')
    (other : v' .initiator = { v .initiator with queue := q })
    (hq : q.Sublist (v .initiator).queue) (confirmed : s'.phase ≠ .pendingOpen) :
    Orderly c v' where
  sound := by
    intro a t ht
    cases a with
    | initiator => exact hv.sound _ _ (by simpa [other] using ht)
    | responder =>
      obtain rfl : s' = t := by simpa [self, Half.after] using ht
      exact turn.sound (hv.sound _ _ stream)
  unasked h := by
    have hr := hv.unasked (by simpa [other] using h) .responder
    simp [hr] at stream
  first := by
    rw [other]
    exact hv.first.sublist hq
  fresh f hf hk := by
    rw [other] at hf
    have hnone := (hv.fresh f (hq.subset hf) hk).1
    simp [stream] at hnone
  answers f hf := by
    rw [self] at hf
    exact (List.mem_append.1 hf).elim (hv.answers f) fun hf => (turn.out_stream f hf).2.2
  unconfirmed hr := absurd (hr s' (by simp [self, Half.after])) confirmed

theorem lost (hv : Orderly c v) (h : ∀ a, ∃ q, v' a = { v a with queue := q } ∧ q.Sublist (v a).queue) :
    Orderly c v' := by
  have hstream a : (v' a).stream = (v a).stream := by
    obtain ⟨q, hq, -⟩ := h a
    rw [hq]
  have hqueue a : (v' a).queue.Sublist (v a).queue := by
    obtain ⟨q, hq, hsub⟩ := h a
    rw [hq]
    exact hsub
  refine ⟨?_, ?_, ?_, ?_, ?_, ?_⟩
  · exact fun a s hs => hv.sound a s (hstream a ▸ hs)
  · intro hnone a
    have hva := hv.unasked (hstream .initiator ▸ hnone) a
    obtain ⟨q, hq, hsub⟩ := h a
    rw [hva] at hq hsub
    rw [hq, List.sublist_nil.1 hsub]
  · exact hv.first.sublist (hqueue _)
  · intro f hf hk
    obtain ⟨hnone, hnil⟩ := hv.fresh f ((hqueue _).subset hf) hk
    have hq := hqueue .responder
    rw [hnil] at hq
    exact ⟨(hstream _).trans hnone, List.sublist_nil.1 hq⟩
  · exact fun f hf => hv.answers f ((hqueue _).subset hf)
  · intro hr
    have u := hv.unconfirmed fun s hs => hr s ((hstream _).trans hs)
    refine ⟨?_, ?_, ?_, ?_, ?_⟩
    · intro a
      obtain ⟨q, hq, -⟩ := h a
      rw [hq]
      exact u.wrote a
    · intro a
      obtain ⟨q, hq, -⟩ := h a
      rw [hq]
      exact u.got a
    · exact fun f hf => u.asks f ((hqueue _).subset hf)
    · exact fun f hf => u.refuses f ((hqueue _).subset hf)
    · exact fun s hs => u.asker s ((hstream _).symm.trans hs)

theorem ask (hv : Orderly c v) {id : StreamId} {d : Destination} {f : Frame}
    (fresh : (v .initiator).stream = none) (kind : f.kind = .opening)
    (self : v' .initiator =
      { v .initiator with
        stream := some (.asked (c .initiator) id d)
        queue := (v .initiator).queue ++ [f] })
    (other : v' .responder = v .responder) : Orderly c v' := by
  rw [hv.unasked fresh] at self other
  have hstream {s : Stream} (hs : (v' .initiator).stream = some s) :
      Stream.asked (c .initiator) id d = s := by simpa [self] using hs
  refine ⟨?_, ?_, ?_, ?_, ?_, ?_⟩
  · intro a s hs
    cases a with
    | initiator => exact hstream hs ▸ Stream.sound_asked _ _ _
    | responder => simp [other] at hs
  · simp [self]
  · simp [self]
  · simp [other]
  · simp [other]
  · refine fun _ => ⟨?_, ?_, ?_, ?_, ?_⟩
    · intro a
      cases a <;> simp [self, other]
    · intro a
      cases a <;> simp [self, other]
    · simp [self, kind]
    · simp [other]
    · exact fun s hs => hstream hs ▸ ⟨.inl rfl, rfl, rfl, rfl⟩

/-- Taking the question off the queue leaves no other one in it. -/
theorem rest (hv : Orderly c v) {f : Frame} {q : List Frame} (queue : (v .initiator).queue = f :: q) :
    ∀ g ∈ q, g.kind ≠ .opening := by
  have hfirst := hv.first
  rw [queue] at hfirst
  exact (List.pairwise_cons.1 hfirst).1

/-- The question is answered by a new end, or by a refusal. -/
theorem answer (hv : Orderly c v) {f : Frame} {q out : List Frame} {t : Option Stream}
    (queue : (v .initiator).queue = f :: q) (kind : f.kind = .opening)
    (self : v' .responder =
      { v .responder with stream := t, queue := (v .responder).queue ++ out })
    (other : v' .initiator = { v .initiator with queue := q })
    (ht : ∀ s, t = some s → s.Sound .responder (c .responder))
    (hout : ∀ f ∈ out, f.kind = .close) : Orderly c v' := by
  have hfresh := hv.fresh f (by simp [queue]) kind
  have u := hv.unconfirmed fun s hs => by simp [hfresh.1] at hs
  refine ⟨?_, ?_, ?_, ?_, ?_, ?_⟩
  · intro a s hs
    cases a with
    | initiator => exact hv.sound _ _ (by simpa [other] using hs)
    | responder => exact ht s (by simpa [self] using hs)
  · intro hnone
    have hva := hv.unasked (by simpa [other] using hnone) .initiator
    simp [hva] at queue
  · rw [other]
    have hfirst := hv.first
    rw [queue] at hfirst
    exact (List.pairwise_cons.1 hfirst).2
  · intro g hg hk
    rw [other] at hg
    exact absurd hk (hv.rest queue g hg)
  · intro g hg
    rw [self, hfresh.2] at hg
    simp [hout g hg]
  · refine fun _ => ⟨?_, ?_, ?_, ?_, ?_⟩
    · intro a
      cases a <;> simp [self, other, u.wrote]
    · intro a
      cases a <;> simp [self, other, u.got]
    · rw [other]
      exact fun g hg => u.asks g (by simp [queue, hg])
    · rw [self, hfresh.2]
      exact hout
    · exact fun s hs => u.asker s (by simpa [other] using hs)

theorem step (hv : Orderly c v) (s : Step c polite v v') : Orderly c v' := by
  cases s with
  | act a stream turn here manners self other =>
    cases a with
    | initiator =>
      exact hv.turn_initiator stream turn self other (fun _ hf => hf)
        fun u => turn.idle_of_local here (u.asker _ stream)
    | responder =>
      refine hv.turn_responder stream turn self other (List.Sublist.refl _) fun hp => ?_
      have hs := turn.pending_before hp
      have hi := ((hv.sound _ _ stream).unasked rfl hs).2.1
      exact turn.confirmed_of_local here hi hp
  | @arrive a _ _ f q _ stream queue turn self other =>
    cases a with
    | initiator =>
      refine hv.turn_initiator stream turn self other (fun g hg => queue ▸ List.mem_cons_of_mem f hg)
        fun u => ?_
      have hk := u.refuses f (queue ▸ List.mem_cons_self)
      obtain ⟨hidle, rfl⟩ := turn.idle_of_close hk (u.asker _ stream)
      exact ⟨hidle, by simp [Deed.bytesSent], rfl, by simp⟩
    | responder =>
      refine hv.turn_responder stream turn self other (queue ▸ List.sublist_cons_self f q) fun hp => ?_
      have hs := turn.pending_before hp
      have u := hv.unconfirmed fun t ht => by
        obtain rfl := Option.some.inj (stream.symm.trans ht)
        exact hs
      have hk := (u.asks f (queue ▸ List.mem_cons_self)).resolve_left turn.arrived.2.1
      exact turn.confirmed_of_close hk hp
  | @drop a f q queue kind deaf self other =>
    exact hv.lost (Role.forall_of a ⟨_, self, List.Sublist.refl _⟩
      ⟨q, other, queue ▸ List.sublist_cons_self f q⟩)
  | ask fresh kind self other => exact hv.ask fresh kind self other
  | @offer id d f q queue kind self other =>
    have hself : v' .responder =
        { v .responder with
          stream := some (.offered id d)
          queue := (v .responder).queue ++ [] } := by
      rw [List.append_nil]
      exact self
    refine hv.answer queue kind hself other (fun s hs => ?_) (by simp)
    exact Option.some.inj hs ▸ Stream.sound_offered _ _ _
  | decline queue kind self other =>
    refine hv.answer queue kind self other (fun s hs => hv.sound _ _ hs) (by simp)
  | @ignore f q rude queue kind self other =>
    refine hv.lost fun a => ?_
    cases a with
    | initiator => exact ⟨q, other, queue ▸ List.sublist_cons_self f q⟩
    | responder => exact ⟨_, self, List.Sublist.refl _⟩

end Orderly

theorem Reachable.orderly (r : Reachable c polite v) : Orderly c v := by
  induction r with
  | start => exact .start c
  | step _ s ih => exact ih.step s

end Conversation

end SealedRelay.Mux
