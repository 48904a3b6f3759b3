import Mathlib.Data.List.Basic
import SealedRelay.Proofs.Mux.View

/-!
# The bytes of a stream arrive as they were sent

In each direction of a stream the bytes that were accepted at one end are those that were read at
the other, then those that wait there to be read, then those on their way, in this order. This holds
until the receiving end fails; what was read by then is still a beginning of what was sent. An end
that has been told that nothing more comes has everything, since a close is queued last.

Results:
* `Channel.sent`, `Channel.received`, `Channel.lost`: what a turn at either end keeps, and what the
  loss of a frame keeps.
* `Conversation.Reachable.channel`: every reachable conversation has a channel in each direction.
-/
namespace SealedRelay.Mux

/-- One direction of a stream, from `x` to `y`. -/
structure Channel (x y : Half) : Prop where
  /-- No data is queued behind a close. -/
  order : x.queue.Pairwise fun f g => f.kind = .close → g.kind ≠ .data
  /-- Whoever has queued a close has ended its direction. -/
  mute : (∃ f ∈ x.queue, f.kind = .close) ∨ (∃ t, y.stream = some t ∧ t.remoteClosed = true) →
    ∀ s, x.stream = some s → Turn.Mute s
  done : ∀ t, y.stream = some t → t.remoteClosed = true → ∀ f ∈ x.queue, f.kind ≠ .data
  bytes : ∀ t, y.stream = some t → t.failure = none →
    x.wrote = y.got ++ t.inbox.flatten ++ bytesIn x.queue
  begun : ∀ t, y.stream = some t → y.got ++ t.inbox.flatten <+: x.wrote

namespace Channel

variable {x y : Half} {role : Role} {c : Config} {s s' : Stream} {d : Deed} {out q : List Frame}

/-- A channel does not depend on what its end sends the other way. -/
theorem congr {y' : Half} (h : Channel x y) (hs : y'.stream = y.stream) (hg : y'.got = y.got) :
    Channel x y' where
  order := h.order
  mute := hs ▸ h.mute
  done := hs ▸ h.done
  bytes := hg ▸ hs ▸ h.bytes
  begun := hg ▸ hs ▸ h.begun

/-- A turn of the sending end. -/
theorem sent (h : Channel x y) (hs : x.stream = some s) (shape : s.Shape)
    (turn : Turn role c s d out s') : Channel (x.after d out s') y where
  order := by
    refine List.pairwise_append.2 ⟨h.order, turn.out_orderly, fun f hf g hg hk => ?_⟩
    exact turn.out_of_mute (h.mute (.inl ⟨f, hf, hk⟩) s hs) g hg
  mute := by
    intro hend t ht
    obtain rfl := Option.some.inj ht
    have still (hm : Turn.Mute s) : Turn.Mute s' := turn.mute hm shape.localClosed
    rcases hend with ⟨f, hf, hk⟩ | hclosed
    · rcases List.mem_append.1 hf with hf | hf
      · exact still (h.mute (.inl ⟨f, hf, hk⟩) s hs)
      · exact turn.mute_of_close hf hk
    · exact still (h.mute (.inr hclosed) s hs)
  done := by
    intro t ht hr f hf
    rcases List.mem_append.1 hf with hf | hf
    · exact h.done t ht hr f hf
    · exact turn.out_of_mute (h.mute (.inr ⟨t, ht, hr⟩) s hs) f hf
  bytes := by
    intro t ht hf
    simp only [Half.after, h.bytes t ht hf, bytesIn_append, turn.bytes_out, List.append_assoc]
  begun t ht := (h.begun t ht).trans (List.prefix_append _ _)

/-- A turn of the receiving end, which may take a frame off the queue. -/
theorem received (h : Channel x y) (hs : y.stream = some s) (shape : s.Shape)
    (turn : Turn role c s d out s') (hq : x.queue = d.frames ++ q) :
    Channel { x with queue := q } (y.after d out s') := by
  have hsub : q.Sublist x.queue := hq ▸ List.sublist_append_right _ _
  -- the close that ends this direction, if this is the turn that it arrives in
  have ended (hr : s'.remoteClosed = true) :
      s.remoteClosed = true ∨ ∃ f, f.kind = .close ∧ x.queue = f :: q := by
    refine (turn.remoteClosed hr).imp_right ?_
    rintro ⟨f, rfl, hk⟩
    exact ⟨f, hk, hq⟩
  refine ⟨h.order.sublist hsub, ?_, ?_, ?_, ?_⟩
  · intro hend t ht
    refine h.mute ?_ t ht
    rcases hend with ⟨f, hf, hk⟩ | ⟨u, hu, hr⟩
    · exact .inl ⟨f, hsub.subset hf, hk⟩
    · obtain rfl := Option.some.inj hu
      rcases ended hr with hr | ⟨f, hk, hq⟩
      · exact .inr ⟨s, hs, hr⟩
      · exact .inl ⟨f, hq ▸ List.mem_cons_self, hk⟩
  · intro u hu hr
    obtain rfl := Option.some.inj hu
    rcases ended hr with hr | ⟨f, hk, hq⟩
    · exact fun g hg => h.done s hs hr g (hsub.subset hg)
    · have horder := h.order
      rw [hq] at horder
      exact fun g hg => (List.pairwise_cons.1 horder).1 g hg hk
  · intro u hu hf
    obtain rfl := Option.some.inj hu
    obtain ⟨hf, hinbox⟩ := turn.inbox_eq hf
    calc x.wrote
      _ = y.got ++ (s.inbox.flatten ++ bytesIn d.frames) ++ bytesIn q := by
        rw [h.bytes s hs hf, hq, bytesIn_append]
        simp only [List.append_assoc]
      _ = y.got ++ d.bytesTaken ++ s'.inbox.flatten ++ bytesIn q := by
        rw [hinbox]
        simp only [List.append_assoc]
  · intro u hu
    obtain rfl := Option.some.inj hu
    have hpre : y.got ++ d.bytesTaken ++ s'.inbox.flatten <+:
        y.got ++ (s.inbox.flatten ++ bytesIn d.frames) := by
      rw [List.append_assoc]
      exact (List.prefix_append_right_inj _).2 turn.inbox_isPrefix
    refine hpre.trans ?_
    by_cases hf : s.failure = none
    · refine ⟨bytesIn q, ?_⟩
      rw [h.bytes s hs hf, hq, bytesIn_append]
      simp only [List.append_assoc]
    · -- nothing arrives at an end that has failed
      have hnil : d.frames = [] := by
        cases d with
        | arrived f => exact absurd (shape.failure_eq_none turn.arrived.1) hf
        | _ => rfl
      rw [hnil, bytesIn_nil, List.append_nil]
      exact h.begun s hs

/-- A frame is lost, at an end that takes no data or because it carries none. -/
theorem lost {f : Frame} (h : Channel x y) (hq : x.queue = f :: q)
    (hf : ∀ t, y.stream = some t → t.failure = none → f.bytes = []) :
    Channel { x with queue := q } y := by
  have hmem {g : Frame} (hg : g ∈ q) : g ∈ x.queue := hq ▸ List.mem_cons_of_mem f hg
  refine ⟨?_, ?_, ?_, ?_, h.begun⟩
  · have horder := h.order
    rw [hq] at horder
    exact (List.pairwise_cons.1 horder).2
  · exact fun hend => h.mute (hend.imp_left fun ⟨g, hg, hk⟩ => ⟨g, hmem hg, hk⟩)
  · exact fun t ht hr g hg => h.done t ht hr g (hmem hg)
  · intro t ht hfail
    rw [h.bytes t ht hfail, hq, bytesIn_cons, hf t ht hfail, List.nil_append]

theorem unused (hw : x.wrote = []) (hg : y.got = [])
    (hx : ∀ f ∈ x.queue, f.kind = .opening ∨ f.kind = .close)
    (hm : (∃ f ∈ x.queue, f.kind = .close) → ∀ s, x.stream = some s → Turn.Mute s)
    (hy : ∀ t, y.stream = some t → t.remoteClosed = false ∧ t.inbox = []) : Channel x y := by
  have hdata : ∀ f ∈ x.queue, f.kind ≠ .data := by
    intro f hf
    rcases hx f hf with hk | hk <;> simp [hk]
  refine ⟨?_, ?_, fun _ _ _ => hdata, ?_, ?_⟩
  · exact List.pairwise_of_forall_mem_list fun _ _ g hg _ => hdata g hg
  · rintro (hclose | ⟨t, ht, hr⟩)
    · exact hm hclose
    · simp [(hy t ht).1] at hr
  · intro t ht _
    simp [hw, hg, (hy t ht).2, bytesIn_eq_nil hdata]
  · intro t ht
    simp [hg, (hy t ht).2]

end Channel

namespace Conversation

variable {c : Role → Config} {polite : Prop} {v v' : Conversation}

/-- Before the confirmation both directions are unused. -/
theorem Unconfirmed.channel (u : Unconfirmed v)
    (hr : ∀ s, (v .responder).stream = some s → s.remoteClosed = false ∧ s.inbox = [])
    (hi : (∃ f ∈ (v .initiator).queue, f.kind = .close) →
      ∀ s, (v .initiator).stream = some s → Turn.Mute s)
    (hq : (v .responder).stream = none ∨ (v .responder).queue = []) (a : Role) :
    Channel (v a) (v a.other) := by
  cases a with
  | initiator => exact .unused (u.wrote _) (u.got _) u.asks hi hr
  | responder =>
    refine .unused (u.wrote _) (u.got _) (fun f hf => .inr (u.refuses f hf)) ?_
      fun t ht => ⟨(u.asker t ht).going, (u.asker t ht).inbox⟩
    rintro ⟨f, hf, -⟩ s hs
    rcases hq with hq | hq
    · simp [hq] at hs
    · simp [hq] at hf

/-- A turn of one end, which may take a frame off the other's queue. -/
theorem channel_of_turn (h : ∀ a, Channel (v a) (v a.other)) (ho : Orderly c v) {a : Role}
    {s s' : Stream} {d : Deed} {out q : List Frame} (stream : (v a).stream = some s)
    (queue : (v a.other).queue = d.frames ++ q) (turn : Turn a (c a) s d out s')
    (self : v' a = (v a).after d out s') (other : v' a.other = { v a.other with queue := q }) :
    ∀ b, Channel (v' b) (v' b.other) := by
  have shape := (ho.sound a s stream).shape
  refine Role.forall_of a ?_ ?_
  · rw [self, other]
    exact ((h a).sent stream shape turn).congr rfl rfl
  · have hc := h a.other
    rw [Role.other_other] at hc ⊢
    rw [self, other]
    exact hc.received stream shape turn queue

theorem Step.channel (s : Step c polite v v') (ho : Orderly c v)
    (h : ∀ a, Channel (v a) (v a.other)) : ∀ a, Channel (v' a) (v' a.other) := by
  have ho' := ho.step s
  -- a close that is still queued after the question has been taken off was queued before
  have muted {f : Frame} {q : List Frame} (queue : (v .initiator).queue = f :: q)
      (other : v' .initiator = { v .initiator with queue := q }) :
      (∃ f ∈ (v' .initiator).queue, f.kind = .close) →
        ∀ s, (v' .initiator).stream = some s → Turn.Mute s := by
    rw [other]
    rintro ⟨g, hg, hk⟩
    exact (h .initiator).mute (.inl ⟨g, queue ▸ List.mem_cons_of_mem f hg, hk⟩)
  cases s with
  | act a stream turn here manners self other =>
    exact channel_of_turn h ho stream (by simp [here.frames_eq]) turn self other
  | arrive a stream queue turn self other => exact channel_of_turn h ho stream queue turn self other
  | drop a queue kind deaf self other =>
    refine Role.forall_of a ?_ ?_
    · rw [self, other]
      exact (h a).congr rfl rfl
    · have hc := h a.other
      rw [Role.other_other] at hc ⊢
      rw [self, other]
      refine hc.lost queue fun t ht hf => ?_
      rcases deaf with hg | hclosed
      · exact hg.bytes
      · -- an end that has closed without failing has been told that nothing more comes
        have hr := (ho.sound a t ht).shape.remoteClosed (hclosed t ht) hf
        simp [Frame.bytes, hc.done t ht hr _ (queue ▸ List.mem_cons_self)]
  | ask fresh kind self other =>
    have hva := ho.unasked fresh
    rw [hva] at self other
    refine (ho'.unconfirmed (by simp [other])).channel (by simp [other]) ?_ (by simp [other])
    rw [self]
    simp [kind]
  | offer queue kind self other =>
    have hfresh := ho.fresh _ (queue ▸ List.mem_cons_self) kind
    have u := ho'.unconfirmed (by simp [self, Stream.offered])
    exact u.channel (by simp [self, Stream.offered]) (muted queue other) (.inr (by simp [self, hfresh]))
  | decline queue kind self other =>
    have hfresh := ho.fresh _ (queue ▸ List.mem_cons_self) kind
    have u := ho'.unconfirmed (by simp [self, hfresh])
    exact u.channel (by simp [self, hfresh]) (muted queue other) (.inl (by simp [self, hfresh]))
  | ignore rude queue kind self other =>
    have hfresh := ho.fresh _ (queue ▸ List.mem_cons_self) kind
    have u := ho'.unconfirmed (by simp [self, hfresh])
    exact u.channel (by simp [self, hfresh]) (muted queue other) (.inl (by simp [self, hfresh]))

theorem Reachable.channel (r : Reachable c polite v) : ∀ a, Channel (v a) (v a.other) := by
  induction r with
  | start =>
    have u := (Orderly.start c).unconfirmed (by simp)
    exact u.channel (by simp) (by simp) (by simp)
  | step r s ih => exact s.channel r.orderly ih

/-- What has been read at one end begins what was sent at the other. -/
theorem Reachable.got_isPrefix (r : Reachable c polite v) (a : Role) :
    (v a).got <+: (v a.other).wrote := by
  cases hs : (v a).stream with
  | some s =>
    have hc := r.channel a.other
    rw [Role.other_other] at hc
    exact (List.prefix_append _ _).trans (hc.begun s hs)
  | none =>
    have hgot : (v a).got = [] := by
      cases a with
      | initiator => rw [r.orderly.unasked hs]
      | responder => exact (r.orderly.unconfirmed (by simp [hs])).got _
    rw [hgot]
    exact List.nil_prefix

/-- An end that has read everything and been told that nothing more comes has what was sent. -/
theorem Reachable.got_eq (r : Reachable c polite v) {a : Role} {s : Stream}
    (hs : (v a).stream = some s) (hi : s.inbox = []) (hf : s.failure = none)
    (hr : s.remoteClosed = true) : (v a).got = (v a.other).wrote := by
  have hc := r.channel a.other
  rw [Role.other_other] at hc
  rw [hc.bytes s hs hf, hi, bytesIn_eq_nil (hc.done s hs hr)]
  simp

end Conversation

namespace Pair

/-- **Bytes arrive as they were sent.** After any run, what has been read from a stream at one end is
a beginning of what was accepted for sending at the other, and all of it once a read finds the end. -/
theorem bytes_arrive_as_sent (c : Role → Config) (actions : List Action)
    (hl : ((start c).run actions).opened < UInt32.size - 1) (side : Role) :
    let p := (start c).run actions
    (∀ id, p.got side id <+: p.wrote side.other id) ∧
      ∀ h < (p.mux side).streams.length, ((p.mux side).read h).1 = .ok .eof →
        p.got side ((p.mux side).stream h).id =
          p.wrote side.other ((p.mux side).stream h).id := by
  intro p
  have hp : p.Matched c False := run_start_matched c actions False.elim hl
  refine ⟨fun id => (hp.reachable id).got_isPrefix side, fun h hlt he => ?_⟩
  have hs : (p.mux side).streams[h]? = some (p.mux side).streams[h] := List.getElem?_eq_getElem hlt
  obtain ⟨hi, hf, hr⟩ := read_eof hs he
  rw [stream_of_getElem? hs]
  have hview : (p.view (p.mux side).streams[h].id side).stream = some (p.mux side).streams[h] :=
    (hp.unique_mux hl side).find_eq_some_iff.2 ⟨h, hs, rfl⟩
  exact (hp.reachable _).got_eq hview hi hf hr

/-- A stream is asked for and confirmed, and the asking side sends three bytes and ends its
direction. The other side reads them. -/
def exchange : List Action :=
  [.call .initiator (.openStream (.ip ⟨.v4 .loopback, 80⟩)), .deliver .responder,
    .call .responder (.accept 0), .deliver .initiator, .deliver .responder,
    .call .initiator (.send 0 [1, 2, 3]), .call .initiator (.halfClose 0), .deliver .responder,
    .call .responder (.read 0), .deliver .responder]

theorem bytes_arrive_in_exchange :
    let p := (start fun _ => {}).run exchange
    p.opened < UInt32.size - 1 ∧ ((p.mux .responder).read 0).1 = .ok .eof ∧
      p.got .responder 1 = [1, 2, 3] ∧ p.got .responder 1 = p.wrote .initiator 1 :=
  have hl : ((start fun _ => {}).run exchange).opened < UInt32.size - 1 := by decide +kernel
  have he : (((start fun _ => {}).run exchange).responder.read 0).1 = .ok .eof := by decide +kernel
  have hid : (((start fun _ => {}).run exchange).responder.stream 0).id = 1 := by decide +kernel
  have hsent := (bytes_arrive_as_sent (fun _ => {}) exchange hl .responder).2 0 (by decide +kernel) he
  ⟨hl, he, by decide +kernel, hid ▸ hsent⟩

end Pair

end SealedRelay.Mux
