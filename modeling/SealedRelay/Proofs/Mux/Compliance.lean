import Mathlib.Data.List.Perm.Subperm
import SealedRelay.Proofs.Mux.Agreement
import SealedRelay.Proofs.Mux.Credit

/-!
# Two ends of this program never break each other's rules

Whatever is on its way can be read where it arrives, and data there fits. A question finds room at the
asked side if that side takes as many streams as the asking side has at a time: when a stream was
asked for, the asking side had room for it, and every other stream that the asked side still has by
the time the question arrives was live at the asking side then. The close of a stream that was not
travels ahead of the question.

Results:
* `Settled.outlook_of_closed`: once the asking side has forgotten a stream, what it has queued makes
  the asked side forget it too.
* `Pair.Tick.readable`, `Pair.Tick.roomy`: what ticks keep.
* `Pair.no_rule_broken`: a frame that arrives next is accepted.
-/
namespace SealedRelay.Mux

/-- A frame that can be read is accepted, a question if its number is new. -/
theorem receive_ok {m : Mux} {f : Frame} (hf : f.Readable)
    (hn : f.kind = .opening → m.lookup f.stream = none) : (m.receive f).1 = .ok () := by
  unfold Frame.Readable at hf
  cases hk : f.kind with
  | ping =>
    simp only [hk] at hf
    simp only [receive, hk, onPing]
    rcases hf with hf | hf
    · rw [if_pos hf]
    · rw [hf, if_neg (by decide), if_pos rfl]
  | opening =>
    simp only [hk] at hf
    obtain ⟨d, hd⟩ := hf
    simp only [receive, hk, onOpening, hd, hn hk, Option.isSome_none, Bool.false_eq_true, if_false]
    split
    · rfl
    · split
      · rfl
      · split
        · rfl
        · split <;> rfl
  | data => cases hl : m.lookup f.stream <;> simp only [receive, hk, hl]
  | close =>
    simp only [hk] at hf
    obtain ⟨reason, hd⟩ := hf
    cases hl : m.lookup f.stream <;> simp only [receive, hk, hd, hl]
  | ack =>
    simp only [hk] at hf
    obtain ⟨credit, hd⟩ := hf
    cases hl : m.lookup f.stream <;> simp only [receive, hk, hd, hl]

namespace Phase

variable {p : Phase} {f : Frame} {q : List Frame}

/-- The phase at the asked side after a frame has arrived, where a question makes a new end. -/
def heard (p : Phase) (f : Frame) : Phase :=
  if f.kind = .opening then pendingOpen else p.told .responder f

/-- What the asked side comes to when frames arrive, the question among them. -/
def outlook (p : Phase) (q : List Frame) : Phase := q.foldl heard p

@[simp] theorem outlook_cons (p : Phase) (f : Frame) (q : List Frame) :
    p.outlook (f :: q) = (p.heard f).outlook q := rfl

theorem heard_of_opening (hk : f.kind = .opening) : p.heard f = pendingOpen := if_pos hk

theorem heard_of_ne (hk : f.kind ≠ .opening) : p.heard f = p.told .responder f := if_neg hk

/-- Without a question among the frames the outlook is the fate. -/
theorem outlook_eq_fate (h : ∀ f ∈ q, f.kind ≠ .opening) : p.outlook q = p.fate .responder q := by
  induction q generalizing p with
  | nil => rfl
  | cons f q ih =>
    rw [outlook_cons, fate_cons, heard_of_ne (h f List.mem_cons_self)]
    exact ih fun g hg => h g (List.mem_cons_of_mem f hg)

end Phase

/-! ## The asked side follows the asking side -/

namespace Conversation

variable {c : Role → Config} {v : Conversation}

theorem Orderly.opening_first (ho : Orderly c v)
    (h : ¬∀ f ∈ (v .initiator).queue, f.kind ≠ .opening) :
    ∃ f q, (v .initiator).queue = f :: q ∧ f.kind = .opening := by
  cases hq : (v .initiator).queue with
  | nil => simp [hq] at h
  | cons f q =>
    refine ⟨f, q, rfl, Decidable.byContradiction fun hk => h ?_⟩
    rw [hq]
    exact List.forall_mem_cons.2 ⟨hk, ho.rest hq⟩

/-- Once the asking side has forgotten a stream, what it has queued makes the asked side forget it. -/
theorem Settled.outlook_of_closed (h : Settled v) (ho : Orderly c v)
    (hclosed : (v .initiator).phase = .closed) :
    (v .responder).phase.outlook (v .initiator).queue = .closed := by
  by_cases hn : ∀ f ∈ (v .initiator).queue, f.kind ≠ .opening
  · rw [Phase.outlook_eq_fate hn]
    have hag := h.agree hn
    rw [show v.fate .initiator = .closed by rw [fate, hclosed, Phase.fate_closed]] at hag
    exact hag.eq_closed
  · obtain ⟨f, q, hq, hk⟩ := ho.opening_first hn
    have hasked := h.asked ⟨f, hq ▸ List.mem_cons_self, hk⟩
    obtain ⟨g, hg, hharsh⟩ := (hasked.resolve_left fun hw => by simp [hclosed] at hw).2
    have hgq : g ∈ q := by
      rw [hq] at hg
      rcases List.mem_cons.1 hg with rfl | hg
      · exact absurd (hharsh.1.symm.trans hk) (by simp)
      · exact hg
    rw [hq, Phase.outlook_cons, Phase.heard_of_opening hk, Phase.outlook_eq_fate (ho.rest hq)]
    exact Phase.fate_of_harsh ⟨g, hgq, hharsh⟩

variable {s s' : Stream} {d : Deed} {out q : List Frame}

/-- Nothing the asked side does on its own keeps a stream that it will have to forget. -/
theorem Settled.outlook_act (h : Settled v) (ho : Orderly c v)
    (stream : (v .responder).stream = some s) (turn : Turn .responder (c .responder) s d out s')
    (here : d.IsLocal) (manners : d.Polite) (hq : q <+: (v .initiator).queue)
    (hc : s.phase.outlook q = .closed) : s'.phase.outlook q = .closed := by
  have hn : ∀ f ∈ q, f.kind ≠ .opening := fun f hf => ho.answered stream f (hq.subset hf)
  rw [Phase.outlook_eq_fate hn] at hc ⊢
  cases turn with
  | send | take | takeAndGrant => exact hc
  | accept _ phase =>
    -- nothing but a refusal by the asking side can follow the question so far
    cases q with
    | nil => simp [phase] at hc
    | cons f q =>
      have hf : f ∈ (v .initiator).queue := hq.subset List.mem_cons_self
      have hpend : ∀ t, (v .responder).stream = some t → t.phase = .pendingOpen := fun t ht =>
        Option.some.inj (stream.symm.trans ht) ▸ phase
      have hk := ((ho.unconfirmed hpend).asks f hf).resolve_left (hn f List.mem_cons_self)
      exact Phase.fate_of_harsh ⟨f, List.mem_cons_self, h.harsh hpend f hf hk⟩
  | halfClose phase =>
    have hspeaking : s.phase.Speaking := by
      rcases phase with hp | hp <;> simp [Phase.Speaking, hp]
    show Phase.fate .responder (if s.remoteClosed then Phase.closed else .localClosing) q = .closed
    rw [(ho.sound _ s stream).shape.ended phase, Phase.ended_fate hspeaking, hc]
    rfl
  | abort => rw [Stream.phase_terminated, Phase.fate_closed]
  | expire => exact Phase.fate_closed _ _
  | fail => exact manners.elim
  | _ => exact absurd rfl (here _)

theorem Orderly.outlook_arrive (ho : Orderly c v) {f : Frame} {r : List Frame}
    (stream : (v .responder).stream = some s) (queue : (v .initiator).queue = f :: r)
    (turn : Turn .responder (c .responder) s (.arrived f) out s') (hq : q <+: r)
    (hc : s.phase.outlook (f :: q) = .closed) : s'.phase.outlook q = .closed := by
  have hn : ∀ g ∈ q, g.kind ≠ .opening := fun g hg => ho.rest queue g (hq.subset hg)
  rw [Phase.outlook_cons, Phase.heard_of_ne turn.arrived.2.1] at hc
  rcases turn.phase_arrived (ho.sound _ s stream).shape with ⟨hphase, -⟩ | ⟨hclosed, -⟩
  · rw [hphase]
    exact hc
  · rw [hclosed, Phase.outlook_eq_fate hn, Phase.fate_closed]

end Conversation

namespace Pair

variable {c : Role → Config} {polite : Prop} {p p' : Pair} {side : Role} {m : Mux}
  {ns : List Note} {q : List Frame}

/-! ## What is on its way can be read -/

/-- Everything on its way can be read where it arrives. -/
def Readable (p : Pair) : Prop := ∀ side, ∀ f ∈ (p.mux side).outbound, f.Readable

theorem Next.readable (n : Next p p' side m ns q) (h : p.Readable) {out : List Frame}
    (ho : m.outbound = (p.mux side).outbound ++ out) (hout : ∀ f ∈ out, f.Readable)
    (hq : q <:+ p.toward side) : p'.Readable := by
  refine Role.forall_of side (fun f hf => ?_) fun f hf => ?_
  · rw [n.self, ho] at hf
    exact (List.mem_append.1 hf).elim (h side f) (hout f)
  · rw [n.other] at hf
    exact h side.other f (hq.subset hf)

theorem Tick.readable (t : Tick polite p p') (hp : p.Sound c) (h : p.Readable) : p'.Readable := by
  have tail {side : Role} {f : Frame} {q : List Frame} (queue : p.toward side = f :: q) :
      q <:+ p.toward side := queue ▸ List.suffix_cons f q
  cases t with
  | quiet side next queued pings =>
    exact next.readable h (queued.outbound (hp.sending side)) (fun f hf => (pings f hf).2)
      List.suffix_rfl
  | turned side next turn =>
    obtain ⟨-, turn, mv⟩ := turn
    exact next.readable h (mv.outbound (hp.sending side)) turn.out_readable List.suffix_rfl
  | failed side _ next failed =>
    exact next.readable h (by rw [failed.outbound, List.append_nil]) (by simp) List.suffix_rfl
  | asked next _ _ _ inserted _ encoded =>
    refine next.readable h (inserted.outbound (hp.sending _)) (fun f hf => ?_) List.suffix_rfl
    obtain rfl := List.mem_singleton.1 hf
    exact ⟨_, Destination.decode_encode encoded⟩
  | pinged side queue _ next queued pings =>
    exact next.readable h (queued.outbound (hp.sending side)) (fun f hf => (pings f hf).2)
      (tail queue)
  | arrived side queue next _ turn =>
    obtain ⟨-, turn, mv⟩ := turn
    exact next.readable h (mv.outbound (hp.sending side)) turn.out_readable (tail queue)
  | dropped side queue _ _ next | ignored side queue _ _ next =>
    exact next.readable h (List.append_nil _).symm (by simp) (tail queue)
  | offered queue _ _ _ next inserted =>
    exact next.readable h (inserted.outbound (hp.sending _)) (by simp) (tail queue)
  | declined side queue _ next queued =>
    refine next.readable h (queued.outbound (hp.sending side)) (fun f hf => ?_) (tail queue)
    exact List.mem_singleton.1 hf ▸ closeFrame_readable _ _

/-! ## There is room for what is asked for -/

/-- What the asked side comes to on a number once `q` has arrived. -/
def outlook (p : Pair) (id : StreamId) (q : List Frame) : Phase :=
  (p.view id .responder).phase.outlook (ofStream id q)

/-- All streams that the asked side will still have when a question arrives are among fewer than the
asking side may have. -/
def Roomy (c : Role → Config) (p : Pair) : Prop :=
  ∀ q f r, (p.mux .initiator).outbound = q ++ f :: r → f.kind = .opening →
    ∃ ids : List StreamId, ids.length < (c .initiator).maxStreams ∧
      ∀ id, p.outlook id q ≠ .closed → id ∈ ids

theorem Roomy.extend (h : p.Roomy c) (n : Next p p' .initiator m ns q) {out : List Frame}
    (ho : m.outbound = (p.mux .initiator).outbound ++ out)
    (room : ∀ f ∈ out, f.kind = .opening → out = [f] ∧
      ∃ ids : List StreamId, ids.length < (c .initiator).maxStreams ∧
        ∀ id, p.outlook id (p.mux .initiator).outbound ≠ .closed → id ∈ ids) : p'.Roomy c := by
  have same (id : StreamId) (x : List Frame) : p'.outlook id x = p.outlook id x := by
    rw [outlook, show p'.view id .responder = _ from view_other n id]
    rfl
  intro x f r hx hk
  simp only [same]
  rw [n.self, ho] at hx
  rcases List.append_eq_append_iff.1 hx with ⟨l, rfl, hl⟩ | ⟨l, hl, hr⟩
  · obtain ⟨hout, ids⟩ := room f (hl ▸ by simp) hk
    rw [hout] at hl
    cases l with
    | nil => simpa using ids
    | cons => simp at hl
  · cases l with
    | nil =>
      rw [List.nil_append] at hr
      obtain ⟨-, ids⟩ := room f (hr ▸ List.mem_cons_self) hk
      simpa [hl] using ids
    | cons g l =>
      obtain ⟨rfl, -⟩ := List.cons.inj hr
      exact h x f l hl hk

/-- Something happens at the asked side, which may take frames off the other's queue. -/
theorem Roomy.advance (h : p.Roomy c) (n : Next p p' .responder m ns q) (taken : List Frame)
    (queue : p.toward .responder = taken ++ q)
    (closed : ∀ id x, x <+: q → p.outlook id (taken ++ x) = .closed → p'.outlook id x = .closed) :
    p'.Roomy c := by
  intro x f r hx hk
  rw [show p'.mux .initiator = _ from n.other] at hx
  have hq : q = x ++ f :: r := hx
  obtain ⟨ids, hlen, hids⟩ := h (taken ++ x) f r (by rw [List.append_assoc, ← hq]; exact queue) hk
  exact ⟨ids, hlen, fun id hne => hids id fun hc => hne (closed id x ⟨_, hq.symm⟩ hc)⟩

/-- A frame is taken off the queue, of a stream or asking for one. -/
theorem Roomy.taken (h : p.Roomy c) (n : Next p p' .responder m [] q) {f : Frame}
    (queue : p.toward .responder = f :: q) (kind : f.kind ≠ .ping)
    (others : ∀ id, id ≠ f.stream → m.find id = (p.mux .responder).find id)
    (self : ∀ x, x <+: ofStream f.stream q →
      ((p.view f.stream .responder).phase.heard f).outlook x = .closed →
        (p'.view f.stream .responder).phase.outlook x = .closed) : p'.Roomy c := by
  refine h.advance n [f] queue fun id x hx hc => ?_
  rw [outlook, List.singleton_append] at hc
  by_cases hid : id = f.stream
  · subst hid
    rw [ofStream_cons rfl kind] at hc
    exact self _ (hx.filter _) hc
  · rw [ofStream_cons_ne (.inl (Ne.symm hid))] at hc
    rw [outlook, view_self_nil n, others id hid]
    exact hc

/-- When a stream is asked for, all that the asked side will still have are live at the asking side. -/
theorem Matched.mem_of_outlook (hp : p.Matched c True) (hl : p.opened < idLimit) {id : StreamId}
    (h : p.outlook id (p.mux .initiator).outbound ≠ .closed) :
    id ∈ (p.mux .initiator).table.map Prod.fst := by
  refine (hp.mem_table hl).2 fun hclosed => h ?_
  exact ((hp.reachable id).settled trivial).outlook_of_closed (hp.reachable id).orderly hclosed

namespace Matched

/-- The asked side does something on its own, to one stream. -/
theorem roomy_turned (hp : p.Matched c True) (hl : p.opened < idLimit) (h : p.Roomy c)
    {k : Handle} {d : Deed}
    (next : Next p p' .responder m (d.notes ((p.mux .responder).stream k).id) (p.toward .responder))
    (turn : Turned (p.mux .responder) m k d) (here : d.IsLocal) (manners : d.Polite) :
    p'.Roomy c := by
  obtain @⟨s, s', out, hs, turn, mv⟩ := turn
  rw [stream_of_getElem? hs] at next
  have hu := hp.unique_mux hl .responder
  refine h.advance next [] (List.nil_append _).symm fun id x hx hc => ?_
  by_cases hid : s.id = id
  · subst hid
    obtain ⟨hv, hself⟩ := Pair.view_turned hp.sound hu hs turn mv next
    rw [hp.sound.role, hp.sound.config] at turn
    have r := hp.reachable s.id
    rw [outlook, hself]
    refine (r.settled trivial).outlook_act r.orderly hv turn here manners ?_ ?_
    · exact hx.filter _
    · rwa [outlook, Half.phase_of_some hv] at hc
  · rw [outlook, view_turned_ne hp.sound hu hs turn mv next hid rfl]
    exact hc

/-- A frame arrives at a live stream of the asked side. -/
theorem roomy_arrived (hp : p.Matched c True) (hl : p.opened < idLimit) (h : p.Roomy c) {f : Frame}
    {k : Handle} (queue : p.toward .responder = f :: q) (next : Next p p' .responder m [] q)
    (live : (p.mux .responder).lookup f.stream = some k)
    (turn : Turned (p.mux .responder) m k (.arrived f)) : p'.Roomy c := by
  obtain ⟨s₀, hs₀, hid₀, -, hv⟩ := hp.find_of_lookup hl live
  obtain @⟨s, s', out, hs, turn, mv⟩ := turn
  obtain rfl : s₀ = s := Option.some.inj (hs₀.symm.trans hs)
  have hu := hp.unique_mux hl .responder
  obtain ⟨-, hself⟩ := Pair.view_turned hp.sound hu hs turn mv next
  have hkind := turn.arrived.2
  refine h.taken next queue hkind.2 (fun id hne => ?_) fun x hx hc => ?_
  · rw [hu.find_set hs turn.id_eq mv.streams, if_neg (hid₀ ▸ hne.symm)]
  · rw [hp.sound.role, hp.sound.config] at turn
    rw [← hid₀, hself]
    rw [Half.phase_of_some hv, ← Phase.outlook_cons] at hc
    exact (hp.reachable f.stream).orderly.outlook_arrive hv
      (queue_view_of_toward queue rfl hkind.2) turn hx hc

/-- A frame arrives at the asked side that no stream takes. -/
theorem roomy_dropped (hp : p.Matched c True) (hl : p.opened < idLimit) (h : p.Roomy c) {f : Frame}
    (queue : p.toward .responder = f :: q) (kind : f.kind ≠ .opening ∧ f.kind ≠ .ping)
    (deaf : f.Garbled ∨ (p.mux .responder).lookup f.stream = none)
    (next : Next p p' .responder (p.mux .responder) [] q) : p'.Roomy c := by
  refine h.taken next queue kind.2 (fun _ _ => rfl) fun x _ hc => ?_
  have hdeaf : f.Garbled ∨
      ∀ s, (p.view f.stream .responder).stream = some s → s.phase = .closed :=
    deaf.imp_right fun hlook s hs => hp.closed_of_lookup hl hlook hs
  rw [Phase.heard_of_ne kind.1, Conversation.told_of_deaf hdeaf] at hc
  rw [view_self_nil next]
  exact hc

theorem roomy_offered (hp : p.Matched c True) (h : p.Roomy c) {f : Frame} {d : Destination}
    (queue : p.toward .responder = f :: q) (kind : f.kind = .opening)
    (next : Next p p' .responder m [] q)
    (inserted : Inserted (p.mux .responder) m (.offered f.stream d) []) : p'.Roomy c := by
  have hfind (id : StreamId) : m.find id = if f.stream = id then _ else _ :=
    find_append inserted.streams (hp.unanswered queue kind) id
  refine h.taken next queue (by simp [kind]) (fun id hne => ?_) fun x _ hc => ?_
  · rw [hfind, if_neg hne.symm]
  · rw [Phase.heard_of_opening kind] at hc
    rw [view_self_nil next, hfind, if_pos rfl]
    exact hc

theorem roomy_declined (hp : p.Matched c True) (h : p.Roomy c) {f : Frame}
    (queue : p.toward .responder = f :: q) (kind : f.kind = .opening)
    (next : Next p p' .responder m [] q)
    (queued : Queued (p.mux .responder) m [closeFrame f.stream .refused]) : p'.Roomy c := by
  have hfind (id : StreamId) : m.find id = (p.mux .responder).find id := by
    rw [find, queued.streams]
    rfl
  refine h.taken next queue (by simp [kind]) (fun id _ => hfind id) fun x hx _ => ?_
  have hnone : (p'.view f.stream .responder).stream = none := by
    rw [view_self_nil next]
    exact (hfind _).trans (hp.unanswered queue kind)
  -- the number is asked for only once, so nothing makes an end of it any more
  have hrest := (hp.reachable f.stream).orderly.rest (queue_view_of_toward queue rfl (by simp [kind]))
  rw [Half.phase_of_none hnone, Phase.outlook_eq_fate fun g hg => hrest g (hx.subset hg),
    Phase.fate_closed]

end Matched

theorem Matched.roomy_pings (hp : p.Matched c True) (h : p.Roomy c) (next : Next p p' side m ns q)
    {out taken : List Frame} (queued : Queued (p.mux side) m out)
    (pings : ∀ f ∈ out, f.kind = .ping ∧ f.Readable) (queue : p.toward side = taken ++ q)
    (pinged : ∀ f ∈ taken, f.kind = .ping) : p'.Roomy c := by
  cases side with
  | initiator =>
    exact h.extend next (queued.outbound (hp.sound.sending _))
      fun f hf hk => by simp [(pings f hf).1] at hk
  | responder =>
    refine h.advance next taken queue fun id x _ hc => ?_
    have hfind : m.find id = (p.mux .responder).find id := by
      rw [find, queued.streams]
      rfl
    have htaken : ofStream id taken = [] := ofStream_eq_nil fun f hf => .inr (pinged f hf)
    rw [outlook, ofStream_append, htaken, List.nil_append] at hc
    rw [outlook, view_self next, hfind]
    exact hc

/-- Every tick leaves room for the questions on their way. -/
theorem Tick.roomy (t : Tick True p p') (hp : p.Matched c True) (hl : p.opened < idLimit)
    (h : p.Roomy c) : p'.Roomy c := by
  cases t with
  | quiet side next queued pings =>
    exact hp.roomy_pings h next queued pings (List.nil_append _).symm (by simp)
  | @pinged side m f q out queue kind next queued pings =>
    have queue : p.toward side = [f] ++ q := queue
    exact hp.roomy_pings h next queued pings queue (by simpa using kind)
  | turned side next turn here manners =>
    cases side with
    | initiator =>
      obtain ⟨-, turn, mv⟩ := turn
      exact h.extend next (mv.outbound (hp.sound.sending _))
        fun f hf hk => absurd hk (turn.out_stream f hf).2.2
    | responder => exact hp.roomy_turned hl h next turn here (manners trivial)
  | failed side rude => exact absurd trivial rude
  | asked next _ _ _ inserted room =>
    refine h.extend next (inserted.outbound (hp.sound.sending _)) fun f hf _ => ?_
    obtain rfl := List.mem_singleton.1 hf
    refine ⟨rfl, (p.mux .initiator).table.map Prod.fst, ?_, fun id => hp.mem_of_outlook hl⟩
    rw [List.length_map, ← hp.sound.config]
    exact room
  | arrived side queue next live turn =>
    cases side with
    | initiator =>
      obtain ⟨-, turn, mv⟩ := turn
      exact h.extend next (mv.outbound (hp.sound.sending _))
        fun f hf hk => absurd hk (turn.out_stream f hf).2.2
    | responder => exact hp.roomy_arrived hl h queue next live turn
  | dropped side queue kind deaf next =>
    cases side with
    | initiator => exact h.extend next (List.append_nil _).symm fun _ hf => absurd hf List.not_mem_nil
    | responder => exact hp.roomy_dropped hl h queue kind deaf next
  | offered queue kind _ _ next inserted => exact hp.roomy_offered h queue kind next inserted
  | declined side queue kind next queued =>
    obtain rfl := hp.side_of_opening queue kind
    exact hp.roomy_declined h queue kind next queued
  | ignored side queue kind why next =>
    obtain rfl := hp.side_of_opening queue kind
    exact absurd trivial (hp.rude_of_ignored hl queue kind why)

/-! ## Nothing that arrives breaks a rule -/

/-- A question that arrives next finds room, if the asked side takes as many streams as the asking
side has at a time. -/
theorem Matched.room_of_opening (hp : p.Matched c True) (hl : p.opened < idLimit) (h : p.Roomy c)
    (hc : (c .initiator).maxStreams ≤ (c .responder).maxStreams) {f : Frame}
    (queue : p.toward .responder = f :: q) (kind : f.kind = .opening) :
    (p.mux .responder).table.length < (p.mux .responder).config.maxStreams := by
  obtain ⟨ids, hlen, hids⟩ := h [] f q queue kind
  have hsub : (p.mux .responder).table.map Prod.fst ⊆ ids := fun id hid =>
    hids id ((hp.mem_table hl).1 hid)
  have hnodup := (hp.sound.sound .responder).nodup
  calc (p.mux .responder).table.length
    _ = ((p.mux .responder).table.map Prod.fst).length := (List.length_map ..).symm
    _ ≤ ids.length := (List.subperm_of_subset hnodup hsub).length_le
    _ < (c .initiator).maxStreams := hlen
    _ ≤ (c .responder).maxStreams := hc
    _ = (p.mux .responder).config.maxStreams := by rw [hp.sound.config]

/-- **Nothing that arrives breaks a rule.** If programs end both directions of a stream only with a
reason for that, the connection does not fail, and the asked side takes as many streams as the asking
side has at a time, then the frame that arrives next at either side is never an error. If it is data
for a live stream, the stream goes on, has not been told that nothing more comes, and takes all of it.
If it asks for a stream, it can be read, its number is new and there is room, so that it is taken up
unless nobody takes new streams. -/
theorem no_rule_broken (c : Role → Config)
    (hc : (c .initiator).maxStreams ≤ (c .responder).maxStreams)
    (hw : ∀ side, (c side).initialWindow < UInt32.size) (actions : List Action)
    (hpolite : ∀ a ∈ actions, a.Polite) (hl : ((start c).run actions).opened < UInt32.size - 1)
    (side : Role) :
    let m := ((start c).run actions).mux side
    ∀ f q, (((start c).run actions).mux side.other).outbound = f :: q →
      (m.receive f).1 = .ok () ∧
      (f.kind = .data → ∀ h, m.lookup f.stream = some h →
        (m.stream h).phase ≠ .closed ∧ (m.stream h).remoteClosed = false ∧
          f.payload.length ≤ (m.stream h).recvAllowance ∧
          (m.receive f).2.lookup f.stream = some h ∧ (m.receive f).2.outbound = m.outbound) ∧
      (f.kind = .opening → m.role = .responder ∧ (∃ d, Destination.decode f.payload = .ok d) ∧
        m.lookup f.stream = none ∧ m.table.length < m.config.maxStreams ∧
          (m.listening = true → (m.receive f).2.lookup f.stream = some m.streams.length ∧
            (m.receive f).2.outbound = m.outbound)) := by
  intro m f q queue
  have keep {p p' : Pair} (t : Tick True p p') (hp : p.Matched c True) (hl : p'.opened < idLimit)
      (h : p.Readable ∧ p.Roomy c) : p'.Readable ∧ p'.Roomy c :=
    ⟨t.readable hp.sound h.1, t.roomy hp (Nat.lt_of_le_of_lt t.opened_le hl) h.2⟩
  have start : (start c).Readable ∧ (start c).Roomy c := by
    refine ⟨fun side f hf => ?_, fun q f r hq => ?_⟩
    · cases side <;> simp [Pair.start, mux] at hf
    · simp [Pair.start, mux] at hq
  obtain ⟨hp, hread, hroomy⟩ := run_keeps keep (start_sound c)
    (fun _ => ⟨start_matched c True, start⟩) actions (fun _ => hpolite) hl
  have hf : f.Readable := hread side.other f (queue ▸ List.mem_cons_self)
  have free (hk : f.kind = .opening) : m.lookup f.stream = none := by
    cases hlook : m.lookup f.stream with
    | none => rfl
    | some h =>
      obtain rfl := hp.side_of_opening queue hk
      obtain ⟨s, -, -, -, hv⟩ := hp.find_of_lookup hl hlook
      exact absurd ((hp.unanswered queue hk).symm.trans hv) (by simp)
  refine ⟨receive_ok hf free, fun hk h hlook => ?_, fun hk => ?_⟩
  · obtain ⟨hfits, hgoing⟩ := hp.data_fits hw hl queue hk hlook
    exact ⟨(hp.live hl hlook).2, hgoing, hfits, hp.receive_data hw hl queue hk hlook⟩
  · obtain rfl := hp.side_of_opening queue hk
    have hrole : m.role = .responder := hp.sound.role _
    have hroom := hp.room_of_opening hl hroomy hc queue hk
    obtain ⟨d, hd⟩ : ∃ d, Destination.decode f.payload = .ok d := by
      simpa only [Frame.Readable, hk] using hf
    refine ⟨hrole, ⟨d, hd⟩, free hk, hroom, fun hlisten => ?_⟩
    rw [receive_opening_room hk hrole hd (hp.unfailed trivial _) (free hk) hroom hlisten]
    exact ⟨(Inserted.insert m (.offered f.stream d)).lookup_self (free hk), rfl⟩

/-- With one stream at a time, the asking side asks for the next as soon as both ends have ended
theirs. The two closes cross, and the question arrives right behind one of them. -/
def successor : List Action :=
  let d : Destination := .ip ⟨.v4 .loopback, 80⟩
  [.call .initiator (.openStream d), .deliver .responder, .call .responder (.accept 0),
    .deliver .initiator, .deliver .responder, .call .initiator (.halfClose 0),
    .call .responder (.halfClose 0), .deliver .initiator, .call .initiator (.openStream d),
    .deliver .responder]

theorem successor_taken_up :
    let m := ((start fun _ => { maxStreams := 1 }).run successor).responder
    ∃ f q, ((start fun _ => { maxStreams := 1 }).run successor).initiator.outbound = f :: q ∧
      f.stream = 2 ∧ m.table.length < 1 ∧ (m.receive f).1 = .ok () ∧
        (m.receive f).2.lookup 2 = some 1 := by
  have hpolite : ∀ a ∈ successor, a.Polite := by simp [successor, Action.Polite]
  have hl : ((start fun _ => { maxStreams := 1 }).run successor).opened < UInt32.size - 1 := by
    decide +kernel
  have hqueue : (((start fun _ => { maxStreams := 1 }).run successor).mux
      Role.responder.other).outbound = [⟨.opening, 2, [1, 127, 0, 0, 1, 0, 80]⟩] := by decide +kernel
  have hlisten : ((start fun _ => { maxStreams := 1 }).run successor).responder.listening = true := by
    decide +kernel
  have hlength : ((start fun _ => { maxStreams := 1 }).run successor).responder.streams.length = 1 := by
    decide +kernel
  obtain ⟨hok, -, hopening⟩ := no_rule_broken (fun _ => { maxStreams := 1 }) (Nat.le_refl 1)
    (fun _ => by decide) successor hpolite hl .responder _ _ hqueue
  obtain ⟨-, -, -, hroom, htaken⟩ := hopening rfl
  have hconfig : ((start fun _ => { maxStreams := 1 }).run successor).responder.config.maxStreams = 1 := by
    decide +kernel
  exact ⟨_, _, hqueue, rfl, hconfig ▸ hroom, hok, hlength ▸ (htaken hlisten).1⟩

end Pair

end SealedRelay.Mux
