import SealedRelay.Proofs.Mux.Conversation
import SealedRelay.Proofs.Mux.Number
import SealedRelay.Proofs.Mux.Tick

/-!
# One stream of a pair

A pair shows each stream number a conversation. A tick is a step of the conversation of at most one
number and leaves all others as they are, save for the failure of a whole side, which is a step of
each. So whatever holds of every reachable conversation holds of every stream of every run.

Results:
* `Pair.Tick.view`: a tick is a step of what a number sees, or nothing to it.
* `Pair.run_keeps`: what every tick of a matched pair keeps, a run keeps.
* `Pair.run_start_matched`: after any run every number shows a reachable conversation.
-/
namespace SealedRelay.Mux

/-! ## The frames of one stream -/

section OfStream

variable {id : StreamId} {f : Frame} {q : List Frame}

@[simp] theorem ofStream_nil : ofStream id [] = [] := rfl

@[simp] theorem ofStream_append (q r : List Frame) :
    ofStream id (q ++ r) = ofStream id q ++ ofStream id r := List.filter_append ..

theorem ofStream_cons (hs : f.stream = id) (hk : f.kind ≠ .ping) :
    ofStream id (f :: q) = f :: ofStream id q := by simp [ofStream, hs, hk]

theorem ofStream_cons_ne (h : f.stream ≠ id ∨ f.kind = .ping) :
    ofStream id (f :: q) = ofStream id q := by
  rcases h with h | h <;> simp [ofStream, h]

theorem ofStream_eq_self (h : ∀ f ∈ q, f.stream = id ∧ f.kind ≠ .ping) : ofStream id q = q :=
  List.filter_eq_self.2 fun f hf => by simpa using h f hf

theorem ofStream_eq_nil (h : ∀ f ∈ q, f.stream ≠ id ∨ f.kind = .ping) : ofStream id q = [] :=
  List.filter_eq_nil_iff.2 fun f hf => by
    rcases h f hf with h | h <;> simp [h]

theorem ofStream_singleton (hs : f.stream = id) (hk : f.kind ≠ .ping) : ofStream id [f] = [f] :=
  ofStream_cons hs hk

theorem ofStream_singleton_ne (h : f.stream ≠ id) : ofStream id [f] = [] :=
  ofStream_cons_ne (.inl h)

end OfStream

namespace Pair

/-! ## What a pair looks like from one stream number -/

def view (p : Pair) (id : StreamId) : Conversation := fun side =>
  { stream := (p.mux side).find id
    queue := p.inFlight side id
    wrote := p.wrote side id
    got := p.got side id }

variable {c : Role → Config} {polite : Prop} {p p' : Pair} {side : Role} {m : Mux}
  {ns : List Note} {q : List Frame}

theorem view_self (n : Next p p' side m ns q) (id : StreamId) :
    p'.view id side =
      { stream := m.find id
        queue := ofStream id m.outbound
        wrote := p.wrote side id ++ ns.flatMap (·.wroteOn id)
        got := p.got side id ++ ns.flatMap (·.gotOn id) } := by
  simp [view, inFlight, wrote, got, n.self, n.notes, List.flatMap_map]

theorem view_self_nil (n : Next p p' side m [] q) (id : StreamId) :
    p'.view id side =
      { p.view id side with stream := m.find id, queue := ofStream id m.outbound } := by
  rw [view_self n]
  simp only [List.flatMap_nil, List.append_nil]
  rfl

theorem view_other (n : Next p p' side m ns q) (id : StreamId) :
    p'.view id side.other = { p.view id side.other with queue := ofStream id q } := by
  have hnone : (ns.flatMap fun _ => ([] : Bytes)) = [] := List.flatMap_eq_nil_iff.2 fun _ _ => rfl
  simp [view, inFlight, wrote, got, n.other, n.notes, List.flatMap_map, find, hnone]

theorem view_ext (side : Role) {v v' : Conversation} (hs : v side = v' side)
    (ho : v side.other = v' side.other) : v = v' :=
  funext (Role.forall_of side hs ho)

theorem queue_view_toward (p : Pair) (side : Role) (id : StreamId) :
    (p.view id side.other).queue = ofStream id (p.toward side) := rfl

theorem view_eq (n : Next p p' side m ns q) {id : StreamId} (hf : m.find id = (p.mux side).find id)
    (ho : ofStream id m.outbound = p.inFlight side id)
    (hq : ofStream id q = p.inFlight side.other id)
    (hn : ∀ n ∈ ns, n.wroteOn id = [] ∧ n.gotOn id = []) : p'.view id = p.view id := by
  have hw : ns.flatMap (·.wroteOn id) = [] := List.flatMap_eq_nil_iff.2 fun n h => (hn n h).1
  have hg : ns.flatMap (·.gotOn id) = [] := List.flatMap_eq_nil_iff.2 fun n h => (hn n h).2
  refine view_ext side ?_ ?_
  · rw [view_self n, hf, ho, hw, hg, List.append_nil, List.append_nil]
    rfl
  · rw [view_other n, hq]
    rfl

/-- What is on its way to a side after the first frame has been taken off. -/
theorem inFlight_of_toward {f : Frame} (queue : p.toward side = f :: q) {id : StreamId}
    (h : f.stream ≠ id ∨ f.kind = .ping) : ofStream id q = p.inFlight side.other id := by
  rw [inFlight, show (p.mux side.other).outbound = f :: q from queue, ofStream_cons_ne h]

theorem queue_view_of_toward {f : Frame} (queue : p.toward side = f :: q) {id : StreamId}
    (hs : f.stream = id) (hk : f.kind ≠ .ping) :
    (p.view id side.other).queue = f :: ofStream id q := by
  rw [queue_view_toward, queue, ofStream_cons hs hk]

theorem notes_wroteOn (d : Deed) (i id : StreamId) :
    (d.notes i).flatMap (·.wroteOn id) = if i = id then d.bytesSent else [] := by
  cases d <;> simp [Deed.notes, Note.wroteOn, Deed.bytesSent]

theorem notes_gotOn (d : Deed) (i id : StreamId) :
    (d.notes i).flatMap (·.gotOn id) = if i = id then d.bytesTaken else [] := by
  cases d <;> simp [Deed.notes, Note.gotOn, Deed.bytesTaken]

/-- The number of a stream that takes a turn sees the turn. -/
theorem view_turned (hp : p.Sound c) (hu : (p.mux side).Unique) {h : Handle} {s s' : Stream}
    {d : Deed} {out : List Frame} (hs : (p.mux side).streams[h]? = some s)
    (turn : Turn (p.mux side).role (p.mux side).config s d out s')
    (mv : Moved (p.mux side) m h out s') (n : Next p p' side m (d.notes s.id) q) :
    (p.view s.id side).stream = some s ∧
      p'.view s.id side = (p.view s.id side).after d out s' := by
  refine ⟨hu.find_eq_some_iff.2 ⟨h, hs, rfl⟩, ?_⟩
  rw [view_self n, hu.find_set hs turn.id_eq mv.streams, mv.outbound (hp.sending side),
    ofStream_append, ofStream_eq_self fun f hf => ⟨(turn.out_stream f hf).1, (turn.out_stream f hf).2.1⟩,
    notes_wroteOn, notes_gotOn, if_pos rfl, if_pos rfl, if_pos rfl]
  rfl

theorem view_turned_ne (hp : p.Sound c) (hu : (p.mux side).Unique) {h : Handle} {s s' : Stream}
    {d : Deed} {out : List Frame} (hs : (p.mux side).streams[h]? = some s)
    (turn : Turn (p.mux side).role (p.mux side).config s d out s')
    (mv : Moved (p.mux side) m h out s') (n : Next p p' side m (d.notes s.id) q) {id : StreamId}
    (hne : s.id ≠ id) (hq : ofStream id q = p.inFlight side.other id) :
    p'.view id = p.view id := by
  refine view_eq n ?_ ?_ hq ?_
  · rw [hu.find_set hs turn.id_eq mv.streams, if_neg hne]
  · rw [mv.outbound (hp.sending side), ofStream_append, inFlight,
      ofStream_eq_nil (q := out) fun f hf => .inl ((turn.out_stream f hf).1 ▸ hne), List.append_nil]
  · intro n hn
    cases d <;> simp [Deed.notes] at hn
    all_goals subst hn; simp [Note.wroteOn, Note.gotOn, hne]

/-! ## Ticks are steps -/

/-- A sound pair in which every number belongs to one stream at each side. -/
structure Matched (c : Role → Config) (polite : Prop) (p : Pair) : Prop where
  sound : p.Sound c
  unfailed : polite → ∀ side, (p.mux side).failed = none
  numbered : p.initiator.Numbered
  unique : p.responder.Unique
  reachable : ∀ id, (p.view id).Reachable c polite

namespace Matched

theorem unique_mux (hp : p.Matched c polite) (hl : p.opened < idLimit) (side : Role) :
    (p.mux side).Unique := by
  cases side with
  | initiator => exact hp.numbered.unique hl
  | responder => exact hp.unique

theorem find_of_lookup (hp : p.Matched c polite) (hl : p.opened < idLimit) {id : StreamId}
    {h : Handle} (hlook : (p.mux side).lookup id = some h) :
    ∃ s, (p.mux side).streams[h]? = some s ∧ s.id = id ∧ s.phase ≠ .closed ∧
      (p.view id side).stream = some s := by
  obtain ⟨s, hs, hid, hlive⟩ := (hp.sound.sound side).lookup_eq_some_iff.1 hlook
  exact ⟨s, hs, hid, hlive, (hp.unique_mux hl side).find_eq_some_iff.2 ⟨h, hs, hid⟩⟩

theorem live (hp : p.Matched c polite) (hl : p.opened < idLimit)
    {id : StreamId} {h : Handle} (hlook : (p.mux side).lookup id = some h) :
    (p.view id side).stream = some ((p.mux side).stream h) ∧
      ((p.mux side).stream h).phase ≠ .closed := by
  obtain ⟨s, hs, -, hlive, hv⟩ := hp.find_of_lookup hl hlook
  rw [stream_of_getElem? hs]
  exact ⟨hv, hlive⟩

/-- Without an entry in the table the stream of a number is closed, if there is one. -/
theorem closed_of_lookup (hp : p.Matched c polite) (hl : p.opened < idLimit) {id : StreamId}
    (hlook : (p.mux side).lookup id = none) {s : Stream}
    (hs : (p.view id side).stream = some s) : s.phase = .closed := by
  refine Decidable.byContradiction fun hlive => ?_
  obtain ⟨h, hs, hid⟩ := (hp.unique_mux hl side).find_eq_some_iff.1 hs
  have hlook' := (hp.sound.sound side).lookup_eq_some_iff.2 ⟨s, hs, hid, hlive⟩
  simp [hlook] at hlook'

/-- The next number of the asking side is not in its table. -/
theorem lookup_nextId (hp : p.Matched c polite) (hl : p.opened < idLimit) :
    (p.mux .initiator).lookup (p.mux .initiator).nextId = none := by
  cases hlook : (p.mux .initiator).lookup (p.mux .initiator).nextId with
  | none => rfl
  | some h =>
    obtain ⟨s, -, -, -, hs⟩ := hp.find_of_lookup hl hlook
    have hnone : (p.mux .initiator).find (p.mux .initiator).nextId = none :=
      hp.numbered.find_nextId hl
    exact absurd (hnone.symm.trans hs) (by simp)

theorem unanswered (hp : p.Matched c polite) {f : Frame} (queue : p.toward .responder = f :: q)
    (kind : f.kind = .opening) : (p.mux .responder).find f.stream = none := by
  have hq := queue_view_of_toward queue rfl (by simp [kind])
  exact ((hp.reachable f.stream).orderly.fresh f (hq ▸ List.mem_cons_self) kind).1

theorem side_of_opening (hp : p.Matched c polite) {f : Frame} (queue : p.toward side = f :: q)
    (kind : f.kind = .opening) : side = .responder := by
  cases side with
  | responder => rfl
  | initiator =>
    have hq := queue_view_of_toward queue rfl (by simp [kind])
    exact absurd kind ((hp.reachable f.stream).orderly.answers f (hq ▸ List.mem_cons_self))

end Matched

namespace Matched

theorem view_pings (hp : p.Matched c polite) (next : Next p p' side m ns q) {out : List Frame}
    (queued : Queued (p.mux side) m out) (pings : ∀ f ∈ out, f.kind = .ping ∧ f.Readable)
    (silent : ∀ n ∈ ns, n.Silent) {id : StreamId}
    (hq : ofStream id q = p.inFlight side.other id) : p'.view id = p.view id := by
  refine view_eq next (by rw [find, queued.streams]; rfl) ?_ hq fun n hn => silent n hn id
  rw [queued.outbound (hp.sound.sending side), ofStream_append,
    ofStream_eq_nil fun f hf => .inr (pings f hf).1, List.append_nil]
  rfl

theorem view_turned (hp : p.Matched c polite) (hl : p.opened < idLimit) {h : Handle} {d : Deed}
    (next : Next p p' side m (d.notes ((p.mux side).stream h).id) (p.toward side))
    (turn : Turned (p.mux side) m h d) (here : d.IsLocal) (manners : polite → d.Polite)
    (id : StreamId) :
    p'.view id = p.view id ∨ Conversation.Step c polite (p.view id) (p'.view id) := by
  obtain @⟨s, s', out, hstream, turn, mv⟩ := turn
  rw [stream_of_getElem? hstream] at next
  by_cases hid : s.id = id
  · subst hid
    obtain ⟨hv, hself⟩ := Pair.view_turned hp.sound (hp.unique_mux hl side) hstream turn mv next
    rw [hp.sound.role, hp.sound.config] at turn
    refine .inr (.act side hv turn here manners hself ?_)
    rw [view_other next]
    rfl
  · exact .inl (view_turned_ne hp.sound (hp.unique_mux hl side) hstream turn mv next hid rfl)

theorem view_arrived (hp : p.Matched c polite) (hl : p.opened < idLimit) {f : Frame} {h : Handle}
    (queue : p.toward side = f :: q) (next : Next p p' side m [] q)
    (live : (p.mux side).lookup f.stream = some h) (turn : Turned (p.mux side) m h (.arrived f))
    (id : StreamId) :
    p'.view id = p.view id ∨ Conversation.Step c polite (p.view id) (p'.view id) := by
  obtain ⟨s₀, hs₀, hid₀, -, hv⟩ := hp.find_of_lookup hl live
  obtain @⟨s, s', out, hstream, turn, mv⟩ := turn
  obtain rfl : s₀ = s := Option.some.inj (hs₀.symm.trans hstream)
  by_cases hid : s₀.id = id
  · subst hid
    obtain ⟨-, hself⟩ := Pair.view_turned hp.sound (hp.unique_mux hl side) hstream turn mv next
    rw [hp.sound.role, hp.sound.config] at turn
    rw [← hid₀] at hv
    exact .inr (.arrive side hv (queue_view_of_toward queue hid₀.symm turn.arrived.2.2) turn hself
      (view_other next _))
  · refine .inl (view_turned_ne hp.sound (hp.unique_mux hl side) hstream turn mv next hid ?_)
    exact inFlight_of_toward queue (.inl (hid₀ ▸ hid))

theorem view_dropped (hp : p.Matched c polite) (hl : p.opened < idLimit) {f : Frame}
    (queue : p.toward side = f :: q) (kind : f.kind ≠ .opening ∧ f.kind ≠ .ping)
    (deaf : f.Garbled ∨ (p.mux side).lookup f.stream = none)
    (next : Next p p' side (p.mux side) [] q) (id : StreamId) :
    p'.view id = p.view id ∨ Conversation.Step c polite (p.view id) (p'.view id) := by
  by_cases hid : f.stream = id
  · subst hid
    refine .inr (.drop side (queue_view_of_toward queue rfl kind.2) kind.1 ?_
      (view_self_nil next _) (view_other next _))
    exact deaf.imp_right fun hlook s hs => hp.closed_of_lookup hl hlook hs
  · exact .inl (view_eq next rfl rfl (inFlight_of_toward queue (.inl hid)) (by simp))

/-- One side fails, and with it its end of every stream. -/
theorem view_failed {e : LinkError} (rude : ¬polite) (next : Next p p' side m [] (p.toward side))
    (failed : Failed (p.mux side) m e) (id : StreamId) :
    p'.view id = p.view id ∨ Conversation.Step c polite (p.view id) (p'.view id) := by
  have hother : p'.view id side.other = p.view id side.other := view_other next id
  have hself : p'.view id side =
      { p.view id side with stream := ((p.view id side).stream).map (·.failing e) } := by
    rw [view_self_nil next, failed.find, failed.outbound]
    rfl
  cases hv : (p.view id side).stream with
  | none =>
    left
    refine view_ext side ?_ hother
    rw [hself, hv, Option.map_none, ← hv]
  | some s =>
    by_cases hclosed : s.phase = .closed
    · left
      refine view_ext side ?_ hother
      rw [hself, hv, Option.map_some, Stream.failing, if_pos hclosed, ← hv]
    · have turn : Turn side (c side) s .failed [] (s.terminated e) := .fail hclosed
      refine .inr (.act side hv turn (by simp [Deed.IsLocal]) (absurd · rude) ?_ hother)
      rw [hself, hv, Option.map_some, Stream.failing, if_neg hclosed]
      simp [Half.after, Deed.bytesSent, Deed.bytesTaken]

theorem view_asked (hp : p.Matched c polite) (hl : p.opened < idLimit) {d : Destination}
    {payload : Bytes} (next : Next p p' .initiator m [] (p.toward .initiator))
    (inserted : Inserted (p.mux .initiator) m
      (.asked (p.mux .initiator).config (p.mux .initiator).nextId d)
      [⟨.opening, (p.mux .initiator).nextId, payload⟩]) (id : StreamId) :
    p'.view id = p.view id ∨ Conversation.Step c polite (p.view id) (p'.view id) := by
  have hnone : (p.mux .initiator).find (p.mux .initiator).nextId = none :=
    hp.numbered.find_nextId hl
  generalize (p.mux .initiator).nextId = i at inserted hnone
  have hfind : m.find id = if i = id then _ else _ := find_append inserted.streams hnone id
  by_cases hid : i = id
  · subst hid
    refine .inr (.ask (i := i) (d := d) (f := ⟨.opening, i, payload⟩) hnone rfl ?_
      (view_other next i))
    rw [view_self_nil next, hfind, if_pos rfl, inserted.outbound (hp.sound.sending _),
      ofStream_append, hp.sound.config, ofStream_singleton (f := ⟨.opening, i, payload⟩) rfl (by simp)]
    rfl
  · refine .inl (view_eq next (hfind.trans (if_neg hid)) ?_ rfl (by simp))
    rw [inserted.outbound (hp.sound.sending _), ofStream_append, ofStream_singleton_ne hid,
      List.append_nil]
    rfl

theorem view_offered (hp : p.Matched c polite) {f : Frame} {d : Destination}
    (queue : p.toward .responder = f :: q) (kind : f.kind = .opening)
    (next : Next p p' .responder m [] q)
    (inserted : Inserted (p.mux .responder) m (.offered f.stream d) []) (id : StreamId) :
    p'.view id = p.view id ∨ Conversation.Step c polite (p.view id) (p'.view id) := by
  have hfind : m.find id = if f.stream = id then _ else _ :=
    find_append inserted.streams (hp.unanswered queue kind) id
  have hout : m.outbound = (p.mux .responder).outbound := by
    rw [inserted.outbound (hp.sound.sending _), List.append_nil]
  by_cases hid : f.stream = id
  · subst hid
    refine .inr (.offer (i := f.stream) (d := d)
      (queue_view_of_toward queue rfl (by simp [kind])) kind ?_ (view_other next _))
    rw [view_self_nil next, hfind, if_pos rfl, hout]
    rfl
  · refine .inl (view_eq next (hfind.trans (if_neg hid)) ?_
      (inFlight_of_toward queue (.inl hid)) (by simp))
    rw [hout]
    rfl

theorem view_declined (hp : p.Matched c polite) {f : Frame} (queue : p.toward side = f :: q)
    (kind : f.kind = .opening) (next : Next p p' side m [] q)
    (queued : Queued (p.mux side) m [closeFrame f.stream .refused]) (id : StreamId) :
    p'.view id = p.view id ∨ Conversation.Step c polite (p.view id) (p'.view id) := by
  obtain rfl := hp.side_of_opening queue kind
  have hfind : m.find id = (p.mux .responder).find id := by rw [find, queued.streams]; rfl
  by_cases hid : f.stream = id
  · subst hid
    refine .inr (.decline (i := f.stream) (queue_view_of_toward queue rfl (by simp [kind])) kind ?_
      (view_other next _))
    rw [view_self_nil next, hfind, queued.outbound (hp.sound.sending _), ofStream_append,
      ofStream_singleton (closeFrame_stream _ _) (by simp)]
    rfl
  · refine .inl (view_eq next hfind ?_ (inFlight_of_toward queue (.inl hid)) (by simp))
    rw [queued.outbound (hp.sound.sending _), ofStream_append,
      ofStream_singleton_ne (by simpa using hid), List.append_nil]
    rfl

/-- A question is only ignored by a side that has failed: its number is new there. -/
theorem rude_of_ignored (hp : p.Matched c polite) (hl : p.opened < idLimit) {f : Frame}
    (queue : p.toward .responder = f :: q) (kind : f.kind = .opening)
    (why : (p.mux .responder).failed.isSome = true ∨ (p.mux .responder).lookup f.stream ≠ none) :
    ¬polite := by
  intro hpol
  rcases why with hf | hlook
  · simp [hp.unfailed hpol] at hf
  · obtain ⟨h, hlook⟩ := Option.ne_none_iff_exists'.1 hlook
    obtain ⟨s, -, -, -, hv⟩ := hp.find_of_lookup hl hlook
    exact absurd ((hp.unanswered queue kind).symm.trans hv) (by simp)

theorem view_ignored (hp : p.Matched c polite) (hl : p.opened < idLimit) {f : Frame}
    (queue : p.toward side = f :: q) (kind : f.kind = .opening)
    (why : (p.mux side).failed.isSome = true ∨ (p.mux side).lookup f.stream ≠ none)
    (next : Next p p' side (p.mux side) [] q) (id : StreamId) :
    p'.view id = p.view id ∨ Conversation.Step c polite (p.view id) (p'.view id) := by
  obtain rfl := hp.side_of_opening queue kind
  have rude := hp.rude_of_ignored hl queue kind why
  by_cases hid : f.stream = id
  · subst hid
    exact .inr (.ignore rude (queue_view_of_toward queue rfl (by simp [kind])) kind
      (view_self_nil next _) (view_other next _))
  · exact .inl (view_eq next rfl rfl (inFlight_of_toward queue (.inl hid)) (by simp))

end Matched

/-- A tick is a step of what each number sees, or nothing to it. -/
theorem Tick.view (t : Tick polite p p') (hp : p.Matched c polite) (hl : p.opened < idLimit)
    (id : StreamId) :
    p'.view id = p.view id ∨ Conversation.Step c polite (p.view id) (p'.view id) := by
  cases t with
  | quiet side next queued pings silent => exact .inl (hp.view_pings next queued pings silent rfl)
  | pinged side queue kind next queued pings =>
    exact .inl (hp.view_pings next queued pings (by simp) (inFlight_of_toward queue (.inr kind)))
  | turned side next turn here manners => exact hp.view_turned hl next turn here manners id
  | arrived side queue next live turn => exact hp.view_arrived hl queue next live turn id
  | dropped side queue kind deaf next => exact hp.view_dropped hl queue kind deaf next id
  | failed side rude next failed => exact Matched.view_failed rude next failed id
  | asked next free unfailed first inserted =>
    obtain ⟨rfl, -⟩ := first (hp.lookup_nextId hl)
    exact hp.view_asked hl next inserted id
  | offered queue kind free unfailed next inserted => exact hp.view_offered queue kind next inserted id
  | declined side queue kind next queued => exact hp.view_declined queue kind next queued id
  | ignored side queue kind why next => exact hp.view_ignored hl queue kind why next id

/-! ## Runs -/

/-- A side that may only have lost what was on its way from it. -/
theorem Next.eq_other (n : Next p p' side m ns q) :
    (p'.mux side.other).streams = (p.mux side.other).streams ∧
      (p'.mux side.other).nextId = (p.mux side.other).nextId ∧
      (p'.mux side.other).failed = (p.mux side.other).failed := by
  rw [n.other]
  exact ⟨rfl, rfl, rfl⟩

theorem Tick.unfailed (t : Tick polite p p') (hpol : polite)
    (hf : ∀ side, (p.mux side).failed = none) : ∀ side, (p'.mux side).failed = none := by
  have next_unfailed {side : Role} {m : Mux} {ns : List Note} {q : List Frame}
      (n : Next p p' side m ns q) (hm : m.failed = (p.mux side).failed) :
      ∀ side, (p'.mux side).failed = none :=
    Role.forall_of side (by rw [n.self, hm, hf]) (n.eq_other.2.2.trans (hf _))
  cases t with
  | quiet _ next queued | pinged _ _ _ next queued | declined _ _ _ next queued =>
    exact next_unfailed next queued.failed
  | turned _ next turn | arrived _ _ next _ turn =>
    obtain ⟨out, kept⟩ := turn.kept
    exact next_unfailed next kept.failed
  | failed _ rude => exact absurd hpol rude
  | asked next _ _ _ inserted | offered _ _ _ _ next inserted =>
    exact next_unfailed next inserted.failed
  | dropped _ _ _ _ next | ignored _ _ _ _ next => exact next_unfailed next rfl

theorem Next.unique (n : Next p p' side m ns q) (hu : p.responder.Unique)
    (hm : (p.mux side).Unique → side = .responder → m.Unique) : p'.responder.Unique := by
  cases side with
  | initiator => exact hu.congr n.eq_other.1
  | responder =>
    rw [show p'.responder = m from n.self]
    exact hm hu rfl

theorem Tick.unique (t : Tick polite p p') (hp : p.Matched c polite) : p'.responder.Unique := by
  have hu := hp.unique
  cases t with
  | quiet _ next queued | pinged _ _ _ next queued | declined _ _ _ next queued =>
    exact next.unique hu fun h _ => h.congr queued.streams
  | turned _ next turn | arrived _ _ next _ turn =>
    obtain ⟨hs, t, mv⟩ := turn
    exact next.unique hu fun h _ => h.set hs t.id_eq mv.streams
  | failed _ _ next failed => exact next.unique hu fun h _ => failed.unique h
  | asked next => exact next.unique hu fun _ h => by cases h
  | offered queue kind _ _ next inserted =>
    exact next.unique hu fun h _ => h.append inserted.streams (hp.unanswered queue kind)
  | dropped _ _ _ _ next | ignored _ _ _ _ next => exact next.unique hu fun h _ => h

theorem Next.numbered (n : Next p p' side m ns q) (hn : p.initiator.Numbered)
    (hm : (p.mux side).Numbered → side = .initiator → m.Numbered) : p'.initiator.Numbered := by
  cases side with
  | initiator =>
    rw [show p'.initiator = m from n.self]
    exact hm hn rfl
  | responder => exact hn.congr n.eq_other.1 n.eq_other.2.1

theorem Tick.numbered (t : Tick polite p p') (hp : p.Matched c polite) (hl : p'.opened < idLimit) :
    p'.initiator.Numbered := by
  have hn := hp.numbered
  have hlook := hp.lookup_nextId (Nat.lt_of_le_of_lt t.opened_le hl)
  cases t with
  | quiet _ next queued | pinged _ _ _ next queued | declined _ _ _ next queued =>
    exact next.numbered hn fun h hside => h.congr queued.streams (queued.nextId (hside ▸ hlook))
  | turned _ next turn | arrived _ _ next _ turn =>
    obtain ⟨hs, t, mv⟩ := turn
    exact next.numbered hn fun h _ => h.set hs t.id_eq mv.streams mv.nextId
  | failed _ _ next failed => exact next.numbered hn fun h _ => failed.numbered h
  | asked next _ _ first inserted =>
    obtain ⟨hid, hnext⟩ := first hlook
    refine next.numbered hn fun h _ => h.append inserted.streams hid hnext ?_
    rw [← next.self]
    exact hl
  | offered _ _ _ _ next => exact next.numbered hn fun _ h => by cases h
  | dropped _ _ _ _ next | ignored _ _ _ _ next => exact next.numbered hn fun h _ => h

theorem Tick.matched (t : Tick polite p p') (hp : p.Matched c polite) (hl : p'.opened < idLimit) :
    p'.Matched c polite where
  sound := t.sound hp.sound
  unfailed hpol := t.unfailed hpol (hp.unfailed hpol)
  numbered := t.numbered hp hl
  unique := t.unique hp
  reachable id := by
    rcases t.view hp (Nat.lt_of_le_of_lt t.opened_le hl) id with h | h
    · rw [h]
      exact hp.reachable id
    · exact .step (hp.reachable id) h

theorem start_matched (c : Role → Config) (polite : Prop) : (start c).Matched c polite where
  sound := start_sound c
  unfailed _ side := by cases side <;> rfl
  numbered := ⟨by simp [start], rfl⟩
  unique := by simp [Unique, start]
  reachable id := by
    have hv : (start c).view id = fun _ => {} := by
      funext side
      cases side <;> rfl
    exact hv ▸ .start

section Invariant

variable {I : Pair → Prop}

/-- What every tick of a matched pair keeps, any number of ticks keep, as long as the numbers last. -/
theorem ticks_keep
    (keep : ∀ {p p'}, Tick polite p p' → p.Matched c polite → p'.opened < idLimit → I p → I p')
    (hp : p.Matched c polite) (hi : I p) (t : Relation.ReflTransGen (Tick polite) p p')
    (hl : p'.opened < idLimit) : p'.Matched c polite ∧ I p' := by
  induction t with
  | refl => exact ⟨hp, hi⟩
  | tail _ t ih =>
    obtain ⟨hp, hi⟩ := ih (Nat.lt_of_le_of_lt t.opened_le hl)
    exact ⟨t.matched hp hl, keep t hp hl hi⟩

/-- So does a run. -/
theorem run_keeps
    (keep : ∀ {p p'}, Tick polite p p' → p.Matched c polite → p'.opened < idLimit → I p → I p')
    (hs : p.Sound c) (hi : p.opened < idLimit → p.Matched c polite ∧ I p)
    (actions : List Action) (manners : polite → ∀ a ∈ actions, a.Polite) :
    (p.run actions).opened < idLimit → (p.run actions).Matched c polite ∧ I (p.run actions) := by
  induction actions generalizing p with
  | nil => exact hi
  | cons a actions ih =>
    have t := step_ticks hs a fun hpol => manners hpol a List.mem_cons_self
    obtain ⟨hs', hle⟩ := ticks_sound hs t
    refine ih hs' (fun hl => ?_) fun hpol b hb => manners hpol b (List.mem_cons_of_mem a hb)
    obtain ⟨hp, hi⟩ := hi (Nat.lt_of_le_of_lt hle hl)
    exact ticks_keep keep hp hi t hl

end Invariant

/-- A run keeps a pair matched, as long as the numbers last. -/
theorem run_start_matched (c : Role → Config) (actions : List Action)
    (manners : polite → ∀ a ∈ actions, a.Polite)
    (hl : ((start c).run actions).opened < idLimit) : ((start c).run actions).Matched c polite :=
  (run_keeps (I := fun _ => True) (fun _ _ _ _ => trivial) (start_sound c)
    (fun _ => ⟨start_matched c polite, trivial⟩) actions manners hl).1

end Pair

end SealedRelay.Mux
