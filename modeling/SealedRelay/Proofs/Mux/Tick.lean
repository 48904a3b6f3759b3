import SealedRelay.Proofs.Mux.Effect
import SealedRelay.Proofs.Mux.Pair

/-!
# What an action does to a pair

An action is a sequence of ticks, most often a single one. A tick changes one side: one stream takes
a turn, or a new one appears, or all of them fail. It may take a frame off the other side's queue,
and does nothing else to the other side.

Results:
* `Pair.step_ticks`: every action of a sound pair is a sequence of ticks.
* `Pair.Tick.sound`: ticks keep a pair sound.
* `Pair.Tick.opened_le`: no tick takes back a stream.
-/
namespace SealedRelay.Mux

/-- What a deed on a stream tells the caller about its bytes. -/
def Deed.notes (id : StreamId) : Deed → List Note
  | sent bytes => [.wrote id bytes]
  | took chunk => [.got id chunk]
  | _ => []

/-- Actions of programs that end only their own direction without an error, on a connection that does
not fail. -/
def Action.Polite : Action → Prop
  | call _ (.abort _ reason) => reason.isAbort = true
  | call _ (.failAll _) => False
  | _ => True

/-- A note that tells of no bytes. -/
def Note.Silent (n : Note) : Prop := ∀ id, n.wroteOn id = [] ∧ n.gotOn id = []

namespace Pair

/-- Both sides have their own role and configuration and are sound. -/
structure Sound (c : Role → Config) (p : Pair) : Prop where
  role : ∀ side, (p.mux side).role = side
  config : ∀ side, (p.mux side).config = c side
  sending : ∀ side, (p.mux side).sending = true
  sound : ∀ side, (p.mux side).Sound

/-- One side becomes `m` and its callers are told `ns`; `q` is what is then on its way to it. -/
structure Next (p p' : Pair) (side : Role) (m : Mux) (ns : List Note) (q : List Frame) : Prop where
  self : p'.mux side = m
  other : p'.mux side.other = { p.mux side.other with outbound := q }
  notes : p'.notes = p.notes ++ ns.map (side, ·)

/-- The frames on their way to a side. -/
abbrev toward (p : Pair) (side : Role) : List Frame := (p.mux side.other).outbound

inductive Tick (polite : Prop) (p p' : Pair) : Prop where
  | quiet (side : Role) {m : Mux} {ns : List Note} {out : List Frame}
      (next : Next p p' side m ns (p.toward side)) (queued : Queued (p.mux side) m out)
      (pings : ∀ f ∈ out, f.kind = .ping ∧ f.Readable) (silent : ∀ n ∈ ns, n.Silent)
  | turned (side : Role) {m : Mux} {h : Handle} {d : Deed}
      (next : Next p p' side m (d.notes ((p.mux side).stream h).id) (p.toward side))
      (turn : Turned (p.mux side) m h d) (here : d.IsLocal) (manners : polite → d.Polite)
  | failed (side : Role) {m : Mux} {e : LinkError} (rude : ¬polite)
      (next : Next p p' side m [] (p.toward side)) (failed : Failed (p.mux side) m e)
  | asked {m : Mux} {id : StreamId} {d : Destination} {payload : Bytes}
      (next : Next p p' .initiator m [] (p.toward .initiator))
      (free : (p.mux .initiator).lookup id = none) (unfailed : (p.mux .initiator).failed = none)
      (first : (p.mux .initiator).lookup (p.mux .initiator).nextId = none →
        id = (p.mux .initiator).nextId ∧ m.nextId = succId (p.mux .initiator).nextId)
      (inserted : Inserted (p.mux .initiator) m (.asked (p.mux .initiator).config id d)
        [⟨.opening, id, payload⟩])
      (room : (p.mux .initiator).table.length < (p.mux .initiator).config.maxStreams)
      (encoded : d.encode = .ok payload)
  | pinged (side : Role) {m : Mux} {f : Frame} {q out : List Frame} (queue : p.toward side = f :: q)
      (kind : f.kind = .ping) (next : Next p p' side m [] q) (queued : Queued (p.mux side) m out)
      (pings : ∀ f ∈ out, f.kind = .ping ∧ f.Readable)
  | arrived (side : Role) {m : Mux} {f : Frame} {q : List Frame} {h : Handle}
      (queue : p.toward side = f :: q) (next : Next p p' side m [] q)
      (live : (p.mux side).lookup f.stream = some h) (turn : Turned (p.mux side) m h (.arrived f))
  | dropped (side : Role) {f : Frame} {q : List Frame} (queue : p.toward side = f :: q)
      (kind : f.kind ≠ .opening ∧ f.kind ≠ .ping)
      (deaf : f.Garbled ∨ (p.mux side).lookup f.stream = none)
      (next : Next p p' side (p.mux side) [] q)
  | offered {m : Mux} {f : Frame} {q : List Frame} {d : Destination}
      (queue : p.toward .responder = f :: q) (kind : f.kind = .opening)
      (free : (p.mux .responder).lookup f.stream = none)
      (unfailed : (p.mux .responder).failed = none) (next : Next p p' .responder m [] q)
      (inserted : Inserted (p.mux .responder) m (.offered f.stream d) [])
      (room : (p.mux .responder).table.length < (p.mux .responder).config.maxStreams)
  | declined (side : Role) {m : Mux} {f : Frame} {q : List Frame} (queue : p.toward side = f :: q)
      (kind : f.kind = .opening) (next : Next p p' side m [] q)
      (queued : Queued (p.mux side) m [closeFrame f.stream .refused])
  | ignored (side : Role) {f : Frame} {q : List Frame} (queue : p.toward side = f :: q)
      (kind : f.kind = .opening)
      (why : (p.mux side).failed.isSome = true ∨ (p.mux side).lookup f.stream ≠ none)
      (next : Next p p' side (p.mux side) [] q)

/-! ## Actions are ticks -/

variable {c : Role → Config} {polite : Prop} {p p' : Pair} {side : Role}

def put (p : Pair) (side : Role) (m : Mux) (ns : List Note) : Pair :=
  { p.set m side with notes := p.notes ++ ns.map (side, ·) }

@[simp] theorem mux_put (p : Pair) (a b : Role) (m : Mux) (ns : List Note) :
    (p.put a m ns).mux b = if b = a then m else p.mux b := by
  rw [← mux_set]
  cases b <;> rfl

theorem next_put (p : Pair) (side : Role) (m : Mux) (ns : List Note) :
    Next p (p.put side m ns) side m ns (p.toward side) where
  self := by simp
  other := by simp
  notes := rfl

theorem put_put (p : Pair) (side : Role) (m m' : Mux) (ns : List Note) :
    (p.put side m ns).put side m' [] = p.put side m' ns := by
  cases side <;> simp [put, set]

theorem Tick.call_quiet {m : Mux} {ns : List Note} {out : List Frame}
    (q : Queued (p.mux side) m out) (pings : ∀ f ∈ out, f.kind = .ping ∧ f.Readable)
    (hn : ∀ n ∈ ns, n.Silent) :
    Tick polite p (p.put side m ns) :=
  .quiet side (next_put p side m ns) q pings hn

theorem Tick.call_same {m : Mux} (hm : m = p.mux side) : Tick polite p (p.put side m []) := by
  subst hm
  exact .call_quiet (Queued.refl _) (by simp) (by simp)

theorem Tick.call_turned {m : Mux} {h : Handle} {d : Deed} (t : Turned (p.mux side) m h d)
    (here : d.IsLocal) (manners : polite → d.Polite) {ns : List Note}
    (hn : ns = d.notes ((p.mux side).stream h).id) : Tick polite p (p.put side m ns) :=
  .turned side (hn ▸ next_put p side m ns) t here manners

/-- A call that changes nothing or takes one turn, and tells of no bytes. -/
theorem Tick.call_cases {m : Mux} {h : Handle} {d : Deed}
    (hm : m = p.mux side ∨ Turned (p.mux side) m h d) (here : d.IsLocal)
    (manners : polite → d.Polite) (hn : ∀ id, d.notes id = []) : Tick polite p (p.put side m []) := by
  rcases hm with hm | ht
  · exact .call_same hm
  · exact .call_turned ht here manners (hn _).symm

theorem Tick.call_send (p : Pair) (side : Role) (h : Handle) (data : Bytes) :
    Tick polite p (p.put side
      (noteSent ((p.mux side).stream h).id data ((p.mux side).send h data)).2
      (noteSent ((p.mux side).stream h).id data ((p.mux side).send h data)).1) := by
  rcases send_cases (p.mux side) h data with ⟨n, hok, ht⟩ | ⟨hm, hok⟩
  · generalize (p.mux side).send h data = r at hok ht
    obtain ⟨_, m⟩ := r
    obtain rfl : _ = Except.ok n := hok
    exact .call_turned ht (by simp [Deed.IsLocal]) (fun _ => trivial) rfl
  · generalize (p.mux side).send h data = r at hm hok
    obtain ⟨r, m⟩ := r
    cases r with
    | error e => exact .call_same hm
    | ok n =>
      obtain rfl : n = 0 := hok n rfl
      obtain rfl : m = p.mux side := hm
      refine .call_quiet (Queued.refl _) (by simp) ?_
      simp [noteSent, Note.Silent, Note.wroteOn, Note.gotOn]

theorem Tick.call_read (hm : (p.mux side).Sound) (h : Handle) :
    Tick polite p (p.put side
      (noteRead ((p.mux side).stream h).id ((p.mux side).read h)).2
      (noteRead ((p.mux side).stream h).id ((p.mux side).read h)).1) := by
  rcases read_cases hm h with ⟨chunk, hok, ht⟩ | ⟨hm', hok⟩
  · generalize (p.mux side).read h = r at hok ht
    obtain ⟨_, m⟩ := r
    obtain rfl : _ = Except.ok (ReadOutcome.chunk chunk) := hok
    exact .call_turned ht (by simp [Deed.IsLocal]) (fun _ => trivial) rfl
  · generalize (p.mux side).read h = r at hm' hok
    obtain ⟨r, m⟩ := r
    match r, hok with
    | .error _, _ => exact .call_same hm'
    | .ok .eof, _ => exact .call_same hm'
    | .ok .pending, _ => exact .call_same hm'
    | .ok (.chunk chunk), hok => exact absurd rfl (hok chunk)

theorem Tick.call_abort (hp : p.Sound c) (h : Handle) {reason : CloseReason}
    (manners : polite → reason.isAbort = true) :
    Tick polite p (p.put side ((p.mux side).abort h reason) []) :=
  .call_cases (abort_cases (hp.sound side) h reason) (by simp [Deed.IsLocal]) manners fun _ => rfl

theorem Tick.call_halfClose (hp : p.Sound c) (h : Handle) :
    Tick polite p (p.put side ((p.mux side).halfClose h) []) := by
  rcases halfClose_cases (hp.sound side) h with hm | ht | ht
  · exact .call_same hm
  · exact .call_turned ht (by simp [Deed.IsLocal]) (fun _ => trivial) rfl
  · exact .call_turned ht (by simp [Deed.IsLocal]) (fun _ => by rfl) rfl

theorem Tick.call_openStream (hp : p.Sound c) (d : Destination) :
    Tick polite p (p.put side ((p.mux side).openStream d).2 []) := by
  rcases openStream_cases (p.mux side) d with
    q | ⟨hr, hf, hroom, id, payload, hd, hfree, hfirst, hi⟩
  · exact .call_quiet q (by simp) (by simp)
  · obtain rfl : side = .initiator := (hp.role side).symm.trans hr
    exact .asked (next_put p _ _ []) hfree hf hfirst hi hroom hd

theorem resets_ticks (p : Pair) (side : Role) {m m' : Mux} (hr : Relation.ReflTransGen Reset m m') :
    Relation.ReflTransGen (Tick polite) (p.put side m []) (p.put side m' []) := by
  induction hr with
  | refl => exact .refl
  | @tail m₁ m₂ _ ht ih =>
    obtain ⟨h, ht⟩ := ht
    refine ih.tail ?_
    have hm : (p.put side m₁ []).mux side = m₁ := by simp
    rw [← put_put p side m₁ m₂]
    exact .call_turned (hm.symm ▸ ht) (by simp [Deed.IsLocal]) (fun _ => by rfl) rfl

theorem call_ticks (hp : p.Sound c) (side : Role) (call : Call)
    (manners : polite → (Action.call side call).Polite) :
    Relation.ReflTransGen (Tick polite) p
      (p.put side (call.run (p.mux side)).2 (call.run (p.mux side)).1) := by
  have hs := hp.sound side
  cases call with
  | openStream d => exact .single (.call_openStream hp d)
  | expireOpen h =>
    simp only [Call.run]
    split
    · rename_i hr
      exact .single (.call_cases (expireOpen_cases hs h hr) (by simp [Deed.IsLocal])
        (fun _ => trivial) fun _ => rfl)
    · exact .single (.call_same rfl)
  | accept h =>
    simp only [Call.run]
    split
    · rename_i hr
      exact .single (.call_cases (accept_cases h hr) (by simp [Deed.IsLocal])
        (fun _ => trivial) fun _ => rfl)
    · exact .single (.call_same rfl)
  | send h data => exact .single (.call_send p side h data)
  | sendTo id data =>
    simp only [Call.run, sendTo]
    split
    · exact .single (.call_same rfl)
    · rename_i h hl
      obtain ⟨s, hstream, hid, -⟩ := hs.lookup_eq_some_iff.1 hl
      rw [← hid, ← stream_of_getElem? hstream]
      exact .single (.call_send p side h data)
  | read h => exact .single (.call_read hs h)
  | halfClose h => exact .single (.call_halfClose hp h)
  | abort h reason => exact .single (.call_abort hp h manners)
  | closeStream id reason =>
    simp only [Call.run, closeStream]
    split
    · exact .single (.call_same rfl)
    split
    · rename_i hr
      exact .single (.call_abort hp _ fun _ => hr)
    · exact .single (.call_halfClose hp _)
  | dropHandle h => exact .single (.call_abort hp h fun _ => rfl)
  | nextIncoming =>
    have q : Queued (p.mux side) (p.mux side).nextIncoming.2 [] := by
      unfold nextIncoming
      split
      · exact { Queued.refl _ with }
      · exact Queued.refl _
    exact .single (.call_quiet q (by simp) (by simp [Call.run]))
  | dropIncoming =>
    obtain ⟨m₀, q, hr⟩ := dropIncoming_resets hs
    have first : Tick polite p (p.put side m₀ []) := .call_quiet q (by simp) (by simp)
    exact .head first (resets_ticks p side hr)
  | ping =>
    exact .single (.call_quiet (Queued.emit _ _) (by simp [Frame.Readable]) (by simp [Call.run]))
  | failAll e =>
    by_cases hpol : polite
    · exact (manners hpol).elim
    · exact .single (.failed side hpol (next_put p side _ []) (failAll_failed hs e))

/-- The frame on its way to a side is taken off and the side becomes `m`. -/
def passed (p : Pair) (side : Role) (q : List Frame) (m : Mux) : Pair :=
  (p.set { p.mux side.other with outbound := q } side.other).set m side

theorem next_passed (p : Pair) (side : Role) (q : List Frame) (m : Mux) :
    Next p (p.passed side q m) side m [] q where
  self := by simp [passed]
  other := by simp [passed]
  notes := by simp [passed]

theorem put_passed (p : Pair) (side : Role) (q : List Frame) (m m' : Mux) :
    (p.passed side q m).put side m' [] = p.passed side q m' := by
  cases side <;> simp [put, passed, set]

theorem mux_deliver {f : Frame} {q : List Frame} (queue : p.toward side = f :: q) :
    (p.step (.deliver side)).mux side = ((p.mux side).receive f).2 := by
  simp only [step]
  rw [show (p.mux side.other).outbound = f :: q from queue]
  simp

theorem deliver_ticks (hp : p.Sound c) (side : Role) :
    Relation.ReflTransGen (Tick polite) p (p.step (.deliver side)) := by
  have hs := hp.sound side
  simp only [step]
  split
  · exact .refl
  rename_i f q hq
  have hm : (p.set { p.mux side.other with outbound := q } side.other).mux side = p.mux side := by
    simp
  rw [hm]
  change Relation.ReflTransGen (Tick polite) p (p.passed side q ((p.mux side).receive f).2)
  by_cases hping : f.kind = .ping
  · obtain ⟨out, hout, queued⟩ := receive_ping (p.mux side) hping
    exact .single (.pinged side hq hping (next_passed p side q _) queued hout)
  by_cases hopen : f.kind = .opening
  · rcases receive_opening hs hopen with ⟨hsame, why⟩ | ⟨queued, -⟩ | ⟨hr, hf, hl, hroom, d, m₁, hi, he⟩
    · rw [hsame]
      exact .single (.ignored side hq hopen why (next_passed p side q _))
    · exact .single (.declined side hq hopen (next_passed p side q _) queued)
    · obtain rfl : side = .responder := (hp.role side).symm.trans hr
      have first : Tick polite p (p.passed .responder q m₁) :=
        .offered hq hopen hl hf (next_passed p _ q m₁) hi hroom
      rcases he with he | ht
      · rw [he]
        exact .single first
      · have hself : (p.passed .responder q m₁).mux .responder = m₁ := by simp [passed]
        rw [← put_passed p .responder q m₁]
        exact .tail (.single first)
          (.call_turned (hself.symm ▸ ht) (by simp [Deed.IsLocal]) (fun _ => by rfl) rfl)
  · rcases receive_cases hs hopen hping with ⟨hsame, deaf⟩ | ⟨h, hl, ht⟩
    · rw [hsame]
      exact .single (.dropped side hq ⟨hopen, hping⟩ deaf (next_passed p side q _))
    · exact .single (.arrived side hq (next_passed p side q _) hl ht)

/-- Every action is a sequence of ticks. -/
theorem step_ticks (hp : p.Sound c) (a : Action) (manners : polite → a.Polite) :
    Relation.ReflTransGen (Tick polite) p (p.step a) := by
  cases a with
  | call side call => exact call_ticks hp side call manners
  | deliver side => exact deliver_ticks hp side

/-! ## Ticks keep a pair sound -/

theorem Next.sound {m : Mux} {ns : List Note} {q : List Frame} (n : Next p p' side m ns q)
    (hp : p.Sound c) (hr : m.role = (p.mux side).role) (hc : m.config = (p.mux side).config)
    (hs : m.sending = (p.mux side).sending) (hm : m.Sound) : p'.Sound c where
  role := Role.forall_of side (by rw [n.self, hr, hp.role]) (by rw [n.other]; exact hp.role _)
  config := Role.forall_of side (by rw [n.self, hc, hp.config]) (by rw [n.other]; exact hp.config _)
  sending := Role.forall_of side (by rw [n.self, hs, hp.sending]) (by rw [n.other]; exact hp.sending _)
  sound := Role.forall_of side (by rw [n.self]; exact hm)
    (by rw [n.other]; exact { hp.sound side.other with })

theorem Next.opened_le {m : Mux} {ns : List Note} {q : List Frame} (n : Next p p' side m ns q)
    (hl : (p.mux side).streams.length ≤ m.streams.length) : p.opened ≤ p'.opened := by
  cases side with
  | initiator => exact Nat.le_trans hl (by rw [← n.self]; exact Nat.le_refl _)
  | responder =>
    have ho : p'.initiator = { p.initiator with outbound := q } := n.other
    exact Nat.le_of_eq (by rw [opened, opened, ho])

theorem Tick.sound (t : Tick polite p p') (hp : p.Sound c) : p'.Sound c := by
  cases t with
  | quiet side next queued _ _ | pinged side _ _ next queued _ | declined side _ _ next queued =>
    exact next.sound hp queued.role queued.config queued.sending ((hp.sound side).queued queued)
  | turned side next turn _ _ | arrived side _ next _ turn =>
    obtain ⟨out, kept⟩ := turn.kept
    exact next.sound hp kept.role kept.config kept.sending ((hp.sound side).turned turn)
  | failed side _ next failed =>
    exact next.sound hp failed.role failed.config failed.sending (failed.sound (hp.sound side))
  | asked next free unfailed _ inserted =>
    refine next.sound hp inserted.role inserted.config inserted.sending
      ((hp.sound _).inserted inserted ?_ (by simp [Stream.asked]) unfailed free)
    rw [hp.role]
    exact Stream.sound_asked _ _ _
  | offered _ _ free unfailed next inserted =>
    refine next.sound hp inserted.role inserted.config inserted.sending
      ((hp.sound _).inserted inserted ?_ (by simp [Stream.offered]) unfailed free)
    rw [hp.role]
    exact Stream.sound_offered _ _ _
  | dropped side _ _ _ next | ignored side _ _ _ next =>
    exact next.sound hp rfl rfl rfl (hp.sound side)

theorem Tick.opened_le (t : Tick polite p p') : p.opened ≤ p'.opened := by
  cases t with
  | quiet _ next queued _ _ | pinged _ _ _ next queued _ | declined _ _ _ next queued =>
    exact next.opened_le (by simp [queued.streams])
  | turned _ next turn _ _ | arrived _ _ next _ turn =>
    exact next.opened_le (Nat.le_of_eq turn.length_streams.symm)
  | failed _ _ next failed => exact next.opened_le (by simp [failed.streams])
  | asked next _ _ _ inserted | offered _ _ _ _ next inserted =>
    exact next.opened_le (by simp [inserted.streams])
  | dropped _ _ _ _ next | ignored _ _ _ _ next => exact next.opened_le (Nat.le_refl _)

theorem ticks_sound (hp : p.Sound c) (t : Relation.ReflTransGen (Tick polite) p p') :
    p'.Sound c ∧ p.opened ≤ p'.opened := by
  induction t with
  | refl => exact ⟨hp, Nat.le_refl _⟩
  | tail _ t ih => exact ⟨t.sound ih.1, Nat.le_trans ih.2 t.opened_le⟩

theorem start_sound (c : Role → Config) : (start c).Sound c where
  role side := by cases side <;> rfl
  config side := by cases side <;> rfl
  sending side := by cases side <;> rfl
  sound side := by cases side <;> exact sound_fresh _ _

end Pair

end SealedRelay.Mux
