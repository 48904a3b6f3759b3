import SealedRelay.Proofs.Mux.Credit
import SealedRelay.Proofs.Mux.Emission

/-!
# No more is sent than was granted

Against any other side at all, a stream keeps its accounts: what it has sent and what it may still send make
up the credit that has been granted for it. Credit comes with acks that arrive while the stream is live, but
not while this side has yet to confirm it. Nothing is sent before the confirmation, and nothing after this
side has ended its direction or the stream has closed.

Results:
* `Emitted.data`: every data frame that is queued belongs to a stream that may send.
* `step_spends`, `run_spends`: the accounts of one stream over an event and over a run.
* `sent_within_credit`: so they stand at any time.
-/
namespace SealedRelay.Mux

variable {role : Role} {c : Config} {s s' : Stream} {d : Deed} {out : List Frame} {e : Event}
  {m m₁ m' : Mux} {h k : Handle} {f : Frame} {credit : Nat}

/-! ## Data frames -/

theorem Turn.payload_out (t : Turn role c s d out s') (hf : f ∈ out) (hk : f.kind = .data) :
    f.payload ≠ [] := by
  cases t with
  | send => exact (payload_of_mem_dataFrames hf).1
  | take | fail | data | refusal | tear | finish | early | credit =>
    exact absurd hf List.not_mem_nil
  | takeAndGrant | accept | halfClose | abort | expire | excess | confirm =>
    obtain rfl := List.mem_singleton.1 hf
    simp at hk

/-- A data frame of the stream behind `h`: the stream is live, and it may send. -/
structure Sending (m : Mux) (h : Handle) (f : Frame) : Prop where
  stream : f.stream = (m.stream h).id
  lookup : m.lookup f.stream = some h
  phase : (m.stream h).phase = .open_ ∨ (m.stream h).phase = .remoteClosing
  payload : f.payload ≠ []

theorem Turn.sending (t : Turn m.role m.config s d out s') (hm : m.Sound)
    (hs : m.streams[h]? = some s) (hf : f ∈ out) (hk : f.kind = .data) : m.Sending h f := by
  obtain ⟨phase, -⟩ := t.data_out hf hk
  have hid := (t.out_stream f hf).1
  have hlive : s.phase ≠ .closed := by rcases phase with hp | hp <;> simp [hp]
  have hstream := stream_of_getElem? hs
  exact ⟨hstream ▸ hid, hid ▸ hm.lookup_eq_some_iff.2 ⟨s, hs, rfl, hlive⟩, hstream ▸ phase,
    t.payload_out hf hk⟩

/-- Every data frame that is queued belongs to a stream that may send. -/
theorem Emitted.data (em : Emitted e m m' out) (hm : m.Sound) (hf : f ∈ out) (hk : f.kind = .data) :
    ∃ h, m.Sending h f := by
  induction em with
  | first emits =>
    cases emits with
    | quiet _ pings => rcases pings f hf with rfl | rfl <;> cases hk
    | turned stream turn => exact ⟨_, turn.sending hm stream hf hk⟩
    | failed | offered => exact absurd hf List.not_mem_nil
    | asked | declined => rw [List.mem_singleton.1 hf] at hk; cases hk
  | torn _ _ _ _ ih =>
    rcases List.mem_append.1 hf with hf | hf
    · exact ih hf
    · rw [List.mem_singleton.1 hf] at hk
      cases hk

/-- The data frames among some that belong to the stream behind `h`. -/
def dataOf (m : Mux) (h : Handle) (out : List Frame) : List Frame :=
  out.filter fun f => f.kind = .data ∧ m.lookup f.stream = some h

theorem mem_dataOf : f ∈ m.dataOf h out ↔ f ∈ out ∧ f.kind = .data ∧ m.lookup f.stream = some h := by
  simp [dataOf]

theorem dataOf_eq_nil (hout : ∀ f ∈ out, f.kind ≠ .data) : m.dataOf h out = [] :=
  List.filter_eq_nil_iff.2 fun f hf => by simp [hout f hf]

theorem dataOf_closed (m : Mux) (h : Handle) (out : List Frame) (id : StreamId) (reason : CloseReason) :
    m.dataOf h (out ++ [closeFrame id reason]) = m.dataOf h out := by
  simp [dataOf, closeFrame]

theorem Turn.bytesIn_dataOf (t : Turn m.role m.config s d out s') (hm : m.Sound)
    (hs : m.streams[k]? = some s) (h : Handle) :
    bytesIn (m.dataOf h out) = if h = k then d.bytesSent else [] := by
  by_cases hdata : ∃ f ∈ out, f.kind = .data
  · obtain ⟨f, hf, hk⟩ := hdata
    have hall : ∀ g ∈ out, g.kind = .data ∧ m.lookup g.stream = some k := fun g hg =>
      have hgk := (t.data_out hf hk).2 g hg
      ⟨hgk, (t.sending hm hs hg hgk).lookup⟩
    by_cases hh : h = k
    · have hself : m.dataOf h out = out :=
        List.filter_eq_self.2 fun g hg => by simpa [hh] using hall g hg
      rw [if_pos hh, hself, t.bytes_out]
    · have hnone : m.dataOf h out = [] :=
        List.filter_eq_nil_iff.2 fun g hg => by simp [hall g hg, Ne.symm hh]
      rw [if_neg hh, hnone, bytesIn_nil]
  · have hnone : ∀ g ∈ out, g.kind ≠ .data := fun g hg hk => hdata ⟨g, hg, hk⟩
    rw [dataOf_eq_nil hnone, ← t.bytes_out, bytesIn_eq_nil hnone, ite_self, bytesIn_nil]

/-! ## Accounts -/

/-- The credit that an event grants the stream behind `h`: what an ack for it says, unless this side has yet
to confirm the stream. -/
def creditOf (m : Mux) (h : Handle) : Event → Nat
  | .call _ => 0
  | .frame f =>
    if m.lookup f.stream = some h ∧ (m.role = .responder → (m.stream h).phase ≠ .pendingOpen) then
      f.credit
    else 0

/-- From `m` to `m'`, with `out` queued, the stream behind `h` is granted `credit` and spends what it
sends. -/
structure Spends (m m' : Mux) (h : Handle) (credit : Nat) (out : List Frame) : Prop where
  le : (m'.stream h).sendWindow + (bytesIn (m.dataOf h out)).length ≤ (m.stream h).sendWindow + credit
  eq : (m.stream h).sendWindow + credit ≤ Stream.largestWindow →
    (m'.stream h).sendWindow + (bytesIn (m.dataOf h out)).length = (m.stream h).sendWindow + credit

/-- Until the side that is asked confirms a stream, nothing is sent on it and its window stays shut. -/
theorem Turn.sendWindow_unconfirmed (t : Turn role c s d out s') (asked : role = .responder)
    (pending : s.phase = .pendingOpen) : s'.sendWindow = s.sendWindow ∧ d.bytesSent = [] := by
  cases t with
  | send phase => rcases phase with hp | hp <;> cases pending.symm.trans hp
  | confirm _ _ asking => cases asked.symm.trans asking
  | credit _ _ confirmed => exact absurd pending confirmed
  | abort | fail | excess | refusal | tear => exact ⟨Stream.sendWindow_terminated _ _, rfl⟩
  | _ => exact ⟨rfl, rfl⟩

theorem Inserted.sendWindow_stream (i : Inserted m m' s out) (hs : s.sendWindow = 0) (h : Handle) :
    (m'.stream h).sendWindow = (m.stream h).sendWindow := by
  rw [stream, stream, i.streams, List.getD_eq_getElem?_getD, List.getD_eq_getElem?_getD,
    List.getElem?_append]
  split
  · rfl
  · rename_i hlen
    rw [List.getElem?_eq_none (Nat.le_of_not_lt hlen), List.getElem?_singleton]
    split
    · exact hs
    · rfl

/-- An event that brings about a deed of another stream grants nothing. -/
theorem creditOf_of_causes_ne (cause : e.Causes m k d) (hh : h ≠ k) : m.creditOf h e = 0 := by
  cases d with
  | arrived f =>
    obtain ⟨rfl, hl⟩ := cause
    simp [creditOf, hl, Ne.symm hh]
  | failed => exact cause.elim
  | sent | accepted | halfClosed | aborted =>
    obtain ⟨_, rfl⟩ := cause
    rfl
  | took | expired =>
    obtain rfl := cause
    rfl

/-- One that brings about a deed of a confirmed stream grants what the frames of the deed say. -/
theorem creditOf_of_causes (cause : e.Causes m h d)
    (confirmed : m.role = .responder → (m.stream h).phase ≠ .pendingOpen) :
    m.creditOf h e = creditIn d.frames := by
  cases d with
  | arrived f =>
    obtain ⟨rfl, hl⟩ := cause
    simp only [creditOf, if_pos (And.intro hl confirmed)]
    rfl
  | failed => exact cause.elim
  | sent | accepted | halfClosed | aborted =>
    obtain ⟨_, rfl⟩ := cause
    rfl
  | took | expired =>
    obtain rfl := cause
    rfl

/-- One that finds a stream unconfirmed on the side that is asked grants nothing. -/
theorem creditOf_unconfirmed (asked : m.role = .responder)
    (pending : (m.stream h).phase = .pendingOpen) (e : Event) : m.creditOf h e = 0 := by
  cases e with
  | call => rfl
  | frame f => exact if_neg fun hc => hc.2 asked pending

namespace Spends

theorem idle (hout : ∀ f ∈ out, f.kind ≠ .data)
    (hw : (m'.stream h).sendWindow = (m.stream h).sendWindow) : Spends m m' h 0 out := by
  have hsame : (m'.stream h).sendWindow + (bytesIn (m.dataOf h out)).length =
      (m.stream h).sendWindow + 0 := by
    rw [dataOf_eq_nil hout, hw]
    rfl
  exact ⟨Nat.le_of_eq hsame, fun _ => hsame⟩

/-- A turn spends what it sends of what it is granted. -/
theorem turned (hm : m.Sound) (hs : m.streams[k]? = some s) (turn : Turn m.role m.config s d out s')
    (moved : Moved m m' k out s') (cause : e.Causes m k d) (h : Handle) :
    Spends m m' h (m.creditOf h e) out := by
  have hbytes := turn.bytesIn_dataOf hm hs h
  by_cases hh : h = k
  · subst hh
    rw [if_pos rfl] at hbytes
    have hstream := stream_of_getElem? hs
    have hafter := moved.stream_self hs
    by_cases unconfirmed : m.role = .responder ∧ s.phase = .pendingOpen
    · obtain ⟨asked, pending⟩ := unconfirmed
      obtain ⟨hw, hnone⟩ := turn.sendWindow_unconfirmed asked pending
      rw [creditOf_unconfirmed asked (hstream ▸ pending)]
      constructor <;> simp [hbytes, hnone, hstream, hafter, hw]
    · have confirmed (asked : m.role = .responder) : s.phase ≠ .pendingOpen := fun pending =>
        unconfirmed ⟨asked, pending⟩
      rw [creditOf_of_causes cause (hstream ▸ confirmed)]
      constructor
      · rw [hbytes, hstream, hafter]
        exact turn.sendWindow_le
      · rw [hbytes, hstream, hafter]
        exact fun fits => turn.sendWindow_eq fits fun asked pending => absurd pending (confirmed asked)
  · rw [if_neg hh] at hbytes
    rw [creditOf_of_causes_ne cause hh]
    constructor <;> simp [hbytes, moved.stream_other hh]

end Spends

theorem Emits.spends (em : Emits e m m' out) (hm : m.Sound) (hz : m.creditOf h e = 0) :
    Spends m m' h 0 out := by
  cases em with
  | quiet queued pings =>
    refine .idle (fun f hf => ?_) (by rw [stream, queued.streams, ← stream])
    rcases pings f hf with rfl | rfl <;> simp
  | turned stream turn moved cause => exact hz ▸ .turned hm stream turn moved cause h
  | @failed cause failed =>
    refine .idle (by simp) ?_
    rw [stream, stream, failed.streams, List.getD_eq_getElem?_getD, List.getD_eq_getElem?_getD,
      List.getElem?_map]
    cases m.streams[h]? with
    | none => rfl
    | some s => by_cases hp : s.phase = .closed <;> simp [Stream.failing, hp]
  | asked _ _ _ _ _ _ _ inserted => exact .idle (by simp) (inserted.sendWindow_stream rfl h)
  | offered _ _ _ _ _ _ _ inserted => exact .idle (by simp) (inserted.sendWindow_stream rfl h)
  | declined _ _ queued => exact .idle (by simp) (by rw [stream, queued.streams, ← stream])

theorem Emitted.spends (em : Emitted e m m' out) (hm : m.Sound) (hz : m.creditOf h e = 0) :
    Spends m m' h 0 out := by
  induction em with
  | first emits => exact emits.spends hm hz
  | @torn m₁ m' out k s reason _ stream _ moved ih =>
    have hw : (m'.stream h).sendWindow = (m₁.stream h).sendWindow := by
      by_cases hh : h = k
      · subst hh
        rw [moved.stream_self stream, Stream.sendWindow_terminated, stream_of_getElem? stream]
      · rw [moved.stream_other hh]
    constructor
    · rw [hw, dataOf_closed]
      exact ih.le
    · rw [hw, dataOf_closed]
      exact ih.eq

/-- **What a stream spends over an event.** -/
theorem step_spends (hm : Going c m) (h : Handle) (e : Event) :
    Spends m (m.step e) h (m.creditOf h e) (m.queued [e]) := by
  by_cases hz : m.creditOf h e = 0
  · rw [hz]
    exact (emitted_queued hm.sound hm.sending e).spends hm.sound hz
  · -- only an ack grants anything, and one that does is a turn of the stream
    cases e with
    | call => exact absurd rfl hz
    | frame f =>
      have hl : m.lookup f.stream = some h := by
        refine Decidable.byContradiction fun hn => hz (if_neg fun hc => hn hc.1)
      have hcredit : f.credit ≠ 0 := by
        intro hf
        rw [creditOf, hf, ite_self] at hz
        exact hz rfl
      have hack : f.kind = .ack := Decidable.byContradiction fun hk => hcredit (by simp [Frame.credit, hk])
      rcases receive_cases hm.sound (f := f) (by simp [hack]) (by simp [hack]) with
        ⟨-, garbled | hnone⟩ | ⟨k, hk, turned⟩
      · exact absurd garbled.credit hcredit
      · cases hl.symm.trans hnone
      · obtain @⟨_, _, out, stream, turn, moved, -⟩ := turned
        have hout : m.queued [.frame f] = out := by
          rw [queued, show m.run [.frame f] = (m.receive f).2 from rfl, moved.outbound hm.sending,
            List.drop_left]
        exact hout ▸ .turned hm.sound stream turn moved ⟨rfl, hk⟩ h

/-! ## Runs -/

/-- The data frames that events queue on the stream behind `h`. -/
def sentOn (m : Mux) (h : Handle) : List Event → List Frame
  | [] => []
  | e :: events => m.dataOf h (m.queued [e]) ++ (m.step e).sentOn h events

/-- The credit that events grant the stream behind `h`. -/
def grantedOn (m : Mux) (h : Handle) : List Event → Nat
  | [] => 0
  | e :: events => m.creditOf h e + (m.step e).grantedOn h events

/-- A stream spends of what it is granted and keeps the rest, unless that is more than a window can hold. -/
theorem run_spends (hm : Going c m) (h : Handle) (events : List Event) :
    ((m.run events).stream h).sendWindow + (bytesIn (m.sentOn h events)).length ≤
        (m.stream h).sendWindow + m.grantedOn h events ∧
      ((m.stream h).sendWindow + m.grantedOn h events ≤ Stream.largestWindow →
        ((m.run events).stream h).sendWindow + (bytesIn (m.sentOn h events)).length =
          (m.stream h).sendWindow + m.grantedOn h events) := by
  induction events generalizing m with
  | nil => exact ⟨Nat.le_refl _, fun _ => rfl⟩
  | cons e events ih =>
    have first := step_spends hm h e
    obtain ⟨hle, heq⟩ := ih (hm.step e)
    have hrun : m.run (e :: events) = (m.step e).run events := rfl
    rw [hrun, sentOn, grantedOn, bytesIn_append, List.length_append]
    refine ⟨?_, fun fits => ?_⟩
    · have := first.le
      omega
    · have := first.eq (by omega)
      have := heq (by omega)
      omega

/-- What an event queues on a stream, while that is there and may send. -/
theorem sending_of_mem (hm : Going c m) (hf : f ∈ m.dataOf h (m.queued [e])) :
    m.Sending h f ∧ ∃ s, m.streams[h]? = some s := by
  obtain ⟨hout, hk, hl⟩ := mem_dataOf.1 hf
  obtain ⟨k, hsending⟩ := (emitted_queued hm.sound hm.sending e).data hm.sound hout hk
  obtain rfl := Option.some.inj (hsending.lookup.symm.trans hl)
  obtain ⟨s, hs, -⟩ := hm.sound.lookup_eq_some_iff.1 hl
  exact ⟨hsending, s, hs⟩

theorem of_mem_sentOn (hm : Going c m) {events : List Event} (hf : f ∈ m.sentOn h events) :
    f.kind = .data ∧ f.payload ≠ [] ∧ ∃ s, (m.run events).streams[h]? = some s ∧ s.id = f.stream := by
  induction events generalizing m with
  | nil => exact absurd hf List.not_mem_nil
  | cons e events ih =>
    rcases List.mem_append.1 hf with hf | hf
    · obtain ⟨hsending, s, hs⟩ := sending_of_mem hm hf
      have hid : s.id = f.stream := by rw [hsending.stream, stream_of_getElem? hs]
      refine ⟨(mem_dataOf.1 hf).2.1, hsending.payload, ?_⟩
      exact run_stream (P := fun s => s.id = f.stream) (fun hnext hp => hnext.id.trans hp) hm hs hid
        (e :: events)
    · exact ih (hm.step e) hf

/-- Nothing has been sent on a stream that is not confirmed. -/
theorem sentOn_of_pending (hm : Going c m) {events : List Event}
    (hp : ((m.run events).stream h).phase = .pendingOpen) : m.sentOn h events = [] := by
  induction events generalizing m with
  | nil => rfl
  | cons e events ih =>
    rw [sentOn, ih (hm.step e) hp, List.append_nil]
    refine List.eq_nil_iff_forall_not_mem.2 fun f hf => ?_
    obtain ⟨hsending, s, hs⟩ := sending_of_mem hm hf
    have hconfirmed : s.phase ≠ .pendingOpen := by
      rw [← stream_of_getElem? hs]
      rcases hsending.phase with h | h <;> simp [h]
    obtain ⟨s', hs', hp'⟩ := run_stream (P := fun s => s.phase ≠ .pendingOpen)
      (fun hnext => hnext.phase.confirmed) hm hs hconfirmed (e :: events)
    rw [stream_of_getElem? hs'] at hp
    exact hp' hp

/-- Nothing is sent any more on a stream that this side has ended or that has closed. -/
theorem sentOn_of_ended (hm : Going c m) (hs : m.streams[h]? = some s)
    (hp : s.phase = .localClosing ∨ s.phase = .closed) (events : List Event) :
    m.sentOn h events = [] := by
  induction events generalizing m s with
  | nil => rfl
  | cons e events ih =>
    obtain ⟨s₁, hs₁, hnext⟩ := step_moves hm.sound e h s hs
    rw [sentOn, ih (hm.step e) hs₁ (hnext.phase.ended hp), List.append_nil]
    refine List.eq_nil_iff_forall_not_mem.2 fun f hf => ?_
    obtain ⟨hsending, -⟩ := sending_of_mem hm hf
    have hphase := hsending.phase
    rw [stream_of_getElem? hs] at hphase
    rcases hp with hp | hp <;> simp [hp] at hphase

/-! ## Credit is never outrun -/

/-- **Nobody sends more than was granted.** Whatever frames arrive and whatever calls are made, the bytes
that have been sent on a stream and what it may still send are together no more than the credit that has been
granted for it, and exactly that credit unless it is more than a window can hold. What has been sent are data
frames of the stream, none of them empty. Nothing has been sent before the stream was confirmed, and nothing
will be once this side has ended its direction or the stream has closed. And there are no other data frames:
each that any event queues belongs to a stream that may send. -/
theorem sent_within_credit (role : Role) (c : Config) (events : List Event) (h : Handle) :
    let first := fresh role c
    let m := first.run events
    (bytesIn (first.sentOn h events)).length + (m.stream h).sendWindow ≤ first.grantedOn h events ∧
    (first.grantedOn h events < UInt64.size →
      (bytesIn (first.sentOn h events)).length + (m.stream h).sendWindow = first.grantedOn h events) ∧
    (∀ f ∈ first.sentOn h events, f.kind = .data ∧ f.stream = (m.stream h).id ∧ f.payload ≠ []) ∧
    ((m.stream h).phase = .pendingOpen → first.sentOn h events = []) ∧
    (∀ s, m.streams[h]? = some s → s.phase = .localClosing ∨ s.phase = .closed →
      ∀ later, m.sentOn h later = []) ∧
    ∀ e, ∀ f ∈ m.queued [e], f.kind = .data → ∃ k, f ∈ m.dataOf k (m.queued [e]) ∧
      ((m.stream k).phase = .open_ ∨ (m.stream k).phase = .remoteClosing) := by
  intro first m
  have hfirst : Going c first := going_run role c []
  have hm : Going c m := going_run role c events
  obtain ⟨hle, heq⟩ := run_spends hfirst h events
  have hzero : (first.stream h).sendWindow = 0 := rfl
  rw [hzero, Nat.zero_add] at hle heq
  refine ⟨by rwa [Nat.add_comm], fun fits => ?_, fun f hf => ?_, sentOn_of_pending hfirst,
    fun s hs hp => sentOn_of_ended hm hs hp, fun e f hf hk => ?_⟩
  · rw [Nat.add_comm]
    exact heq (Nat.le_sub_one_of_lt fits)
  · obtain ⟨hk, hsome, s, hs, hid⟩ := of_mem_sentOn hfirst hf
    exact ⟨hk, by rw [← hid, stream_of_getElem? hs], hsome⟩
  · obtain ⟨k, hsending⟩ := (emitted_queued hm.sound hm.sending e).data hm.sound hf hk
    exact ⟨k, mem_dataOf.2 ⟨hf, hk, hsending.lookup⟩, hsending.phase⟩

/-- On the side that is asked an ack comes too early. It does not count, and the two after the confirmation
do. -/
example :
    let first := fresh .responder {}
    let events : List Event :=
      [.frame ⟨.opening, 1, [1, 127, 0, 0, 1, 0, 80]⟩, .frame (ackFrame 1 9), .call (.accept 0),
        .frame (ackFrame 1 5), .call (.send 0 [1, 2, 3]), .frame (ackFrame 1 2)]
    bytesIn (first.sentOn 0 events) = [1, 2, 3] ∧ ((first.run events).stream 0).sendWindow = 4 ∧
      first.grantedOn 0 events = 7 := by
  decide +kernel

end SealedRelay.Mux
