import SealedRelay.Proofs.Connection.Transparent
import SealedRelay.Proofs.Mux.Emission
import SealedRelay.Proofs.Seal.Conversation

/-!
# A quiet connection stays open

Two connections that are joined by a pipe, with no streams on them, send each other nothing but pings.
The pipe delivers at once: the clock moves on only when everything that was queued has been written and
read. Each end looks at the clock when that is due, and asks for a sign of life when the last request is
a keepalive interval ago, which is found out only at a look. So between two requests there are less than
an interval and a period, and the reply to a request comes before the clock has moved on.

Results:
* `Carries.write`, `Carries.read`: one direction of the pipe.
* `Joined.tick`, `Joined.write`, `Joined.read`: both directions stay in step.
* `Paced.tick`: a look at the clock finds that the other side was heard lately.
* `keepalive_holds_quiet_connection_open`: so an end never takes the other side for dead.
-/
namespace SealedRelay

/-! ## Pings -/

/-- A request for a sign of life. -/
def Frame.request : Frame := ⟨.ping, 0, Payload.pingRequest⟩

/-- What a ping is answered with, if it is a request. -/
def Frame.answer (f : Frame) : List Frame :=
  if f = request then [⟨.ping, 0, Payload.pingReply⟩] else []

theorem Mux.isPing_of_mem_answer {f g : Frame} (h : g ∈ f.answer) : Mux.Frame.IsPing g := by
  unfold SealedRelay.Frame.answer at h
  split at h
  · exact .inr (List.mem_singleton.1 h)
  · cases h

theorem Mux.receive_of_isPing {m : Mux} {f : Frame} (hf : Mux.Frame.IsPing f) (hm : m.sending = true) :
    m.receive f = (.ok (), { m with outbound := m.outbound ++ f.answer }) := by
  rcases hf with rfl | rfl
  · simp [receive, onPing, emit, emitAll, hm, SealedRelay.Frame.answer, SealedRelay.Frame.request]
  · simp [receive, onPing, SealedRelay.Frame.answer, SealedRelay.Frame.request, Payload.pingRequest,
      Payload.pingReply]

namespace Connection

open Mux (Config)
open Mux.Frame (IsPing)

variable {x y : Connection} {s : Sealer} {f : Frame} {fs : List Frame} {now : Duration}

theorem sendable_ping (hf : IsPing f) (c : Config) : f.Sendable (wireLimit c) := by
  have hroom : 1 + Crypto.Aead.tagSize ≤ wireLimit c :=
    Nat.add_le_add_right (Nat.le_trans (by decide) (Nat.le_max_right _ _)) _
  rcases hf with rfl | rfl <;> exact ⟨by decide, hroom, by decide⟩

/-- An open connection that has nothing but pings to send. -/
structure Quiet (x : Connection) : Prop where
  isOpen : x.closed = false
  sending : x.mux.sending = true
  pings : ∀ f ∈ x.mux.outbound, IsPing f

/-- The connection when it has read these frames: it has answered the requests. -/
def refreshed (x : Connection) (now : Duration) (s : Sealer) (fs : List Frame) : Connection :=
  { x with
    opener := (s.after fs.length).opener
    lastInbound := if fs = [] then x.lastInbound else now.millis
    bytesReceived := x.bytesReceived + Frame.sealedSizes fs
    mux := { x.mux with outbound := x.mux.outbound ++ fs.flatMap Frame.answer } }

theorem handle_ping (h : x.Quiet) (hstep : x.opener = s.opener) (hs : s.counter < lastCounter) (now : Duration)
    (hf : IsPing f) : x.handle now (s.sealFrame f) = x.refreshed now s [f] := by
  rw [handle_sealed h.isOpen hstep hs, handOver]
  simp [h.isOpen, Mux.receive_of_isPing hf h.sending, refreshed, Frame.sealedSizes]

theorem Quiet.refreshed (h : x.Quiet) (now : Duration) (s : Sealer) (fs : List Frame) :
    (x.refreshed now s fs).Quiet where
  isOpen := h.isOpen
  sending := h.sending
  pings f hf := by
    rcases List.mem_append.1 hf with hf | hf
    · exact h.pings f hf
    · obtain ⟨g, -, hg⟩ := List.mem_flatMap.1 hf
      exact Mux.isPing_of_mem_answer hg

theorem foldl_handle_pings (h : x.Quiet) (hstep : x.opener = s.opener)
    (hs : s.counter + fs.length ≤ lastCounter) (now : Duration) (hfs : ∀ f ∈ fs, IsPing f) :
    (s.sealAll fs).foldl (handle now) x = x.refreshed now s fs := by
  induction fs generalizing x s with
  | nil => simp [Sealer.sealAll, Connection.refreshed, ← hstep, Frame.sealedSizes]
  | cons f fs ih =>
    obtain ⟨hf, hfs⟩ := List.forall_mem_cons.1 hfs
    rw [List.length_cons] at hs
    have hrest := ih (x := x.refreshed now s [f]) (s := s.after 1) (h.refreshed now s [f]) rfl
      (by simp only [Sealer.counter_after]; omega) hfs
    rw [Sealer.sealAll, List.foldl_cons, handle_ping h hstep (by omega) now hf, hrest]
    simp [Connection.refreshed, Frame.sealedSizes, Nat.add_assoc, Nat.add_comm 1]

/-! ## One direction -/

/-- One direction of a pipe. A sealer has sealed `fs` since it was `s`. The opener that faces it has opened
none of them yet; it has `received` in its buffer, and `flow` is still to come. -/
structure Carries (s : Sealer) (fs : List Frame) (sealer : Sealer) (opener : Opener)
    (received flow : Bytes) : Prop where
  sealer : sealer = s.after fs.length
  opener : opener = s.opener
  counter : s.counter + fs.length ≤ lastCounter
  bytes : received ++ flow = s.wire fs
  begins : s.Begins fs received
  pings : ∀ f ∈ fs, IsPing f

namespace Carries

variable {sealer : Sealer} {opener : Opener} {received flow later : Bytes}

/-- Another ping is sealed and written. -/
theorem write (h : Carries s fs sealer opener received flow) (hs : sealer.counter < lastCounter)
    (hf : IsPing f) :
    Carries s (fs ++ [f]) (sealer.after 1) opener received
      (flow ++ (sealer.sealFrame f).toBytes) where
  sealer := by rw [h.sealer, Sealer.after_after, List.length_append, List.length_singleton]
  opener := h.opener
  counter := by
    rw [h.sealer, Sealer.counter_after] at hs
    rw [List.length_append, List.length_singleton]
    omega
  bytes := by
    rw [← List.append_assoc, h.bytes, Sealer.wire_append, ← h.sealer, Sealer.wire_cons, Sealer.wire_nil,
      List.append_nil]
  begins := by
    refine ⟨?_, fun g later hg => ?_⟩
    · rw [Sealer.wire_append]
      exact h.begins.isPrefix.trans (List.prefix_append _ _)
    · cases fs with
      | nil =>
        obtain rfl := List.prefix_nil.1 h.begins.isPrefix
        exact (Sealer.begins_nil s _).short g later hg
      | cons f' fs =>
        obtain ⟨rfl, -⟩ := List.cons.inj hg
        exact h.begins.short f' fs rfl
  pings g hg := (List.mem_append.1 hg).elim (h.pings g) fun hg => List.mem_singleton.1 hg ▸ hf

/-- When nothing is to come, all frames have been opened. -/
theorem eq_nil (h : Carries s fs sealer opener received []) : fs = [] := by
  cases fs with
  | nil => rfl
  | cons f fs =>
    have hshort := h.begins.short f fs rfl
    have hlength := congrArg List.length h.bytes
    rw [List.append_nil, Sealer.length_wire, Frame.sealedSizes] at hlength
    omega

/-- Bytes that are read complete the first few frames. -/
theorem read (h : Carries s fs sealer opener received (flow ++ later)) :
    ∃ whole rest buffer, fs = whole ++ rest ∧ received ++ flow = s.wire whole ++ buffer ∧
      Carries (s.after whole.length) rest sealer (s.after whole.length).opener buffer later := by
  have hbytes := h.bytes
  rw [← List.append_assoc] at hbytes
  obtain ⟨whole, rest, buffer, rfl, hwhole, hrest⟩ :=
    Sealer.exists_whole (hbytes ▸ List.prefix_append (received ++ flow) later)
  have hcount := h.counter
  rw [List.length_append] at hcount
  rw [hwhole, Sealer.wire_append, List.append_assoc, List.append_right_inj] at hbytes
  refine ⟨whole, rest, buffer, rfl, hwhole, ⟨?_, rfl, ?_, hbytes, hrest, ?_⟩⟩
  · rw [h.sealer, Sealer.after_after, List.length_append]
  · rw [Sealer.counter_after]
    omega
  · exact fun f hf => h.pings f (List.mem_append_right whole hf)

end Carries

theorem receive_pings (h : x.Quiet) {sealer : Sealer} {bytes later : Bytes}
    (carries : Carries s fs sealer x.opener x.received (bytes ++ later)) (now : Duration) :
    ∃ whole rest buffer, fs = whole ++ rest ∧
      x.receive now bytes = { x.refreshed now s whole with received := buffer } ∧
      Carries (s.after whole.length) rest sealer (s.after whole.length).opener buffer later := by
  obtain ⟨whole, rest, buffer, rfl, hwhole, hrest⟩ := carries.read
  have hcount := carries.counter
  rw [List.length_append] at hcount
  refine ⟨whole, rest, buffer, rfl, ?_, hrest⟩
  rw [receive_whole now h.isOpen (fun f hf => sendable_ping (carries.pings f hf) _) hwhole hrest.begins,
    foldl_handle_pings h carries.opener (by omega) now
      fun f hf => carries.pings f (List.mem_append_left rest hf)]

/-! ## Looking at the clock -/

/-- What a look at the clock makes of a quiet connection. -/
inductive Look (x : Connection) (now : Duration) : Connection → Prop where
  | silent {z : Connection} (idle : x.mux.config.idleTimeout.nanos ≤ (x.idle now).nanos)
      (closed : z.closed = true) : Look x now z
  | asks (due : x.mux.config.keepaliveInterval.nanos ≤ (now - x.lastPing).nanos) :
      Look x now { x with
        tickDue := x.tickDue + (period x.mux.config).nanos
        lastPing := now
        mux := { x.mux with outbound := x.mux.outbound ++ [Frame.request] } }
  | waits (early : (now - x.lastPing).nanos < x.mux.config.keepaliveInterval.nanos) :
      Look x now { x with tickDue := x.tickDue + (period x.mux.config).nanos }

theorem Quiet.look (h : x.Quiet) (now : Duration) : x.Look now (x.tick now) := by
  unfold tick
  rw [if_neg (by simp [h.isOpen])]
  dsimp only
  split
  · rename_i idle
    exact .silent idle (closed_teardown _ _)
  split
  · rename_i due
    have hping : x.mux.ping = { x.mux with outbound := x.mux.outbound ++ [Frame.request] } := by
      simp [Mux.ping, Mux.emit, Mux.emitAll, h.sending, Frame.request]
    rw [hping]
    exact .asks due
  · rename_i early
    exact .waits (Nat.lt_of_not_le early)

/-- `z` has sealed, opened and received what `x` has, and has whatever `x` had to send, and perhaps more. -/
structure Untouched (x z : Connection) : Prop where
  sealer : z.sealer = x.sealer
  opener : z.opener = x.opener
  received : z.received = x.received
  config : z.mux.config = x.mux.config
  outbound : x.mux.outbound <+: z.mux.outbound

theorem Quiet.tick (h : x.Quiet) (isOpen : (x.tick now).closed = false) :
    (x.tick now).Quiet ∧ Untouched x (x.tick now) := by
  have look := h.look now
  generalize x.tick now = z at look isOpen ⊢
  cases look with
  | silent _ closed => exact absurd (closed.symm.trans isOpen) nofun
  | waits => exact ⟨⟨h.isOpen, h.sending, h.pings⟩, rfl, rfl, rfl, rfl, List.prefix_rfl⟩
  | asks =>
    refine ⟨⟨h.isOpen, h.sending, fun f hf => ?_⟩, rfl, rfl, rfl, rfl, List.prefix_append _ _⟩
    rcases List.mem_append.1 hf with hf | hf
    · exact h.pings f hf
    · exact .inl (List.mem_singleton.1 hf)

/-- Settings, in milliseconds, that leave room for the last request before the timeout is over. -/
structure Roomy (c : Config) (K I : Nat) : Prop where
  interval : c.keepaliveInterval = .ofMillis K
  timeout : c.idleTimeout = .ofMillis I
  room : max K 1 * 1000000 + (period c).nanos ≤ I * 1000000

/-- A connection that is punctual, in some millisecond. When it looked at the clock last, less than a keepalive interval had
passed since its last request, or it sent one then. If it has not heard anything since its last request,
then this is because the request, or the reply to it, is still on its way, and no time has passed. -/
structure Paced (K : Nat) (x : Connection) (ms : Nat) (onWay : Prop) : Prop where
  looked : ∃ asked last, x.lastPing = .ofMillis asked ∧ (asked = last ∨ last < asked + K) ∧
    x.tickDue ≤ last * 1000000 + (period x.mux.config).nanos
  onTime : ms ≤ x.tickTime
  asked : x.lastPing.nanos ≤ (Duration.ofMillis ms).nanos
  heard : x.lastPing.nanos ≤ (Duration.ofMillis x.lastInbound).nanos ∨
    x.lastPing = .ofMillis ms ∧ ms * 1000000 < x.tickDue ∧ onWay

variable {ms K I : Nat} {c : Config} {onWay onWay' : Prop}

/-- When a punctual connection looks at the clock again, the other side was heard lately. -/
theorem Paced.tick (h : Paced K x ms onWay) (roomy : Roomy x.mux.config K I) (quiet : x.Quiet)
    (sharp : x.tickTime ≤ ms) :
    (x.tick (.ofMillis ms)).closed = false ∧
      Paced K (x.tick (.ofMillis ms)) ms (Frame.request ∈ (x.tick (.ofMillis ms)).mux.outbound) := by
  obtain ⟨asked, last, hping, hlast, hdue⟩ := h.looked
  have hasked := h.asked
  rw [hping, Duration.nanos_ofMillis, Duration.nanos_ofMillis] at hasked
  have hroom := roomy.room
  have hperiod : 10000000 ≤ (period x.mux.config).nanos := Nat.le_max_right _ _
  -- looks are due in nanoseconds, and come in whole milliseconds
  have htime : ms * 1000000 < x.tickDue + 1000000 ∧ x.tickDue ≤ ms * 1000000 := by
    have hlate := h.onTime
    unfold tickTime Duration.ticks at hlate sharp
    dsimp only at hlate sharp
    omega
  have hnext : x.tickDue + (period x.mux.config).nanos ≤
      ms * 1000000 + (period x.mux.config).nanos := Nat.add_le_add_right htime.2 _
  have hlater : ms * 1000000 < x.tickDue + (period x.mux.config).nanos := by omega
  have honTime : ms ≤ (x.tickDue + (period x.mux.config).nanos + 999999) / 1000000 := by omega
  -- a request of this very moment was sent at a look, and the next one is not due yet
  have hheard : asked ≤ x.lastInbound := by
    rcases h.heard with heard | ⟨hnow, hlt, -⟩
    · rw [hping, Duration.nanos_ofMillis, Duration.nanos_ofMillis] at heard
      omega
    · omega
  have hheard' : x.lastPing.nanos ≤ (Duration.ofMillis x.lastInbound).nanos := by
    rw [hping]
    exact Nat.mul_le_mul_right _ hheard
  have look := quiet.look (.ofMillis ms)
  generalize x.tick (.ofMillis ms) = z at look ⊢
  cases look with
  | silent idle =>
    -- from the last request on: less than an interval to the last look, and a period to this one
    simp only [roomy.timeout, Connection.idle, Duration.nanos_sub, Duration.nanos_ofMillis] at idle
    omega
  | asks =>
    exact ⟨quiet.isOpen, ⟨ms, ms, rfl, .inl rfl, hnext⟩, honTime, Nat.le_of_eq rfl,
      .inr ⟨rfl, hlater, List.mem_append_right _ (List.mem_singleton.2 rfl)⟩⟩
  | waits early =>
    simp only [roomy.interval, hping, Duration.nanos_sub, Duration.nanos_ofMillis] at early
    have hrecent : ms < asked + K := by omega
    exact ⟨quiet.isOpen, ⟨asked, ms, hping, .inr hrecent, hnext⟩, honTime, h.asked, .inl hheard'⟩

/-- What counts for the clock has not changed. -/
structure SamePace (x z : Connection) : Prop where
  config : z.mux.config = x.mux.config
  lastInbound : z.lastInbound = x.lastInbound
  lastPing : z.lastPing = x.lastPing
  tickDue : z.tickDue = x.tickDue

theorem Paced.congr {z : Connection} (h : Paced K x ms onWay) (same : SamePace x z)
    (busy : onWay → onWay') : Paced K z ms onWay' where
  looked := by rw [same.lastPing, same.tickDue, same.config]; exact h.looked
  onTime := by rw [tickTime, same.tickDue]; exact h.onTime
  asked := by rw [same.lastPing]; exact h.asked
  heard := by
    rw [same.lastPing, same.lastInbound, same.tickDue]
    exact h.heard.imp_right fun ⟨asked, due, way⟩ => ⟨asked, due, busy way⟩

end Connection

/-! ## Both directions -/

/-- Two connections, and the pipe between them. -/
structure Line where
  side : End → Connection
  /-- What an end has written and the other end has not read. -/
  flow : End → Bytes := fun _ => []
  /-- Milliseconds. -/
  now : Nat := 0

namespace Line

open Connection
open Function (update)
open Mux (Config)
open Mux.Frame (IsPing)

inductive Move where
  | tick (e : End)
  /-- An end writes the next frame that it has queued. -/
  | write (e : End)
  /-- An end reads so many bytes. -/
  | read (e : End) (n : Nat)
  /-- It is that late now. -/
  | wait (t : Nat)
  | close (e : End)
  | endOfInput (e : End)
  deriving DecidableEq

def step (z : Line) : Move → Line
  | .tick e => { z with side := update z.side e ((z.side e).tick (.ofMillis z.now)) }
  | .write e =>
    let r := (z.side e).writeNext
    { z with side := update z.side e r.2, flow := update z.flow e (z.flow e ++ r.1) }
  | .read e n =>
    { z with
      side := update z.side e ((z.side e).receive (.ofMillis z.now) ((z.flow e.peer).take n))
      flow := update z.flow e.peer ((z.flow e.peer).drop n) }
  | .wait t => { z with now := t }
  | .close e => { z with side := update z.side e (z.side e).close }
  | .endOfInput e => { z with side := update z.side e (z.side e).endOfInput }

def run (z : Line) (moves : List Move) : Line := moves.foldl step z

/-- An end, if it is open, has written and read everything, and need not look at the clock before `t`. -/
def Rests (z : Line) (t : Nat) (e : End) : Prop :=
  (z.side e).closed = false →
    (z.side e).mux.outbound = [] ∧ z.flow e.peer = [] ∧ t ≤ (z.side e).tickTime

/-- Looks at the clock are punctual, the pipe delivers at once, and it ends when the other side does. -/
def Allows (z : Line) : Move → Prop
  | .tick e => (z.side e).closed = false → (z.side e).tickTime ≤ z.now
  | .wait t => z.now ≤ t ∧ z.Rests t .client ∧ z.Rests t .server
  | .endOfInput e => (z.side e.peer).closed = true ∧ z.flow e.peer = []
  | .write _ | .read .. | .close _ => True

/-- Each move is allowed when it is made. -/
def Possible (z : Line) : List Move → Prop
  | [] => True
  | m :: later => z.Allows m ∧ (z.step m).Possible later

instance (z : Line) (t : Nat) (e : End) : Decidable (z.Rests t e) :=
  inferInstanceAs (Decidable (_ → _))

instance Allows.decidable (z : Line) : (m : Move) → Decidable (z.Allows m)
  | .tick _ => inferInstanceAs (Decidable (_ → _))
  | .wait _ => inferInstanceAs (Decidable (_ ∧ _ ∧ _))
  | .endOfInput _ => inferInstanceAs (Decidable (_ ∧ _))
  | .write _ | .read .. | .close _ => .isTrue trivial

instance Possible.decidable (z : Line) : (moves : List Move) → Decidable (z.Possible moves)
  | [] => .isTrue trivial
  | m :: later =>
    have := Possible.decidable (z.step m) later
    inferInstanceAs (Decidable (_ ∧ _))

def fresh (id : End → Nat) (address : End → String) (keys : SessionKeys) (config : End → Config) :
    Line where
  side e := new (id e) (address e) e (Session.new keys e) (config e)

variable {z : Line} {s : End → Sealer} {fs : End → List Frame} {x : Connection} {d e : End} {K I n : Nat}
  {c : Config} {m : Move} {moves : List Move}

/-- Both ends are quiet, and `fs` is what each of them has written and the other has not read. -/
structure Joined (s : End → Sealer) (fs : End → List Frame) (z : Line) : Prop where
  quiet : ∀ d, (z.side d).Quiet
  carries : ∀ d, Carries (s d) (fs d) (z.side d).sealer (z.side d.peer).opener
    (z.side d.peer).received (z.flow d)

/-- What an end has queued or written and the other end has not read. -/
def onWay (fs : End → List Frame) (z : Line) (d : End) : List Frame := fs d ++ (z.side d).mux.outbound

/-- If one end has become `x` without a change to something, it is the same at both ends. -/
theorem update_same {α : Type} (g : Connection → α) (hx : g x = g (z.side d)) (d' : End) :
    g (update z.side d x d') = g (z.side d') := by
  by_cases h : d' = d
  · subst h
    rw [Function.update_self, hx]
  · rw [Function.update_of_ne h]

theorem update_quiet (h : ∀ d, (z.side d).Quiet) (hx : x.Quiet) (d' : End) :
    (update z.side d x d').Quiet := by
  by_cases he : d' = d
  · subst he
    rwa [Function.update_self]
  · rw [Function.update_of_ne he]
    exact h d'

/-- A look at the clock that does not end the connection. -/
theorem Joined.tick (h : Joined s fs z) (isOpen : ((z.side d).tick (.ofMillis z.now)).closed = false) :
    Joined s fs (z.step (.tick d)) ∧ ∀ d', onWay fs z d' <+: onWay fs (z.step (.tick d)) d' := by
  obtain ⟨quiet, same⟩ := (h.quiet d).tick isOpen
  refine ⟨⟨update_quiet h.quiet quiet, fun d' => ?_⟩, fun d' => ?_⟩
  · simp only [step, update_same Connection.sealer same.sealer, update_same Connection.opener same.opener,
      update_same Connection.received same.received]
    exact h.carries d'
  · refine (List.prefix_append_right_inj _).2 ?_
    by_cases he : d' = d
    · subst he
      simpa only [step, Function.update_self] using same.outbound
    · simp only [step, Function.update_of_ne he]
      exact List.prefix_rfl

/-- The next ping is written. -/
theorem Joined.write (h : Joined s fs z) {f : Frame} {q : List Frame}
    (hq : (z.side d).mux.outbound = f :: q) (hs : (z.side d).sealer.counter < lastCounter) :
    let fs' := update fs d (fs d ++ [f])
    Joined s fs' (z.step (.write d)) ∧ (∀ d', onWay fs' (z.step (.write d)) d' = onWay fs z d') ∧
      ∀ d', SamePace (z.side d') ((z.step (.write d)).side d') := by
  intro fs'
  have hf : IsPing f := (h.quiet d).pings f (hq ▸ List.mem_cons_self)
  let x := (z.side d).written [f] q
  have hx : x.Quiet := ⟨(h.quiet d).isOpen, (h.quiet d).sending, fun g hg =>
    (h.quiet d).pings g (hq ▸ List.mem_cons_of_mem f hg)⟩
  have hstep : z.step (.write d) = { z with
      side := update z.side d x
      flow := update z.flow d (z.flow d ++ ((z.side d).sealer.sealFrame f).toBytes) } := by
    simp only [step, writeNext_eq (h.quiet d).isOpen hq (sendable_ping hf _) hs, x]
  rw [hstep]
  refine ⟨⟨update_quiet h.quiet hx, fun d' => ?_⟩, fun d' => ?_, fun d' => ?_⟩
  · have hc := h.carries d'
    simp only [update_same Connection.opener (show x.opener = (z.side d).opener from rfl),
      update_same Connection.received (show x.received = (z.side d).received from rfl), fs']
    by_cases he : d' = d
    · subst he
      simp only [Function.update_self]
      exact hc.write hs hf
    · simp only [Function.update_of_ne he]
      exact hc
  · by_cases he : d' = d
    · subst he
      simp [onWay, fs', hq, x, written]
    · simp only [onWay, fs', Function.update_of_ne he]
  · by_cases he : d' = d
    · subst he
      simp only [Function.update_self]
      exact ⟨rfl, rfl, rfl, rfl⟩
    · simp only [Function.update_of_ne he]
      exact ⟨rfl, rfl, rfl, rfl⟩

/-- An end reads. -/
theorem Joined.read (h : Joined s fs z) (d : End) (n : Nat) :
    ∃ s' fs' whole buffer, Joined s' fs' (z.step (.read d n)) ∧
      (z.step (.read d n)).side d.peer = z.side d.peer ∧
      (z.step (.read d n)).side d =
        { (z.side d).refreshed (.ofMillis z.now) (s d.peer) whole with received := buffer } ∧
      onWay fs z d.peer = whole ++ onWay fs' (z.step (.read d n)) d.peer ∧
      onWay fs' (z.step (.read d n)) d = onWay fs z d ++ whole.flatMap Frame.answer := by
  have hc := h.carries d.peer
  rw [End.peer_peer, ← List.take_append_drop n (z.flow d.peer)] at hc
  obtain ⟨whole, rest, buffer, hfs, hreceive, hrest⟩ := receive_pings (h.quiet d) hc (.ofMillis z.now)
  let x : Connection :=
    { (z.side d).refreshed (.ofMillis z.now) (s d.peer) whole with received := buffer }
  have hx : x.Quiet := ⟨(h.quiet d).isOpen, (h.quiet d).sending,
    ((h.quiet d).refreshed (.ofMillis z.now) (s d.peer) whole).pings⟩
  have hstep : z.step (.read d n) = { z with
      side := update z.side d x, flow := update z.flow d.peer ((z.flow d.peer).drop n) } := by
    simp only [step, hreceive, x]
  rw [hstep]
  refine ⟨update s d.peer ((s d.peer).after whole.length), update fs d.peer rest, whole, buffer,
    ⟨update_quiet h.quiet hx, fun d' => ?_⟩, ?_, ?_, ?_, ?_⟩
  · simp only [update_same Connection.sealer (show x.sealer = (z.side d).sealer from rfl)]
    rcases d.eq_or_eq_peer d' with rfl | rfl
    · simp only [Function.update_of_ne d'.ne_peer, Function.update_of_ne d'.peer_ne]
      exact h.carries d'
    · simp only [End.peer_peer, Function.update_self]
      exact hrest
  · simp only [Function.update_of_ne d.peer_ne]
  · simp only [Function.update_self, x]
  · simp only [onWay, Function.update_self, Function.update_of_ne d.peer_ne, hfs, List.append_assoc]
  · simp only [onWay, Function.update_self, Function.update_of_ne d.ne_peer, x, Connection.refreshed,
      List.append_assoc]

/-- A request for a sign of life, or an answer, is on its way. -/
def Asked (fs : End → List Frame) (z : Line) (e : End) : Prop :=
  Frame.request ∈ onWay fs z e ∨ onWay fs z e.peer ≠ []

theorem Asked.mono {z' : Line} {fs' : End → List Frame} (h : Asked fs z e)
    (hway : ∀ d, onWay fs z d <+: onWay fs' z' d) : Asked fs' z' e :=
  h.imp (fun hr => (hway e).subset hr) fun hne hnil => hne (List.prefix_nil.1 (hnil ▸ hway e.peer))

/-- No frame is on its way when both ends have read and written everything. -/
theorem Joined.onWay_eq_nil (h : Joined s fs z) (ho : (z.side d).mux.outbound = [])
    (hf : z.flow d = []) : onWay fs z d = [] := by
  have hc := h.carries d
  rw [hf] at hc
  rw [onWay, hc.eq_nil, ho, List.append_nil]

/-- Both ends are quiet, and the end `e` is punctual. -/
structure Calm (c : Config) (K : Nat) (e : End) (s : End → Sealer) (fs : End → List Frame) (z : Line) :
    Prop where
  joined : Joined s fs z
  config : (z.side e).mux.config = c
  paced : Paced K (z.side e) z.now (Asked fs z e)

/-- How it is with the end `e` after some moves: all is calm, the other end is lost, or the end has closed
for a reason other than silence. -/
inductive Course (c : Config) (K : Nat) (e : End) (closes : Prop) (z : Line) : Prop where
  | calm {s : End → Sealer} {fs : End → List Frame} (calm : Calm c K e s fs z)
  | lost (closed : (z.side e.peer).closed = true)
  | ended (closed : (z.side e).closed = true)
      (cause : closes ∨ lastCounter ≤ (z.side e).sealer.counter)

namespace Calm

theorem tick_own (roomy : Roomy c K I) (h : Calm c K e s fs z) (due : (z.side e).tickTime ≤ z.now) :
    Calm c K e s fs (z.step (.tick e)) := by
  obtain ⟨isOpen, paced⟩ := h.paced.tick (h.config.symm ▸ roomy) (h.joined.quiet e) due
  obtain ⟨-, same⟩ := (h.joined.quiet e).tick isOpen
  have hside : (z.step (.tick e)).side e = (z.side e).tick (.ofMillis z.now) := Function.update_self ..
  refine ⟨(h.joined.tick isOpen).1, ?_, ?_⟩
  · rw [hside, same.config, h.config]
  · rw [hside]
    refine paced.congr ⟨rfl, rfl, rfl, rfl⟩ fun hr => .inl (List.mem_append_right _ ?_)
    rwa [hside]

theorem tick_peer (h : Calm c K e s fs z) :
    Course c K e False (z.step (.tick e.peer)) := by
  have hpeer : (z.step (.tick e.peer)).side e.peer = (z.side e.peer).tick (.ofMillis z.now) :=
    Function.update_self ..
  have hside : (z.step (.tick e.peer)).side e = z.side e := Function.update_of_ne e.ne_peer ..
  cases hclosed : ((z.side e.peer).tick (.ofMillis z.now)).closed with
  | true => exact .lost (hpeer ▸ hclosed)
  | false =>
    obtain ⟨joined, hway⟩ := h.joined.tick hclosed
    refine .calm ⟨joined, hside ▸ h.config, ?_⟩
    rw [hside]
    exact h.paced.congr ⟨rfl, rfl, rfl, rfl⟩ fun asked => asked.mono hway

theorem write (h : Calm c K e s fs z) (d : End) : Course c K e False (z.step (.write d)) := by
  cases hq : (z.side d).mux.outbound with
  | nil =>
    have hsame : z.step (.write d) = z := by
      simp [step, writeNext, nextWire, (h.joined.quiet d).isOpen, hq]
    rw [hsame]
    exact .calm h
  | cons f q =>
    by_cases hs : (z.side d).sealer.counter < lastCounter
    · obtain ⟨joined, hway, same⟩ := h.joined.write hq hs
      refine .calm ⟨joined, (same e).config.trans h.config, ?_⟩
      exact h.paced.congr (same e) fun asked => asked.mono fun d' => hway d' ▸ List.prefix_rfl
    · have spent := Nat.le_of_not_lt hs
      have hside : (z.step (.write d)).side d =
          { z.side d with mux := { (z.side d).mux with outbound := q } }.teardown
            (.ofSeal .nonceExhausted) := by
        simp [step, writeNext, nextWire_exhausted (h.joined.quiet d).isOpen hq spent]
      have hclosed : ((z.step (.write d)).side d).closed = true := by
        rw [hside, closed_teardown]
      rcases e.eq_or_eq_peer d with rfl | rfl
      · refine .ended hclosed (.inr ?_)
        rw [hside, teardown, if_neg (by simp [(h.joined.quiet d).isOpen])]
        exact spent
      · exact .lost hclosed

/-- The end reads: when it has heard something, it has been answered. -/
theorem read_own (h : Calm c K e s fs z) (n : Nat) : Course c K e False (z.step (.read e n)) := by
  obtain ⟨s', fs', whole, buffer, joined, -, hside, hpeer, hown⟩ := h.joined.read e n
  refine .calm ⟨joined, hside ▸ h.config, ?_⟩
  rw [hside]
  cases whole with
  | nil =>
    refine h.paced.congr ⟨rfl, rfl, rfl, rfl⟩ (Or.imp (fun hr => ?_) fun hne => ?_)
    · rw [hown]
      exact List.mem_append_left _ hr
    · rwa [hpeer] at hne
  | cons f whole =>
    have hinbound : ((z.side e).refreshed (.ofMillis z.now) (s e.peer) (f :: whole)).lastInbound = z.now := by
      simp [Connection.refreshed]
    have hheard := h.paced.asked
    rw [← hinbound] at hheard
    exact ⟨h.paced.looked, h.paced.onTime, h.paced.asked, .inl hheard⟩

theorem read_peer (h : Calm c K e s fs z) (n : Nat) :
    Course c K e False (z.step (.read e.peer n)) := by
  obtain ⟨s', fs', whole, buffer, joined, hside, -, hown, hpeer⟩ := h.joined.read e.peer n
  rw [End.peer_peer] at hside hown
  refine .calm ⟨joined, hside ▸ h.config, ?_⟩
  rw [hside]
  refine h.paced.congr ⟨rfl, rfl, rfl, rfl⟩ fun asked => ?_
  rcases asked with hr | hne
  · rw [hown] at hr
    rcases List.mem_append.1 hr with hr | hr
    · refine .inr (hpeer ▸ List.append_ne_nil_of_right_ne_nil _ fun hnil => ?_)
      have hnone := List.flatMap_eq_nil_iff.1 hnil _ hr
      simp [Frame.answer] at hnone
    · exact .inl hr
  · exact .inr (hpeer ▸ List.append_ne_nil_of_left_ne_nil hne _)

/-- Time passes when everything has been delivered: so the last request has been answered. -/
theorem wait (h : Calm c K e s fs z) {t : Nat} (later : z.now ≤ t) (rests : ∀ d, z.Rests t d) :
    Calm c K e s fs (z.step (.wait t)) := by
  obtain ⟨hown, hpeerFlow, htime⟩ := rests e (h.joined.quiet e).isOpen
  obtain ⟨hpeer, hownFlow, -⟩ := rests e.peer (h.joined.quiet e.peer).isOpen
  rw [End.peer_peer] at hownFlow
  have hidle : ¬ Asked fs z e := by
    rw [Asked, h.joined.onWay_eq_nil hown hownFlow, h.joined.onWay_eq_nil hpeer hpeerFlow]
    simp
  have hheard := h.paced.heard.resolve_right fun way => hidle way.2.2
  exact ⟨⟨h.joined.quiet, h.joined.carries⟩, h.config,
    ⟨h.paced.looked, htime, Nat.le_trans h.paced.asked (Nat.mul_le_mul_right _ later), .inl hheard⟩⟩

/-- Whatever happens to the two ends, only the end itself, its nonces or the other end can end it. -/
theorem step (roomy : Roomy c K I) (h : Calm c K e s fs z) (allowed : z.Allows m) :
    Course c K e (m = .close e) (z.step m) := by
  have weaken {z' : Line} (course : Course c K e False z') : Course c K e (m = .close e) z' := by
    cases course with
    | calm calm => exact .calm calm
    | lost closed => exact .lost closed
    | ended closed cause => exact .ended closed (cause.imp False.elim id)
  cases m with
  | tick d =>
    rcases e.eq_or_eq_peer d with rfl | rfl
    · exact .calm (h.tick_own roomy (allowed (h.joined.quiet d).isOpen))
    · exact weaken h.tick_peer
  | write d => exact weaken (h.write d)
  | read d n =>
    rcases e.eq_or_eq_peer d with rfl | rfl
    · exact weaken (h.read_own n)
    · exact weaken (h.read_peer n)
  | wait t =>
    obtain ⟨later, client, server⟩ := allowed
    exact .calm (h.wait later fun d => match d with | .client => client | .server => server)
  | close d =>
    have hclosed : ((z.step (.close d)).side d).closed = true := by
      simp only [Line.step, Function.update_self]
      exact closed_teardown _ _
    rcases e.eq_or_eq_peer d with rfl | rfl
    · exact .ended hclosed (.inl rfl)
    · exact .lost hclosed
  | endOfInput d => exact absurd (allowed.1.symm.trans (h.joined.quiet d.peer).isOpen) nofun

end Calm

/-! ## Runs -/

theorem side_step_of_closed (h : (z.side d).closed = true) (m : Move) : (z.step m).side d = z.side d := by
  have same {d' : End} {x : Connection} (hx : d' = d → x = z.side d) : update z.side d' x d = z.side d := by
    by_cases he : d = d'
    · subst he
      rw [Function.update_self, hx rfl]
    · rw [Function.update_of_ne he]
  cases m with
  | wait => rfl
  | tick | read | close =>
    refine same ?_
    rintro rfl
    exact if_pos h
  | write =>
    refine same ?_
    rintro rfl
    simp [writeNext, nextWire, h]
  | endOfInput =>
    refine same ?_
    rintro rfl
    unfold endOfInput
    split <;> exact if_pos h

variable {closes : Prop}

theorem Course.step (roomy : Roomy c K I) (h : Course c K e closes z) (allowed : z.Allows m) :
    Course c K e (closes ∨ m = .close e) (z.step m) := by
  cases h with
  | calm calm =>
    cases calm.step roomy allowed with
    | calm calm => exact .calm calm
    | lost closed => exact .lost closed
    | ended closed cause => exact .ended closed (cause.imp_left .inr)
  | lost closed => exact .lost (by rwa [side_step_of_closed closed])
  | ended closed cause =>
    refine .ended ?_ (cause.imp .inl fun spent => ?_)
    · rwa [side_step_of_closed closed]
    · rwa [side_step_of_closed closed]

theorem Course.run (roomy : Roomy c K I) (h : Course c K e closes z) (possible : z.Possible moves) :
    Course c K e (closes ∨ .close e ∈ moves) (z.run moves) := by
  induction moves generalizing z closes with
  | nil =>
    cases h with
    | calm calm => exact .calm calm
    | lost closed => exact .lost closed
    | ended closed cause => exact .ended closed (cause.imp_left .inl)
  | cons m moves ih =>
    have course := ih (h.step roomy possible.1) possible.2
    rwa [or_assoc, eq_comm (a := m), ← List.mem_cons] at course

theorem Possible.split {later : List Move} (h : z.Possible (moves ++ later)) :
    z.Possible moves ∧ (z.run moves).Possible later := by
  induction moves generalizing z with
  | nil => exact ⟨trivial, h⟩
  | cons m moves ih =>
    obtain ⟨hmoves, hlater⟩ := ih h.2
    exact ⟨⟨h.1, hmoves⟩, hlater⟩

theorem calm_fresh (id : End → Nat) (address : End → String) (keys : SessionKeys)
    (config : End → Config) (e : End) (K : Nat) :
    Calm (config e) K e (fun d => (Session.new keys d).sealer) (fun _ => [])
      (fresh id address keys config) where
  joined := {
    quiet := fun _ => ⟨rfl, rfl, nofun⟩
    carries := fun d => {
      sealer := rfl
      opener := by cases d <;> rfl
      counter := Nat.zero_le _
      bytes := rfl
      begins := Sealer.begins_nil _ _
      pings := nofun } }
  config := rfl
  paced := ⟨⟨0, 0, rfl, .inl rfl, Nat.zero_le _⟩, Nat.zero_le _, Nat.zero_le _, .inl (Nat.zero_le _)⟩

/-- An interval and a period within the timeout leave room, if a period alone is shorter than the timeout:
this matters only if there is no interval. -/
theorem roomy_of_sum (hK : c.keepaliveInterval = .ofMillis K) (hI : c.idleTimeout = .ofMillis I)
    (hsum : (Duration.ofMillis K).nanos + (period c).nanos ≤ (Duration.ofMillis I).nanos)
    (hlt : (period c).nanos < (Duration.ofMillis I).nanos) : Roomy c K I where
  interval := hK
  timeout := hI
  room := by
    simp only [Duration.ofMillis] at hsum hlt
    rcases Nat.eq_zero_or_pos K with rfl | hpos
    · have hperiod : (period c).nanos = 10000000 := by
        simp only [period, hK, Duration.ofMillis, Nat.zero_mul, Nat.zero_min, Nat.zero_max]
      rw [hperiod] at hlt ⊢
      clear hsum
      omega
    · rw [Nat.max_eq_left hpos]
      exact hsum

/-- **Keepalive holds a quiet connection open.** Two connections are started at the same time and joined by
a pipe that delivers at once, and there are no streams. The settings of one end are whole milliseconds; its
keepalive interval and the period of its looks at the clock are no longer than its idle timeout together,
and the period alone is shorter. Whatever the settings of the other end, and however long it goes on: as
long as both ends are open, no look at the clock ends the connection at this end. So while the other end
has not closed, this end stays open unless its own program closes it or its nonces are used up. -/
theorem keepalive_holds_quiet_connection_open (id : End → Nat) (address : End → String)
    (keys : SessionKeys) (config : End → Config) (e : End) {K I : Nat}
    (hK : (config e).keepaliveInterval = .ofMillis K) (hI : (config e).idleTimeout = .ofMillis I)
    (hsum : (Duration.ofMillis K).nanos + (period (config e)).nanos ≤ (Duration.ofMillis I).nanos)
    (hlt : (period (config e)).nanos < (Duration.ofMillis I).nanos) (moves : List Move)
    (possible : (fresh id address keys config).Possible moves) :
    let start := fresh id address keys config
    (∀ before, before ++ [.tick e] <+: moves → ((start.run before).side e).closed = false →
      ((start.run before).side e.peer).closed = false →
      ((start.run (before ++ [.tick e])).side e).closed = false) ∧
    (((start.run moves).side e.peer).closed = false → .close e ∉ moves →
      ((start.run moves).side e).closed = false ∨
        lastCounter ≤ ((start.run moves).side e).sealer.counter) := by
  intro start
  have roomy := roomy_of_sum hK hI hsum hlt
  have course {moves : List Move} (possible : start.Possible moves) :
      Course (config e) K e (False ∨ .close e ∈ moves) (start.run moves) :=
    (Course.calm (calm_fresh id address keys config e K)).run roomy possible
  refine ⟨?_, fun hpeer hclose => ?_⟩
  · rintro before ⟨later, rfl⟩ hown hpeer
    obtain ⟨hbefore, hlater⟩ := (Possible.split possible).1.split
    cases course hbefore with
    | lost closed => exact absurd (closed.symm.trans hpeer) nofun
    | ended closed => exact absurd (closed.symm.trans hown) nofun
    | calm calm =>
      rw [run, List.foldl_append]
      exact ((calm.tick_own roomy (hlater.1 hown)).joined.quiet e).isOpen
  · cases course possible with
    | calm calm => exact .inl (calm.joined.quiet e).isOpen
    | lost closed => exact absurd (closed.symm.trans hpeer) nofun
    | ended _ cause => exact .inr (cause.resolve_left fun hc => hclose (hc.resolve_left not_false))

/-- The interval and the period are the timeout together. The interval is over just after a look at the
clock, so the request comes at the next one, in the last millisecond. -/
theorem request_in_the_last_millisecond :
    let brisk : Config := { keepaliveInterval := .ofMillis 11, idleTimeout := .ofMillis 21 }
    let start := fresh (fun _ => 0) (fun _ => "") ⟨[1], [2]⟩ fun | .client => brisk | .server => {}
    let moves : List Move := [.tick .client, .tick .server, .wait 10, .tick .client, .wait 20,
      .tick .client]
    start.Possible moves ∧ ((start.run moves).side .client).lastPing = .ofMillis 20 ∧
      ((start.run moves).side .client).closed = false := by
  intro brisk start moves
  have possible : start.Possible moves := by decide +kernel
  obtain ⟨hlook, -⟩ := keepalive_holds_quiet_connection_open (fun _ => 0) (fun _ => "") ⟨[1], [2]⟩
    (fun | .client => brisk | .server => {}) .client (K := 11) (I := 21) rfl rfl (by decide) (by decide)
    moves possible
  exact ⟨possible, by decide +kernel, hlook (moves.take 5) List.prefix_rfl (by decide +kernel)
    (by decide +kernel)⟩

/-- Without an interval there is a request at each look, and it is answered at once. But when the period is
as long as the timeout, the answer is too old at the next look. -/
theorem request_at_each_look_is_too_late :
    let hasty : Config := { keepaliveInterval := .ofMillis 0, idleTimeout := .ofMillis 10 }
    let start := fresh (fun _ => 0) (fun _ => "") ⟨[1], [2]⟩ fun | .client => hasty | .server => {}
    let before : List Move := [.tick .client, .tick .server, .write .client, .read .server 64,
      .write .server, .read .client 64, .wait 10]
    let moves := before ++ [.tick .client]
    (Duration.ofMillis 0).nanos + (period hasty).nanos ≤ (Duration.ofMillis 10).nanos ∧
      start.Possible moves ∧ ((start.run before).side .client).closed = false ∧
      ((start.run moves).side .server).closed = false ∧
      ((start.run moves).side .client).closed = true := by
  decide +kernel

end Line

end SealedRelay
