import SealedRelay.Proofs.Mux.Tenant
import SealedRelay.Proofs.Splice.Strokes

/-!
# A splice over time

A splice is run again and again while the world around it goes on: its socket gives bytes and takes some, ends
or breaks, frames and credit come in for its stream, other tasks use the connection, and time passes. Either
direction may run before the other and stop in between, so any order in which things can happen is a list of
moves. What goes through the splice is noted on the way.

Results:
* `Splicing.poll_eq`: a run of the splice is its parts, one after the other.
* `UpRun`, `DownRun`, `Conclusion`: all that each part of a run can do.
-/
namespace SealedRelay

open Mux

namespace Splice

/-! ## Parts of a run -/

/-- What a run of the upload takes from the socket. -/
def uptake (s : Splice) (m : Mux) : Bytes :=
  if s.result.isSome ∨ s.up.ended then []
  else
    let left := (upload s.handle s.up s.inbound m).2.2.1.buffer
    s.inbound.buffer.take (s.inbound.buffer.length - left.length)

/-- What a run of the download reads from the stream. -/
def intake (s : Splice) (n : Nat) (m : Mux) : Bytes :=
  if s.result.isSome ∨ s.down.ended then []
  else
    let before := (m.stream s.handle).inbox.flatten
    let left := ((download s.handle n s.down s.outbound m).2.2.2.stream s.handle).inbox.flatten
    before.take (before.length - left.length)

/-! ## What a run can do -/

variable {s s' : Splice} {now n : Nat} {m : Mux} {t t' : Mux.Stream} {taken got : Bytes} {out : List Frame}

/-- The splice once a direction has ended: the clock for the other one runs. -/
def timed (s : Splice) (now : Nat) : Splice :=
  { s with deadline := some (s.deadline.getD (now + s.grace.ticks)) }

/-- The upload has taken `taken` and sent `out`. -/
structure UpStroke (s : Splice) (taken : Bytes) (p : Pump) (i : Pipe) (out : List Frame) : Prop where
  result : s.result.isSome = false
  before : s.up.ended = false
  unended : Unended out
  carried : s.up.Carried taken (bytesIn out) p
  buffer : s.inbound.buffer = taken ++ i.buffer
  closed : i.closed = s.inbound.closed

/-- All that a run of the upload can do to the splice and to its stream `t`. -/
inductive UpRun (s : Splice) (now : Nat) (t : Mux.Stream) :
    Bytes → List Frame → Splice → Mux.Stream → Prop where
  | idle (stopped : s.result.isSome = true ∨ s.up.ended = true) : UpRun s now t [] [] s t
  | waits {taken : Bytes} {p : Pump} {i : Pipe} {out : List Frame} (w : Nat)
      (stroke : UpStroke s taken p i out) (going : p.ended = false) :
      UpRun s now t taken out { s with up := p, inbound := i } { t with sendWindow := w }
  | fails {taken : Bytes} {p : Pump} {i : Pipe} {out out' : List Frame} {w : Nat} {t' : Mux.Stream}
      (e : LinkError) (stroke : UpStroke s taken p i out) (going : p.ended = false)
      (aborted : { t with sendWindow := w }.Aborted t' out') :
      UpRun s now t taken (out ++ out') ({ s with up := p, inbound := i : Splice }.finish (.error e)) t'
  | ends {taken : Bytes} {p : Pump} {i : Pipe} {out out' : List Frame} {w : Nat} {t' : Mux.Stream}
      (stroke : UpStroke s taken p i out) (ended : p.ended = true) (pending : p.pending = [])
      (size : p.size = 0) (empty : i.buffer = []) (closed : s.inbound.closed = true)
      (half : { t with sendWindow := w }.HalfClosed t' out') :
      UpRun s now t taken (out ++ out') ({ s with up := p, inbound := i : Splice }.timed now) t'

theorem runUp_ran (hm : m.Sound) (ht : m.streams[s.handle]? = some t) (now : Nat) :
    ∃ out t', UpRun s now t (s.uptake m) out (s.runUp now m).1 t' ∧
      Worked m s.handle out (s.runUp now m).2 ∧ (s.runUp now m).2.streams[s.handle]? = some t' := by
  by_cases hstop : s.result.isSome = true ∨ s.up.ended = true
  · rw [uptake, if_pos hstop, show s.runUp now m = (s, m) from if_pos hstop]
    exact ⟨[], t, .idle hstop, .refl, ht⟩
  obtain ⟨taken, out, m₁, uploaded⟩ := upload_uploaded s.handle s.up s.inbound m
  have htaken : s.uptake m = taken := by
    rw [uptake, if_neg hstop]
    dsimp only
    rw [uploaded.buffer, List.length_append, Nat.add_sub_cancel, List.take_left]
  rw [htaken, runUp, if_neg hstop]
  rw [not_or, Bool.not_eq_true, Bool.not_eq_true] at hstop
  generalize upload s.handle s.up s.inbound m = z at uploaded ⊢
  obtain ⟨r, p, i, m'⟩ := z
  obtain ⟨sent, carried, buffer, closed, rest⟩ := uploaded
  have stroke : UpStroke s taken p i out := ⟨hstop.1, hstop.2, sent.unended, carried, buffer, closed⟩
  have hm₁ := sent.worked.sound hm
  obtain ⟨w, ht₁⟩ := sent.stream t ht
  rcases rest with ⟨hr, hended, hpending, hsize, hempty, hclosed, hm'⟩ | ⟨hr, hgoing, hm'⟩
  · obtain rfl : r = .ended := hr
    obtain rfl : m' = m₁.halfClose s.handle := hm'
    obtain ⟨t', out', worked, ht', half⟩ := halfClose_halfClosed hm₁ ht₁
    exact ⟨_, t', .ends stroke hended hpending hsize hempty hclosed half, sent.worked.trans worked, ht'⟩
  · obtain rfl : m' = m₁ := hm'
    have going : p.ended = false := hgoing.trans hstop.2
    cases r with
    | ended => exact absurd rfl hr
    | waiting => exact ⟨out, _, .waits w stroke going, sent.worked, ht₁⟩
    | failed e =>
      obtain ⟨t', out', worked, ht', aborted⟩ := abort_aborted hm₁ ht₁
      exact ⟨_, t', .fails e stroke going aborted, sent.worked.trans worked, ht'⟩

/-- The download has read `got` and written `passed`, and queued `out` for that. -/
structure DownStroke (s : Splice) (got passed : Bytes) (p : Pump) (o : Pipe) (out : List Frame) : Prop where
  result : s.result.isSome = false
  before : s.down.ended = false
  unended : Unended out
  silent : bytesIn out = []
  carried : s.down.Carried got passed p
  buffer : o.buffer = s.outbound.buffer ++ passed

/-- All that a run of the download can do to the splice and to its stream `t`. -/
inductive DownRun (s : Splice) (now : Nat) (t : Mux.Stream) :
    Bytes → List Frame → Splice → Mux.Stream → Prop where
  | idle (stopped : s.result.isSome = true ∨ s.down.ended = true) : DownRun s now t [] [] s t
  | waits {got passed : Bytes} {p : Pump} {o : Pipe} {out : List Frame} {t' : Mux.Stream}
      (stroke : DownStroke s got passed p o out) (going : p.ended = false) (drawn : Drawn got t t') :
      DownRun s now t got out { s with down := p, outbound := o } t'
  | fails {got passed : Bytes} {p : Pump} {o : Pipe} {out out' : List Frame} {t₁ t' : Mux.Stream}
      (e : LinkError) (stroke : DownStroke s got passed p o out) (going : p.ended = false)
      (drawn : Drawn got t t₁) (aborted : t₁.Aborted t' out') :
      DownRun s now t got (out ++ out') ({ s with down := p, outbound := o : Splice }.finish (.error e)) t'
  | ends {got passed : Bytes} {p : Pump} {o : Pipe} {out : List Frame} {t' : Mux.Stream}
      (stroke : DownStroke s got passed p o out) (ended : p.ended = true) (pending : p.pending = [])
      (size : p.size = 0) (drawn : Drawn got t t') (empty : t'.inbox = [])
      (remoteClosed : t'.remoteClosed = true) :
      DownRun s now t got out ({ s with down := p, outbound := o : Splice }.timed now) t'

theorem runDown_ran (hm : m.Sound) (ht : m.streams[s.handle]? = some t) (n now : Nat) :
    ∃ out t', DownRun s now t (s.intake n m) out (s.runDown n now m).1 t' ∧
      Worked m s.handle out (s.runDown n now m).2 ∧
      (s.runDown n now m).2.streams[s.handle]? = some t' := by
  by_cases hstop : s.result.isSome = true ∨ s.down.ended = true
  · rw [intake, if_pos hstop, show s.runDown n now m = (s, m) from if_pos hstop]
    exact ⟨[], t, .idle hstop, .refl, ht⟩
  obtain ⟨got, passed, out, downloaded⟩ := download_downloaded hm s.handle n s.down s.outbound
  obtain ⟨t₁, ht₁, drawn⟩ := downloaded.stream t ht
  have hgot : s.intake n m = got := by
    rw [intake, if_neg hstop]
    dsimp only
    rw [stream_of_getElem? ht, stream_of_getElem? ht₁, drawn.inbox, List.length_append, Nat.add_sub_cancel,
      List.take_left]
  rw [hgot, runDown, if_neg hstop]
  rw [not_or, Bool.not_eq_true, Bool.not_eq_true] at hstop
  generalize download s.handle n s.down s.outbound m = z at downloaded ht₁ ⊢
  obtain ⟨r, p, o, m₁⟩ := z
  obtain ⟨worked, unended, silent, -, carried, buffer, rest⟩ := downloaded
  have stroke : DownStroke s got passed p o out := ⟨hstop.1, hstop.2, unended, silent, carried, buffer⟩
  rcases rest with ⟨hr, hended, hpending, hsize, hlast⟩ | ⟨hr, hgoing⟩
  · obtain rfl : r = .ended := hr
    obtain ⟨hempty, -, hremote⟩ := hlast t₁ ht₁
    exact ⟨out, t₁, .ends stroke hended hpending hsize drawn hempty hremote, worked, ht₁⟩
  · have going : p.ended = false := hgoing.trans hstop.2
    cases r with
    | ended => exact absurd rfl hr
    | waiting => exact ⟨out, t₁, .waits stroke going drawn, worked, ht₁⟩
    | failed e =>
      obtain ⟨t', out', worked', ht', aborted⟩ := abort_aborted (worked.sound hm) ht₁
      exact ⟨_, t', .fails e stroke going drawn aborted, worked.trans worked', ht'⟩

/-- All that the end of a run can do to the splice and to its stream `t`. -/
inductive Conclusion (s : Splice) (now : Nat) (t : Mux.Stream) : List Frame → Splice → Mux.Stream → Prop where
  | idle (returned : s.result.isSome = true) : Conclusion s now t [] s t
  | waits (going : s.result.isSome = false) (early : s.deadline.any (· ≤ now) = false) :
      Conclusion s now t [] s t
  | done (going : s.result.isSome = false) (up : s.up.ended = true) (down : s.down.ended = true) :
      Conclusion s now t [] (s.finish (.ok ())) t
  | expired {out : List Frame} {t' : Mux.Stream} (going : s.result.isSome = false)
      (due : s.deadline.any (· ≤ now) = true) (aborted : t.Aborted t' out) :
      Conclusion s now t out (s.finish (.ok ())) t'

theorem conclude_concluded (hm : m.Sound) (ht : m.streams[s.handle]? = some t) (now : Nat) :
    ∃ out t', Conclusion s now t out (s.conclude now m).1 t' ∧ Worked m s.handle out (s.conclude now m).2 ∧
      (s.conclude now m).2.streams[s.handle]? = some t' := by
  unfold conclude
  split
  · exact ⟨[], t, .idle ‹_›, .refl, ht⟩
  rename_i hgoing
  rw [Bool.not_eq_true] at hgoing
  split
  · rename_i hboth
    exact ⟨[], t, .done hgoing hboth.1 hboth.2, .refl, ht⟩
  split
  · obtain ⟨t', out, worked, ht', aborted⟩ := abort_aborted hm ht
    exact ⟨out, t', .expired hgoing ‹_› aborted, worked, ht'⟩
  · rename_i hearly
    exact ⟨[], t, .waits hgoing (Bool.not_eq_true _ ▸ hearly), .refl, ht⟩

/-- Running a direction does not make the splice succeed. -/
theorem UpRun.same_of_ok (ran : UpRun s now t taken out s' t') (hr : s'.result = some (.ok ())) : s' = s := by
  cases ran with
  | idle => rfl
  | waits _ stroke | ends stroke => exact absurd (congrArg Option.isSome hr) (by simp [timed, stroke.result])
  | fails => cases hr

theorem DownRun.same_of_ok (ran : DownRun s now t got out s' t') (hr : s'.result = some (.ok ())) :
    s' = s := by
  cases ran with
  | idle => rfl
  | waits stroke | ends stroke => exact absurd (congrArg Option.isSome hr) (by simp [timed, stroke.result])
  | fails => cases hr

end Splice

/-! ## Schedules -/

/-- A splice in its world, and what has gone through it. -/
structure Splicing where
  splice : Splice
  mux : Mux
  /-- Milliseconds. -/
  now : Nat := 0
  /-- Everything that the socket has given. -/
  said : Bytes := []
  /-- The socket gives no more. -/
  ended : Bool := false
  /-- What the splice has read of it. -/
  taken : Bytes := []
  /-- The frames that the splice has queued, in order. -/
  queued : List Frame := []
  /-- Everything that has arrived on the stream. -/
  arrived : Bytes
  /-- What the splice has read of it. -/
  got : Bytes := []
  /-- When a direction ended, for the first time. -/
  half : Option Nat := none
  /-- When the splice returned. -/
  returned : Option Nat := none

namespace Splicing

def written (x : Splicing) : Bytes := x.splice.outbound.buffer

inductive Move where
  /-- The socket gives some more. -/
  | say (b : Bytes)
  /-- The socket has given everything. -/
  | endOfInput
  /-- The socket takes this many bytes more. -/
  | room (n : Nat)
  /-- The socket takes no more. -/
  | hangUp
  /-- Reading from the socket fails, once what it has given is read. -/
  | breakReading (e : Fault)
  /-- Writing to the socket fails. -/
  | breakWriting (e : Fault)
  /-- A frame comes in, or some other task makes a call. -/
  | link (e : Event)
  /-- The frames that are queued go out. -/
  | sendQueue
  /-- The upload runs. -/
  | up
  /-- The download runs, for this many chunks at most. -/
  | down (n : Nat)
  /-- The whole splice runs. -/
  | poll
  /-- A millisecond passes. -/
  | tick

/-- Notes the time if a direction has ended for the first time, and if the splice has returned. -/
def noted (x : Splicing) : Splicing :=
  { x with
    half := x.half <|> if x.splice.up.ended ∨ x.splice.down.ended then some x.now else none
    returned := x.returned <|> if x.splice.result.isSome then some x.now else none }

/-- The splice has become `z.1` and its multiplexer `z.2`. -/
def put (x : Splicing) (z : Splice × Mux) : Splicing :=
  { x with splice := z.1, mux := z.2, queued := x.queued ++ z.2.outbound.drop x.mux.outbound.length }

def up (x : Splicing) : Splicing :=
  { x.put (x.splice.runUp x.now x.mux) with taken := x.taken ++ x.splice.uptake x.mux }.noted

def down (x : Splicing) (n : Nat) : Splicing :=
  { x.put (x.splice.runDown n x.now x.mux) with got := x.got ++ x.splice.intake n x.mux }.noted

def conclude (x : Splicing) : Splicing := (x.put (x.splice.conclude x.now x.mux)).noted

/-- The parts of a run, one after the other. -/
def parts (x : Splicing) : Splicing := (x.up.down (x.up.splice.chunks x.up.mux)).conclude

/-- The whole splice runs. What goes through it is noted part by part. -/
def poll (x : Splicing) : Splicing :=
  let z := x.splice.run x.now x.mux
  { x.parts with splice := z.1, mux := z.2 }

/-- A run is its parts. -/
theorem poll_eq (x : Splicing) : x.poll = x.parts := rfl

/-- A timer that is due fires before the clock moves on. -/
def awaited (x : Splicing) : Splicing := if x.splice.deadline.any (· ≤ x.now) then x.poll else x

/-- The world after a move. A socket that has ended gives nothing any more, and nobody else uses the stream. -/
def step (x : Splicing) : Move → Splicing
  | .say b =>
    if x.ended then x
    else { x with splice.inbound.buffer := x.splice.inbound.buffer ++ b, said := x.said ++ b }
  | .endOfInput => { x with splice.inbound.closed := true, ended := true }
  | .room n => { x with splice.outbound.capacity := x.written.length + n }
  | .hangUp => { x with splice.outbound.closed := true }
  | .breakReading e => { x with splice.inbound.fault := some e }
  | .breakWriting e => { x with splice.outbound.fault := some e }
  | .link e =>
    if e.Uses x.mux x.splice.handle then x
    else { x with mux := x.mux.step e, arrived := x.arrived ++ x.mux.arrivals x.splice.handle e }
  | .sendQueue => { x with mux.outbound := [] }
  | .up => x.up
  | .down n => x.down n
  | .poll => x.poll
  | .tick => { x.awaited with now := x.awaited.now + 1 }

def run (x : Splicing) (moves : List Move) : Splicing := moves.foldl step x

def start (m : Mux) (h : Mux.Handle) (grace : Duration) : Splicing where
  splice := { handle := h, grace, inbound := { capacity := 0 }, outbound := { capacity := 0 } }
  mux := m
  arrived := (m.stream h).inbox.flatten

end Splicing

end SealedRelay
