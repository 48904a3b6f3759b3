import SealedRelay.Mux.Call
import SealedRelay.Proofs.Connection.Transparent
import SealedRelay.Proofs.Mux.Aftermath
import SealedRelay.Proofs.Mux.Lifecycle

/-!
# How a connection ends

Many things can end a connection: its own program, the socket, what arrives on it, the clock. The first
of them ends all its streams with one error, and from then on nothing happens any more: later causes
find nothing to end, and frames that the reader still hands over find no stream.

Results:
* `Cause.streamError_eq`: what a cause tells the streams.
* `Cause.ended`: a cause ends the connection and fails the streams that are live then.
* `after_passed`: without a cause a connection goes on.
* `Over.after`: what happens to a connection that has ended.
* `Over.answers_prefix`: what is read from its streams.
* `first_cause_is_final`: all of it together, for any connection and any run.
-/
namespace SealedRelay

/-- A multiplexer to which frames have been handed over. -/
def Mux.handed (m : Mux) (frames : List Frame) : Mux := frames.foldl (fun m f => (m.receive f).2) m

/-- Handed over one after the other, the frames break no rule. -/
def Mux.Takes (m : Mux) : List Frame → Prop
  | [] => True
  | f :: frames => (m.receive f).1 = .ok () ∧ (m.receive f).2.Takes frames

theorem Mux.Takes.receive_ok {m : Mux} {frames before : List Frame} {f : Frame} (good : m.Takes frames)
    (reached : before ++ [f] <+: frames) : ((m.handed before).receive f).1 = .ok () := by
  induction before generalizing m frames with
  | nil =>
    obtain ⟨rest, rfl⟩ := reached
    exact good.1
  | cons g before ih =>
    obtain ⟨rest, rfl⟩ := reached
    exact ih good.2 ⟨rest, rfl⟩

theorem Mux.Takes.first_rejected {m : Mux} {frames before before' : List Frame} {f f' : Frame}
    {e e' : LinkError} (good : m.Takes before) (good' : m.Takes before')
    (reached : before ++ [f] <+: frames) (reached' : before' ++ [f'] <+: frames)
    (rejected : ((m.handed before).receive f).1 = .error e)
    (rejected' : ((m.handed before').receive f').1 = .error e') : before = before' ∧ e = e' := by
  have same : before ++ [f] = before' ++ [f'] := by
    rcases List.prefix_or_prefix_of_prefix reached reached' with h | h
    · refine (List.prefix_concat_iff.1 h).resolve_right fun h => ?_
      rw [good'.receive_ok h] at rejected
      cases rejected
    · refine ((List.prefix_concat_iff.1 h).resolve_right fun h => ?_).symm
      rw [good.receive_ok h] at rejected'
      cases rejected'
  obtain ⟨rfl, hf⟩ := List.append_inj' same rfl
  obtain rfl := List.singleton_inj.1 hf
  exact ⟨rfl, Except.error.inj (rejected.symm.trans rejected')⟩

theorem Mux.Sound.receive {m : Mux} (hm : m.Sound) (f : Frame) : (m.receive f).2.Sound :=
  (Mux.changes_keep (I := fun _ => True) (fun _ _ _ => trivial) hm trivial
    (Mux.step_chain hm (.frame f))).1

/-- The frames that an opener makes of sealed ones, and why it could not open the next one. -/
def Opener.frames (o : Opener) : List Frame → List Frame × Option SealError
  | [] => ([], none)
  | w :: sealed =>
    match o.next w.routing w.payload with
    | (.error e, _) => ([], some e)
    | (.ok payload, o) =>
      let (opened, ending) := o.frames sealed
      ({ w with payload } :: opened, ending)

namespace Connection

/-- One thing that happens to a connection whose reader may lag behind. -/
inductive Moment where
  | event (e : Event)
  /-- The reader hands over a frame that it has opened, though the connection may have ended. -/
  | late (f : Frame)

namespace Moment

/-- This side closes the connection, or forgets it. -/
def isClose : Moment → Bool
  | event .close => true
  | _ => false

def isCall : Moment → Bool
  | event (.call _) => true
  | _ => false

def reads : Moment → Option Mux.Handle
  | event (.call c) => (Mux.Event.call c).reads
  | _ => none

theorem exists_of_isCall {mo : Moment} (h : mo.isCall = true) : ∃ c, mo = event (.call c) := by
  rcases mo with ⟨c | _ | _ | _ | _ | _ | _⟩ | _ <;> first | exact ⟨c, rfl⟩ | cases h

end Moment

def after (x : Connection) : Moment → Connection
  | .event e => x.step e
  | .late f =>
    let r := x.mux.receive f
    match r.1 with
    | .error e => { x with mux := r.2 }.teardown e
    | .ok () => { x with mux := r.2 }

def through (x : Connection) (moments : List Moment) : Connection := moments.foldl after x

/-- What the reads of a stream are told while one thing happens after the other. -/
def answers (h : Mux.Handle) (x : Connection) :
    List Moment → List (Except LinkError Mux.ReadOutcome)
  | [] => []
  | mo :: later =>
    if mo.reads = some h then (x.mux.read h).1 :: answers h (x.after mo) later
    else answers h (x.after mo) later

variable {x z : Connection} {m : Mux} {mo : Moment}
  {moments later : List Moment} {e : LinkError}

/-! ## Causes -/

def decoded (x : Connection) (b : Bytes) : List Frame × Frame.Ending :=
  Frame.decodeAll (wireLimit x.mux.config) (x.received ++ b)

/-- A moment ends a connection for a cause, after these frames have been handed over. -/
inductive Cause (x : Connection) : Moment → List Frame → LinkError → Prop where
  | closed : Cause x (.event .close) [] .connectionClosed
  | left (empty : x.received = []) :
      Cause x (.event .endOfInput) [] (.unreachable "connection closed by peer")
  | cut (partial_ : x.received ≠ []) :
      Cause x (.event .endOfInput) [] (.ofFrame .connectionClosed)
  | socket (fault : Fault) : Cause x (.event (.socketFailed fault)) [] (.io fault)
  /-- All frames before it were good, and then there is no frame. -/
  | framing {now : Duration} {b rest : Bytes} {e : Frame.Error}
      (opened : (x.opener.frames (x.decoded b).1).2 = none)
      (good : x.mux.Takes (x.opener.frames (x.decoded b).1).1)
      (ending : (x.decoded b).2 = .error e rest) :
      Cause x (.event (.bytes now b)) (x.opener.frames (x.decoded b).1).1 (.ofFrame e)
  /-- All frames before it were good, and the next cannot be opened. -/
  | opening {now : Duration} {b : Bytes} {e : SealError}
      (good : x.mux.Takes (x.opener.frames (x.decoded b).1).1)
      (forged : (x.opener.frames (x.decoded b).1).2 = some e) :
      Cause x (.event (.bytes now b)) (x.opener.frames (x.decoded b).1).1 (.ofSeal e)
  /-- All frames before it were good, and the next breaks the rules. -/
  | violation {now : Duration} {b : Bytes} {frames : List Frame} {f : Frame} {e : LinkError}
      (reached : frames ++ [f] <+: (x.opener.frames (x.decoded b).1).1)
      (good : x.mux.Takes frames) (rejected : ((x.mux.handed frames).receive f).1 = .error e) :
      Cause x (.event (.bytes now b)) frames e
  | late {f : Frame} {e : LinkError} (rejected : (x.mux.receive f).1 = .error e) :
      Cause x (.late f) [] e
  | sealing {f : Frame} {rest : List Frame} {e : SealError} (queue : x.mux.outbound = f :: rest)
      (unsealed : (x.sealer.next f.routing f.payload).1 = .error e) :
      Cause x (.event .write) [] (.ofSeal e)
  | writing {f : Frame} {rest : List Frame} {payload : Bytes} {e : Frame.Error}
      (queue : x.mux.outbound = f :: rest)
      (sealed : (x.sealer.next f.routing f.payload).1 = .ok payload)
      (unwritten : Frame.Codec.write { maxPayload := wireLimit x.mux.config } { f with payload } =
        .error e) :
      Cause x (.event .write) [] (.ofFrame e)
  | silence {now : Duration} (silent : (x.idle now).nanos ≥ x.mux.config.idleTimeout.nanos) :
      Cause x (.event (.tick now)) [] (.unreachable s!"no traffic for {(x.idle now).text}")

/-- The streams are told of a close as such, and of anything else in its own words. -/
theorem Cause.streamError_eq {frames : List Frame} {cause : LinkError}
    (h : x.Cause mo frames cause) :
    streamError cause = if mo.isClose then .connectionClosed else .unreachable cause.message := by
  have other (hc : cause ≠ .connectionClosed) :
      streamError cause = .unreachable cause.message := by
    cases cause <;> first | rfl | exact absurd rfl hc
  have framing (e : Frame.Error) : LinkError.ofFrame e ≠ .connectionClosed := by
    cases e <;> nofun
  have sealing (e : SealError) : LinkError.ofSeal e ≠ .connectionClosed := by
    cases e <;> nofun
  have violation {m : Mux} {f : Frame} {e : LinkError} (he : (m.receive f).1 = .error e) :
      e ≠ .connectionClosed := by
    obtain ⟨⟨text, rfl⟩, -⟩ := Mux.receive_error he
    nofun
  cases h with
  | closed => rfl
  | left | cut | socket | silence => rfl
  | framing | writing => exact other (framing _)
  | opening | sealing => exact other (sealing _)
  | violation _ _ rejected | late rejected => exact other (violation rejected)

/-! ## The end -/

/-- A connection that has ended, with nothing left to send. -/
structure Over (x : Connection) : Prop where
  closed : x.closed = true
  mux : x.mux.Over

/-- A connection that ended with `e` when its streams were those of `m`. -/
structure Ended (m : Mux) (e : LinkError) (z : Connection) : Prop extends Over z where
  streams : z.mux.streams = m.streams.map (·.failing e)

theorem teardown_of_closed (h : x.closed = true) (cause : LinkError) : x.teardown cause = x :=
  if_pos h

theorem ended_teardown {cause : LinkError} (hstreams : x.mux.streams = m.streams) (hm : x.mux.Sound)
    (hopen : x.closed = false) : Ended m (streamError cause) (x.teardown cause) := by
  have hf := Mux.failAll_failed hm (streamError cause)
  have hsound : ({ x.mux.failAll (streamError cause) with outbound := [], sending := false } : Mux).Sound :=
    { hf.sound hm with }
  rw [teardown, if_neg (by simp [hopen])]
  exact ⟨⟨rfl, ⟨hsound, hf.failed, rfl⟩⟩, hstreams ▸ hf.streams⟩

/-- What is left of the bytes does not matter to the streams. -/
theorem Ended.received (h : Ended m e z) (rest : Bytes) : Ended m e { z with received := rest } :=
  ⟨⟨h.closed, h.mux⟩, h.streams⟩

/-! ## Bytes -/

/-- What has become of a connection with multiplexer `m` and opener `o` to which sealed frames were
handed: it has taken them all, or ended at the first that it could not open or that broke the
rules. -/
inductive Taken (m : Mux) (o : Opener) (sealed : List Frame) (z : Connection) : Prop where
  | all (isOpen : z.closed = false) (opened : (o.frames sealed).2 = none)
      (good : m.Takes (o.frames sealed).1) (mux : z.mux = m.handed (o.frames sealed).1)
  | unopened {e : SealError} (good : m.Takes (o.frames sealed).1)
      (forged : (o.frames sealed).2 = some e)
      (ended : Ended (m.handed (o.frames sealed).1) (streamError (.ofSeal e)) z)
  | rejected {frames : List Frame} {f : Frame} {e : LinkError}
      (reached : frames ++ [f] <+: (o.frames sealed).1) (good : m.Takes frames)
      (rejected : ((m.handed frames).receive f).1 = .error e)
      (ended : Ended (m.handed frames) (streamError e) z)

/-- The connection when a sealed frame has arrived, with its opener and its multiplexer then. -/
def noted (x : Connection) (now : Duration) (w : Frame) (opener : Opener) (mux : Mux) : Connection :=
  { x with mux, opener, bytesReceived := x.bytesReceived + w.wireSize, lastInbound := now.millis }

theorem handle_unopened {w : Frame} {o : Opener} {e : SealError} (hopen : x.closed = false)
    (ho : x.opener.next w.routing w.payload = (.error e, o)) (now : Duration) :
    x.handle now w = (x.noted now w o x.mux).teardown (.ofSeal e) := by
  unfold handle
  rw [if_neg (by simp [hopen]), ho]
  rfl

theorem handle_opened {w : Frame} {o : Opener} {payload : Bytes} (hopen : x.closed = false)
    (ho : x.opener.next w.routing w.payload = (.ok payload, o)) (now : Duration) :
    let r := x.mux.receive { w with payload }
    x.handle now w =
      match r.1 with
      | .error e => (x.noted now w o r.2).teardown e
      | .ok () => x.noted now w o r.2 := by
  unfold handle
  rw [if_neg (by simp [hopen]), ho]
  rfl

theorem foldl_handle_of_closed (h : x.closed = true) (now : Duration) (sealed : List Frame) :
    sealed.foldl (handle now) x = x :=
  List.foldl_fixed' (fun w => handle_of_closed h now w) sealed

/-- A frame that was opened and taken comes before what was taken after it. -/
theorem Taken.cons {o o' : Opener} {w f : Frame} {sealed : List Frame} {z : Connection}
    (hframes : o.frames (w :: sealed) = (f :: (o'.frames sealed).1, (o'.frames sealed).2))
    (hf : (m.receive f).1 = .ok ()) (h : Taken (m.receive f).2 o' sealed z) :
    Taken m o (w :: sealed) z := by
  have good {frames : List Frame} (h : (m.receive f).2.Takes frames) : m.Takes (f :: frames) :=
    ⟨hf, h⟩
  cases h with
  | all isOpen opened taken mux =>
    refine .all isOpen ?_ ?_ ?_
    · rwa [hframes]
    · rw [hframes]
      exact good taken
    · rwa [hframes]
  | @unopened e taken forged ended =>
    have hforged : (o.frames (w :: sealed)).2 = some e := by rwa [hframes]
    refine .unopened ?_ hforged ?_
    · rw [hframes]
      exact good taken
    · rwa [hframes]
  | @rejected before g _ reached taken rejected ended =>
    have reached' : (f :: before) ++ [g] <+: (o.frames (w :: sealed)).1 := by
      rw [hframes]
      exact List.cons_prefix_cons.2 ⟨rfl, reached⟩
    exact .rejected reached' (good taken) rejected ended

theorem foldl_handle_taken (hm : x.mux.Sound) (hopen : x.closed = false) (now : Duration)
    (sealed : List Frame) : Taken x.mux x.opener sealed (sealed.foldl (handle now) x) := by
  induction sealed generalizing x with
  | nil => exact .all hopen rfl trivial rfl
  | cons w sealed ih =>
    rw [List.foldl_cons]
    rcases ho : x.opener.next w.routing w.payload with ⟨e | payload, o⟩
    · have hended : Ended x.mux (streamError (.ofSeal e)) (x.handle now w) := by
        rw [handle_unopened hopen ho]
        exact ended_teardown rfl hm hopen
      have hframes : x.opener.frames (w :: sealed) = ([], some e) := by
        simp only [Opener.frames, ho]
      have hforged : (x.opener.frames (w :: sealed)).2 = some e := by rw [hframes]
      rw [foldl_handle_of_closed hended.closed]
      refine .unopened ?_ hforged ?_
      · rw [hframes]
        trivial
      · rwa [hframes]
    · let f : Frame := { w with payload }
      have hframes : x.opener.frames (w :: sealed) =
          (f :: (o.frames sealed).1, (o.frames sealed).2) := by
        simp only [Opener.frames, ho, f]
      have hhandle := handle_opened hopen ho now
      cases hr : (x.mux.receive f).1 with
      | error e =>
        have hended : Ended x.mux (streamError e) (x.handle now w) := by
          rw [hhandle, hr]
          exact ended_teardown (congrArg Mux.streams (Mux.receive_error hr).2) (hm.receive f) hopen
        have reached : [] ++ [f] <+: (x.opener.frames (w :: sealed)).1 := by
          rw [hframes]
          exact ⟨_, rfl⟩
        rw [foldl_handle_of_closed hended.closed]
        exact .rejected reached trivial hr hended
      | ok =>
        rw [hhandle, hr]
        exact .cons hframes hr (ih (x := x.noted now w o (x.mux.receive f).2) (hm.receive f) hopen)

/-! ## What can happen -/

theorem changes_handed (hm : m.Sound) (frames : List Frame) :
    Relation.ReflTransGen Mux.Change m (m.handed frames) := by
  induction frames generalizing m with
  | nil => exact .refl
  | cons f frames ih => exact (Mux.step_chain hm (.frame f)).trans (ih (hm.receive f))

theorem sound_handed (hm : m.Sound) (frames : List Frame) : (m.handed frames).Sound :=
  (Mux.changes_keep (I := fun _ => True) (fun _ _ _ => trivial) hm trivial
    (changes_handed hm frames)).1

theorem receive_eq (hopen : x.closed = false) (now : Duration) (b : Bytes) :
    x.receive now b =
      let z := (x.decoded b).1.foldl (handle now) x
      match (x.decoded b).2 with
      | .more rest => { z with received := rest }
      | .error e rest => { z.teardown (.ofFrame e) with received := rest } := by
  unfold receive
  rw [if_neg (by simp [hopen])]
  rfl

/-- A connection that ends while frames are handed over stays as it is until all bytes are read. -/
theorem receive_ended {now : Duration} {b : Bytes} (hopen : x.closed = false)
    (ended : Ended m e ((x.decoded b).1.foldl (handle now) x)) : Ended m e (x.receive now b) := by
  rw [receive_eq hopen]
  dsimp only
  split
  · exact ended.received _
  · rw [teardown_of_closed ended.closed]
    exact ended.received _

/-- A cause ends the connection. -/
theorem Cause.ended {frames : List Frame} (hm : x.mux.Sound) (hopen : x.closed = false)
    (h : x.Cause mo frames e) : Ended (x.mux.handed frames) (streamError e) (x.after mo) := by
  cases h with
  | closed | socket => exact ended_teardown rfl hm hopen
  | left empty =>
    simp only [after, step, endOfInput, if_pos empty]
    exact ended_teardown rfl hm hopen
  | cut partial_ =>
    simp only [after, step, endOfInput, if_neg partial_]
    exact ended_teardown rfl hm hopen
  | @framing now b rest e opened good ending =>
    show Ended _ _ (x.receive now b)
    cases foldl_handle_taken hm hopen now (x.decoded b).1 with
    | all isOpen _ _ mux =>
      rw [receive_eq hopen, ending]
      exact (ended_teardown (congrArg Mux.streams mux) (mux ▸ sound_handed hm _) isOpen).received rest
    | unopened _ forged =>
      rw [opened] at forged
      cases forged
    | rejected reached _ rejected =>
      rw [good.receive_ok reached] at rejected
      cases rejected
  | @opening now b e good forged =>
    show Ended _ _ (x.receive now b)
    cases foldl_handle_taken hm hopen now (x.decoded b).1 with
    | all _ opened =>
      rw [opened] at forged
      cases forged
    | unopened _ forged' ended =>
      obtain rfl := Option.some.inj (forged.symm.trans forged')
      exact receive_ended hopen ended
    | rejected reached _ rejected =>
      rw [good.receive_ok reached] at rejected
      cases rejected
  | @violation now b frames f e reached good rejected =>
    show Ended _ _ (x.receive now b)
    cases foldl_handle_taken hm hopen now (x.decoded b).1 with
    | all _ _ taken | unopened taken =>
      rw [taken.receive_ok reached] at rejected
      cases rejected
    | rejected reached' good' rejected' ended =>
      obtain ⟨rfl, rfl⟩ := good.first_rejected good' reached reached' rejected rejected'
      exact receive_ended hopen ended
  | @late f e rejected =>
    simp only [after, rejected]
    exact ended_teardown (congrArg Mux.streams (Mux.receive_error rejected).2) (hm.receive f) hopen
  | @sealing f rest e queue unsealed =>
    have hm' : ({ x.mux with outbound := rest } : Mux).Sound := { hm with }
    simp only [after, step, nextWire, hopen, Bool.false_eq_true, if_false, queue, unsealed]
    exact ended_teardown rfl hm' rfl
  | @writing f rest payload e queue sealed unwritten =>
    have hm' : ({ x.mux with outbound := rest } : Mux).Sound := { hm with }
    simp only [after, step, nextWire, hopen, Bool.false_eq_true, if_false, queue, sealed, unwritten]
    exact ended_teardown rfl hm' rfl
  | silence silent =>
    show Ended _ _ (x.tick _)
    rw [tick, if_neg (by simp [hopen])]
    dsimp only
    rw [if_pos silent]
    exact ended_teardown rfl hm hopen

/-- A connection goes on, or there is a cause for its end. -/
inductive Passed (x : Connection) (mo : Moment) : Prop where
  | goesOn (isOpen : (x.after mo).closed = false)
      (changes : Relation.ReflTransGen Mux.Change x.mux (x.after mo).mux)
  | ends {frames : List Frame} {e : LinkError} (cause : x.Cause mo frames e)

theorem receive_passed (hm : x.mux.Sound) (hopen : x.closed = false) (now : Duration) (b : Bytes) :
    x.Passed (.event (.bytes now b)) := by
  cases foldl_handle_taken hm hopen now (x.decoded b).1 with
  | unopened good forged => exact .ends (.opening good forged)
  | rejected reached good rejected => exact .ends (.violation reached good rejected)
  | all isOpen opened good mux =>
    cases hending : (x.decoded b).2 with
    | error e rest => exact .ends (.framing opened good hending)
    | more rest =>
      have hreceive := receive_eq hopen now b
      rw [hending] at hreceive
      refine .goesOn ((congrArg closed hreceive).trans isOpen) ?_
      rw [show (x.after (.event (.bytes now b))).mux = _ from (congrArg Connection.mux hreceive).trans mux]
      exact changes_handed hm _

theorem nextWire_passed (hopen : x.closed = false) : x.Passed (.event .write) := by
  cases queue : x.mux.outbound with
  | nil =>
    have hsame : x.nextWire.2 = x := by simp [nextWire, hopen, queue]
    exact .goesOn ((congrArg closed hsame).trans hopen)
      (show Relation.ReflTransGen _ _ x.nextWire.2.mux from hsame.symm ▸ .refl)
  | cons f rest =>
    cases sealed : (x.sealer.next f.routing f.payload).1 with
    | error e => exact .ends (.sealing queue sealed)
    | ok payload =>
      cases written : Frame.Codec.write { maxPayload := wireLimit x.mux.config } { f with payload } with
      | error e => exact .ends (.writing queue sealed written)
      | ok codec =>
        have hnext : x.nextWire.2.closed = false ∧
            x.nextWire.2.mux = { x.mux with outbound := rest } := by
          simp [nextWire, hopen, queue, sealed, written]
        exact .goesOn hnext.1 (show Relation.ReflTransGen _ _ x.nextWire.2.mux from
          hnext.2 ▸ .single (.none rfl rfl rfl rfl rfl rfl))

theorem tick_passed (hm : x.mux.Sound) (hopen : x.closed = false) (now : Duration) :
    x.Passed (.event (.tick now)) := by
  by_cases silent : (x.idle now).nanos ≥ x.mux.config.idleTimeout.nanos
  · exact .ends (.silence silent)
  have htick : (x.tick now).closed = false ∧
      ((x.tick now).mux = x.mux.ping ∨ (x.tick now).mux = x.mux) := by
    rw [tick, if_neg (by simp [hopen])]
    dsimp only
    rw [if_neg silent]
    split
    · exact ⟨hopen, .inl rfl⟩
    · exact ⟨hopen, .inr rfl⟩
  refine .goesOn htick.1 (show Relation.ReflTransGen _ _ (x.tick now).mux from ?_)
  rcases htick.2 with hmux | hmux
  · exact hmux ▸ Mux.step_chain hm (.call .ping)
  · exact hmux ▸ .refl

/-- Without a cause a connection goes on. -/
theorem after_passed (hm : x.mux.Sound) (hopen : x.closed = false) (mo : Moment) : x.Passed mo := by
  cases mo with
  | late f =>
    cases hr : (x.mux.receive f).1 with
    | error e => exact .ends (.late hr)
    | ok =>
      have hlate : x.after (.late f) = { x with mux := (x.mux.receive f).2 } := by simp only [after, hr]
      refine .goesOn (hlate ▸ hopen) ?_
      rw [hlate]
      exact Mux.step_chain hm (.frame f)
  | event e =>
    cases e with
    | call c => exact .goesOn hopen (Mux.step_chain hm (.call c))
    | bytes now b => exact receive_passed hm hopen now b
    | endOfInput =>
      by_cases empty : x.received = []
      · exact .ends (.left empty)
      · exact .ends (.cut empty)
    | socketFailed fault => exact .ends (.socket fault)
    | write => exact nextWire_passed hopen
    | tick now => exact tick_passed hm hopen now
    | close => exact .ends .closed

/-! ## After the end -/

namespace Over

variable {h : Mux.Handle} {s : Mux.Stream}

theorem teardown (ho : x.Over) (cause : LinkError) : x.teardown cause = x :=
  teardown_of_closed ho.closed cause

/-- Nothing but a call of the own program changes anything. -/
theorem after_of_not_call (ho : x.Over) (hc : mo.isCall = false) : x.after mo = x := by
  cases mo with
  | late f =>
    simp only [Connection.after, ho.mux.receive f]
    split
    · exact ho.teardown _
    · rfl
  | event e =>
    cases e with
    | call => cases hc
    | bytes | tick => exact if_pos ho.closed
    | write => exact congrArg Prod.snd (if_pos ho.closed)
    | endOfInput =>
      simp only [Connection.after, step, endOfInput]
      split <;> exact ho.teardown _
    | socketFailed | close => exact ho.teardown _

/-- After anything the connection is still over. A stream from which was read has lost its first chunk;
all others are what they were. -/
theorem after (ho : x.Over) (mo : Moment) :
    (x.after mo).Over ∧ (x.after mo).mux.streams.length = x.mux.streams.length ∧
      ∀ (h : Mux.Handle) s, x.mux.streams[h]? = some s →
        ∃ s', (x.after mo).mux.streams[h]? = some s' ∧
          s.Left (if mo.reads = some h then s.inbox.tail else s.inbox) s' := by
  cases hc : mo.isCall with
  | false =>
    have hreads : mo.reads = none := by
      rcases mo with ⟨_ | _ | _ | _ | _ | _ | _⟩ | _ <;> first | rfl | cases hc
    rw [ho.after_of_not_call hc]
    refine ⟨ho, rfl, fun h s hs => ⟨s, hs, ?_⟩⟩
    rw [hreads, if_neg nofun]
    exact s.left_self
  | true =>
    obtain ⟨c, rfl⟩ := Moment.exists_of_isCall hc
    obtain ⟨hmux, hlength, hstreams⟩ := ho.mux.step (.call c)
    exact ⟨⟨ho.closed, hmux⟩, hlength, hstreams⟩

/-- After one thing after the other no stream has come to life again or lost its failure. -/
theorem through (ho : x.Over) (later : List Moment) :
    (x.through later).Over ∧ (x.through later).mux.streams.length = x.mux.streams.length ∧
      ∀ (h : Mux.Handle) s, x.mux.streams[h]? = some s →
        ∃ inbox s', (x.through later).mux.streams[h]? = some s' ∧ s.Left inbox s' := by
  induction later generalizing x with
  | nil => exact ⟨ho, rfl, fun h s hs => ⟨s.inbox, s, hs, s.left_self⟩⟩
  | cons mo later ih =>
    obtain ⟨ho', hlength, hstreams⟩ := ho.after mo
    obtain ⟨hover, hlength', hstreams'⟩ := ih ho'
    refine ⟨hover, hlength'.trans hlength, fun h s hs => ?_⟩
    obtain ⟨s₁, hs₁, hleft⟩ := hstreams h s hs
    obtain ⟨inbox, s₂, hs₂, hleft'⟩ := hstreams' h s₁ hs₁
    exact ⟨inbox, s₂, hs₂, hleft.trans hleft'⟩

/-- Reads of a stream are told what had arrived, and then how it ended. -/
theorem answers_prefix (ho : x.Over) {h : Mux.Handle} {s : Mux.Stream}
    (hs : x.mux.streams[h]? = some s) (later : List Moment) :
    answers h x later <+:
      s.inbox.map (fun chunk => .ok (.chunk chunk)) ++ List.replicate later.length s.ending := by
  induction later generalizing x s with
  | nil => exact List.nil_prefix
  | cons mo later ih =>
    obtain ⟨ho', -, hstreams⟩ := ho.after mo
    obtain ⟨s', hs', hleft⟩ := hstreams h s hs
    have hrest := ih ho' hs'
    obtain ⟨credit, allowance, rfl⟩ := hleft
    have hending (n : Nat) : List.replicate n s.ending <+: List.replicate (n + 1) s.ending :=
      ⟨[s.ending], List.replicate_succ'.symm⟩
    rw [answers]
    split
    · rename_i hread
      rw [if_pos hread] at hrest
      cases hi : s.inbox with
      | nil =>
        rw [hi] at hrest
        rw [ho.mux.read_of_nil hs hi]
        exact List.cons_prefix_cons.2 ⟨rfl, hrest⟩
      | cons chunk rest =>
        rw [hi] at hrest
        rw [Mux.Over.read_of_cons hs hi]
        refine List.cons_prefix_cons.2 ⟨rfl, hrest.trans ?_⟩
        exact (List.prefix_append_right_inj _).2 (hending later.length)
    · rename_i hread
      rw [if_neg hread] at hrest
      exact hrest.trans ((List.prefix_append_right_inj _).2 (hending later.length))

end Over

/-! ## Any run -/

/-- What holds of the streams of a connection while it is open. -/
structure Lasting (x : Connection) : Prop where
  sound : x.mux.Sound
  waits : x.mux.AllWait

theorem lasting_new (id : Nat) (peer : String) (e : End) (session : Session) (config : Mux.Config) :
    (new id peer e session config).Lasting where
  sound := Mux.sound_fresh _ config
  waits _ hs := absurd hs List.not_mem_nil

theorem closed_after (h : x.closed = true) (mo : Moment) : (x.after mo).closed = true := by
  cases mo with
  | event e => exact closed_step h e
  | late f =>
    simp only [after]
    split
    · exact closed_teardown _ _
    · exact h

theorem closed_through (h : x.closed = true) (moments : List Moment) :
    (x.through moments).closed = true := by
  induction moments generalizing x with
  | nil => exact h
  | cons mo moments ih => exact ih (closed_after h mo)

theorem closed_of_through (hopen : (x.through moments).closed = false) : x.closed = false :=
  Bool.eq_false_iff.2 fun h => by simp [closed_through h] at hopen

theorem Lasting.through (h : x.Lasting)
    (hopen : (x.through moments).closed = false) : (x.through moments).Lasting := by
  induction moments generalizing x with
  | nil => exact h
  | cons mo moments ih =>
    have hafter : (x.after mo).closed = false := closed_of_through hopen
    have hx : x.closed = false := closed_of_through (show (x.through [mo]).closed = false from hafter)
    refine ih ?_ hopen
    cases after_passed h.sound hx mo with
    | ends cause => simp [(cause.ended h.sound hx).closed] at hafter
    | goesOn _ changes =>
      obtain ⟨hsound, -, hwaits⟩ :=
        Mux.changes_keep (fun ch _ hw => ch.allWait hw) h.sound h.waits changes
      exact ⟨hsound, hwaits⟩

/-! ## The first cause -/

/-- The streams of a connection `z` that ended with `err` when they were those of `m`. -/
structure Fallen (m : Mux) (err : LinkError) (z : Connection) : Prop where
  length : z.mux.streams.length = m.streams.length
  /-- A closed stream stays what it is. -/
  done : ∀ (h : Mux.Handle) s, m.streams[h]? = some s → s.phase = .closed →
    z.mux.streams[h]? = some s
  live : ∀ (h : Mux.Handle) s, m.streams[h]? = some s → s.phase ≠ .closed →
    (z.mux.stream h).phase = .closed ∧ (z.mux.stream h).inbox = [] ∧
      (z.mux.stream h).failure = some err
  /-- A call that waits for a stream is told. -/
  waiting : ∀ (h : Mux.Handle) s, m.streams[h]? = some s → s.awaitingOpen = true →
    z.mux.openResult h = some (.error err)

/-- What does not change any more when a connection has ended as `z`. -/
structure Final (z w : Connection) : Prop where
  closed : w.closed = true
  table : w.mux.table = []
  length : w.mux.streams.length = z.mux.streams.length
  /-- No stream comes to life again, or loses its failure. -/
  streams : ∀ h < z.mux.streams.length, (w.mux.stream h).phase = .closed ∧
    (w.mux.stream h).failure = (z.mux.stream h).failure ∧ w.mux.openResult h = z.mux.openResult h
  /-- Nobody gets a stream any more. -/
  refused : ∀ d payload, d.encode = .ok payload →
    (∃ text, (w.mux.openStream d).1 = .error (.unavailable text)) ∧ (w.mux.openStream d).2 = w.mux
  /-- Later causes and frames change nothing. -/
  deaf : ∀ mo : Moment, mo.isCall = false → w.after mo = w

namespace Ended

variable {h : Mux.Handle} {s : Mux.Stream}

theorem stream (he : Ended m e z) (hs : m.streams[h]? = some s) :
    z.mux.streams[h]? = some (s.failing e) := by
  rw [he.streams, List.getElem?_map, hs, Option.map_some]

theorem stream_done (he : Ended m e z) (hs : m.streams[h]? = some s) (hp : s.phase = .closed) :
    z.mux.streams[h]? = some s := by
  rw [he.stream hs, Mux.Stream.failing, if_pos hp]

theorem stream_live (he : Ended m e z) (hs : m.streams[h]? = some s) (hp : s.phase ≠ .closed) :
    z.mux.streams[h]? = some (s.terminated e) := by
  rw [he.stream hs, Mux.Stream.failing, if_neg hp]

/-- A live stream has no failure but the one that it ends with. -/
theorem failure_live (hm : m.Sound) (hs : m.streams[h]? = some s) (hp : s.phase ≠ .closed) :
    (s.terminated e).failure = some e := by
  rw [Mux.Stream.failure_terminated, (hm.stream_sound hs).shape.failure_eq_none hp]
  rfl

theorem fallen (he : Ended m e z) (hm : m.Sound) (hw : m.AllWait) : Fallen m e z where
  length := by rw [he.streams, List.length_map]
  done _ _ := he.stream_done
  live h s hs hp := by
    rw [Mux.stream_of_getElem? (he.stream_live hs hp)]
    exact ⟨s.phase_terminated e, s.inbox_terminated e, failure_live hm hs hp⟩
  waiting h s hs hwait := by
    have hp : s.phase = .pendingOpen := ((hw s (List.mem_of_getElem? hs)).1 hwait).2
    rw [Mux.openResult, Mux.stream_of_getElem? (he.stream_live hs (by simp [hp]))]
    simp [Mux.Stream.terminated, Mux.Stream.tellOpener, hwait]

theorem answers_live (he : Ended m e z) (hm : m.Sound) (hs : m.streams[h]? = some s)
    (hp : s.phase ≠ .closed) (later : List Moment) :
    answers h z later <+: List.replicate later.length (.error e) := by
  have hprefix := he.answers_prefix (he.stream_live hs hp) later
  rwa [Mux.Stream.inbox_terminated, Mux.Stream.ending, failure_live hm hs hp] at hprefix

/-- Readers of a stream that both sides had closed get what had arrived, and then its end. -/
theorem answers_done (he : Ended m e z) (hs : m.streams[h]? = some s) (hp : s.phase = .closed)
    (hf : s.failure = none) (later : List Moment) :
    answers h z later <+: s.inbox.map (fun chunk => .ok (.chunk chunk)) ++
      List.replicate later.length (.ok .eof) := by
  have hprefix := he.answers_prefix (he.stream_done hs hp) later
  rwa [Mux.Stream.ending, hf] at hprefix

end Ended

theorem Over.final (ho : z.Over) (later : List Moment) : Final z (z.through later) := by
  obtain ⟨hover, hlength, hstreams⟩ := ho.through later
  refine ⟨hover.closed, hover.mux.table, hlength, fun h hlt => ?_, fun d payload hd => ?_,
    fun mo => hover.after_of_not_call⟩
  · obtain ⟨inbox, s', hs', credit, allowance, rfl⟩ := hstreams h _ (List.getElem?_eq_getElem hlt)
    refine ⟨hover.mux.phase h, ?_, ?_⟩
    · rw [Mux.stream_of_getElem? hs', Mux.stream_of_getElem? (List.getElem?_eq_getElem hlt)]
    · rw [Mux.openResult, Mux.openResult, Mux.stream_of_getElem? hs',
        Mux.stream_of_getElem? (List.getElem?_eq_getElem hlt)]
  · exact ⟨hover.mux.openStream_unavailable hd, hover.mux.openStream d⟩

/-- **The first cause is final.** Whatever has happened to an open connection, anything that may come next
closes it exactly if there is a cause for that. A cause fails every stream that is live then, after the
frames that came before the cause, with one error for all of them: that the connection was closed, if
this side closed it, and otherwise that the peer is lost, in the words of the cause. Every call that waits
for a stream is told the same. From then on, whatever happens, the connection is closed, has no live
streams and gives out no new ones, and no later cause or frame changes anything. Reads of the streams that
failed are told the error. What had arrived on a stream that both sides had closed can still be read, and
then its end. -/
theorem first_cause_is_final (id : Nat) (peer : String) (e : End) (session : Session)
    (config : Mux.Config) (before : List Moment) (last : Moment)
    (hopen : ((new id peer e session config).through before).closed = false) :
    let x := (new id peer e session config).through before
    let z := x.after last
    (z.closed = true ↔ ∃ frames cause, x.Cause last frames cause) ∧
    ∀ frames cause, x.Cause last frames cause →
      let m := x.mux.handed frames
      let err := if last.isClose then .connectionClosed else .unreachable cause.message
      Fallen m err z ∧
      ∀ later, Final z (z.through later) ∧
        ∀ (h : Mux.Handle) s, m.streams[h]? = some s →
          (s.phase ≠ .closed → answers h z later <+: List.replicate later.length (.error err)) ∧
          (s.phase = .closed → s.failure = none →
            answers h z later <+: s.inbox.map (fun chunk => .ok (.chunk chunk)) ++
              List.replicate later.length (.ok .eof)) := by
  intro x z
  have lasting : x.Lasting := (lasting_new id peer e session config).through hopen
  refine ⟨⟨fun hclosed => ?_, fun ⟨frames, cause, reason⟩ => ?_⟩, fun frames cause reason => ?_⟩
  · cases after_passed lasting.sound hopen last with
    | goesOn isOpen => exact absurd (hclosed.symm.trans isOpen) nofun
    | ends reason => exact ⟨_, _, reason⟩
  · exact (reason.ended lasting.sound hopen).closed
  · have ended := reason.ended lasting.sound hopen
    rw [reason.streamError_eq] at ended
    obtain ⟨hsound, -, hwaits⟩ := Mux.changes_keep (fun ch _ hw => ch.allWait hw) lasting.sound
      lasting.waits (changes_handed lasting.sound frames)
    refine ⟨ended.fallen hsound hwaits, fun later => ?_⟩
    refine ⟨ended.toOver.final later, fun h s hs => ⟨fun hp => ?_, fun hp hf => ?_⟩⟩
    · exact ended.answers_live hsound hs hp later
    · exact ended.answers_done hs hp hf later

/-- A client that has asked for two streams. On the first, which has been confirmed, a byte arrives, and
both sides end it; the second waits. -/
def parting : List Moment :=
  let d : Destination := .domain "a.test" 80
  [.event (.call (.openStream d)), .event (.call (.openStream d)), .late (Mux.ackFrame 1 8),
    .late ⟨.data, 1, [7]⟩, .late (Mux.closeFrame 1 .normal), .event (.call (.halfClose 0))]

/-- The streams are read, and then this side closes the connection as well. -/
def epilogue : List Moment :=
  [.event (.call (.read 0)), .event (.call (.read 1)), .event .close, .event (.call (.read 0)),
    .event (.call (.read 1))]

theorem peer_leaves_after_parting :
    let keys : SessionKeys := ⟨[], []⟩
    let x := (new 0 "relay" .client (Session.new keys .client) {}).through parting
    let z := x.after (.event .endOfInput)
    let err := LinkError.unreachable (LinkError.unreachable "connection closed by peer").message
    x.closed = false ∧ z.closed = true ∧ z.mux.openResult 1 = some (.error err) ∧
      answers 0 z epilogue = [.ok (.chunk [7]), .ok .eof] ∧
      answers 1 z epilogue = [.error err, .error err] ∧ Final z (z.through epilogue) := by
  intro keys x z err
  have hopen : x.closed = false := by decide +kernel
  have hreceived : x.received = [] := by decide +kernel
  obtain ⟨hcloses, hends⟩ := first_cause_is_final 0 "relay" .client (Session.new keys .client) {} parting
    (.event .endOfInput) hopen
  have reason : x.Cause (.event .endOfInput) [] (.unreachable "connection closed by peer") :=
    .left hreceived
  have hclosed : z.closed = true := hcloses.2 ⟨_, _, reason⟩
  obtain ⟨fallen, rest⟩ := hends _ _ reason
  obtain ⟨hfinal, hanswers⟩ := rest epilogue
  have hcount : x.mux.streams.length = 2 := by decide +kernel
  obtain ⟨s, hs⟩ : ∃ s, x.mux.streams[0]? = some s := ⟨_, List.getElem?_eq_getElem (by omega)⟩
  obtain ⟨t, ht⟩ : ∃ t, x.mux.streams[1]? = some t := ⟨_, List.getElem?_eq_getElem (by omega)⟩
  have hdone : (x.mux.stream 0).phase = .closed ∧ (x.mux.stream 0).failure = none ∧
      (x.mux.stream 0).inbox = [[7]] := by decide +kernel
  have hwaits : (x.mux.stream 1).phase = .pendingOpen ∧
      (x.mux.stream 1).awaitingOpen = true := by decide +kernel
  rw [Mux.stream_of_getElem? hs] at hdone
  rw [Mux.stream_of_getElem? ht] at hwaits
  have hgraceful := (hanswers 0 s hs).2 hdone.1 hdone.2.1
  have hfailed := (hanswers 1 t ht).1 (by simp [hwaits.1])
  have hreads : (answers 0 z epilogue).length = 2 ∧ (answers 1 z epilogue).length = 2 := by
    decide +kernel
  rw [hdone.2.2, List.prefix_iff_eq_take, hreads.1] at hgraceful
  rw [List.prefix_iff_eq_take, hreads.2] at hfailed
  exact ⟨hopen, hclosed, fallen.waiting 1 t ht hwaits.2, hgraceful, hfailed, hfinal⟩

end Connection

end SealedRelay
