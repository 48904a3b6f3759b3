import SealedRelay.Mux.Call
/-!
# Multiplexers in virtual time

A world holds multiplexers, labelled handles on their streams, and calls that were started and may
be waiting. Nothing happens between steps: after each one the calls run, in the order in which
they were woken, until all of them wait. Time moves only when it is told to.
-/
namespace SealedRelay.Scenario

/-- What a started call is doing. -/
inductive Work where
  /-- Waiting for a stream to be confirmed, until some millisecond. -/
  | opening (deadline : Nat)
  | writing (rest : Bytes)
  | reading

structure Call where
  label : String
  side : Nat
  handle : Mux.Handle
  work : Work
  /-- Calls are numbered in the order in which they were started. -/
  serial : Nat

inductive Outcome where
  | opened (side : Nat) (handle : Mux.Handle)
  | written
  | read (r : Mux.ReadOutcome)
  | failed (e : LinkError)

/-- Multiplexers, handles and calls at one time. -/
structure World where
  muxes : List Mux
  /-- The time since the start. -/
  now : Duration := ⟨0⟩
  /-- Calls started so far. -/
  started : Nat := 0
  /-- The labelled handles, with the side they belong to. -/
  handles : List (String × Nat × Mux.Handle) := []
  waiting : List Call := []
  ready : List Call := []
  /-- Calls that have ended since the last row. -/
  ended : List (String × Outcome) := []
  /-- Frames that each side has sent and that were not delivered yet. -/
  outboxes : List (List Frame) := []

namespace World

def new (sides : List (Mux.Role × Mux.Config)) : World where
  muxes := sides.map fun (role, config) => { role, config }
  outboxes := sides.map fun _ => []

def mux (w : World) (i : Nat) : Mux := w.muxes.getD i { role := .initiator, config := {} }

def setMux (w : World) (i : Nat) (m : Mux) : World := { w with muxes := w.muxes.set i m }

def update (w : World) (i : Nat) (f : Mux → Mux) : World := w.setMux i (f (w.mux i))

def perform {α : Type} (w : World) (i : Nat) (f : Mux → α × Mux) : α × World :=
  let (a, m) := f (w.mux i)
  (a, w.setMux i m)

def stream (w : World) (i : Nat) (h : Mux.Handle) : Mux.Stream := (w.mux i).stream h

/-- Forgets a label; its handle is dropped. -/
def release (w : World) (label : String) : World :=
  match w.handles.lookup label with
  | none => w
  | some (i, h) =>
    { w with handles := w.handles.filter (·.1 ≠ label) }.update i (·.dropHandle h)

/-- Gives a handle a label; a handle that had the label is dropped. -/
def hold (w : World) (label : String) (i : Nat) (h : Mux.Handle) : World :=
  let w := w.release label
  { w with handles := w.handles ++ [(label, i, h)] }

def finish (w : World) (label : String) (o : Outcome) : World :=
  { w with ended := w.ended.filter (·.1 ≠ label) ++ [(label, o)] }

/-- Lets a call go on until it ends or has to wait. -/
def resume (w : World) (c : Call) (expired : Bool) : World :=
  let wait (w : World) (work : Work) : World := { w with waiting := w.waiting ++ [{ c with work }] }
  match c.work with
  | .opening _ =>
    match w.perform c.side (·.pollOpen c.handle expired) with
    | (none, w) => wait w c.work
    | (some (.ok ()), w) => (w.finish c.label (.opened c.side c.handle)).hold c.label c.side c.handle
    | (some (.error e), w) => w.finish c.label (.failed e)
  | .writing rest =>
    match w.perform c.side (·.writeAll c.handle rest) with
    | (.waiting rest, w) => wait w (.writing rest)
    | (.done (.ok ()), w) => w.finish c.label .written
    | (.done (.error e), w) => w.finish c.label (.failed e)
  | .reading =>
    match w.perform c.side (·.read c.handle) with
    | (.ok .pending, w) => wait w .reading
    | (.ok r, w) => w.finish c.label (.read r)
    | (.error e, w) => w.finish c.label (.failed e)

/-- The waiting calls on a woken stream become ready. -/
def wake (w : World) (i : Nat) (h : Mux.Handle) : World :=
  let (go, stay) := w.waiting.partition fun c => c.side == i && c.handle == h
  { w with waiting := stay, ready := w.ready ++ go }

/-- All waiting calls that were woken become ready. -/
def collect (w : World) : World :=
  (List.range w.muxes.length).foldl
    (fun w i =>
      let (woken, w) := w.perform i Mux.takeWoken
      woken.foldl (·.wake i ·) w) w

/-- Runs at most `n` ready calls. -/
def runReady : Nat → World → World
  | 0, w => w
  | n + 1, w =>
    let w := w.collect
    match w.ready with
    | [] => w
    | c :: ready => runReady n ({ w with ready }.resume c false)

/-- Runs calls until all of them wait. A running call wakes others only by dropping a handle, which
ends a stream, so each call runs at most once more per stream. -/
def settle (w : World) : World :=
  let calls := w.waiting.length + w.ready.length + 1
  let streams := w.muxes.foldl (fun n m => n + m.streams.length) 1
  runReady (calls * streams) w

def start (w : World) (label : String) (i : Nat) (h : Mux.Handle) (work : Work) : World :=
  let c : Call := { label, side := i, handle := h, work, serial := w.started }
  let expired :=
    match work with
    | .opening deadline => decide (deadline ≤ w.now.millis)
    | _ => false
  { w with started := w.started + 1 }.resume c expired

def startOpen (w : World) (label : String) (i : Nat) (d : Destination) : World :=
  let deadline := (w.now + (w.mux i).config.openTimeout).ticks
  match w.perform i (·.openStream d) with
  | (.error e, w) => w.finish label (.failed e)
  | (.ok h, w) => w.start label i h (.opening deadline)

/-- Gives up a call, and with it the handle that only the call holds. None if no such call is
waiting. -/
def cancel (w : World) (label : String) : Option World := do
  let c ← (w.waiting ++ w.ready).find? (·.label == label)
  let others (cs : List Call) : List Call := cs.filter (·.serial ≠ c.serial)
  let w := { w with waiting := others w.waiting, ready := others w.ready }
  match c.work with
  | .opening _ => some (w.update c.side (·.dropHandle c.handle))
  | _ => some w

/-- Takes the next stream that the other side asked for, under a label. None if the side takes no
streams. -/
def next (w : World) (i : Nat) (label : String) : Option Mux.NextIncoming × World :=
  if (w.mux i).role = .initiator ∨ ¬ (w.mux i).listening then (none, w)
  else
    match w.perform i Mux.nextIncoming with
    | (.stream h, w) => (some (.stream h), w.hold label i h)
    | (r, w) => (some r, w)

/-- The call that expires first, and when. -/
def nextDeadline (w : World) : Option (Nat × Call) :=
  let deadlines := w.waiting.filterMap fun c =>
    match c.work with
    | .opening d => some (d, c)
    | _ => none
  (deadlines.mergeSort fun a b => a.1 < b.1 || (a.1 == b.1 && a.2.serial ≤ b.2.serial)).head?

/-- It is a millisecond, unless it is later already. -/
def reach (w : World) (ms : Nat) : World :=
  if ms ≤ w.now.millis then w else { w with now := .ofMillis ms }

/-- A call's time is over. -/
def expire (w : World) (c : Call) : World :=
  { w with waiting := w.waiting.filter (·.serial ≠ c.serial) }.resume c true

/-- Moves the clock on, at most `n` calls expiring on the way. -/
def advanceTo (target : Duration) : Nat → World → World
  | 0, w => { w with now := target }
  | n + 1, w =>
    match w.nextDeadline with
    | none => { w with now := target }
    | some (d, c) =>
      if d > target.millis then { w with now := target }
      else advanceTo target n ((w.reach d).expire c).settle

def advance (w : World) (ms : Nat) : World :=
  let w := w.settle
  advanceTo (w.now + .ofMillis ms) (w.waiting.length + 1) w

/-- The frames queued since the last row, side by side; they go to the outboxes. -/
def flush (w : World) : List (Nat × Frame) × World :=
  (List.range w.muxes.length).foldl
    (fun (out, w) i =>
      let (frames, w) := w.perform i Mux.takeOutbound
      (out ++ frames.map (i, ·), { w with outboxes := w.outboxes.modify i (· ++ frames) }))
    ([], w)

/-- Hands frames to a side until one breaks the rules; tells how many did not. -/
def feed (i : Nat) (w : World) : List Frame → (Nat × Option LinkError) × World
  | [] => ((0, none), w)
  | f :: fs =>
    match w.perform i (·.receive f) with
    | (.error e, w) => ((0, some e), w)
    | (.ok (), w) =>
      let ((n, e), w) := feed i w fs
      ((n + 1, e), w)

/-- Takes up to `n` frames off one side's outbox and hands them to another side. -/
def deliver (w : World) (source target : Nat) (n : Option Nat) :
    (Nat × Option LinkError) × World :=
  let box := w.outboxes.getD source []
  let count := n.getD box.length
  feed target { w with outboxes := w.outboxes.set source (box.drop count) } (box.take count)

end World

end SealedRelay.Scenario
