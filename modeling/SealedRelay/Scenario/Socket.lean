import SealedRelay.Splice
/-!
# A splice and its application in virtual time

A stream that has been opened and confirmed is spliced with a pipe to an application, which writes,
reads and closes as it is told. What it writes waits until the pipe takes it.
-/
namespace SealedRelay.Scenario

/-- What the application is to do once the pipe lets it. -/
inductive AppTask where
  | write (data : Bytes)
  | shutdown

/-- A splice between a multiplexer's only stream and an application. -/
structure SplicedApp where
  mux : Mux
  splice : Splice
  now : Nat := 0
  tasks : List AppTask := []
  /-- The application still holds its end. -/
  attached : Bool := true

namespace SplicedApp

def runSplice (a : SplicedApp) : SplicedApp :=
  let (splice, mux) := a.splice.run a.now a.mux
  { a with splice, mux }

/-- A fresh splice on a stream that was just confirmed with some credit. There is none if the stream
cannot be opened, or if nobody waits until it is confirmed. -/
def new (config : Mux.Config) (d : Destination) (credit pipe : Nat) (grace : Duration) :
    Except LinkError SplicedApp :=
  match Mux.openStream { role := .initiator, config } d with
  | (.error e, _) => .error e
  | (.ok handle, mux) =>
    match mux.pollOpen handle (config.openTimeout.nanos = 0) with
    | (some (.error e), _) => .error e
    | (_, mux) =>
      let (_, mux) := mux.receive ⟨.ack, 1, Payload.encodeCredit credit⟩
      let empty : Pipe := { capacity := pipe }
      .ok (runSplice {
        mux := { mux with outbound := [] }
        splice := { handle, grace, inbound := empty, outbound := empty } })

/-- Carries out what the pipe has room for, in order, and gives back what is left to do. -/
def fill (p : Pipe) : List AppTask → List AppTask × Pipe
  | [] => ([], p)
  | .shutdown :: tasks => fill p.close tasks
  | .write data :: tasks =>
    match p.write data with
    | .error _ => fill p tasks
    | .ok ([], p) => fill p tasks
    | .ok (rest, p) => (.write rest :: tasks, p)

/-- How many steps of filling the pipe there can be at most. -/
def pending : List AppTask → Nat
  | [] => 0
  | .shutdown :: tasks => pending tasks + 1
  | .write data :: tasks => pending tasks + data.length + 1

/-- The splice empties the pipe and the application fills it, at most `n` times, for as long as the
application gets on. -/
def runTasks : Nat → SplicedApp → SplicedApp
  | 0, a => a
  | n + 1, a =>
    let a := a.runSplice
    let (tasks, inbound) := fill a.splice.inbound a.tasks
    if pending tasks < pending a.tasks then
      runTasks n { a with tasks, splice := { a.splice with inbound } }
    else a

/-- Runs everything until it waits. -/
def settle (a : SplicedApp) : SplicedApp := runTasks (pending a.tasks + 1) a

/-- The application reads what it can, at most `n` times. -/
def readAll : Nat → SplicedApp → Bytes × SplicedApp
  | 0, a => ([], a)
  | n + 1, a =>
    let (data, outbound) := a.splice.outbound.drain
    if data = [] then ([], a)
    else
      let a := settle { a with splice := { a.splice with outbound } }
      let (more, a) := readAll n a
      (data ++ more, a)

/-- The application reads everything that is available, and learns whether that is all there will
ever be. -/
def read (a : SplicedApp) : (Bytes × Bool) × SplicedApp :=
  if a.attached then
    let arrived := (a.mux.stream a.splice.handle).inbox.flatten.length
    let (data, a) := readAll (a.splice.outbound.buffer.length + a.splice.down.pending.length +
      arrived + 1) a
    ((data, a.splice.outbound.atEnd), a)
  else (([], false), a)

/-- Joins neighbouring frames of data into one. -/
def joinData : List Frame → List Frame
  | [] => []
  | f :: fs =>
    match joinData fs with
    | [] => [f]
    | g :: gs =>
      if f.kind = .data ∧ g.kind = .data then { f with payload := f.payload ++ g.payload } :: gs
      else f :: g :: gs

/-- The frames that were sent since the last time, with neighbouring data in one frame. -/
def takeSent (a : SplicedApp) : List Frame × SplicedApp :=
  let (frames, mux) := a.mux.takeOutbound
  (joinData frames, { a with mux })

/-- Tells the application what to do next. -/
def ask (a : SplicedApp) (t : AppTask) : SplicedApp := { a with tasks := a.tasks ++ [t] }

def detach (a : SplicedApp) : SplicedApp :=
  { a with
    attached := false
    tasks := []
    splice :=
      { a.splice with inbound := a.splice.inbound.close, outbound := a.splice.outbound.close } }

/-- Moves the clock on; on the way the second direction's time may be over. -/
def advance (a : SplicedApp) (ms : Nat) : SplicedApp :=
  let target := a.now + ms
  let a :=
    match a.splice.deadline with
    | some d => if d ≤ target then settle { a with now := max d a.now } else a
    | none => a
  { a with now := target }

end SplicedApp

end SealedRelay.Scenario
