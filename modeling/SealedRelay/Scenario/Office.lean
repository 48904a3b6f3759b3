import SealedRelay.Supervisor
/-!
# A supervisor and its tasks in virtual time

Tasks last for a given time; some of them end at once when the relay is shut down. Shutting down
waits for the tasks for a while, closes the connections, and waits a little longer. The remote
relay cannot be reached.
-/
namespace SealedRelay.Scenario

structure Job where
  /-- When it ends by itself. -/
  due : Nat
  /-- It ends when the relay is shut down. -/
  obeys : Bool

/-- A supervisor at some time. -/
structure Office where
  supervisor : Supervisor
  now : Nat := 0
  jobs : List Job := []
  /-- Who holds an admission, by label. -/
  admissions : List String := []
  /-- What dialing leads to. -/
  dial : LinkError

namespace Office

/-- Time the tasks get to notice that the connections were closed. -/
def forcedWait : Nat := 500

def running (o : Office) : List Job :=
  o.jobs.filter fun j => o.now < j.due && !(j.obeys && o.supervisor.shuttingDown)

def spawn (o : Office) (ms : Nat) (obeys : Bool) : Nat × Office :=
  let o := { o with jobs := { due := o.now + ms, obeys } :: o.running }
  (o.jobs.length, o)

/-- Admits a client under a label; whoever held one under it lets go of it. -/
def admitClient (o : Office) (label : String) : Except Proxy.Error Unit × Office :=
  match o.supervisor.admitClient with
  | .error e => (.error e, o)
  | .ok s =>
    (.ok (),
      if o.admissions.contains label then { o with supervisor := s.release }
      else { o with supervisor := s, admissions := label :: o.admissions })

def release (o : Office) (label : String) : Bool × Office :=
  if o.admissions.contains label then
    (true,
      { o with supervisor := o.supervisor.release, admissions := o.admissions.erase label })
  else (false, o)

def openStream (o : Office) : Except Proxy.Error Nat × Office :=
  match o.supervisor.begin Pool.noConnections with
  | (.done r, s) => (r, { o with supervisor := s })
  | (.opening c _, s) => (.ok c, { o with supervisor := s })
  | (.dialing attempt again, s) =>
    match s.dialed Pool.noConnections attempt again (.error o.dial) with
    | (.done r, s) => (r, { o with supervisor := s })
    | (.opening c _, s) | (.dialing c _, s) => (.ok c, { o with supervisor := s })

/-- Waits until all tasks have ended, for at most a while. -/
def wait (o : Office) (ms : Nat) : Office :=
  let last := (o.running.map (·.due)).foldl max o.now
  { o with now := min last (o.now + ms) }

/-- Shuts the relay down and tells how many tasks are left. -/
def shutdown (o : Office) (grace : Nat) : Nat × Office :=
  let o := { o with supervisor := o.supervisor.stop }.wait grace
  let o := { o with supervisor := o.supervisor.closeAll.2 }.wait forcedWait
  (o.running.length, o)

end Office

end SealedRelay.Scenario
