import SealedRelay.Proofs.Connection.Teardown
import SealedRelay.Proofs.Mux.Opener
import SealedRelay.Proofs.Supervisor.Lobby
import SealedRelay.Supervisor

/-!
# Calls that open streams while connections come and go

Many calls to open a stream are under way at once. Each takes small steps of its own: it asks the pool for
a connection, goes on when a dial has ended, asks the connection for a stream, hears what became of it,
and at last looks whether the connection has been lost. Between any two of them anything may happen: other
calls take their steps, dials end, connections fail at any point, the caller loses interest, and the relay
shuts down.

A connection fails its streams before it counts as closed. So a call may know the error of its stream
while its connection still looks open; these are two moments here.

Results:
* `openStream_outbound`: what asking a connection for a stream queues.
* `act_acted`: all that a call's step can come to, with the conditions.
-/
namespace SealedRelay

/-! ## What is queued -/

namespace Mux

/-- From one to the other, nothing but closes has been queued. -/
def OnlyCloses (m m' : Mux) : Prop :=
  ∃ out, m'.outbound = m.outbound ++ out ∧ ∀ f ∈ out, f.kind = .close

variable {m m' m'' : Mux} {h : Handle}

theorem OnlyCloses.of_outbound (h : m'.outbound = m.outbound) : m.OnlyCloses m' :=
  ⟨[], by rw [h, List.append_nil], by simp⟩

theorem OnlyCloses.trans (h : m.OnlyCloses m') (h' : m'.OnlyCloses m'') : m.OnlyCloses m'' := by
  obtain ⟨out, hout, hclose⟩ := h
  obtain ⟨out', hout', hclose'⟩ := h'
  refine ⟨out ++ out', by rw [hout', hout, List.append_assoc], fun f hf => ?_⟩
  exact (List.mem_append.1 hf).elim (hclose f) (hclose' f)

theorem onlyCloses_emitClose (m : Mux) (id : StreamId) (reason : CloseReason) :
    m.OnlyCloses (m.emitClose id reason) := by
  unfold emitClose emit emitAll
  split
  · exact ⟨_, rfl, by simp⟩
  · exact .of_outbound rfl

theorem onlyCloses_dropHandle (m : Mux) (h : Handle) : m.OnlyCloses (m.dropHandle h) := by
  unfold dropHandle abort
  dsimp only
  split
  · exact .of_outbound rfl
  split
  · exact .of_outbound rfl
  · exact onlyCloses_emitClose (m.modify h _) (m.stream h).id .reset

theorem onlyCloses_pollOpen (m : Mux) (h : Handle) (expired : Bool) :
    m.OnlyCloses (m.pollOpen h expired).2 := by
  unfold pollOpen
  split
  · exact .of_outbound rfl
  split
  · unfold expireOpen
    dsimp only
    split
    · exact .of_outbound rfl
    split
    · exact onlyCloses_emitClose ((m.modify h _).remove h) (m.stream h).id .timeout
    · exact .of_outbound rfl
  · exact .of_outbound rfl

/-- Asking for a stream queues one opening, or fails and queues nothing. Neither does it look as if the
other side had refused the stream, nor as if it had taken too long. -/
theorem openStream_outbound (m : Mux) (d : Destination) :
    (∃ h id payload, (m.openStream d).1 = .ok h ∧ m.failed = none ∧ d.encode = .ok payload ∧
      (m.sending = true → (m.openStream d).2.outbound = m.outbound ++ [⟨.opening, id, payload⟩])) ∨
    ∃ e, (m.openStream d).1 = .error e ∧ (m.openStream d).2.outbound = m.outbound ∧
      (∀ id reason, e ≠ .refused id reason) ∧ ∀ after, e ≠ .openTimeout after := by
  unfold openStream
  split
  · exact .inr ⟨_, rfl, rfl, nofun, nofun⟩
  split
  · exact .inr ⟨_, rfl, rfl, nofun, nofun⟩
  rename_i payload hpayload
  split
  · exact .inr ⟨_, rfl, rfl, nofun, nofun⟩
  rename_i hfailed
  split
  · exact .inr ⟨_, rfl, rfl, nofun, nofun⟩
  split
  · rename_i m' ha
    obtain rfl : m.allocateId.2 = m' := congrArg Prod.snd ha
    exact .inr ⟨_, rfl, rfl, nofun, nofun⟩
  · rename_i id m' ha
    obtain rfl : m.allocateId.2 = m' := congrArg Prod.snd ha
    exact .inl ⟨_, id, payload, rfl, hfailed, hpayload, fun hs => congrArg Mux.outbound (if_pos hs)⟩

end Mux

/-! ## Connections that this side has dialed -/

/-- A connection that this side has dialed: its streams can be asked for while it is open, and nothing is
sent on it once it has ended. -/
def Connection.Dialed (c : Mux.Config) (x : Connection) : Prop :=
  x.Over ∨ x.closed = false ∧ Mux.Asking c x.mux

namespace Connection.Dialed

variable {c : Mux.Config} {x : Connection} {h : Mux.Handle}

theorem new (id : Nat) (peer : String) (session : Session) (c : Mux.Config) :
    (Connection.new id peer .client session c).Dialed c :=
  .inr ⟨rfl, Mux.asking_fresh c⟩

theorem after (hx : x.Dialed c) (mo : Moment) : (x.after mo).Dialed c := by
  rcases hx with ho | ⟨hopen, hasking⟩
  · exact .inl (ho.after mo).1
  cases after_passed hasking.sound hopen mo with
  | goesOn isOpen changes => exact .inr ⟨isOpen, hasking.changes changes⟩
  | ends cause => exact .inl (cause.ended hasking.sound hopen).toOver

theorem openStream (hx : x.Dialed c) (d : Destination) :
    ({ x with mux := (x.mux.openStream d).2 } : Connection).Dialed c :=
  hx.after (.event (.call (.openStream d)))

theorem dropHandle (hx : x.Dialed c) (h : Mux.Handle) :
    ({ x with mux := x.mux.dropHandle h } : Connection).Dialed c :=
  hx.after (.event (.call (.dropHandle h)))

theorem pollOpen (hx : x.Dialed c) (h : Mux.Handle) (expired : Bool) :
    ({ x with mux := (x.mux.pollOpen h expired).2 } : Connection).Dialed c := by
  rcases hx with ho | ⟨hopen, hasking⟩
  · have hsame : (x.mux.pollOpen h expired).2 = x.mux := by
      unfold Mux.pollOpen
      split
      · rfl
      split
      · exact ho.mux.expireOpen h
      · rfl
    rw [hsame]
    exact .inl ho
  · refine .inr ⟨hopen, ?_⟩
    rcases hasking.pollOpen_cases h expired with hsame | hevent
    · rwa [hsame]
    · exact hevent ▸ hasking.step (.call (.expireOpen h))

/-- On a connection that has not failed frames are sent. -/
theorem sending (hx : x.Dialed c) (hf : x.mux.failed = none) : x.mux.sending = true := by
  rcases hx with ho | ⟨-, hasking⟩
  · have hfailed := ho.mux.failed
    rw [hf] at hfailed
    cases hfailed
  · exact hasking.sending

end Connection.Dialed

/-! ## Calls and what happens around them -/

namespace Switchboard

/-- How far a call to open a stream has come. -/
inductive Stage where
  /-- It has seen no shutdown, and has not asked the pool yet. -/
  | started
  /-- It waits for a dial. -/
  | waiting (n : Nat) (again : Bool)
  /-- It was given a connection. -/
  | given (n : Nat) (again : Bool)
  /-- It has asked the connection for a stream, and waits for the other side to confirm it. -/
  | asked (n : Nat) (again : Bool) (h : Mux.Handle)
  /-- It knows what became of the stream, but not yet whether the connection was lost. -/
  | told (n : Nat) (again : Bool) (r : Except LinkError Unit)
  | done (result : Except Proxy.Error Nat)
  /-- It was given up. -/
  | gone

/-- Where a call is that the supervisor has dealt with. -/
def Stage.of : Supervisor.Opening → Stage
  | .dialing n again => .waiting n again
  | .opening n again => .given n again
  | .done result => .done result

structure Call where
  destination : Destination
  stage : Stage := .started
  /-- The frames that it has queued, each with the number of the connection. -/
  sent : List (Nat × Frame) := []

/-- The openings that a call has queued, each with the number of the connection. -/
def Call.openings (c : Call) : List (Nat × Frame) := c.sent.filter fun s => s.2.kind = .opening

def Call.openedOn (c : Call) : List Nat := c.openings.map Prod.fst

inductive Deed where
  /-- It asks the pool for a connection for the first time. -/
  | request
  /-- It goes on after a dial. -/
  | proceed
  /-- It asks the connection that it was given for a stream. -/
  | ask
  /-- It looks what has become of the stream; perhaps its time is over. -/
  | hear (expired : Bool)
  /-- It looks what has become of the connection, and asks the pool again if that was lost. Since a
  closed connection stays closed, looking and asking can be one step. -/
  | settle
  /-- The caller loses interest. -/
  | cancel

inductive Move where
  | call (d : Destination)
  | own (i : Nat) (deed : Deed)
  /-- The dial with a number has ended. -/
  | ends (n : Nat) (ending : Lobby.Ending)
  /-- Anything that happens on a connection. -/
  | traffic (n : Nat) (mo : Connection.Moment)
  /-- Whoever watches over a connection finds it closed. -/
  | forget (n : Nat)
  /-- The pool is closed. Closing its connections is traffic. -/
  | closeAll
  /-- The shutdown begins. -/
  | stop

end Switchboard

/-- A supervisor, the connections that were dialed for it and everybody who has called it. -/
structure Switchboard where
  config : Proxy.Config
  key : MasterKey
  supervisor : Supervisor
  /-- The connections that dials have brought, by the number of the dial. -/
  links : Nat → Option Connection := fun _ => none
  /-- Why dials have failed. -/
  failures : Nat → Option LinkError := fun _ => none
  calls : List Switchboard.Call := []

namespace Switchboard

/-- The part that has to do with getting connections. -/
def lobby (w : Switchboard) : Lobby where
  config := w.config
  key := w.key
  pool := w.supervisor.pool
  links := w.links
  failures := w.failures

def look (w : Switchboard) : Nat → Vitals := w.lobby.look

/-- A call works on the streams of its connection, and what this queues is noted. -/
def onLink (w : Switchboard) (c : Call) (n : Nat) (x : Connection) (mux : Mux) (stage : Stage) :
    Call × Switchboard :=
  ({ c with stage, sent := c.sent ++ (mux.outbound.drop x.mux.outbound.length).map (n, ·) },
    { w with links := Function.update w.links n (some { x with mux }) })

/-- A call goes on after the dial that it has waited for, if that has ended. -/
def goOn (w : Switchboard) (c : Call) (n : Nat) (again : Bool) : Call × Switchboard :=
  match w.lobby.result n with
  | none => (c, w)
  | some r =>
    let (opening, supervisor) := w.supervisor.dialed w.look n again r
    let unwanted := (w.supervisor.pool.arrive w.look n r).1.unwanted
    let links := if unwanted then (w.lobby.hangUp [n]).links else w.links
    ({ c with stage := .of opening }, { w with supervisor, links })

/-- A call that knows what became of its stream is done, or asks the pool again. -/
def settle (w : Switchboard) (c : Call) (n : Nat) (again : Bool) (r : Except LinkError Unit) :
    Call × Switchboard :=
  let (opening, supervisor) := w.supervisor.answered w.look n again r
  ({ c with stage := .of opening }, { w with supervisor })

/-- A call takes a step. One that is not at this point does nothing. -/
def act (w : Switchboard) (c : Call) : Deed → Call × Switchboard
  | .request =>
    match c.stage with
    | .started =>
      let (opening, supervisor) := w.supervisor.ask w.look false
      ({ c with stage := .of opening }, { w with supervisor })
    | _ => (c, w)
  | .proceed =>
    match c.stage with
    | .waiting n again => w.goOn c n again
    | _ => (c, w)
  | .ask =>
    match c.stage with
    | .given n again =>
      match w.links n with
      | none => (c, w)
      | some x =>
        match x.mux.openStream c.destination with
        | (.ok h, mux) => w.onLink c n x mux (.asked n again h)
        | (.error e, mux) => w.onLink c n x mux (.told n again (.error e))
    | _ => (c, w)
  | .hear expired =>
    match c.stage with
    | .asked n again h =>
      match w.links n with
      | none => (c, w)
      | some x =>
        match x.mux.pollOpen h expired with
        | (none, mux) => w.onLink c n x mux (.asked n again h)
        | (some (.ok ()), mux) => w.onLink c n x mux (.told n again (.ok ()))
        | (some (.error e), mux) => w.onLink c n x (mux.dropHandle h) (.told n again (.error e))
    | _ => (c, w)
  | .settle =>
    match c.stage with
    | .told n again r => w.settle c n again r
    | _ => (c, w)
  | .cancel =>
    match c.stage with
    | .waiting _ _ => ({ c with stage := .gone }, w)
    | .asked n _ h =>
      match w.links n with
      | none => (c, w)
      | some x => w.onLink c n x (x.mux.dropHandle h) .gone
    | _ => (c, w)

/-- A call that comes: it fails at once if the shutdown has begun. -/
def fresh (w : Switchboard) (d : Destination) : Call where
  destination := d
  stage :=
    match w.supervisor.barred with
    | some e => .done (.error e)
    | none => .started

def step (w : Switchboard) : Move → Switchboard
  | .call d => { w with calls := w.calls ++ [w.fresh d] }
  | .own i deed =>
    match w.calls[i]? with
    | none => w
    | some c =>
      let (c, w') := w.act c deed
      { w' with calls := w.calls.set i c }
  | .ends n ending =>
    if n < w.supervisor.pool.next ∧ w.lobby.result n = none then
      match w.lobby.dialed n ending with
      | none => w
      | some (.ok x) => { w with links := Function.update w.links n (some x) }
      | some (.error e) => { w with failures := Function.update w.failures n (some e) }
    else w
  | .traffic n mo =>
    match w.links n with
    | none => w
    | some x => { w with links := Function.update w.links n (some (x.after mo)) }
  | .forget n =>
    if (w.look n).closed then
      { w with supervisor := { w.supervisor with pool := w.supervisor.pool.remove n } }
    else w
  | .closeAll => { w with supervisor := w.supervisor.closeAll.2 }
  | .stop => { w with supervisor := w.supervisor.stop }

def run (w : Switchboard) (moves : List Move) : Switchboard := moves.foldl step w

def start (c : Proxy.Config) (key : MasterKey) : Switchboard where
  config := c
  key
  supervisor := .fresh c

variable {w w' : Switchboard} {c c' : Call} {deed : Deed} {n i : Nat} {x : Connection}

/-! ## What a step can come to -/

def pooled (w : Switchboard) (pool : Pool) : Switchboard :=
  { w with supervisor := { w.supervisor with pool } }

/-- Where a call goes on after the pool's answer. -/
def stageOf (again : Bool) : Pool.Answer → Stage
  | .ready n => .given n again
  | .wait n => .waiting n again
  | .failed e => .done (.error (.link e))

def outcome (n : Nat) : Except LinkError Unit → Except Proxy.Error Nat
  | .ok () => .ok n
  | .error e => .error (.link e)

/-- All that a step of a call can come to, with the conditions. -/
inductive Acted (w : Switchboard) (c : Call) : Deed → Call × Switchboard → Prop where
  | quiet {deed : Deed} : Acted w c deed (c, w)
  | requested {answer : Pool.Answer} {pool : Pool} (stage : c.stage = .started)
      (told : w.supervisor.pool.Told w.look answer pool) :
      Acted w c .request ({ c with stage := stageOf false answer }, w.pooled pool)
  | joined {n : Nat} {again : Bool} {x : Connection} (stage : c.stage = .waiting n again)
      (link : w.links n = some x) :
      Acted w c .proceed
        ({ c with stage := .given n again }, w.pooled (w.supervisor.pool.joined n))
  /-- The connection has closed before this call could go on. -/
  | late {n : Nat} {again : Bool} {x : Connection} (stage : c.stage = .waiting n again)
      (link : w.links n = some x) :
      Acted w c .proceed
        ({ c with stage := .given n again }, w.pooled (w.supervisor.pool.cleared n))
  | failed {n : Nat} {again : Bool} {e : LinkError} (stage : c.stage = .waiting n again) :
      Acted w c .proceed
        ({ c with stage := .done (.error (.link e)) }, w.pooled (w.supervisor.pool.cleared n))
  /-- The pool was closed before this call could go on. -/
  | unwanted {n : Nat} {again : Bool} (stage : c.stage = .waiting n again) :
      Acted w c .proceed
        ({ c with stage := .done (.error (.link .connectionClosed)) },
          { w.pooled (w.supervisor.pool.cleared n) with links := (w.lobby.hangUp [n]).links })
  | opened {n : Nat} {again : Bool} {x : Connection} {h : Mux.Handle}
      (stage : c.stage = .given n again) (link : w.links n = some x)
      (opened : (x.mux.openStream c.destination).1 = .ok h) :
      Acted w c .ask (w.onLink c n x (x.mux.openStream c.destination).2 (.asked n again h))
  | refused {n : Nat} {again : Bool} {x : Connection} {e : LinkError}
      (stage : c.stage = .given n again) (link : w.links n = some x)
      (refused : (x.mux.openStream c.destination).1 = .error e) :
      Acted w c .ask
        (w.onLink c n x (x.mux.openStream c.destination).2 (.told n again (.error e)))
  /-- It looks for its answer, or the caller loses interest. Closes are all that is queued then. -/
  | heard {deed : Deed} {n : Nat} {again : Bool} {h : Mux.Handle} {x : Connection} {mux : Mux}
      {later : Stage} (stage : c.stage = .asked n again h) (link : w.links n = some x)
      (closes : x.mux.OnlyCloses mux)
      (dialed : ∀ cfg, x.Dialed cfg → ({ x with mux } : Connection).Dialed cfg)
      (next : later = .asked n again h ∨ (∃ r, later = .told n again r) ∨ later = .gone) :
      Acted w c deed (w.onLink c n x mux later)
  | settled {n : Nat} {again : Bool} {r : Except LinkError Unit} (stage : c.stage = .told n again r) :
      Acted w c .settle ({ c with stage := .done (outcome n r) }, w)
  /-- The connection was lost, and the pool is asked again. -/
  | retried {n : Nat} {e : LinkError} {answer : Pool.Answer} {pool : Pool}
      (stage : c.stage = .told n false (.error e)) (retryable : e.isRetryable = true)
      (lost : (w.look n).closed = true) (told : w.supervisor.pool.Told w.look answer pool) :
      Acted w c .settle ({ c with stage := stageOf true answer }, w.pooled pool)
  | unheard {n : Nat} {again : Bool} (stage : c.stage = .waiting n again) :
      Acted w c .cancel ({ c with stage := .gone }, w)

theorem ask_told (s : Supervisor) (look : Nat → Vitals) (again : Bool) :
    ∃ answer pool, s.pool.Told look answer pool ∧
      Stage.of (s.ask look again).1 = stageOf again answer ∧ (s.ask look again).2 = { s with pool } := by
  refine ⟨_, _, s.pool.request_told look, ?_⟩
  unfold Supervisor.ask
  split <;> simp only [*, Stage.of, stageOf, and_self]

theorem settle_acted {again : Bool} {r : Except LinkError Unit} (stage : c.stage = .told n again r) :
    Acted w c .settle (w.settle c n again r) := by
  unfold settle
  cases r with
  | ok => exact .settled stage
  | error e =>
    simp only [Supervisor.answered]
    split
    · rename_i h
      obtain ⟨hfirst, hretryable, hlost⟩ := h
      obtain rfl : again = false := by simpa using hfirst
      obtain ⟨answer, pool, told, hstage, hsupervisor⟩ := ask_told w.supervisor w.look true
      rw [hstage, hsupervisor]
      exact .retried stage hretryable hlost told
    · exact .settled stage

theorem goOn_acted {again : Bool} (stage : c.stage = .waiting n again) :
    Acted w c .proceed (w.goOn c n again) := by
  unfold goOn
  split
  · exact .quiet
  rename_i r hresult
  cases r with
  | error e => exact .failed stage
  | ok =>
    obtain ⟨x, hlink⟩ : ∃ x, w.links n = some x := by
      cases hl : w.links n with
      | some x => exact ⟨x, rfl⟩
      | none => cases hf : w.failures n <;> simp [Lobby.result, lobby, hl, hf] at hresult
    simp only [Supervisor.dialed]
    cases hshut : w.supervisor.pool.closed with
    | true =>
      simp only [Pool.arrive_closed hshut]
      exact .unwanted stage
    | false =>
      cases hclosed : (w.look n).closed with
      | true =>
        simp only [Pool.arrive_lost hshut hclosed]
        exact .late stage hlink
      | false =>
        simp only [Pool.arrive_open hshut hclosed]
        exact .joined stage hlink

theorem act_acted (w : Switchboard) (c : Call) (deed : Deed) : Acted w c deed (w.act c deed) := by
  cases deed with
  | request =>
    simp only [act]
    split
    · rename_i hstage
      obtain ⟨answer, pool, told, hof, hsupervisor⟩ := ask_told w.supervisor w.look false
      rw [hof, hsupervisor]
      exact .requested hstage told
    · exact .quiet
  | proceed =>
    simp only [act]
    split
    · rename_i hstage
      exact goOn_acted hstage
    · exact .quiet
  | ask =>
    simp only [act]
    split
    · rename_i n again hstage
      split
      · exact .quiet
      rename_i x hlink
      split
      · rename_i h mux hopen
        obtain ⟨hr, rfl⟩ := Prod.ext_iff.1 hopen
        exact .opened hstage hlink hr
      · rename_i e mux hopen
        obtain ⟨hr, rfl⟩ := Prod.ext_iff.1 hopen
        exact .refused hstage hlink hr
    · exact .quiet
  | hear expired =>
    simp only [act]
    split
    · rename_i n again h hstage
      split
      · exact .quiet
      rename_i x hlink
      split
      · rename_i mux hpoll
        obtain rfl : (x.mux.pollOpen h expired).2 = mux := congrArg Prod.snd hpoll
        exact .heard hstage hlink (Mux.onlyCloses_pollOpen _ _ _)
          (fun _ hx => hx.pollOpen _ _) (.inl rfl)
      · rename_i mux hpoll
        obtain rfl : (x.mux.pollOpen h expired).2 = mux := congrArg Prod.snd hpoll
        exact .heard hstage hlink (Mux.onlyCloses_pollOpen _ _ _)
          (fun _ hx => hx.pollOpen _ _) (.inr (.inl ⟨_, rfl⟩))
      · rename_i e mux hpoll
        obtain rfl : (x.mux.pollOpen h expired).2 = mux := congrArg Prod.snd hpoll
        exact .heard hstage hlink
          ((Mux.onlyCloses_pollOpen _ _ _).trans (Mux.onlyCloses_dropHandle _ _))
          (fun _ hx => (hx.pollOpen _ _).dropHandle _) (.inr (.inl ⟨_, rfl⟩))
    · exact .quiet
  | settle =>
    simp only [act]
    split
    · rename_i hstage
      exact settle_acted hstage
    · exact .quiet
  | cancel =>
    simp only [act]
    split
    · rename_i n again hstage
      exact .unheard hstage
    · rename_i n again h hstage
      split
      · exact .quiet
      · rename_i x hlink
        exact .heard hstage hlink (Mux.onlyCloses_dropHandle _ _)
          (fun _ hx => hx.dropHandle _) (.inr (.inr rfl))
    · exact .quiet

end Switchboard

end SealedRelay
