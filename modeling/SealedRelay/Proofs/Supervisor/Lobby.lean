import Mathlib.Logic.Function.Basic
import SealedRelay.Proofs.Connection.Alone
import SealedRelay.Proofs.Handshake.Failure
import SealedRelay.Proofs.Supervisor.Pool
import SealedRelay.Proxy.Config

/-!
# Callers that wait for connections

A caller either gets a connection of the pool at once or waits for a dial, together with others. The
pool is not locked while they wait: dials end, connections close, callers give up and the pool itself
may be closed before they go on, each at a time of its own. One move is what somebody does under the
pool's lock, or one thing that happens on a connection.

A dial is driven by those who wait for it. So it ends while one of them is looking, and that caller goes
on without waiting again: it is the only one that can no longer give up.

Results:
* `step_moved`: all a move can come to, with the conditions.
-/
namespace SealedRelay

/-- How far a call for a connection has come. -/
inductive Lobby.Stage where
  /-- It waits for a dial. -/
  | waiting (n : Nat)
  /-- It was looking when the dial ended, and goes on. -/
  | landed (n : Nat)
  | done (result : Except LinkError Nat)
  /-- It was given up. -/
  | gone
  deriving DecidableEq

/-- A pool, the connections that were dialed for it and everybody who has called it. -/
structure Lobby where
  config : Proxy.Config
  key : MasterKey
  pool : Pool
  /-- The connections that dials have brought, by the number of the dial. -/
  links : Nat → Option Connection := fun _ => none
  /-- Why dials have failed. -/
  failures : Nat → Option LinkError := fun _ => none
  callers : List Lobby.Stage := []

namespace Lobby

/-- How a dial ends. -/
inductive Ending where
  | noSocket (e : SocketError)
  /-- The handshake has taken too long. -/
  | late
  /-- The handshake has run over this channel. -/
  | talked (peer : String) (random : Bytes) (channel : Channel)

inductive Move where
  | call
  /-- The dial that a call waits for has ended. -/
  | ends (i : Nat) (ending : Ending)
  /-- A call goes on whose dial has ended. -/
  | proceed (i : Nat)
  /-- A call that waits is given up. -/
  | cancel (i : Nat)
  /-- Anything that happens on a connection. -/
  | traffic (n : Nat) (e : Connection.Event)
  /-- Whoever watches over a connection finds it closed. -/
  | forget (n : Nat)
  | closeAll

def vitals (x : Connection) : Vitals := ⟨x.closed, x.hasCapacity, x.mux.activeStreams⟩

def look (w : Lobby) (n : Nat) : Vitals := ((w.links n).map vitals).getD (Pool.noConnections n)

def result (w : Lobby) (n : Nat) : Option (Except LinkError Unit) :=
  match w.links n with
  | some _ => some (.ok ())
  | none => (w.failures n).map .error

/-- What comes of a dial that ends like this; none if the handshake is still going on. -/
def dialed (w : Lobby) (n : Nat) : Ending → Option (Except LinkError Connection)
  | .noSocket e => some (.error (.connect e))
  | .late => some (.error (Handshake.timedOut w.config.handshake))
  | .talked peer random channel =>
    ((Handshake.side .client w.key random).run channel).1.result?.map fun r =>
      r.map fun session => Connection.new n peer .client session w.config.mux

def hangUp (w : Lobby) (ns : List Nat) : Lobby :=
  { w with links := fun n => if n ∈ ns then (w.links n).map Connection.close else w.links n }

/-- Where a call goes on after the pool's answer. -/
def stageOf : Pool.Answer → Stage
  | .ready n => .done (.ok n)
  | .wait n => .waiting n
  | .failed e => .done (.error e)

/-- A call learns how its dial has ended, if it has. -/
def goOn (w : Lobby) (i n : Nat) : Lobby :=
  match w.result n with
  | none => w
  | some r =>
    let (arrival, pool) := w.pool.arrive w.look n r
    let w := if arrival.unwanted then w.hangUp [n] else w
    { w with pool, callers := w.callers.set i (.done arrival.result) }

def step (w : Lobby) : Move → Lobby
  | .call =>
    let (answer, pool) := w.pool.request w.look
    { w with pool, callers := w.callers ++ [stageOf answer] }
  | .ends i ending =>
    match w.callers[i]? with
    | some (.waiting n) =>
      if (w.result n).isSome then w
      else
        match w.dialed n ending with
        | none => w
        | some (.ok x) =>
          { w with
            callers := w.callers.set i (.landed n)
            links := Function.update w.links n (some x) }
        | some (.error e) =>
          { w with
            callers := w.callers.set i (.landed n)
            failures := Function.update w.failures n (some e) }
    | _ => w
  | .proceed i =>
    match w.callers[i]? with
    | some (.waiting n) => w.goOn i n
    | some (.landed n) => w.goOn i n
    | _ => w
  | .cancel i =>
    match w.callers[i]? with
    | some (.waiting _) => { w with callers := w.callers.set i .gone }
    | _ => w
  | .traffic n e =>
    match w.links n with
    | none => w
    | some x => { w with links := Function.update w.links n (some (x.step e)) }
  | .forget n => if (w.look n).closed then { w with pool := w.pool.remove n } else w
  | .closeAll =>
    let (connections, pool) := w.pool.closeAll
    { w.hangUp connections with pool }

def run (w : Lobby) (moves : List Move) : Lobby := moves.foldl step w

def start (c : Proxy.Config) (key : MasterKey) : Lobby where
  config := c
  key
  pool := { remote := c.remote, limit := c.maxConnections }

/-- The dials that were begun and have not ended. -/
def flying (w : Lobby) : List Nat :=
  (List.range' 1 (w.pool.next - 1)).filter fun n => w.result n = none

/-- The pool has as many open connections as it may, and each as many streams. -/
def Full (w : Lobby) : Prop :=
  (w.pool.healthy w.look).Nodup ∧ (w.pool.healthy w.look).length = w.config.maxConnections ∧
    ∀ n ∈ w.pool.healthy w.look, ∃ x, w.links n = some x ∧ x.closed = false ∧
      x.mux.activeStreams = w.config.mux.maxStreams

variable {w w' : Lobby} {a : Move} {n k i : Nat} {x : Connection}

/-! ## What a move does -/

/-- A dial that fails says something else than that all connections are full. -/
theorem dialed_ne_unavailable {ending : Ending} {e : LinkError}
    (h : w.dialed n ending = some (.error e)) (text : String) : e ≠ .unavailable text := by
  rintro rfl
  cases ending with
  | noSocket | late => cases h
  | talked peer random channel =>
    obtain ⟨r, hr, hmap⟩ := Option.map_eq_some_iff.1 h
    cases r with
    | ok => cases hmap
    | error e =>
      obtain rfl := Except.error.inj hmap
      exact Handshake.client_failure hr

theorem exists_new_of_dialed {ending : Ending} (h : w.dialed n ending = some (.ok x)) :
    ∃ peer session, x = Connection.new n peer .client session w.config.mux := by
  cases ending with
  | noSocket | late => cases h
  | talked peer random channel =>
    obtain ⟨r, hr, hmap⟩ := Option.map_eq_some_iff.1 h
    cases r with
    | error => cases hmap
    | ok session => exact ⟨peer, session, (Except.ok.inj hmap).symm⟩

/-- The connection that a dial brings has no streams yet. -/
theorem limited_dialed {ending : Ending} (h : w.dialed n ending = some (.ok x)) :
    x.mux.Limited w.config.mux := by
  obtain ⟨peer, session, rfl⟩ := exists_new_of_dialed h
  exact ⟨Mux.sound_fresh _ _, rfl, Nat.zero_le _⟩

/-- A call that waits for a dial, or was looking when it ended. -/
def Stage.Awaits (n : Nat) (s : Stage) : Prop := s = .waiting n ∨ s = .landed n

theorem Stage.Awaits.eq_of_landed {n k : Nat} {s : Stage} (h : s.Awaits n) (hs : s = .landed k) :
    k = n := by
  subst hs
  rcases h with h | h
  · cases h
  · exact Stage.landed.inj h

theorem Stage.not_awaits_done (r : Except LinkError Nat) (n : Nat) : ¬(Stage.done r).Awaits n := by
  simp [Awaits]

/-- All that a move can come to, with the conditions. -/
inductive Moved (w : Lobby) : Move → Lobby → Prop where
  | quiet {a : Move} : Moved w a w
  | asked {answer : Pool.Answer} {pool : Pool} (told : w.pool.Told w.look answer pool) :
      Moved w .call { w with pool, callers := w.callers ++ [stageOf answer] }
  | connected {i n : Nat} {ending : Ending} {x : Connection}
      (caller : w.callers[i]? = some (.waiting n)) (first : w.result n = none)
      (limited : x.mux.Limited w.config.mux) :
      Moved w (.ends i ending)
        { w with
          callers := w.callers.set i (.landed n)
          links := Function.update w.links n (some x) }
  | failed {i n : Nat} {ending : Ending} {e : LinkError}
      (caller : w.callers[i]? = some (.waiting n)) (first : w.result n = none)
      (why : ∀ text, e ≠ .unavailable text) :
      Moved w (.ends i ending)
        { w with
          callers := w.callers.set i (.landed n)
          failures := Function.update w.failures n (some e) }
  | joined {i n : Nat} {x : Connection} {s : Stage} (caller : w.callers[i]? = some s)
      (awaits : s.Awaits n) (going : w.pool.closed = false) (link : w.links n = some x)
      (opens : x.closed = false) :
      Moved w (.proceed i)
        { w with pool := w.pool.joined n, callers := w.callers.set i (.done (.ok n)) }
  /-- The connection has closed before this caller could go on. -/
  | lost {i n : Nat} {x : Connection} {s : Stage} (caller : w.callers[i]? = some s)
      (awaits : s.Awaits n) (link : w.links n = some x) (closed : x.closed = true) :
      Moved w (.proceed i)
        { w with pool := w.pool.cleared n, callers := w.callers.set i (.done (.ok n)) }
  | refused {i n : Nat} {s : Stage} {e : LinkError} (caller : w.callers[i]? = some s)
      (awaits : s.Awaits n) (link : w.links n = none) (failure : w.failures n = some e) :
      Moved w (.proceed i)
        { w with pool := w.pool.cleared n, callers := w.callers.set i (.done (.error e)) }
  /-- The pool was closed before this caller could go on. -/
  | unwanted {i n : Nat} {x : Connection} {s : Stage} (caller : w.callers[i]? = some s)
      (awaits : s.Awaits n) (shut : w.pool.closed = true) (link : w.links n = some x) :
      Moved w (.proceed i)
        { w.hangUp [n] with
          pool := w.pool.cleared n
          callers := w.callers.set i (.done (.error .connectionClosed)) }
  | cancelled {i n : Nat} (caller : w.callers[i]? = some (.waiting n)) :
      Moved w (.cancel i) { w with callers := w.callers.set i .gone }
  | traffic {n : Nat} {x : Connection} {e : Connection.Event} (link : w.links n = some x) :
      Moved w (.traffic n e) { w with links := Function.update w.links n (some (x.step e)) }
  | forgot {n : Nat} (closed : (w.look n).closed = true) :
      Moved w (.forget n) { w with pool := w.pool.remove n }
  | shut : Moved w .closeAll { w.hangUp w.pool.members with pool := w.pool.closeAll.2 }

theorem look_of_link (h : w.links n = some x) : w.look n = vitals x := by
  simp [look, h]

theorem goOn_moved {s : Stage} (caller : w.callers[i]? = some s) (awaits : s.Awaits n) :
    Moved w (.proceed i) (w.goOn i n) := by
  unfold goOn
  cases hlink : w.links n with
  | none =>
    cases hfailure : w.failures n with
    | none =>
      have hresult : w.result n = none := by simp [result, hlink, hfailure]
      rw [hresult]
      exact .quiet
    | some e =>
      have hresult : w.result n = some (.error e) := by simp [result, hlink, hfailure]
      simp only [hresult, Pool.arrive_error]
      exact .refused caller awaits hlink hfailure
  | some x =>
    have hresult : w.result n = some (.ok ()) := by simp [result, hlink]
    have hlook : (w.look n).closed = x.closed := by rw [look_of_link hlink]; rfl
    simp only [hresult]
    cases hshut : w.pool.closed with
    | true =>
      simp only [Pool.arrive_closed hshut]
      exact .unwanted caller awaits hshut hlink
    | false =>
      cases hclosed : x.closed with
      | true =>
        simp only [Pool.arrive_lost hshut (hlook.trans hclosed)]
        exact .lost caller awaits hlink hclosed
      | false =>
        simp only [Pool.arrive_open hshut (hlook.trans hclosed)]
        exact .joined caller awaits hshut hlink hclosed

theorem step_moved (w : Lobby) (a : Move) : Moved w a (w.step a) := by
  cases a with
  | call => exact .asked (w.pool.request_told w.look)
  | ends i ending =>
    simp only [step]
    split
    · rename_i n hcaller
      split
      · exact .quiet
      rename_i hfirst
      have hnone : w.result n = none := by simpa using hfirst
      split
      · exact .quiet
      · rename_i x hx
        exact .connected hcaller hnone (limited_dialed hx)
      · rename_i e he
        exact .failed hcaller hnone (dialed_ne_unavailable he)
    · exact .quiet
  | proceed i =>
    simp only [step]
    split
    · rename_i n hcaller
      exact goOn_moved hcaller (.inl rfl)
    · rename_i n hcaller
      exact goOn_moved hcaller (.inr rfl)
    · exact .quiet
  | cancel i =>
    simp only [step]
    split
    · rename_i n hcaller
      exact .cancelled hcaller
    · exact .quiet
  | traffic n e =>
    simp only [step]
    split
    · exact .quiet
    · rename_i x hx
      exact .traffic hx
  | forget n =>
    simp only [step]
    split
    · rename_i hclosed
      exact .forgot hclosed
    · exact .quiet
  | closeAll => exact .shut

end Lobby

end SealedRelay
