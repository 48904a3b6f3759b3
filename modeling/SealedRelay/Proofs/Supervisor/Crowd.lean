import Mathlib.Data.List.Induction
import Mathlib.Logic.Function.Basic
import SealedRelay.Proofs.Mux.Opener
import SealedRelay.Proofs.Supervisor.Pool
import SealedRelay.Supervisor

/-!
# Many calls that open streams at once

A call asks the pool for a connection, may have to wait for a dial together with others, and then
asks the connection for a stream. Between these steps anything may happen: other calls take their
steps, dials end, and the connections carry whatever their two sides do.

The remote relay accepts every connection here, and the results are about runs in which none is lost.

Results:
* `turned_away_full`: a call is turned away only if the pool was full when it was asked, or the
  connection that the pool gave it was full when it was asked.
* `turned_away_with_room_to_dial`: the pool being full is not the only case. Nobody looks again whether
  a connection that several calls have waited for has room for all of them.
-/
namespace SealedRelay

deriving instance DecidableEq for Supervisor.Opening

structure Caller where
  destination : Destination
  stage : Supervisor.Opening
  /-- The stream it has asked its connection for. -/
  stream : Option Mux.Handle := none
  deriving DecidableEq

/-- The call has failed as no connection could take another stream. -/
def Caller.TurnedAway (caller : Caller) : Prop :=
  ∃ text, caller.stage = .done (.error (.link (.unavailable text)))

/-- A supervisor, its connections and everybody who has called it. -/
structure Crowd where
  supervisor : Supervisor
  /-- Settings of each connection. -/
  mux : Mux.Config
  links : Nat → Option Mux := fun _ => none
  callers : List Caller := []

namespace Crowd

inductive Move where
  | call (d : Destination)
  /-- The remote relay has accepted a connection that is being dialed. -/
  | connected (n : Nat)
  /-- A call goes on that has waited for a dial. -/
  | proceed (i : Nat)
  /-- A call asks the connection it was given for a stream. -/
  | ask (i : Nat)
  /-- A call looks what has become of its stream, perhaps as its time is over. -/
  | hear (i : Nat) (expired : Bool)
  /-- Anything else that happens on a connection. -/
  | traffic (n : Nat) (e : Mux.Event)

def vitals (m : Mux) : Vitals where
  closed := m.isFailed
  capacity := !m.isFailed && m.activeStreams < m.config.maxStreams
  streams := m.activeStreams

def look (w : Crowd) (n : Nat) : Vitals := ((w.links n).map vitals).getD (Pool.noConnections n)

def setLink (w : Crowd) (n : Nat) (m : Mux) : Crowd :=
  { w with links := Function.update w.links n (some m) }

/-- A call goes on after its stream was confirmed or has failed. -/
def answer (w : Crowd) (i : Nat) (d : Destination) (n : Nat) (again : Bool)
    (r : Except LinkError Unit) : Crowd :=
  let (stage, supervisor) := w.supervisor.answered w.look n again r
  { w with supervisor, callers := w.callers.set i { destination := d, stage } }

/-- A move of a call that is not at this point changes nothing. -/
def step (w : Crowd) : Move → Crowd
  | .call d =>
    let (stage, supervisor) := w.supervisor.begin w.look
    { w with supervisor, callers := w.callers ++ [{ destination := d, stage }] }
  | .connected n =>
    if w.supervisor.pool.dialing = some n ∧ w.links n = none then
      w.setLink n (Mux.fresh .initiator w.mux)
    else w
  | .proceed i =>
    match w.callers[i]? with
    | some ⟨d, .dialing n again, _⟩ =>
      if (w.links n).isSome then
        let (stage, supervisor) := w.supervisor.dialed w.look n again (.ok ())
        { w with supervisor, callers := w.callers.set i { destination := d, stage } }
      else w
    | _ => w
  | .ask i =>
    match w.callers[i]? with
    | some ⟨d, .opening n again, none⟩ =>
      match w.links n with
      | none => w
      | some m =>
        let w := w.setLink n (m.openStream d).2
        match (m.openStream d).1 with
        | .ok h => { w with callers := w.callers.set i ⟨d, .opening n again, some h⟩ }
        | .error e => w.answer i d n again (.error e)
    | _ => w
  | .hear i expired =>
    match w.callers[i]? with
    | some ⟨d, .opening n again, some h⟩ =>
      match w.links n with
      | none => w
      | some m =>
        let w := w.setLink n (m.pollOpen h expired).2
        match (m.pollOpen h expired).1 with
        | none => w
        | some r => w.answer i d n again r
    | _ => w
  | .traffic n e =>
    match w.links n with
    | none => w
    | some m => w.setLink n (m.step e)

def run (w : Crowd) (moves : List Move) : Crowd := moves.foldl step w

def start (s : Supervisor) (c : Proxy.Config) : Crowd := { supervisor := s, mux := c.mux }

def Unfailed (w : Crowd) : Prop := ∀ n m, w.links n = some m → m.failed = none

/-- The pool has as many connections as it may, and each as many streams. -/
def Full (c : Proxy.Config) (w : Crowd) : Prop :=
  w.supervisor.pool.members.Nodup ∧ w.supervisor.pool.members.length = c.maxConnections ∧
    ∀ n ∈ w.supervisor.pool.members,
      (w.look n).closed = false ∧ (w.look n).streams = c.mux.maxStreams

/-! ## Connections -/

variable {c : Proxy.Config} {w : Crowd} {n i : Nat} {m : Mux}

theorem vitals_of_unfailed (hf : m.failed = none) :
    vitals m = ⟨false, m.activeStreams < m.config.maxStreams, m.activeStreams⟩ := by
  simp [vitals, Mux.isFailed, hf]

theorem look_of_link (h : w.links n = some m) : w.look n = vitals m := by
  simp [look, h]

theorem links_setLink (w : Crowd) (n k : Nat) (m : Mux) :
    (w.setLink n m).links k = if k = n then some m else w.links k := by
  simp [setLink, Function.update_apply]

/-- Every connection was dialed by this side. -/
structure Wired (c : Proxy.Config) (w : Crowd) : Prop where
  mux : w.mux = c.mux
  links : ∀ n m, w.links n = some m → Mux.Asking c.mux m

namespace Wired

/-- A move leaves a connection as it is, or something happens to it, or it is new. -/
theorem step_links (h : w.Wired c) (a : Move) (n : Nat) :
    (w.step a).links n = w.links n ∨
      (∃ m e, w.links n = some m ∧ (w.step a).links n = some (m.step e)) ∨
      a = .connected n ∧ w.links n = none ∧
        (w.step a).links n = some (Mux.fresh .initiator w.mux) := by
  have set {k : Nat} {m m' : Mux} (hk : w.links k = some m)
      (hm : m' = m ∨ ∃ e, m' = m.step e) :
      (w.setLink k m').links n = w.links n ∨
        ∃ m e, w.links n = some m ∧ (w.setLink k m').links n = some (m.step e) := by
    rw [links_setLink]
    split
    · rename_i hn
      subst hn
      rcases hm with rfl | ⟨e, rfl⟩
      · exact .inl hk.symm
      · exact .inr ⟨m, e, hk, rfl⟩
    · exact .inl rfl
  cases a with
  | call d => exact .inl rfl
  | connected k =>
    simp only [step]
    split
    · rename_i hk
      rw [links_setLink]
      split
      · rename_i hn
        exact .inr (.inr ⟨hn ▸ rfl, hn ▸ hk.2, rfl⟩)
      · exact .inl rfl
    · exact .inl rfl
  | proceed i =>
    simp only [step]
    split
    · split <;> exact .inl rfl
    · exact .inl rfl
  | ask i =>
    simp only [step]
    split
    · rename_i d k again _
      split
      · exact .inl rfl
      · rename_i m hk
        have hset := set hk (.inr ⟨.call (.openStream d), rfl⟩)
        rw [← or_assoc]
        refine .inl ?_
        split <;> exact hset
    · exact .inl rfl
  | hear i expired =>
    simp only [step]
    split
    · rename_i d k again handle _
      split
      · exact .inl rfl
      · rename_i m hk
        have hset := set hk (((h.links k m hk).pollOpen_cases handle expired).imp_right
          fun he => ⟨_, he⟩)
        rw [← or_assoc]
        refine .inl ?_
        split <;> exact hset
    · exact .inl rfl
  | traffic k e =>
    simp only [step]
    split
    · exact .inl rfl
    · rename_i m hk
      rw [← or_assoc]
      exact .inl (set hk (.inr ⟨e, rfl⟩))

theorem step (h : w.Wired c) (a : Move) : (w.step a).Wired c where
  mux := by
    refine Eq.trans ?_ h.mux
    cases a with
    | call d => rfl
    | connected k | proceed i | ask i | hear i | traffic k e =>
      simp only [Crowd.step]
      repeat' split
      all_goals rfl
  links n m hm := by
    rcases h.step_links a n with he | ⟨m₀, e, h₀, he⟩ | ⟨-, -, he⟩
    · exact h.links n m (he.symm.trans hm)
    · obtain rfl := Option.some.inj (he.symm.trans hm)
      exact (h.links n m₀ h₀).step e
    · obtain rfl := Option.some.inj (he.symm.trans hm)
      rw [h.mux]
      exact Mux.asking_fresh c.mux

/-- There is no connection that the remote relay has not accepted. -/
theorem run_links (h : w.Wired c) {moves : List Move} (hnone : w.links n = none)
    (hn : .connected n ∉ moves) : (w.run moves).links n = none := by
  induction moves generalizing w with
  | nil => exact hnone
  | cons a moves ih =>
    obtain ⟨hne, hn⟩ := not_or.1 (List.mem_cons.not.1 hn)
    refine ih (h.step a) ?_ hn
    rcases h.step_links a n with he | ⟨m, e, hm, -⟩ | ⟨ha, -⟩
    · exact he.trans hnone
    · simp [hnone] at hm
    · exact absurd ha.symm hne

theorem unfailed (h : w.Wired c) {a : Move} (hu : (w.step a).Unfailed) : w.Unfailed := by
  intro n m hm
  rcases h.step_links a n with he | ⟨m₀, e, h₀, he⟩ | ⟨-, hnone, -⟩
  · exact hu n m (he.trans hm)
  · obtain rfl := Option.some.inj (h₀.symm.trans hm)
    exact (h.links n _ h₀).unfailed (hu n _ he)
  · simp [hnone] at hm

end Wired

/-! ## What a move does -/

/-- Where a call goes on after the pool's answer. -/
def stageOf : Pool.Answer → Supervisor.Opening
  | .ready n => .opening n false
  | .wait n => .dialing n false
  | .failed e => .done (.error (.link e))

def outcome (n : Nat) : Except LinkError Unit → Except Proxy.Error Nat
  | .ok () => .ok n
  | .error e => .error (.link e)

/-- What a move does to the supervisor and its callers while no connection is lost. -/
inductive Moved (w w' : Crowd) (a : Move) : Prop where
  | quiet (supervisor : w'.supervisor = w.supervisor) (callers : w'.callers = w.callers)
  | barred {d : Destination} (supervisor : w'.supervisor = w.supervisor)
      (callers : w'.callers = w.callers ++ [⟨d, .done (.error .shuttingDown), none⟩])
  | began {d : Destination} {answer : Pool.Answer} {pool : Pool} (move : a = .call d)
      (told : w.supervisor.pool.Told w.look answer pool)
      (supervisor : w'.supervisor = { w.supervisor with pool })
      (callers : w'.callers = w.callers ++ [⟨d, stageOf answer, none⟩])
  | joined {i n : Nat} {d : Destination} {again : Bool} {s : Option Mux.Handle}
      (at_ : w.callers[i]? = some ⟨d, .dialing n again, s⟩) (link : (w.links n).isSome)
      (supervisor : w'.supervisor = { w.supervisor with pool := w.supervisor.pool.joined n })
      (callers : w'.callers = w.callers.set i ⟨d, .opening n again, none⟩)
  | asked {i n : Nat} {d : Destination} {again : Bool} {h : Mux.Handle}
      (at_ : w.callers[i]? = some ⟨d, .opening n again, none⟩)
      (supervisor : w'.supervisor = w.supervisor)
      (callers : w'.callers = w.callers.set i ⟨d, .opening n again, some h⟩)
  | refused {i n : Nat} {d : Destination} {again : Bool} {m : Mux} {e : LinkError}
      (move : a = .ask i) (at_ : w.callers[i]? = some ⟨d, .opening n again, none⟩)
      (link : w.links n = some m) (why : (m.openStream d).1 = .error e)
      (supervisor : w'.supervisor = w.supervisor)
      (callers : w'.callers = w.callers.set i ⟨d, .done (.error (.link e)), none⟩)
  | heard {i n : Nat} {d : Destination} {again : Bool} {h : Mux.Handle} {m : Mux}
      {expired : Bool} {r : Except LinkError Unit}
      (at_ : w.callers[i]? = some ⟨d, .opening n again, some h⟩)
      (link : w.links n = some m) (result : (m.pollOpen h expired).1 = some r)
      (supervisor : w'.supervisor = w.supervisor)
      (callers : w'.callers = w.callers.set i ⟨d, .done (outcome n r), none⟩)

theorem begin_cases (s : Supervisor) (look : Nat → Vitals) :
    s.begin look = (.done (.error .shuttingDown), s) ∨
      ∃ answer pool, s.pool.Told look answer pool ∧
        s.begin look = (stageOf answer, { s with pool }) := by
  cases hshut : s.shuttingDown with
  | true => exact .inl (by simp [Supervisor.begin, Supervisor.barred, hshut])
  | false =>
    have hask : s.begin look = s.ask look false := by simp [Supervisor.begin, Supervisor.barred, hshut]
    refine .inr ⟨_, _, s.pool.request_told look, ?_⟩
    rw [hask, Supervisor.ask]
    split <;> simp only [*, stageOf]

/-- On a connection that is not lost, the first answer is final. -/
theorem answer_setLink (w : Crowd) (n : Nat) (hf : m.failed = none) (i : Nat) (d : Destination)
    (again : Bool) (r : Except LinkError Unit) :
    (w.setLink n m).answer i d n again r =
      { w.setLink n m with callers := w.callers.set i ⟨d, .done (outcome n r), none⟩ } := by
  have hlink : (w.setLink n m).links n = some m := by rw [links_setLink, if_pos rfl]
  have hopen : ((w.setLink n m).look n).closed = false := by
    rw [look_of_link hlink, vitals_of_unfailed hf]
  cases r with
  | ok => rfl
  | error e =>
    have hanswer : (w.setLink n m).supervisor.answered (w.setLink n m).look n again (.error e) =
        (.done (outcome n (.error e)), w.supervisor) := if_neg (by simp [hopen])
    rw [answer, hanswer]
    rfl

/-- What a call relies on at a stage: the connection that it waits for is being dialed or has come,
and the one that it was given is in the pool. -/
def Fits (p : Pool) : Supervisor.Opening → Prop
  | .dialing n _ => n ∈ p.members ∨ p.dialing = some n
  | .opening n _ => n ∈ p.members
  | .done _ => True

theorem Fits.grow {p p' : Pool} {stage : Supervisor.Opening} (h : Fits p stage)
    (hg : p.Grown p') : Fits p' stage := by
  cases stage with
  | dialing n => exact h.elim (fun hn => .inl (hg.members n hn)) (hg.waiting n)
  | opening n => exact hg.members n h
  | done => trivial

theorem fits_of_told {p p' : Pool} {look : Nat → Vitals} {answer : Pool.Answer}
    (t : p.Told look answer p') : Fits p' (stageOf answer) := by
  cases t with
  | closed | full => trivial
  | ready _ mem => exact mem
  | shared _ _ dialing => exact .inr dialing
  | dialed => exact .inr rfl

/-- What is true while no connection is lost. -/
structure Sound (c : Proxy.Config) (w : Crowd) : Prop extends Wired c w where
  unfailed : w.Unfailed
  pool : w.supervisor.pool.Sound
  going : w.supervisor.pool.closed = false
  limit : w.supervisor.pool.limit = c.maxConnections
  linked : ∀ n ∈ w.supervisor.pool.members, (w.links n).isSome
  fits : ∀ caller ∈ w.callers, Fits w.supervisor.pool caller.stage

theorem sound_start {s : Supervisor} (hs : Supervisor.new? c = some s) : (start s c).Sound c := by
  unfold Supervisor.new? at hs
  split at hs
  · simp at hs
  · obtain rfl := Option.some.inj hs
    exact
      { mux := rfl
        links := by simp [start]
        unfailed := by simp [Unfailed, start]
        pool := ⟨List.nodup_nil, Nat.zero_le _, by simp [start, Supervisor.fresh],
          by simp [start, Supervisor.fresh]⟩
        going := rfl
        limit := rfl
        linked := by simp [start, Supervisor.fresh]
        fits := by simp [start] }

namespace Sound

theorem closed_of_link (hw : w.Sound c) (hn : (w.links n).isSome) : (w.look n).closed = false := by
  obtain ⟨m, hm⟩ := Option.isSome_iff_exists.1 hn
  rw [look_of_link hm, vitals_of_unfailed (hw.unfailed n m hm)]

theorem closed (hw : w.Sound c) (hn : n ∈ w.supervisor.pool.members) :
    (w.look n).closed = false :=
  hw.closed_of_link (hw.linked n hn)

theorem healthy (hw : w.Sound c) : w.supervisor.pool.healthy w.look = w.supervisor.pool.members :=
  List.filter_eq_self.2 fun _ hn => by simp [hw.closed hn]

theorem pruned (hw : w.Sound c) : w.supervisor.pool.pruned w.look = w.supervisor.pool := by
  rw [Pool.pruned, hw.healthy]

theorem moved (hw : w.Sound c) (a : Move) : Moved w (w.step a) a := by
  cases a with
  | call d =>
    rcases begin_cases w.supervisor w.look with hb | ⟨answer, pool, told, hb⟩
    · exact .barred (d := d) (by simp only [step, hb]) (by simp only [step, hb])
    · exact .began rfl told (by simp only [step, hb]) (by simp only [step, hb])
  | connected k =>
    simp only [step]
    split <;> exact .quiet rfl rfl
  | proceed i =>
    simp only [step]
    split
    · rename_i d n again s hi
      split
      · rename_i hlink
        have harrive := Pool.arrive_open hw.going (hw.closed_of_link hlink)
        refine .joined hi hlink ?_ ?_ <;> simp only [Supervisor.dialed, harrive]
      · exact .quiet rfl rfl
    · exact .quiet rfl rfl
  | ask i =>
    simp only [step]
    split
    · rename_i d n again hi
      split
      · exact .quiet rfl rfl
      · rename_i m hm
        split
        · exact .asked hi rfl rfl
        · rename_i e he
          have hfailed : (m.openStream d).2.failed = none := by
            rw [Mux.failed_openStream, hw.unfailed n m hm]
          rw [answer_setLink w n hfailed]
          exact .refused rfl hi hm he rfl rfl
    · exact .quiet rfl rfl
  | hear i expired =>
    simp only [step]
    split
    · rename_i d n again h hi
      split
      · exact .quiet rfl rfl
      · rename_i m hm
        split
        · exact .quiet rfl rfl
        · rename_i r hr
          have hfailed : (m.pollOpen h expired).2.failed = none := by
            rw [(hw.links n m hm).failed_pollOpen, hw.unfailed n m hm]
          rw [answer_setLink w n hfailed]
          exact .heard hi hm hr rfl rfl
    · exact .quiet rfl rfl
  | traffic k e =>
    simp only [step]
    split <;> exact .quiet rfl rfl

theorem next (hw : w.Sound c) {a : Move} {pool : Pool} (hu : (w.step a).Unfailed)
    (hs : (w.step a).supervisor = { w.supervisor with pool }) (hp : pool.Sound)
    (hg : w.supervisor.pool.Grown pool) (hlinked : ∀ n ∈ pool.members, (w.links n).isSome)
    (hfits : ∀ caller ∈ (w.step a).callers, caller ∈ w.callers ∨ Fits pool caller.stage) :
    (w.step a).Sound c where
  toWired := hw.toWired.step a
  unfailed := hu
  pool := by rwa [hs]
  going := by
    rw [hs]
    exact hg.closed.trans hw.going
  limit := by
    rw [hs]
    exact hg.limit.trans hw.limit
  linked n hn := by
    rw [hs] at hn
    have hsome := hlinked n hn
    rcases hw.step_links a n with he | ⟨m, e, -, he⟩ | ⟨-, -, he⟩
    · rwa [he]
    · rw [he]
      rfl
    · rw [he]
      rfl
  fits caller hin := by
    rw [hs]
    exact (hfits caller hin).elim (fun hold => (hw.fits caller hold).grow hg) id

theorem step (hw : w.Sound c) (a : Move) (hu : (w.step a).Unfailed) : (w.step a).Sound c := by
  have same (hs : (w.step a).supervisor = w.supervisor)
      (hfits : ∀ caller ∈ (w.step a).callers, caller ∈ w.callers ∨
        Fits w.supervisor.pool caller.stage) : (w.step a).Sound c :=
    hw.next hu hs hw.pool (.refl _) hw.linked hfits
  cases hw.moved a with
  | quiet hs hcallers => exact same hs fun caller hin => .inl (hcallers ▸ hin)
  | barred hs hcallers =>
    refine same hs fun caller hin => ?_
    rw [hcallers, List.mem_append, List.mem_singleton] at hin
    refine hin.imp_right ?_
    rintro rfl
    trivial
  | began _ told hs hcallers =>
    refine hw.next hu hs (told.sound hw.pool) (told.grown hw.pruned)
      (fun n hn => hw.linked n (told.members n hn)) fun caller hin => ?_
    rw [hcallers, List.mem_append, List.mem_singleton] at hin
    refine hin.imp_right ?_
    rintro rfl
    exact fits_of_told told
  | @joined i n _ _ _ at_ link hs hcallers =>
    have hfits := hw.fits _ (List.mem_of_getElem? at_)
    refine hw.next hu hs (hw.pool.joined hfits) (Pool.grown_joined _ _) (fun k hk => ?_)
      fun caller hin => ?_
    · rcases Pool.mem_joined.1 hk with hk | rfl
      · exact hw.linked k hk
      · exact link
    · rw [hcallers] at hin
      refine (List.mem_or_eq_of_mem_set hin).imp_right ?_
      rintro rfl
      exact Pool.mem_joined.2 (.inr rfl)
  | asked at_ hs hcallers =>
    refine same hs fun caller hin => ?_
    rw [hcallers] at hin
    refine (List.mem_or_eq_of_mem_set hin).imp_right ?_
    rintro rfl
    have hfits := hw.fits _ (List.mem_of_getElem? at_)
    exact hfits
  | refused _ _ _ _ hs hcallers | heard _ _ _ hs hcallers =>
    refine same hs fun caller hin => ?_
    rw [hcallers] at hin
    refine (List.mem_or_eq_of_mem_set hin).imp_right ?_
    rintro rfl
    trivial

theorem full (hw : w.Sound c)
    (hfull : ∀ n ∈ w.supervisor.pool.healthy w.look, (w.look n).capacity = false)
    (hlimit : w.supervisor.pool.limit ≤ (w.supervisor.pool.healthy w.look).length) : w.Full c := by
  rw [hw.healthy] at hfull hlimit
  have hroom := hw.pool.room
  refine ⟨hw.pool.nodup, ?_, fun n hn => ⟨hw.closed hn, ?_⟩⟩
  · rw [← hw.limit]
    omega
  · obtain ⟨m, hm⟩ := Option.isSome_iff_exists.1 (hw.linked n hn)
    have hlink := hw.links n m hm
    have hcap := hfull n hn
    rw [look_of_link hm, vitals_of_unfailed (hw.unfailed n m hm), hlink.config] at hcap
    rw [look_of_link hm, vitals_of_unfailed (hw.unfailed n m hm)]
    have hmax : m.activeStreams ≤ c.mux.maxStreams := hlink.room
    have hmin : ¬m.activeStreams < c.mux.maxStreams := of_decide_eq_false hcap
    exact Nat.le_antisymm hmax (Nat.le_of_not_lt hmin)

/-- A call that a move turns away finds the pool full, or the connection that it has from the pool. -/
theorem turnedAway (hw : w.Sound c) {a : Move} {caller : Caller}
    (hi : (w.step a).callers[i]? = some caller) (haway : caller.TurnedAway) :
    w.callers[i]? = some caller ∨
      (∃ d, a = .call d) ∧ i = w.callers.length ∧ w.Full c ∨
      a = .ask i ∧ ∃ d n again m, w.callers[i]? = some ⟨d, .opening n again, none⟩ ∧
        n ∈ w.supervisor.pool.members ∧ w.links n = some m ∧
        min c.mux.maxStreams (UInt32.size - 1) ≤ m.activeStreams := by
  obtain ⟨text, haway⟩ := haway
  cases hw.moved a with
  | quiet _ hcallers => exact .inl (hcallers ▸ hi)
  | barred _ hcallers =>
    rw [hcallers] at hi
    rcases of_getElem?_concat hi with hold | ⟨-, rfl⟩
    · exact .inl hold
    · simp at haway
  | began move told _ hcallers =>
    rw [hcallers] at hi
    rcases of_getElem?_concat hi with hold | ⟨hlast, rfl⟩
    · exact .inl hold
    · refine .inr (.inl ⟨⟨_, move⟩, hlast, ?_⟩)
      cases told with
      | closed | ready | shared | dialed => simp [stageOf] at haway
      | full _ full limit => exact hw.full full limit
  | joined _ _ _ hcallers | asked _ _ hcallers =>
    rw [hcallers] at hi
    rcases of_getElem?_set hi with hold | ⟨-, rfl⟩
    · exact .inl hold
    · simp at haway
  | refused move at_ link why _ hcallers =>
    rw [hcallers] at hi
    rcases of_getElem?_set hi with hold | ⟨rfl, rfl⟩
    · exact .inl hold
    · simp only [Supervisor.Opening.done.injEq, Except.error.injEq, Proxy.Error.link.injEq] at haway
      rw [haway] at why
      have hlink := hw.links _ _ link
      have hfull := Mux.openStream_unavailable hlink.role (hw.unfailed _ _ link) why
      rw [hlink.config] at hfull
      exact .inr (.inr ⟨move, _, _, _, _, at_, hw.fits _ (List.mem_of_getElem? at_), link, hfull⟩)
  | @heard _ _ _ _ _ _ _ r at_ link result _ hcallers =>
    rw [hcallers] at hi
    rcases of_getElem?_set hi with hold | ⟨-, rfl⟩
    · exact .inl hold
    · have hne := (hw.links _ _ link).pollOpen_ne (hw.unfailed _ _ link) result text
      cases r with
      | ok => simp [outcome] at haway
      | error e =>
        simp only [outcome, Supervisor.Opening.done.injEq, Except.error.injEq,
          Proxy.Error.link.injEq] at haway
        exact absurd (congrArg Except.error haway) hne

end Sound

theorem run_concat (w : Crowd) (moves : List Move) (a : Move) :
    w.run (moves ++ [a]) = (w.run moves).step a := by
  simp [run]

theorem run_sound {s : Supervisor} (hs : Supervisor.new? c = some s) (moves : List Move) :
    ((start s c).run moves).Wired c ∧
      (((start s c).run moves).Unfailed → ((start s c).run moves).Sound c) := by
  induction moves using List.reverseRecOn with
  | nil =>
    have h := sound_start hs
    exact ⟨h.toWired, fun _ => h⟩
  | append_singleton moves a ih =>
    rw [run_concat]
    exact ⟨ih.1.step a, fun hu => (ih.2 (ih.1.unfailed hu)).step a hu⟩

/-! ## Calls that are turned away -/

/-- **Turned away only when full.** While no connection is lost, a call is told that no connection can
take another stream for one of two reasons only. Either, when it was made, the pool had as many
connections as it may and each of them as many streams. Or, when it asked the connection it had got
from the pool for a stream, that one had as many streams as it may, or as there are numbers. -/
theorem turned_away_full {c : Proxy.Config} {s : Supervisor} (hs : Supervisor.new? c = some s)
    (moves : List Move) (hu : ((start s c).run moves).Unfailed) {i : Nat} {caller : Caller}
    (hi : ((start s c).run moves).callers[i]? = some caller) (haway : caller.TurnedAway) :
    ∃ before move after, moves = before ++ move :: after ∧
      let w := (start s c).run before
      (∃ d, move = .call d) ∧ i = w.callers.length ∧ w.Full c ∨
      move = .ask i ∧ ∃ d n again m, w.callers[i]? = some ⟨d, .opening n again, none⟩ ∧
        n ∈ w.supervisor.pool.members ∧ w.links n = some m ∧
        min c.mux.maxStreams (UInt32.size - 1) ≤ m.activeStreams := by
  induction moves using List.reverseRecOn with
  | nil => simp [run, start] at hi
  | append_singleton moves a ih =>
    rw [run_concat] at hu hi
    obtain ⟨hwired, hsound⟩ := run_sound hs moves
    have hw := hsound (hwired.unfailed hu)
    rcases hw.turnedAway hi haway with hold | hnew
    · obtain ⟨before, move, after, hmoves, hwhy⟩ := ih hw.unfailed hold
      exact ⟨before, move, after ++ [a], by simp [hmoves], hwhy⟩
    · exact ⟨moves, a, [], rfl, hnew⟩

/-- Settings for two connections with one stream each. -/
def narrow : Proxy.Config :=
  { secret := ⟨[1]⟩, maxConnections := 2, mux := { maxStreams := 1 } }

/-- Two calls at once that wait for the same dial. The second goes on when the first has asked for the
only stream, which the remote relay confirms. -/
def rush : List Move :=
  let d : Destination := .domain "a.test" 80
  [.call d, .call d, .connected 1, .proceed 0, .ask 0, .proceed 1, .ask 1,
    .traffic 1 (.frame ⟨.ack, 1, Payload.encodeCredit 8⟩), .hear 0 false]

/-- The supervisor that has these settings. -/
def desk : Supervisor :=
  { pool := { remote := narrow.remote, limit := narrow.maxConnections }
    maxStreams := narrow.maxStreams }

/-- How the second call of the rush ends. -/
def second : Caller where
  destination := .domain "a.test" 80
  stage := .done (.error (.link (.unavailable "stream limit 1 reached")))

theorem unfailed_rush : ((start desk narrow).run rush).Unfailed := by
  intro n m hm
  by_cases hn : n = 1
  · subst hn
    have hall : (((start desk narrow).run rush).links 1).all (·.failed = none) = true := by
      decide +kernel
    rw [hm] at hall
    simpa using hall
  · have hwired : (start desk narrow).Wired narrow := (sound_start rfl).toWired
    rw [hwired.run_links rfl (by simp [rush, hn])] at hm
    cases hm

theorem turned_away_in_rush :
    ∃ before move after, rush = before ++ move :: after ∧
      let w := (start desk narrow).run before
      (∃ d, move = .call d) ∧ 1 = w.callers.length ∧ w.Full narrow ∨
      move = .ask 1 ∧ ∃ d n again m, w.callers[1]? = some ⟨d, .opening n again, none⟩ ∧
        n ∈ w.supervisor.pool.members ∧ w.links n = some m ∧
        min narrow.mux.maxStreams (UInt32.size - 1) ≤ m.activeStreams :=
  have hi : ((start desk narrow).run rush).callers[1]? = some second := by decide +kernel
  turned_away_full rfl rush unfailed_rush hi ⟨_, rfl⟩

/-- **Turned away with room to dial.** Even if no connection is lost and all that arrives is
confirmations, it is not the case that a call is turned away only if the pool is full at some moment.
Both calls of the rush are given the one connection that is dialed, whether it still has room or not,
so the second is turned away while the pool could have a second connection. -/
theorem turned_away_with_room_to_dial :
    ¬∀ (c : Proxy.Config) (s : Supervisor), Supervisor.new? c = some s → ∀ moves : List Move,
      ((start s c).run moves).Unfailed →
      (∀ n e, .traffic n e ∈ moves → ∃ f, e = .frame f ∧ f.kind = .ack) →
      ∀ (i : Nat) (caller : Caller),
        ((start s c).run moves).callers[i]? = some caller → caller.TurnedAway →
          ∃ before after, moves = before ++ after ∧ ((start s c).run before).Full c := by
  intro h
  have hacks (n : Nat) (e : Mux.Event) (hin : .traffic n e ∈ rush) :
      ∃ f, e = .frame f ∧ f.kind = .ack := by
    simp only [rush, List.mem_cons, List.not_mem_nil, reduceCtorEq, false_or, or_false,
      Move.traffic.injEq] at hin
    exact ⟨_, hin.2, rfl⟩
  obtain ⟨before, after, hrush, -, hlength, -⟩ :=
    h narrow desk rfl rush unfailed_rush hacks 1 second (by decide +kernel) ⟨_, rfl⟩
  have hprefix : before = rush.take before.length := by rw [hrush, List.take_left]
  have hshort : before.length ≤ 9 := by
    have hlen := congrArg List.length hrush
    simp only [rush, List.length_append, List.length_cons, List.length_nil] at hlen
    omega
  have hone : ∀ k ≤ 9,
      ((start desk narrow).run (rush.take k)).supervisor.pool.members.length ≤ 1 := by
    decide +kernel
  have hfew := hone before.length hshort
  rw [← hprefix, hlength] at hfew
  exact absurd hfew (by decide)

end Crowd

end SealedRelay
