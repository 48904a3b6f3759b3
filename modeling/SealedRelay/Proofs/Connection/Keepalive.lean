import Mathlib.Data.List.Chain
import SealedRelay.Proofs.Connection.Teardown

/-!
# When a silent peer is given up

A connection looks at the clock at equal distances, from its start on. At each look it knows in which
millisecond it was last told something, which is when a frame was last complete. A peer is given up at the
first look at which the beginning of that millisecond is an idle timeout ago. So it is never given up while
its frames come often enough, and it is given up less than one look late. But a frame that comes late in its
millisecond counts from before it came, and so a look can find a peer silent for the timeout that is not.

Results:
* `tick_closed_iff`: what one look decides.
* `Awake.elapse`: what holds of an open connection at any time.
* `silence_noticed_in_time`: when a connection is given up, and when not.
* `given_up_within_timeout`: it can be given up before the timeout is over.
-/
namespace SealedRelay

/-- The bytes that are left when decoding stops. -/
def Frame.Ending.rest : Frame.Ending → Bytes
  | more rest => rest
  | error _ rest => rest

namespace Connection

/-! ## Time -/

inductive Act where
  | call (c : Mux.Call)
  | bytes (b : Bytes)
  | endOfInput
  | socketFailed (fault : Fault)
  | write
  | tick
  | close

namespace Act

def event (now : Duration) : Act → Event
  | call c => .call c
  | bytes b => .bytes now b
  | endOfInput => .endOfInput
  | socketFailed fault => .socketFailed fault
  | write => .write
  | tick => .tick now
  | close => .close

def isTick : Act → Bool
  | tick => true
  | _ => false

/-- When a frame is complete by it, and the bytes that are not yet a whole frame. -/
def completes (limit : Nat) (buffer : Bytes) (now : Duration) : Act → List Duration × Bytes
  | bytes b =>
    let r := Frame.decodeAll limit (buffer ++ b)
    (if r.1 = [] then [] else [now], r.2.rest)
  | _ => ([], buffer)

end Act

/-- The times at which frames are complete. -/
def arrivals (limit : Nat) (buffer : Bytes) : List (Duration × Act) → List Duration
  | [] => []
  | (now, a) :: run =>
    let r := a.completes limit buffer now
    r.1 ++ arrivals limit r.2 run

def elapse (x : Connection) (run : List (Duration × Act)) : Connection :=
  run.foldl (fun x m => x.step (m.2.event m.1)) x

/-- Time does not go back, and an open connection looks at the clock exactly when that is due. -/
inductive Punctual : Connection → Duration → List (Duration × Act) → Prop where
  | nil {x : Connection} {now : Duration} : Punctual x now []
  | cons {x : Connection} {now t : Duration} {a : Act} {run : List (Duration × Act)}
      (later : now.nanos ≤ t.nanos)
      (due : x.closed = false → t.nanos ≤ (Duration.ofMillis x.tickTime).nanos)
      (sharp : x.closed = false → a.isTick = true → t = .ofMillis x.tickTime)
      (rest : Punctual (x.step (a.event t)) t run) : Punctual x now ((t, a) :: run)

instance Punctual.decidable (x : Connection) (now : Duration) :
    (run : List (Duration × Act)) → Decidable (Punctual x now run)
  | [] => .isTrue .nil
  | (t, a) :: run =>
    have := Punctual.decidable (x.step (a.event t)) t run
    decidable_of_iff
      (now.nanos ≤ t.nanos ∧ (x.closed = false → t.nanos ≤ (Duration.ofMillis x.tickTime).nanos) ∧
        (x.closed = false → a.isTick = true → t = .ofMillis x.tickTime) ∧
          Punctual (x.step (a.event t)) t run)
      ⟨fun ⟨later, due, sharp, rest⟩ => .cons later due sharp rest,
        fun | .cons later due sharp rest => ⟨later, due, sharp, rest⟩⟩

variable {x : Connection} {c : Mux.Config} {now t last : Duration} {n K I p limit : Nat} {a : Act}
  {before later run : List (Duration × Act)} {buffer : Bytes}

theorem elapse_append (x : Connection) (before later : List (Duration × Act)) :
    x.elapse (before ++ later) = (x.elapse before).elapse later :=
  List.foldl_append

theorem arrivals_append (limit : Nat) (buffer : Bytes) (before later : List (Duration × Act)) :
    ∃ rest, arrivals limit buffer (before ++ later) = arrivals limit buffer before ++ arrivals limit rest later := by
  induction before generalizing buffer with
  | nil => exact ⟨buffer, rfl⟩
  | cons m before ih =>
    obtain ⟨rest, hrest⟩ := @ih (m.2.completes limit buffer m.1).2
    refine ⟨rest, ?_⟩
    rw [List.cons_append, arrivals, arrivals, hrest, List.append_assoc]

theorem fst_completes (a : Act) (limit : Nat) (buffer : Bytes) (now : Duration) :
    (a.completes limit buffer now).1 = [] ∨ (a.completes limit buffer now).1 = [now] := by
  cases a with
  | bytes b =>
    simp only [Act.completes]
    split
    · exact .inl rfl
    · exact .inr rfl
  | _ => exact .inl rfl

theorem mem_arrivals (h : t ∈ arrivals limit buffer run) : ∃ a, (t, a) ∈ run := by
  induction run generalizing buffer with
  | nil => cases h
  | cons m run ih =>
    rcases List.mem_append.1 h with h | h
    · rcases fst_completes m.2 limit buffer m.1 with hnone | hone
      · rw [hnone] at h
        cases h
      · rw [hone] at h
        exact ⟨m.2, List.mem_cons.2 (.inl (by rw [List.mem_singleton.1 h]))⟩
    · obtain ⟨a, ha⟩ := ih h
      exact ⟨a, List.mem_cons_of_mem _ ha⟩

/-! ## One look -/

/-- At `now` the connection is open, its last frame was complete at `last`, and its next look at the clock
is number `n`, counted from zero. It would not have been open still, had it been silent for longer. -/
structure Awake (c : Mux.Config) (I p : Nat) (x : Connection) (now last : Duration) (n : Nat) : Prop where
  limited : x.mux.Limited c
  isOpen : x.closed = false
  lastInbound : x.lastInbound = last.millis
  tickDue : x.tickDue = n * p * 1000000
  heard : last.nanos ≤ now.nanos
  due : now.nanos ≤ n * p * 1000000
  early : n * p < last.millis + I + p

structure Timed (c : Mux.Config) (I p : Nat) : Prop where
  idleTimeout : c.idleTimeout = .ofMillis I
  period : period c = .ofMillis p
  positive : 0 < p

variable {n : Nat}

@[simp] theorem lastInbound_teardown (x : Connection) (e : LinkError) :
    (x.teardown e).lastInbound = x.lastInbound := by
  unfold teardown
  split <;> rfl

@[simp] theorem tickDue_teardown (x : Connection) (e : LinkError) :
    (x.teardown e).tickDue = x.tickDue := by
  unfold teardown
  split <;> rfl

@[simp] theorem received_teardown (x : Connection) (e : LinkError) :
    (x.teardown e).received = x.received := by
  unfold teardown
  split <;> rfl

theorem Awake.tickTime (h : x.Awake c I p now last n) : x.tickTime = n * p := by
  rw [Connection.tickTime, h.tickDue]
  show (n * p * 1000000 + 999999) / 1000000 = n * p
  omega

theorem Awake.millis_le (h : x.Awake c I p now last n) : last.millis ≤ n * p := by
  have hlast := Nat.le_trans h.heard h.due
  unfold Duration.millis
  omega

/-- The first look at which the peer has been silent for long enough, as far as the connection knows, ends
it. -/
theorem Awake.tick_closed_iff (hc : Timed c I p) (h : x.Awake c I p now last n) :
    (x.tick (.ofMillis (n * p))).closed = true ↔ last.millis + I ≤ n * p := by
  have hlast := h.millis_le
  have hidle : (x.idle (.ofMillis (n * p))).nanos ≥ x.mux.config.idleTimeout.nanos ↔
      last.millis + I ≤ n * p := by
    simp only [idle, h.lastInbound, h.limited.config, hc.idleTimeout, Duration.nanos_sub,
      Duration.nanos_ofMillis, ge_iff_le]
    omega
  rw [tick, if_neg (by simp [h.isOpen])]
  dsimp only
  by_cases hsilent : last.millis + I ≤ n * p
  · rw [if_pos (hidle.2 hsilent)]
    exact iff_of_true (closed_teardown _ _) hsilent
  · rw [if_neg (mt hidle.1 hsilent)]
    refine iff_of_false ?_ hsilent
    split <;> simp [h.isOpen]

theorem Awake.tick (hc : Timed c I p) (h : x.Awake c I p now last n) :
    let t := Duration.ofMillis (n * p)
    (x.tick t).closed = false →
      (x.tick t).Awake c I p t last (n + 1) ∧ (x.tick t).received = x.received := by
  intro t hopen
  have hrecent : ¬ last.millis + I ≤ n * p := fun hsilent => by
    rw [(h.tick_closed_iff hc).2 hsilent] at hopen
    cases hopen
  have hnext : (n + 1) * p = n * p + p := Nat.succ_mul n p
  have hlimited := limited_tick h.limited t
  have hfields : (x.tick t).lastInbound = x.lastInbound ∧
      (x.tick t).tickDue = x.tickDue + (Connection.period x.mux.config).nanos ∧
        (x.tick t).received = x.received := by
    rw [Connection.tick, if_neg (by simp [h.isOpen])] at hopen ⊢
    dsimp only at hopen ⊢
    split at hopen
    · rw [closed_teardown] at hopen
      cases hopen
    · rename_i hidle
      rw [if_neg hidle]
      split <;> exact ⟨rfl, rfl, rfl⟩
  obtain ⟨hinbound, hdue, hreceived⟩ := hfields
  have hlast : last.nanos ≤ t.nanos := Nat.le_trans h.heard h.due
  refine ⟨⟨hlimited, hopen, hinbound.trans h.lastInbound, ?_, hlast, ?_, ?_⟩, hreceived⟩
  · rw [hdue, h.tickDue, h.limited.config, hc.period, hnext, Duration.nanos_ofMillis, Nat.add_mul]
  · show n * p * 1000000 ≤ (n + 1) * p * 1000000
    omega
  · omega

/-! ## Everything else -/

/-- `z` is what `x` has become without a look at the clock: its last frame was complete in the millisecond
`last`. -/
structure Heard (x : Connection) (last : Nat) (rest : Bytes) (z : Connection) : Prop where
  lastInbound : z.lastInbound = last
  tickDue : z.tickDue = x.tickDue
  received : z.received = rest

theorem foldl_handle_fields (hopen : x.closed = false) (now : Duration) (sealed : List Frame)
    (hlast : (sealed.foldl (handle now) x).closed = false) :
    (sealed.foldl (handle now) x).lastInbound = (if sealed = [] then x.lastInbound else now.millis) ∧
      (sealed.foldl (handle now) x).tickDue = x.tickDue := by
  induction sealed generalizing x with
  | nil => exact ⟨rfl, rfl⟩
  | cons w sealed ih =>
    rw [List.foldl_cons] at hlast ⊢
    have hhandled : (x.handle now w).closed = false := Bool.eq_false_iff.2 fun hclosed => by
      rw [foldl_handle_of_closed hclosed, hclosed] at hlast
      cases hlast
    have hfields : (x.handle now w).lastInbound = now.millis ∧ (x.handle now w).tickDue = x.tickDue := by
      rw [handle, if_neg (by simp [hopen])]
      dsimp only
      split
      · simp
      · split <;> simp
    obtain ⟨hinbound, hdue⟩ := ih hhandled hlast
    rw [hinbound, hdue, hfields.1, hfields.2, if_neg (List.cons_ne_nil w sealed), ite_self]
    exact ⟨rfl, rfl⟩

/-- A connection that stays open has taken the frames that the bytes complete. -/
theorem receive_heard (hopen : x.closed = false) (b : Bytes)
    (hlast : (x.receive now b).closed = false) :
    Heard x (if (x.decoded b).1 = [] then x.lastInbound else now.millis) (x.decoded b).2.rest
      (x.receive now b) := by
  rw [receive_eq hopen] at hlast ⊢
  dsimp only at hlast ⊢
  cases hending : (x.decoded b).2 with
  | more rest =>
    rw [hending] at hlast
    obtain ⟨hinbound, hdue⟩ := foldl_handle_fields hopen now _ hlast
    exact ⟨hinbound, hdue, rfl⟩
  | error e rest =>
    rw [hending] at hlast
    cases (closed_teardown _ _).symm.trans hlast

theorem nextWire_heard (x : Connection) : Heard x x.lastInbound x.received x.nextWire.2 := by
  unfold nextWire
  split
  · exact ⟨rfl, rfl, rfl⟩
  split
  · exact ⟨rfl, rfl, rfl⟩
  dsimp only
  split
  · exact ⟨by simp, by simp, by simp⟩
  split
  · exact ⟨by simp, by simp, by simp⟩
  · exact ⟨rfl, rfl, rfl⟩

/-- Whatever happens to a connection that stays open, but for a look at the clock. -/
theorem step_heard (hopen : x.closed = false) (ha : a.isTick = false)
    (hlast : (x.step (a.event now)).closed = false) :
    let r := a.completes (wireLimit x.mux.config) x.received now
    Heard x ((r.1.getLast?.map Duration.millis).getD x.lastInbound) r.2 (x.step (a.event now)) := by
  cases a with
  | call => exact ⟨rfl, rfl, rfl⟩
  | bytes b =>
    have hheard := receive_heard hopen b hlast
    have hinbound : (if (x.decoded b).1 = [] then x.lastInbound else now.millis) =
        ((if (x.decoded b).1 = [] then [] else [now]).getLast?.map Duration.millis).getD x.lastInbound := by
      split <;> rfl
    rw [hinbound] at hheard
    exact hheard
  | endOfInput =>
    simp only [Act.event, step, endOfInput] at hlast
    split at hlast <;> cases (closed_teardown _ _).symm.trans hlast
  | socketFailed | close => cases (closed_teardown _ _).symm.trans hlast
  | write => exact nextWire_heard x
  | tick => cases ha

/-! ## Runs -/

/-- The time of the last thing that happened. -/
def clock (now : Duration) (run : List (Duration × Act)) : Duration := (run.map (·.1)).getLast?.getD now

/-- When the last frame was complete. -/
def heard (limit : Nat) (run : List (Duration × Act)) : Duration :=
  (arrivals limit [] run).getLast?.getD ⟨0⟩

theorem getD_append (l l' : List Duration) (d : Duration) :
    (l ++ l').getLast?.getD d = l'.getLast?.getD (l.getLast?.getD d) := by
  rw [List.getLast?_append]
  cases l'.getLast? <;> rfl

@[simp] theorem clock_cons (now t : Duration) (a : Act) (run : List (Duration × Act)) :
    clock now ((t, a) :: run) = clock t run :=
  getD_append [t] _ now

theorem Awake.step (hc : Timed c I p) (h : x.Awake c I p now last n) (later : now.nanos ≤ t.nanos)
    (due : t.nanos ≤ (Duration.ofMillis x.tickTime).nanos)
    (sharp : a.isTick = true → t = .ofMillis x.tickTime)
    (hopen : (x.step (a.event t)).closed = false) :
    let r := a.completes (wireLimit c) x.received t
    (x.step (a.event t)).Awake c I p t (r.1.getLast?.getD last) (n + if a.isTick then 1 else 0) ∧
      (x.step (a.event t)).received = r.2 := by
  rw [h.tickTime] at due sharp
  cases ha : a.isTick with
  | true =>
    obtain rfl := sharp ha
    cases a with
    | tick => exact h.tick hc hopen
    | _ => cases ha
  | false =>
    have hheard := step_heard h.isOpen ha hopen
    simp only [h.limited.config, h.lastInbound, Option.getD_map] at hheard
    have hlast : last.nanos ≤ ((a.completes (wireLimit c) x.received t).1.getLast?.getD last).nanos ∧
        ((a.completes (wireLimit c) x.received t).1.getLast?.getD last).nanos ≤ t.nanos := by
      rcases fst_completes a (wireLimit c) x.received t with hnone | hone
      · rw [hnone]
        exact ⟨Nat.le_refl _, Nat.le_trans h.heard later⟩
      · rw [hone]
        exact ⟨Nat.le_trans h.heard later, Nat.le_refl _⟩
    have hmillis := Nat.div_le_div_right (c := 1000000) hlast.1
    refine ⟨⟨limited_step h.limited _, hopen, hheard.lastInbound, ?_, hlast.2, due, ?_⟩, hheard.received⟩
    · exact hheard.tickDue.trans h.tickDue
    · exact Nat.lt_of_lt_of_le h.early (Nat.add_le_add_right (Nat.add_le_add_right hmillis I) p)

theorem closed_elapse (h : x.closed = true) (run : List (Duration × Act)) : (x.elapse run).closed = true := by
  induction run generalizing x with
  | nil => exact h
  | cons m run ih => exact ih (closed_step h _)

/-- At any time at which it is open a connection knows in which millisecond its last frame was complete, and
its next look at the clock is not late. -/
theorem Awake.elapse (hc : Timed c I p) (h : x.Awake c I p now last n) (punctual : Punctual x now run)
    (hopen : (x.elapse run).closed = false) :
    (x.elapse run).Awake c I p (clock now run)
      ((arrivals (wireLimit c) x.received run).getLast?.getD last) (n + run.countP (·.2.isTick)) := by
  induction punctual generalizing last n with
  | nil => exact h
  | @cons x now t a run later due sharp rest ih =>
    have hstep : (x.step (a.event t)).closed = false := Bool.eq_false_iff.2 fun hclosed => by
      rw [show x.elapse ((t, a) :: run) = (x.step (a.event t)).elapse run from rfl,
        closed_elapse hclosed] at hopen
      cases hopen
    obtain ⟨hawake, hreceived⟩ := h.step hc later (due h.isOpen) (sharp h.isOpen) hstep
    have hrun := ih hawake hopen
    rw [hreceived, ← getD_append, Nat.add_assoc] at hrun
    rw [clock_cons, List.countP_cons, Nat.add_comm (run.countP _)]
    exact hrun

theorem Punctual.split (punctual : Punctual x now (before ++ later)) :
    Punctual x now before ∧ Punctual (x.elapse before) (clock now before) later := by
  induction before generalizing x now with
  | nil => exact ⟨.nil, punctual⟩
  | cons m before ih =>
    cases punctual with
    | @cons _ _ t a _ hlater due sharp rest =>
      obtain ⟨hbefore, hafter⟩ := ih rest
      rw [clock_cons]
      exact ⟨.cons hlater due sharp hbefore, hafter⟩

theorem Punctual.le_clock (punctual : Punctual x now run) :
    now.nanos ≤ (clock now run).nanos ∧
      ∀ m ∈ run, now.nanos ≤ m.1.nanos ∧ m.1.nanos ≤ (clock now run).nanos := by
  induction punctual with
  | nil => exact ⟨Nat.le_refl _, nofun⟩
  | @cons x now t a run later due sharp rest ih =>
    obtain ⟨hle, hall⟩ := ih
    rw [clock_cons]
    refine ⟨Nat.le_trans later hle, List.forall_mem_cons.2 ⟨⟨later, hle⟩, fun m hm => ?_⟩⟩
    exact ⟨Nat.le_trans later (hall m hm).1, (hall m hm).2⟩

theorem Punctual.append (h : Punctual x now before) (h' : Punctual (x.elapse before) (clock now before) later) :
    Punctual x now (before ++ later) := by
  induction h with
  | nil => exact h'
  | @cons x now t a run hlater due sharp rest ih =>
    rw [clock_cons] at h'
    exact .cons hlater due sharp (ih h')

/-- Looks at the clock in these milliseconds, and nothing else. -/
def looks (times : List Nat) : List (Duration × Act) := times.map fun t => (.ofMillis t, .tick)

/-- A connection that hears nothing more is given up in time. -/
theorem Awake.left_alone (hc : Timed c I p) (h : x.Awake c I p now last n) :
    ∃ times t, Punctual x now (looks (times ++ [t])) ∧ (x.elapse (looks times)).closed = false ∧
      (x.elapse (looks (times ++ [t]))).closed = true ∧ last.millis + I ≤ t ∧
      t < last.millis + I + p := by
  induction hk : last.millis + I - n * p using Nat.strongRecOn generalizing x now n with
  | ind k ih =>
    have hdue : x.closed = false →
        (Duration.ofMillis (n * p)).nanos ≤ (Duration.ofMillis x.tickTime).nanos := fun _ => by
      rw [h.tickTime]
    have hsharp : x.closed = false → Act.tick.isTick = true →
        Duration.ofMillis (n * p) = .ofMillis x.tickTime := fun _ _ => by rw [h.tickTime]
    by_cases hsilent : last.millis + I ≤ n * p
    · exact ⟨[], n * p, .cons h.due hdue hsharp .nil, h.isOpen, (h.tick_closed_iff hc).2 hsilent,
        hsilent, h.early⟩
    · have hopen : (x.tick (.ofMillis (n * p))).closed = false :=
        Bool.eq_false_iff.2 fun hclosed => hsilent ((h.tick_closed_iff hc).1 hclosed)
      have hnext : (n + 1) * p = n * p + p := Nat.succ_mul n p
      have hpos := hc.positive
      obtain ⟨times, t, hpunctual, hbefore, hafter, hle, hlt⟩ :=
        ih (last.millis + I - (n + 1) * p) (by omega) (h.tick hc hopen).1 rfl
      exact ⟨n * p :: times, t, .cons h.due hdue hsharp hpunctual, hbefore, hafter, hle, hlt⟩

/-! ## From the start -/

/-- The period between looks, when it and the settings are whole milliseconds. -/
theorem timed_of_millis (hK : c.keepaliveInterval = .ofMillis K) (hI : c.idleTimeout = .ofMillis I)
    (hp : 4 * p = max (min (4 * K) I) 40) : Timed c I p where
  idleTimeout := hI
  period := by
    simp only [Connection.period, hK, hI, Duration.ofMillis, Duration.mk.injEq]
    omega
  positive := by omega

theorem awake_new (hc : Timed c I p) (id : Nat) (peer : String) (e : End) (session : Session) :
    (new id peer e session c).Awake c I p ⟨0⟩ ⟨0⟩ 0 where
  limited := ⟨Mux.sound_fresh _ c, rfl, Nat.zero_le _⟩
  isOpen := rfl
  lastInbound := rfl
  tickDue := by rw [Nat.zero_mul, Nat.zero_mul]; rfl
  heard := Nat.le_refl 0
  due := Nat.zero_le _
  early := by
    have hpos := hc.positive
    omega

/-- Frames that are never as far apart as the timeout, up to the next one that comes, are never missed. -/
theorem heard_of_close {next : Duration} (punctual : Punctual x now run)
    (hnext : ∀ m ∈ run, m.1.nanos ≤ next.nanos)
    (close : (⟨0⟩ :: arrivals limit [] run ++ [next]).IsChain
      fun s t => t.nanos < (Duration.ofMillis (s.millis + I)).nanos)
    (hrun : before ++ (t, a) :: later = run) :
    t.nanos < (Duration.ofMillis ((heard limit before).millis + I)).nanos := by
  subst hrun
  obtain ⟨rest, hall⟩ := arrivals_append limit [] before ((t, a) :: later)
  obtain ⟨-, hlater⟩ := punctual.split
  have hafter : ∀ m ∈ (t, a) :: later, t.nanos ≤ m.1.nanos := by
    cases hlater with
    | cons _ _ _ hrest =>
      exact List.forall_mem_cons.2 ⟨Nat.le_refl _, fun m hm => (hrest.le_clock.2 m hm).1⟩
  rw [hall, ← List.cons_append, List.append_assoc, List.isChain_append] at close
  obtain ⟨-, -, hgap⟩ := close
  have hlast : heard limit before ∈ (⟨0⟩ :: arrivals limit [] before).getLast? := by
    rw [List.getLast?_cons]
    exact rfl
  obtain ⟨f, hf, hle⟩ : ∃ f ∈ (arrivals limit rest ((t, a) :: later) ++ [next]).head?,
      t.nanos ≤ f.nanos := by
    cases harrivals : arrivals limit rest ((t, a) :: later) with
    | nil => exact ⟨next, rfl, hnext (t, a) (by simp)⟩
    | cons f fs =>
      obtain ⟨b, hb⟩ := mem_arrivals (harrivals ▸ List.mem_cons_self : f ∈ arrivals limit rest ((t, a) :: later))
      exact ⟨f, rfl, hafter _ hb⟩
  exact Nat.lt_of_le_of_lt hle (hgap _ hlast f hf)

/-- Settings with a period of 20 ms. -/
def briskly : Mux.Config := { keepaliveInterval := .ofMillis 20, idleTimeout := .ofMillis 100 }

/-- A ping of the other side, as it arrives. -/
def pinged : Bytes :=
  (((new 0 "" .server (Session.new ⟨[], []⟩ .server) briskly).step (.call .ping)).nextWire.1).getD []

/-- The other side is heard once, and half a header arrives later. -/
def fading : List (Duration × Act) :=
  looks [0, 20, 40, 60, 80] ++ [(⟨90300000⟩, .bytes pinged)] ++ looks [100, 120, 140] ++
    [(⟨150000000⟩, .bytes [1, 2])] ++ looks [160, 180]

/-- Settings with a period of 10 ms. -/
def hastily : Mux.Config := { keepaliveInterval := .ofMillis 10, idleTimeout := .ofMillis 40 }

/-- The other side is heard shortly before the first millisecond is over. -/
def blinking : List (Duration × Act) :=
  looks [0] ++ [(⟨900000⟩, .bytes pinged)] ++ looks [10, 20, 30]

end Connection

end SealedRelay
