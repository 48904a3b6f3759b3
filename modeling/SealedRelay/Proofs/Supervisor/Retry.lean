import Mathlib.Data.List.Induction
import SealedRelay.Proofs.Supervisor.Switchboard

/-!
# A call is made again once, and only when its connection was lost

A call whose connection is lost asks the pool again. It looks at two things that change apart from each
other: the error of its stream, and whether the connection is closed. And the pool must not give it the
same connection again. What makes this safe is that a closed connection stays closed, that the pool hands
out open connections only, and that it never dials for one that a caller has already come back with.

Results:
* `Acted.openings`: a step queues an opening or none.
* `Sound.step`, `run_sound`: what every move keeps; `Course` says what a call has queued at each stage.
* `second_opening`: when the second opening is queued.
* `retried_once_after_loss`: all of it together, for any run.
-/
namespace SealedRelay

/-- The other relay has refused a stream, or has not confirmed it in time. -/
def LinkError.IsDenial (e : LinkError) : Prop :=
  (∃ id reason, e = .refused id reason) ∨ ∃ after, e = .openTimeout after

theorem LinkError.IsDenial.not_retryable {e : LinkError} (h : e.IsDenial) : e.isRetryable = false := by
  rcases h with ⟨id, reason, rfl⟩ | ⟨after, rfl⟩ <;> rfl

/-! ## The numbers of dials -/

namespace Pool

variable {p p' : Pool} {look : Nat → Vitals} {a : Answer} {n : Nat}

/-- The pool has dialed for all its connections, and does not dial for one that it has. -/
structure Numbered (p : Pool) : Prop where
  known : ∀ n ∈ p.members, n < p.next
  ahead : ∀ n, p.dialing = some n → n < p.next ∧ n ∉ p.members

/-- From one to the other, every dial that has begun is for a new number. -/
structure Onward (p p' : Pool) : Prop where
  next : p.next ≤ p'.next
  dialing : ∀ n < p.next, p'.dialing = some n → p.dialing = some n

theorem Onward.refl (p : Pool) : Onward p p := ⟨Nat.le_refl _, fun _ _ => id⟩

theorem Numbered.pruned (hp : p.Numbered) (look : Nat → Vitals) : (p.pruned look).Numbered where
  known n hn := hp.known n (List.mem_filter.1 hn).1
  ahead n hn := ⟨(hp.ahead n hn).1, fun h => (hp.ahead n hn).2 (List.mem_filter.1 h).1⟩

theorem Told.numbered (t : Told p look a p') (hp : p.Numbered) : p'.Numbered := by
  have hpruned := hp.pruned look
  cases t with
  | closed => exact hp
  | ready | shared | full => exact hpruned
  | dialed =>
    refine ⟨fun n hn => Nat.lt_succ_of_lt (hpruned.known n hn), fun n hn => ?_⟩
    obtain rfl := Option.some.inj hn
    exact ⟨Nat.lt_succ_self _, fun h => Nat.lt_irrefl _ (hpruned.known _ h)⟩

theorem Told.onward (t : Told p look a p') : Onward p p' := by
  cases t with
  | closed | ready | shared | full => exact ⟨Nat.le_refl _, fun _ _ => id⟩
  | dialed =>
    refine ⟨Nat.le_succ _, fun n hn hd => ?_⟩
    obtain rfl := Option.some.inj hd
    exact absurd hn (Nat.lt_irrefl _)

theorem Numbered.joined (hp : p.Numbered) (hn : n < p.next) : (p.joined n).Numbered where
  known k hk := (mem_joined.1 hk).elim (hp.known k) fun h => h.symm ▸ hn
  ahead k hk := by
    obtain ⟨hd, hne⟩ := dialing_joined.1 hk
    exact ⟨(hp.ahead k hd).1, fun h => (mem_joined.1 h).elim (hp.ahead k hd).2 hne⟩

theorem onward_joined (p : Pool) (n : Nat) : Onward p (p.joined n) :=
  ⟨Nat.le_refl _, fun _ _ h => (dialing_joined.1 h).1⟩

theorem Numbered.cleared (hp : p.Numbered) (n : Nat) : (p.cleared n).Numbered where
  known k hk := by simpa using hp.known k (by simpa using hk)
  ahead k hk := by simpa using hp.ahead k (dialing_cleared.1 hk).1

theorem onward_cleared (p : Pool) (n : Nat) : Onward p (p.cleared n) :=
  ⟨Nat.le_of_eq next_cleared.symm, fun _ _ h => (dialing_cleared.1 h).1⟩

theorem Numbered.remove (hp : p.Numbered) (n : Nat) : (p.remove n).Numbered where
  known k hk := hp.known k (List.mem_filter.1 hk).1
  ahead k hk := ⟨(hp.ahead k hk).1, fun h => (hp.ahead k hk).2 (List.mem_filter.1 h).1⟩

end Pool

namespace Switchboard

variable {w w' : Switchboard} {c c' : Call} {deed : Deed} {r : Call × Switchboard} {n k i : Nat}
  {x : Connection} {cfg : Proxy.Config} {stage : Stage} {again : Bool} {opens earlier new : List Nat}

/-! ## What is queued -/

theorem openings_onLink (w : Switchboard) (c : Call) (n : Nat) (x : Connection) (mux : Mux)
    (stage : Stage) :
    (w.onLink c n x mux stage).1.openings = c.openings ++
      ((mux.outbound.drop x.mux.outbound.length).filter (·.kind = .opening)).map (n, ·) := by
  simp only [onLink, Call.openings, List.filter_append, List.filter_map]
  rfl

theorem openings_of_onlyCloses {mux : Mux} (h : x.mux.OnlyCloses mux) :
    (w.onLink c n x mux stage).1.openings = c.openings := by
  obtain ⟨out, hout, hclose⟩ := h
  have hnone : out.filter (·.kind = .opening) = [] :=
    List.filter_eq_nil_iff.2 fun f hf => by simp [hclose f hf]
  rw [openings_onLink, hout, List.drop_left, hnone, List.map_nil, List.append_nil]

/-- A connection that turns a call away at once queues nothing, and does not deny it a stream. -/
theorem refused_cases {d : Destination} {e : LinkError} (h : (x.mux.openStream d).1 = .error e) :
    (x.mux.openStream d).2.outbound = x.mux.outbound ∧ ¬e.IsDenial := by
  rcases x.mux.openStream_outbound d with ⟨_, _, _, hok, -⟩ | ⟨e', he, hsame, hrefused, htimeout⟩
  · cases h.symm.trans hok
  obtain rfl := Except.error.inj (h.symm.trans he)
  refine ⟨hsame, ?_⟩
  rintro (⟨id, reason, rfl⟩ | ⟨after, rfl⟩)
  · exact hrefused id reason rfl
  · exact htimeout after rfl

theorem openings_opened {d : Destination} {h : Mux.Handle} (hx : x.Dialed cfg.mux)
    (ho : (x.mux.openStream d).1 = .ok h) :
    ∃ f, (w.onLink c n x (x.mux.openStream d).2 stage).1.openings = c.openings ++ [(n, f)] := by
  rcases x.mux.openStream_outbound d with ⟨_, id, payload, -, hf, -, hsent⟩ | ⟨_, he, -⟩
  · refine ⟨⟨.opening, id, payload⟩, ?_⟩
    rw [openings_onLink, hsent (hx.sending hf), List.drop_left]
    rfl
  · cases ho.symm.trans he

/-- A step queues an opening if the call asks its connection for a stream, and otherwise none. -/
theorem Acted.openings (a : Acted w c deed r) (hlinks : ∀ n x, w.links n = some x → x.Dialed cfg.mux) :
    r.1.openings = c.openings ∨
      ∃ n again f, deed = .ask ∧ c.stage = .given n again ∧ r.1.openings = c.openings ++ [(n, f)] := by
  cases a with
  | quiet | requested | joined | late | failed | unwanted | settled | retried | unheard =>
    exact .inl rfl
  | opened stage link opened =>
    obtain ⟨f, hf⟩ := openings_opened (hlinks _ _ link) opened
    exact .inr ⟨_, _, f, rfl, stage, hf⟩
  | refused _ _ refused =>
    exact .inl (openings_of_onlyCloses (.of_outbound (refused_cases refused).1))
  | heard _ _ closes => exact .inl (openings_of_onlyCloses closes)

/-! ## What calls rely on -/

/-- From one to the other, connections that were closed still are, and no old number is dialed. -/
structure Later (w w' : Switchboard) : Prop where
  pool : w.supervisor.pool.Onward w'.supervisor.pool
  links : ∀ n x, w.links n = some x →
    ∃ x', w'.links n = some x' ∧ (x.closed = true → x'.closed = true)

theorem Later.refl (w : Switchboard) : Later w w := ⟨.refl _, fun _ x hx => ⟨x, hx, id⟩⟩

theorem Later.of_pool {pool : Pool} (h : w.supervisor.pool.Onward pool) : Later w (w.pooled pool) :=
  ⟨h, fun _ x hx => ⟨x, hx, id⟩⟩

theorem Later.of_link {x' : Connection} (link : w.links n = some x)
    (closed : x.closed = true → x'.closed = true) :
    Later w { w with links := Function.update w.links n (some x') } := by
  refine ⟨.refl _, fun k y hy => ?_⟩
  by_cases hk : k = n
  · subst hk
    obtain rfl := Option.some.inj (link.symm.trans hy)
    exact ⟨x', Function.update_self .., closed⟩
  · exact ⟨y, (Function.update_of_ne hk ..).trans hy, id⟩

/-- A call has been given this connection, and the pool is not dialing for it any more. -/
structure Held (w : Switchboard) (n : Nat) : Prop where
  link : (w.links n).isSome
  begun : n < w.supervisor.pool.next
  landed : w.supervisor.pool.dialing ≠ some n

/-- A call that is at connection or dial `k` has queued openings on these connections before that: none
in its first attempt, and in its second one at most, on another connection, which has been lost. -/
structure Earlier (w : Switchboard) (again : Bool) (k : Nat) (opens : List Nat) : Prop where
  first : again = false → opens = []
  second : again = true → ∃ n x, n ≠ k ∧ w.links n = some x ∧ x.closed = true ∧
    (opens = [] ∨ opens = [n])

/-- At most two openings, on different connections. -/
def Few (opens : List Nat) : Prop := opens.length ≤ 2 ∧ opens.Nodup

/-- The connections on which a call has queued openings, at every stage. -/
inductive Course (w : Switchboard) : Stage → List Nat → Prop where
  | started : Course w .started []
  | waiting {n : Nat} {again : Bool} {opens : List Nat} (begun : n < w.supervisor.pool.next)
      (earlier : w.Earlier again n opens) : Course w (.waiting n again) opens
  | given {n : Nat} {again : Bool} {opens : List Nat} (held : w.Held n)
      (earlier : w.Earlier again n opens) : Course w (.given n again) opens
  | asked {n : Nat} {again : Bool} {h : Mux.Handle} {opens : List Nat} (held : w.Held n)
      (earlier : w.Earlier again n opens) : Course w (.asked n again h) (opens ++ [n])
  /-- A call that was turned away at once has not queued another. -/
  | told {n : Nat} {again : Bool} {r : Except LinkError Unit} {opens new : List Nat} (held : w.Held n)
      (earlier : w.Earlier again n opens)
      (now : new = [n] ∨ new = [] ∧ ∃ e, r = .error e ∧ ¬e.IsDenial) :
      Course w (.told n again r) (opens ++ new)
  | done {result : Except Proxy.Error Nat} {opens : List Nat} (few : Few opens) :
      Course w (.done result) opens
  | gone {opens : List Nat} (few : Few opens) : Course w .gone opens

theorem Earlier.few (h : w.Earlier again k earlier) (hnew : new = [] ∨ new = [k]) :
    Few (earlier ++ new) := by
  cases again with
  | false =>
    rw [h.first rfl]
    rcases hnew with rfl | rfl <;> simp [Few]
  | true =>
    obtain ⟨n, _, hne, -, -, hearlier⟩ := h.second rfl
    rcases hearlier with rfl | rfl <;> rcases hnew with rfl | rfl <;> simp [Few, hne]

theorem Course.few (h : w.Course stage opens) : Few opens := by
  cases h with
  | started => simp [Few]
  | waiting _ earlier | given _ earlier => simpa using earlier.few (.inl rfl)
  | asked _ earlier => exact earlier.few (.inr rfl)
  | told _ earlier now => exact earlier.few (now.symm.imp_left And.left)
  | done few | gone few => exact few

theorem Held.later (h : w.Held n) (l : Later w w') : w'.Held n where
  link := by
    obtain ⟨x, hx⟩ := Option.isSome_iff_exists.1 h.link
    obtain ⟨x', hx', -⟩ := l.links n x hx
    rw [hx']
    rfl
  begun := Nat.lt_of_lt_of_le h.begun l.pool.next
  landed hd := h.landed (l.pool.dialing n h.begun hd)

theorem Earlier.later (h : w.Earlier again k opens) (l : Later w w') : w'.Earlier again k opens where
  first := h.first
  second ha := by
    obtain ⟨n, x, hne, hx, hclosed, hopens⟩ := h.second ha
    obtain ⟨x', hx', hclosed'⟩ := l.links n x hx
    exact ⟨n, x', hne, hx', hclosed' hclosed, hopens⟩

/-- Whatever else happens, what is known of a call stays true. -/
theorem Course.later (h : w.Course stage opens) (l : Later w w') : w'.Course stage opens := by
  cases h with
  | started => exact .started
  | waiting begun earlier => exact .waiting (Nat.lt_of_lt_of_le begun l.pool.next) (earlier.later l)
  | given held earlier => exact .given (held.later l) (earlier.later l)
  | asked held earlier => exact .asked (held.later l) (earlier.later l)
  | told held earlier now => exact .told (held.later l) (earlier.later l) now
  | done few => exact .done few
  | gone few => exact .gone few

/-- A call that comes back from a dial is at a connection for which the pool does not dial any more. -/
theorem Course.land (h : w.Course (.waiting n again) opens) (link : w.links n = some x)
    (l : Later w w') (landed : w'.supervisor.pool.dialing ≠ some n) :
    w'.Course (.given n again) opens := by
  cases h with
  | waiting begun earlier =>
    obtain ⟨x', hx', -⟩ := l.links n x link
    exact .given ⟨by rw [hx']; rfl, Nat.lt_of_lt_of_le begun l.pool.next, landed⟩ (earlier.later l)

/-! ## What is kept -/

structure Sound (cfg : Proxy.Config) (w : Switchboard) : Prop where
  config : w.config = cfg
  pool : w.supervisor.pool.Numbered
  dialed : ∀ n x, w.links n = some x → x.Dialed cfg.mux
  courses : ∀ c ∈ w.calls, w.Course c.stage c.openedOn

theorem sound_start (cfg : Proxy.Config) (key : MasterKey) : (start cfg key).Sound cfg where
  config := rfl
  pool := ⟨by simp [start, Supervisor.fresh], by simp [start, Supervisor.fresh]⟩
  dialed _ _ hx := by simp [start] at hx
  courses := by simp [start]

theorem look_of_link (h : w.links n = some x) : (w.look n).closed = x.closed := by
  rw [look, Lobby.look_of_link h]
  rfl

theorem exists_link_of_look (h : (w.look n).closed = false) : ∃ x, w.links n = some x := by
  cases hl : w.links n with
  | some x => exact ⟨x, rfl⟩
  | none => simp [look, Lobby.look, lobby, hl, Pool.noConnections] at h

/-- After the pool's answer a call is at a connection that is open, or at a dial. -/
theorem Sound.told (hw : w.Sound cfg) {answer : Pool.Answer} {pool : Pool}
    (told : w.supervisor.pool.Told w.look answer pool) (few : Few opens)
    (earlier : ∀ k, (w.look k).closed = false ∨ w.supervisor.pool.dialing = some k ∨
      k = w.supervisor.pool.next → w.Earlier again k opens) :
    (w.pooled pool).Course (stageOf again answer) opens := by
  have later := Later.of_pool told.onward
  have hnumbered := hw.pool
  cases told with
  | closed | full => exact .done few
  | @ready k going mem room =>
    obtain ⟨hmem, hopen⟩ := List.mem_filter.1 mem
    have hopen : (w.look k).closed = false := by simpa using hopen
    obtain ⟨x, hx⟩ := exists_link_of_look hopen
    have held : w.Held k := by
      refine ⟨by rw [hx]; rfl, hnumbered.known k hmem, fun hd => ?_⟩
      exact (hnumbered.ahead k hd).2 hmem
    exact .given (held.later later) ((earlier k (.inl hopen)).later later)
  | @shared k going full dialing =>
    exact .waiting (hnumbered.ahead k dialing).1 ((earlier k (.inr (.inl dialing))).later later)
  | dialed =>
    exact .waiting (Nat.lt_succ_self _) ((earlier _ (.inr (.inr rfl))).later later)

theorem Sound.requested (hw : w.Sound cfg) {answer : Pool.Answer} {pool : Pool}
    (told : w.supervisor.pool.Told w.look answer pool) (h : w.Course .started opens) :
    (w.pooled pool).Course (stageOf false answer) opens := by
  have few := h.few
  cases h
  exact hw.told told few fun k _ => ⟨fun _ => rfl, nofun⟩

/-- A call that has lost its connection is not given it again: the pool gives out no connection that is
closed, and dials for new ones only. -/
theorem Sound.retried (hw : w.Sound cfg) {answer : Pool.Answer} {pool : Pool}
    {r : Except LinkError Unit} (told : w.supervisor.pool.Told w.look answer pool)
    (h : w.Course (.told n false r) opens) (lost : (w.look n).closed = true) :
    (w.pooled pool).Course (stageOf true answer) opens := by
  have few := h.few
  cases h with
  | told held earlier now =>
    obtain rfl := earlier.first rfl
    obtain ⟨x, hx⟩ := Option.isSome_iff_exists.1 held.link
    have hclosed : x.closed = true := (look_of_link hx).symm.trans lost
    refine hw.told told few fun k hk => ⟨nofun, fun _ => ⟨n, x, ?_, hx, hclosed, ?_⟩⟩
    · rintro rfl
      rcases hk with hopen | hdialing | hnext
      · cases hopen.symm.trans lost
      · exact held.landed hdialing
      · exact Nat.ne_of_lt held.begun hnext
    · exact now.symm.imp_left And.left

theorem Sound.linked {x' : Connection} (hw : w.Sound cfg) (dialed : x'.Dialed cfg.mux) (k : Nat)
    (y : Connection) (hy : Function.update w.links n (some x') k = some y) : y.Dialed cfg.mux := by
  by_cases hk : k = n
  · subst hk
    rw [Function.update_self] at hy
    exact Option.some.inj hy ▸ dialed
  · rw [Function.update_of_ne hk] at hy
    exact hw.dialed k y hy

namespace Acted

theorem later (a : Acted w c deed r) : Later w r.2 := by
  cases a with
  | quiet | settled | unheard => exact .refl w
  | requested _ told | retried _ _ _ told => exact .of_pool told.onward
  | joined => exact .of_pool (Pool.onward_joined _ _)
  | late | failed => exact .of_pool (Pool.onward_cleared _ _)
  | @unwanted n _ stage =>
    refine ⟨Pool.onward_cleared _ _, fun k x hx => ?_⟩
    by_cases hk : k ∈ [n]
    · refine ⟨x.close, ?_, fun _ => Connection.closed_teardown _ _⟩
      exact (if_pos hk).trans (congrArg (Option.map Connection.close) hx)
    · exact ⟨x, (if_neg hk).trans hx, id⟩
  | opened _ link | refused _ link | heard _ link => exact .of_link link id

/-- A step keeps what is always true of pool and connections. -/
theorem sound (a : Acted w c deed r) (hw : w.Sound cfg) (hc : w.Course c.stage c.openedOn) :
    r.2.supervisor.pool.Numbered ∧ ∀ n x, r.2.links n = some x → x.Dialed cfg.mux := by
  cases a with
  | quiet | settled | unheard => exact ⟨hw.pool, hw.dialed⟩
  | requested _ told | retried _ _ _ told => exact ⟨told.numbered hw.pool, hw.dialed⟩
  | joined stage =>
    rw [stage] at hc
    cases hc with
    | waiting begun => exact ⟨hw.pool.joined begun, hw.dialed⟩
  | late | failed => exact ⟨hw.pool.cleared _, hw.dialed⟩
  | @unwanted n _ stage =>
    refine ⟨hw.pool.cleared n, fun k y hy => ?_⟩
    by_cases hk : k ∈ [n]
    · obtain ⟨x, hx, rfl⟩ := Option.map_eq_some_iff.1 ((if_pos hk).symm.trans hy)
      exact (hw.dialed k x hx).after (.event .close)
    · exact hw.dialed k y ((if_neg hk).symm.trans hy)
  | opened _ link | refused _ link => exact ⟨hw.pool, hw.linked ((hw.dialed _ _ link).openStream _)⟩
  | heard _ link _ dialed => exact ⟨hw.pool, hw.linked (dialed _ (hw.dialed _ _ link))⟩

theorem course (a : Acted w c deed r) (hw : w.Sound cfg) (hc : w.Course c.stage c.openedOn) :
    r.2.Course r.1.stage r.1.openedOn := by
  have hlater := a.later
  have few := hc.few
  -- a step that queues no opening
  have same {s : Stage} (hs : r.2.Course s c.openedOn) (hstage : r.1.stage = s)
      (ho : r.1.openings = c.openings) : r.2.Course r.1.stage r.1.openedOn := by
    rw [hstage, Call.openedOn, ho]
    exact hs
  cases a with
  | quiet => exact hc
  | requested stage told => exact same (hw.requested told (stage ▸ hc)) rfl rfl
  | joined stage link =>
    exact same ((stage ▸ hc).land link hlater fun h => (Pool.dialing_joined.1 h).2 rfl) rfl rfl
  | late stage link =>
    exact same ((stage ▸ hc).land link hlater fun h => (Pool.dialing_cleared.1 h).2 rfl) rfl rfl
  | failed | unwanted | settled => exact same (.done few) rfl rfl
  | unheard => exact same (.gone few) rfl rfl
  | @opened n again x h stage link opened =>
    obtain ⟨f, hf⟩ : ∃ f, (w.onLink c n x (x.mux.openStream c.destination).2
        (.asked n again h)).1.openings = c.openings ++ [(n, f)] :=
      openings_opened (hw.dialed n x link) opened
    rw [Call.openedOn, hf, List.map_append]
    rw [stage] at hc
    cases hc with
    | given held earlier => exact .asked (held.later hlater) (earlier.later hlater)
  | refused stage link refused =>
    obtain ⟨hsame, hdenial⟩ := refused_cases refused
    rw [stage] at hc
    refine same ?_ rfl (openings_of_onlyCloses (.of_outbound hsame))
    cases hc with
    | given held earlier =>
      rw [← List.append_nil c.openedOn]
      exact .told (held.later hlater) (earlier.later hlater) (.inr ⟨rfl, _, rfl, hdenial⟩)
  | heard stage _ closes _ next =>
    rw [stage] at hc
    refine same ?_ rfl (openings_of_onlyCloses closes)
    rcases next with rfl | ⟨r, rfl⟩ | rfl
    · exact hc.later hlater
    · generalize c.openedOn = opens at hc
      cases hc with
      | asked held earlier => exact .told (held.later hlater) (earlier.later hlater) (.inl rfl)
    · exact .gone few
  | retried stage _ lost told => exact same (hw.retried told (stage ▸ hc) lost) rfl rfl

theorem settings (a : Acted w c deed r) : r.2.config = w.config ∧
    r.2.supervisor.shuttingDown = w.supervisor.shuttingDown := by
  cases a <;> exact ⟨rfl, rfl⟩

theorem of_done (a : Acted w c deed r) {result : Except Proxy.Error Nat}
    (h : c.stage = .done result) : r.1 = c := by
  cases a with
  | quiet => rfl
  | requested stage | joined stage | late stage | failed stage | unwanted stage | opened stage
  | refused stage | heard stage | settled stage | retried stage | unheard stage =>
    cases h.symm.trans stage

/-- A call whose first connection has denied it a stream is told so, and does not try again. -/
theorem of_denial (a : Acted w c deed r) {e : LinkError} (h : c.stage = .told n false (.error e))
    (denial : e.IsDenial) : r.1 = c ∨ r.1 = { c with stage := .done (.error (.link e)) } := by
  cases a with
  | quiet => exact .inl rfl
  | settled stage =>
    cases h.symm.trans stage
    exact .inr rfl
  | retried stage retryable =>
    cases h.symm.trans stage
    cases denial.not_retryable.symm.trans retryable
  | requested stage | joined stage | late stage | failed stage | unwanted stage | opened stage
  | refused stage | heard stage | unheard stage => cases h.symm.trans stage

end Acted

/-! ## Moves -/

variable {a : Move} {moves : List Move} {key : MasterKey}

/-- A move adds a call, or one call takes a step, or all are where they were. -/
theorem calls_step (w : Switchboard) (a : Move) :
    (w.step a).calls = w.calls ∨
      (∃ d, a = .call d ∧ (w.step a).calls = w.calls ++ [w.fresh d]) ∨
      ∃ i deed c, a = .own i deed ∧ w.calls[i]? = some c ∧
        (w.step a).calls = w.calls.set i (w.act c deed).1 := by
  cases a with
  | call d => exact .inr (.inl ⟨d, rfl, rfl⟩)
  | own i deed =>
    rw [step]
    split
    · exact .inl rfl
    · rename_i c hc
      exact .inr (.inr ⟨i, deed, c, rfl, hc, rfl⟩)
  | ends n ending =>
    rw [step]
    split
    · split <;> exact .inl rfl
    · exact .inl rfl
  | traffic n mo =>
    rw [step]
    split <;> exact .inl rfl
  | forget n =>
    rw [step]
    split <;> exact .inl rfl
  | closeAll | stop => exact .inl rfl

/-- Every call was there before and has taken a step at most, or it is new. -/
theorem of_getElem?_step (h : (w.step a).calls[i]? = some c') :
    (∃ c, w.calls[i]? = some c ∧ (c' = c ∨ ∃ deed, a = .own i deed ∧ c' = (w.act c deed).1)) ∨
      ∃ d, a = .call d ∧ c' = w.fresh d := by
  rcases w.calls_step a with hsame | ⟨d, rfl, hnew⟩ | ⟨k, deed, c, rfl, hk, hset⟩
  · exact .inl ⟨c', hsame ▸ h, .inl rfl⟩
  · rw [hnew] at h
    rcases of_getElem?_concat h with hold | ⟨-, rfl⟩
    · exact .inl ⟨c', hold, .inl rfl⟩
    · exact .inr ⟨d, rfl, rfl⟩
  · rw [hset] at h
    rcases of_getElem?_set h with hold | ⟨rfl, rfl⟩
    · exact .inl ⟨c', hold, .inl rfl⟩
    · exact .inl ⟨c, hk, .inr ⟨deed, rfl, rfl⟩⟩

/-- A call stays among the calls, and takes a step at most. -/
theorem getElem?_step (h : w.calls[i]? = some c) (a : Move) :
    ∃ c', (w.step a).calls[i]? = some c' ∧
      (c' = c ∨ ∃ deed, a = .own i deed ∧ c' = (w.act c deed).1) := by
  rcases w.calls_step a with hsame | ⟨d, rfl, hnew⟩ | ⟨k, deed, b, rfl, hk, hset⟩
  · exact ⟨c, hsame ▸ h, .inl rfl⟩
  · refine ⟨c, ?_, .inl rfl⟩
    rw [hnew, List.getElem?_append_left (List.getElem?_eq_some_iff.1 h).1, h]
  · rw [hset]
    by_cases hki : k = i
    · subst hki
      obtain rfl := Option.some.inj (h.symm.trans hk)
      exact ⟨_, List.getElem?_set_self (List.getElem?_eq_some_iff.1 h).1, .inr ⟨deed, rfl, rfl⟩⟩
    · exact ⟨c, (List.getElem?_set_ne hki).trans h, .inl rfl⟩

/-- What the calls rely on is there after any change that keeps pool and connections sound. -/
theorem Sound.next (hw : w.Sound cfg) (later : Later w w') (config : w'.config = w.config)
    (pool : w'.supervisor.pool.Numbered) (dialed : ∀ n x, w'.links n = some x → x.Dialed cfg.mux)
    (courses : ∀ c ∈ w'.calls, c ∈ w.calls ∨ w'.Course c.stage c.openedOn) : w'.Sound cfg where
  config := config.trans hw.config
  pool := pool
  dialed := dialed
  courses c hc := (courses c hc).elim (fun h => (hw.courses c h).later later) id

theorem Sound.own (hw : w.Sound cfg) (hi : w.calls[i]? = some c) (deed : Deed) :
    Later w { (w.act c deed).2 with calls := w.calls.set i (w.act c deed).1 } ∧
      Sound cfg { (w.act c deed).2 with calls := w.calls.set i (w.act c deed).1 } := by
  have acted := w.act_acted c deed
  have course := hw.courses c (List.mem_of_getElem? hi)
  obtain ⟨hpool, hdialed⟩ := acted.sound hw course
  have later : Later w { (w.act c deed).2 with calls := w.calls.set i (w.act c deed).1 } :=
    ⟨acted.later.pool, acted.later.links⟩
  refine ⟨later, hw.next later acted.settings.1 hpool hdialed fun b hb => ?_⟩
  refine (List.mem_or_eq_of_mem_set hb).imp_right ?_
  rintro rfl
  exact (acted.course hw course).later ⟨.refl _, fun _ x hx => ⟨x, hx, id⟩⟩

/-- Every move keeps this, and what the calls rely on. -/
theorem Sound.step (hw : w.Sound cfg) (a : Move) : Later w (w.step a) ∧ (w.step a).Sound cfg := by
  have keep {w' : Switchboard} (later : Later w w') (config : w'.config = w.config)
      (pool : w'.supervisor.pool.Numbered) (dialed : ∀ n x, w'.links n = some x → x.Dialed cfg.mux)
      (calls : w'.calls = w.calls) : Later w w' ∧ w'.Sound cfg :=
    ⟨later, hw.next later config pool dialed fun c hc => .inl (calls ▸ hc)⟩
  have still (w' : Switchboard) (links : w'.links = w.links) : ∀ n x, w.links n = some x →
      ∃ x', w'.links n = some x' ∧ (x.closed = true → x'.closed = true) :=
    fun n x hx => ⟨x, (congrFun links n).trans hx, id⟩
  cases a with
  | call d =>
    have later : Later w (w.step (.call d)) := ⟨.refl _, still _ rfl⟩
    refine ⟨later, hw.next later rfl hw.pool hw.dialed fun c hc => ?_⟩
    rw [Switchboard.step, List.mem_append, List.mem_singleton] at hc
    refine hc.imp_right ?_
    rintro rfl
    unfold fresh
    split
    · exact .done ⟨Nat.zero_le _, List.nodup_nil⟩
    · exact .started
  | own i deed =>
    rw [Switchboard.step]
    split
    · exact ⟨.refl w, hw⟩
    · rename_i c hi
      exact hw.own hi deed
  | ends n ending =>
    rw [Switchboard.step]
    split
    · rename_i hfirst
      split
      · exact ⟨.refl w, hw⟩
      · rename_i x hx
        have hnone : w.links n = none := by
          cases hl : w.links n with
          | none => rfl
          | some y => simp [Lobby.result, lobby, hl] at hfirst
        obtain ⟨peer, session, rfl⟩ := Lobby.exists_new_of_dialed hx
        refine keep ⟨.refl _, fun k y hy => ?_⟩ rfl hw.pool (hw.linked ?_) rfl
        · have hk : k ≠ n := by
            rintro rfl
            cases hnone.symm.trans hy
          exact ⟨y, (Function.update_of_ne hk ..).trans hy, id⟩
        · rw [show w.lobby.config = cfg from hw.config]
          exact .new n peer session cfg.mux
      · exact keep ⟨.refl _, still _ rfl⟩ rfl hw.pool hw.dialed rfl
    · exact ⟨.refl w, hw⟩
  | traffic n mo =>
    rw [Switchboard.step]
    split
    · exact ⟨.refl w, hw⟩
    · rename_i x hx
      exact keep (.of_link hx fun h => Connection.closed_after h mo) rfl hw.pool
        (hw.linked ((hw.dialed n x hx).after mo)) rfl
  | forget n =>
    rw [Switchboard.step]
    split
    · exact keep ⟨⟨Nat.le_refl _, fun _ _ => id⟩, still _ rfl⟩ rfl (hw.pool.remove n) hw.dialed rfl
    · exact ⟨.refl w, hw⟩
  | closeAll =>
    refine keep ⟨⟨Nat.le_refl _, fun _ _ h => ?_⟩, still _ rfl⟩ rfl ?_ hw.dialed rfl
    · cases h
    · exact ⟨fun _ hn => absurd hn List.not_mem_nil, fun _ h => by cases h⟩
  | stop => exact keep ⟨.refl _, still _ rfl⟩ rfl hw.pool hw.dialed rfl

theorem run_concat (w : Switchboard) (moves : List Move) (a : Move) :
    w.run (moves ++ [a]) = (w.run moves).step a := List.foldl_append

theorem run_sound (cfg : Proxy.Config) (key : MasterKey) (moves : List Move) :
    ((start cfg key).run moves).Sound cfg := by
  induction moves using List.reverseRecOn with
  | nil => exact sound_start cfg key
  | append_singleton moves a ih =>
    rw [run_concat]
    exact (ih.step a).2

/-! ## Openings -/

/-- The connection or dial at which a call is, and whether this is its second attempt. -/
def Stage.place : Stage → Option (Nat × Bool)
  | .waiting n again | .given n again | .asked n again _ | .told n again _ => some (n, again)
  | .started | .done _ | .gone => none

/-- A second attempt is made on another connection, and the first one was lost. -/
theorem Course.second (h : w.Course stage opens) (hk : stage.place = some (k, true)) :
    ∃ n x, n ≠ k ∧ w.links n = some x ∧ x.closed = true ∧ ∀ j ∈ opens, j = n ∨ j = k := by
  have lost {k : Nat} {opens new : List Nat} (earlier : w.Earlier true k opens)
      (hnew : ∀ j ∈ new, j = k) :
      ∃ n x, n ≠ k ∧ w.links n = some x ∧ x.closed = true ∧ ∀ j ∈ opens ++ new, j = n ∨ j = k := by
    obtain ⟨n, x, hne, hx, hclosed, hopens⟩ := earlier.second rfl
    refine ⟨n, x, hne, hx, hclosed, fun j hj => (List.mem_append.1 hj).imp (fun h => ?_) (hnew j)⟩
    rcases hopens with rfl | rfl
    · cases h
    · exact List.mem_singleton.1 h
  cases h with
  | started | done | gone => cases hk
  | waiting _ earlier | given _ earlier =>
    cases hk
    simpa using lost earlier (List.forall_mem_nil _)
  | asked _ earlier =>
    cases hk
    exact lost earlier (by simp)
  | told _ earlier now =>
    cases hk
    refine lost earlier fun j hj => ?_
    rcases now with rfl | ⟨rfl, -⟩
    · exact List.mem_singleton.1 hj
    · cases hj

/-- The second opening of a call is queued when the connection of the first is closed, on another one. -/
theorem second_opening {call : Call} {first second : Nat × Frame}
    (hi : ((start cfg key).run moves).calls[i]? = some call)
    (hopenings : call.openings = [first, second]) :
    ∃ before after earlier x later, moves = before ++ .own i .ask :: after ∧
      let v := (start cfg key).run before
      v.calls[i]? = some earlier ∧ earlier.openings = [first] ∧
        v.links first.1 = some x ∧ x.closed = true ∧
        (v.step (.own i .ask)).calls[i]? = some later ∧ later.openings = [first, second] := by
  induction moves using List.reverseRecOn generalizing call with
  | nil => simp [run, start] at hi
  | append_singleton moves a ih =>
    rw [run_concat] at hi
    have hw := run_sound cfg key moves
    rcases of_getElem?_step hi with ⟨c, hc, rfl | ⟨deed, rfl, rfl⟩⟩ | ⟨d, -, rfl⟩
    · -- the second opening was there before the last move
      obtain ⟨u, v, earlier, x, later, rfl, rest⟩ := ih hc hopenings
      exact ⟨u, v ++ [a], earlier, x, later, by simp, rest⟩
    · rcases (act_acted _ c deed).openings hw.dialed with
        hsame | ⟨n, again, f, rfl, hstage, hnew⟩
      · obtain ⟨u, v, earlier, x, later, rfl, rest⟩ := ih hc (hsame.symm.trans hopenings)
        exact ⟨u, v ++ [.own i deed], earlier, x, later, by simp, rest⟩
      · obtain ⟨hfirst, -⟩ : c.openings = [first] ∧ [(n, f)] = [second] :=
          List.append_inj' (hnew.symm.trans hopenings) rfl
        have hcourse := hw.courses c (List.mem_of_getElem? hc)
        rw [hstage, Call.openedOn, hfirst] at hcourse
        cases hcourse with
        | given held earlier =>
          cases again with
          | false => cases earlier.first rfl
          | true =>
            obtain ⟨k, x, -, hx, hclosed, hopens⟩ := earlier.second rfl
            obtain rfl : first.1 = k := by simpa using hopens
            exact ⟨moves, [], c, x, _, rfl, hc, hfirst, hx, hclosed, hi, hopenings⟩
    · cases hopenings

/-! ## Calls that do not go on -/

theorem run_done {result : Except Proxy.Error Nat} (hi : w.calls[i]? = some c)
    (h : c.stage = .done result) (moves : List Move) : (w.run moves).calls[i]? = some c := by
  induction moves using List.reverseRecOn with
  | nil => exact hi
  | append_singleton moves a ih =>
    rw [run_concat]
    obtain ⟨c', hc', rfl | ⟨deed, -, rfl⟩⟩ := getElem?_step ih a
    · exact hc'
    · rwa [(act_acted _ c deed).of_done h] at hc'

/-- A call whose first connection has denied it a stream queues nothing more and fails with that. -/
theorem run_denied {e : LinkError} (hi : w.calls[i]? = some c) (h : c.stage = .told n false (.error e))
    (denial : e.IsDenial) (moves : List Move) :
    ∃ c', (w.run moves).calls[i]? = some c' ∧
      (c' = c ∨ c' = { c with stage := .done (.error (.link e)) }) := by
  induction moves using List.reverseRecOn with
  | nil => exact ⟨c, hi, .inl rfl⟩
  | append_singleton moves a ih =>
    rw [run_concat]
    obtain ⟨c₁, hc₁, hwas⟩ := ih
    obtain ⟨c', hc', rfl | ⟨deed, -, rfl⟩⟩ := getElem?_step hc₁ a
    · exact ⟨c', hc', hwas⟩
    · refine ⟨_, hc', ?_⟩
      rcases hwas with rfl | rfl
      · exact (act_acted _ c₁ deed).of_denial h denial
      · exact .inr ((act_acted _ _ deed).of_done rfl)

theorem shuttingDown_step (h : w.supervisor.shuttingDown = true) (a : Move) :
    (w.step a).supervisor.shuttingDown = true := by
  cases a with
  | call | stop => first | exact h | rfl
  | closeAll => exact h
  | own i deed =>
    rw [step]
    split
    · exact h
    · rename_i c hc
      exact (w.act_acted c deed).settings.2.trans h
  | ends n ending =>
    rw [step]
    split
    · split <;> exact h
    · exact h
  | traffic n mo =>
    rw [step]
    split <;> exact h
  | forget n =>
    rw [step]
    split <;> exact h

theorem shuttingDown_run (hstop : .stop ∈ moves ∨ w.supervisor.shuttingDown = true) :
    (w.run moves).supervisor.shuttingDown = true := by
  induction moves generalizing w with
  | nil => exact hstop.resolve_left List.not_mem_nil
  | cons a moves ih =>
    refine ih ?_
    rcases hstop with hstop | h
    · rcases List.mem_cons.1 hstop with rfl | hstop
      · exact .inr rfl
      · exact .inl hstop
    · exact .inr (shuttingDown_step h a)

/-- **Made again once, and only after a loss.** Whatever calls, connections, dials and the shutdown do at
the same time, a call queues two openings at most. The second is queued on another connection than the
first, and when it is queued the connection of the first is closed. In general, a call that is at its
second connection, or waits for it, has lost another one, and has queued its openings on these two only.
A call whose first connection has denied it a stream, or has not confirmed it in time, has queued exactly
one opening, queues no other one, and fails with that error. A call that starts when the shutdown has
begun has failed at once and queues nothing. -/
theorem retried_once_after_loss (cfg : Proxy.Config) (key : MasterKey) (moves : List Move) :
    let w := (start cfg key).run moves
    (∀ i call, w.calls[i]? = some call →
      call.openings.length ≤ 2 ∧
      (∀ first second, call.openings = [first, second] → first.1 ≠ second.1 ∧
        ∃ before after earlier x later, moves = before ++ .own i .ask :: after ∧
          let v := (start cfg key).run before
          v.calls[i]? = some earlier ∧ earlier.openings = [first] ∧
            v.links first.1 = some x ∧ x.closed = true ∧
            (v.step (.own i .ask)).calls[i]? = some later ∧ later.openings = [first, second]) ∧
      (∀ k, call.stage.place = some (k, true) →
        ∃ n x, n ≠ k ∧ w.links n = some x ∧ x.closed = true ∧
          ∀ o ∈ call.openings, o.1 = n ∨ o.1 = k) ∧
      ∀ n e, call.stage = .told n false (.error e) → e.IsDenial →
        (∃ f, call.openings = [(n, f)]) ∧
        ∀ later, ∃ call', (w.run later).calls[i]? = some call' ∧ call'.openings = call.openings ∧
          (call'.stage = .told n false (.error e) ∨ call'.stage = .done (.error (.link e)))) ∧
    (.stop ∈ moves → ∀ d later, (w.run (.call d :: later)).calls[w.calls.length]? =
      some ⟨d, .done (.error .shuttingDown), []⟩) := by
  intro w
  have hw := run_sound cfg key moves
  refine ⟨fun i call hi => ?_, fun hstop d later => ?_⟩
  · have course := hw.courses call (List.mem_of_getElem? hi)
    have few := course.few
    refine ⟨?_, fun first second ho => ⟨?_, second_opening hi ho⟩, fun k hk => ?_,
      fun n e hstage denial => ⟨?_, fun later => ?_⟩⟩
    · simpa [Call.openedOn] using few.1
    · have hnodup := few.2
      rw [Call.openedOn, ho] at hnodup
      simpa using hnodup
    · obtain ⟨n, x, hne, hx, hclosed, hall⟩ := course.second hk
      exact ⟨n, x, hne, hx, hclosed, fun o ho => hall o.1 (List.mem_map_of_mem ho)⟩
    · rw [hstage] at course
      generalize hopens : call.openedOn = opens at course
      cases course with
      | told held earlier now =>
        obtain rfl := earlier.first rfl
        rcases now with rfl | ⟨-, e', he, hother⟩
        · obtain ⟨⟨k, f⟩, ho, rfl⟩ := List.map_eq_singleton_iff.1 hopens
          exact ⟨f, ho⟩
        · cases he
          exact absurd denial hother
    · obtain ⟨call', hi', rfl | rfl⟩ := run_denied hi hstage denial later
      · exact ⟨call', hi', rfl, .inl hstage⟩
      · exact ⟨_, hi', rfl, .inr rfl⟩
  · have hshut : w.supervisor.shuttingDown = true := shuttingDown_run (.inl hstop)
    have hfresh : w.fresh d = ⟨d, .done (.error .shuttingDown), []⟩ := by
      simp [fresh, Supervisor.barred, hshut]
    have hlast : (w.step (.call d)).calls[w.calls.length]? = some (w.fresh d) :=
      List.getElem?_concat_length
    exact run_done (hfresh ▸ hlast) rfl later

def idle : Switchboard :=
  let link (n : Nat) : Connection := .new n "relay" .client (Session.new ⟨[], []⟩ .client) {}
  { start { secret := ⟨[1]⟩ } ⟨[], []⟩ with
    supervisor :=
      { pool := { remote := "", limit := 2, members := [1, 2], next := 3 }, maxStreams := 8 }
    links := fun n => if n = 1 ∨ n = 2 then some (link n) else none }

/-- The connection of a call is closed while it waits. -/
example :
    (idle.run [.call (.domain "a.test" 80), .own 0 .request, .own 0 .ask,
      .traffic 1 (.event .close), .own 0 (.hear false), .own 0 .settle,
      .own 0 .ask]).calls.map Call.openedOn = [[1, 2]] := by
  decide +kernel

end Switchboard

end SealedRelay
