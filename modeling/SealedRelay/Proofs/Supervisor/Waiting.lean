import Mathlib.Data.List.Induction
import SealedRelay.Proofs.Supervisor.Lobby

/-!
# What a pool keeps while callers wait

Callers of an old dial may go on when the pool has lost the connection, has begun another dial or was
closed. What makes this harmless is that the pool, unless it was closed, knows of every dial that has
not ended, and that an open connection is either in the pool or brought there by the caller that was
looking when its dial ended.

Results:
* `Sound.step`, `run_sound`: what every move keeps.
* `Sound.given`, `Sound.turned_away`: what a call is told at once.
* `Shut.moved`, `run_shut`: what stays true once the pool was closed.
* `pool_kept`: the pool at any time of any run.
-/
namespace SealedRelay.Lobby

variable {w w' w₀ : Lobby} {a : Move} {n k i : Nat} {x : Connection} {c : Proxy.Config}
  {s old : Stage}

/-! ## What is kept -/

def Begun (w : Lobby) (n : Nat) : Prop := 0 < n ∧ n < w.pool.next

/-- A dial that was begun and has not ended. -/
def Flying (w : Lobby) (n : Nat) : Prop := w.Begun n ∧ w.result n = none

structure Sound (c : Proxy.Config) (w : Lobby) : Prop where
  config : w.config = c
  limited : ∀ n x, w.links n = some x → x.mux.Limited c.mux
  pool : w.pool.Sound
  limit : w.pool.limit = c.maxConnections
  linked : ∀ n ∈ w.pool.members, (w.links n).isSome
  dialing : ∀ n, w.pool.dialing = some n → w.Begun n
  begun : ∀ s ∈ w.callers, ∀ n, s.Awaits n → w.Begun n
  ended : ∀ n, (w.result n).isSome → w.Begun n
  positive : 0 < w.pool.next
  /-- The pool knows of the dial that has not ended, unless it was closed. -/
  known : w.pool.closed = false → ∀ n, w.Flying n → w.pool.dialing = some n
  single : ∀ n k, w.Flying n → w.Flying k → n = k
  /-- An open connection is in the pool or on its way to it, unless the pool was closed. -/
  held : w.pool.closed = false → ∀ n x, w.links n = some x → x.closed = false →
    n ∈ w.pool.members ∨ w.pool.dialing = some n
  /-- An open connection is in the pool or somebody brings it there. -/
  brought : ∀ n x, w.links n = some x → x.closed = false →
    n ∈ w.pool.members ∨ .landed n ∈ w.callers
  empty : w.pool.closed = true → w.pool.members = []
  failures : ∀ n e, w.failures n = some e → ∀ text, e ≠ .unavailable text

theorem mem_set_of_mem {α : Type} {xs : List α} {old new y : α} (h : xs[i]? = some old)
    (hy : y ∈ xs) (hne : y ≠ old) : y ∈ xs.set i new := by
  obtain ⟨k, hk⟩ := List.getElem?_of_mem hy
  have hki : i ≠ k := by
    rintro rfl
    exact hne (Option.some.inj (hk.symm.trans h))
  exact List.mem_of_getElem? ((List.getElem?_set_ne hki).trans hk)

theorem mem_set_self (caller : w.callers[i]? = some old) : s ∈ w.callers.set i s :=
  List.mem_of_getElem? (List.getElem?_set_self (List.getElem?_eq_some_iff.1 caller).1)

theorem not_begun_start (c : Proxy.Config) (key : MasterKey) (n : Nat) : ¬(start c key).Begun n := by
  rintro ⟨hpos, hlt⟩
  exact Nat.not_lt_of_le hpos hlt

theorem sound_start (c : Proxy.Config) (key : MasterKey) : (start c key).Sound c where
  config := rfl
  limited _ _ hx := by simp [start] at hx
  pool := ⟨List.nodup_nil, Nat.zero_le _, by simp [start], by simp [start]⟩
  limit := rfl
  linked := by simp [start]
  dialing := by simp [start]
  begun := by simp [start]
  ended n hn := by simp [result, start] at hn
  positive := Nat.one_pos
  known _ n hn := absurd hn.1 (not_begun_start c key n)
  single n _ hn := absurd hn.1 (not_begun_start c key n)
  held _ _ _ hx := by simp [start] at hx
  brought _ _ hx := by simp [start] at hx
  empty h := by simp [start] at h
  failures _ _ he := by simp [start] at he

namespace Sound

/-! ### Callers -/

theorem append (hw : w.Sound c) (hs : ∀ n, s.Awaits n → w.Begun n) :
    Sound c { w with callers := w.callers ++ [s] } :=
  { hw with
    begun := by
      intro t ht
      rcases List.mem_append.1 ht with ht | ht
      · exact hw.begun t ht
      · obtain rfl := List.mem_singleton.1 ht
        exact hs
    brought := fun n x hx hopen =>
      (hw.brought n x hx hopen).imp_right (List.mem_append_left _) }

/-- A caller that brings an open connection may go on once that is in the pool. -/
theorem set (hw : w.Sound c) (caller : w.callers[i]? = some old)
    (hold : ∀ n x, old = .landed n → w.links n = some x → x.closed = false → n ∈ w.pool.members)
    (hs : ∀ n, s.Awaits n → w.Begun n) : Sound c { w with callers := w.callers.set i s } :=
  { hw with
    begun := by
      intro t ht
      rcases List.mem_or_eq_of_mem_set ht with ht | rfl
      · exact hw.begun t ht
      · exact hs
    brought := fun n x hx hopen => by
      rcases hw.brought n x hx hopen with hn | hn
      · exact .inl hn
      · by_cases hne : Stage.landed n = old
        · exact .inl (hold n x hne.symm hx hopen)
        · exact .inr (mem_set_of_mem caller hn hne) }

/-! ### The pool -/

/-- The pool changes its connections, or no longer knows of a dial that has ended. -/
theorem repooled (hw : w.Sound c) {pool : Pool} (sound : pool.Sound)
    (next : pool.next = w.pool.next) (limit : pool.limit = w.pool.limit)
    (closed : pool.closed = w.pool.closed) (linked : ∀ n ∈ pool.members, (w.links n).isSome)
    (old : ∀ n, pool.dialing = some n → w.pool.dialing = some n)
    (stays : ∀ n x, w.links n = some x → x.closed = false → n ∈ w.pool.members → n ∈ pool.members)
    (dialing : ∀ n, w.pool.dialing = some n → pool.dialing = some n ∨
      (w.result n).isSome ∧ ∀ x, w.links n = some x → x.closed = false → n ∈ pool.members)
    (empty : w.pool.closed = true → pool.members = []) : Sound c { w with pool } :=
  have hbegun (n : Nat) (h : w.Begun n) : Begun { w with pool } n := ⟨h.1, next.symm ▸ h.2⟩
  have hflying (n : Nat) (h : Flying { w with pool } n) : w.Flying n :=
    ⟨⟨h.1.1, next ▸ h.1.2⟩, h.2⟩
  { config := hw.config
    limited := hw.limited
    pool := sound
    limit := limit.trans hw.limit
    linked := linked
    dialing := fun n hn => hbegun n (hw.dialing n (old n hn))
    begun := fun s hs n ha => hbegun n (hw.begun s hs n ha)
    ended := fun n hn => hbegun n (hw.ended n hn)
    positive := next.symm ▸ hw.positive
    known := fun hc n hn => by
      have hf := hflying n hn
      refine (dialing n (hw.known (closed ▸ hc) n hf)).resolve_right fun h => ?_
      simp [hf.2] at h
    single := fun n k hn hk => hw.single n k (hflying n hn) (hflying k hk)
    held := fun hc n x hx hopen => by
      rcases hw.held (closed ▸ hc) n x hx hopen with hn | hn
      · exact .inl (stays n x hx hopen hn)
      · exact (dialing n hn).elim .inr fun h => .inl (h.2 x hx hopen)
    brought := fun n x hx hopen => (hw.brought n x hx hopen).imp_left (stays n x hx hopen)
    empty := fun hc => empty (closed ▸ hc)
    failures := hw.failures }

theorem pruned (hw : w.Sound c) : Sound c { w with pool := w.pool.pruned w.look } := by
  refine hw.repooled (hw.pool.pruned w.look) rfl rfl rfl
    (fun n hn => hw.linked n (List.mem_filter.1 hn).1) (fun _ => id) (fun n x hx hopen hn => ?_)
    (fun _ => .inl) fun hc => ?_
  · refine List.mem_filter.2 ⟨hn, ?_⟩
    rw [look_of_link hx]
    simpa [vitals] using hopen
  · rw [Pool.pruned, Pool.healthy, hw.empty hc, List.filter_nil]

theorem joined (hw : w.Sound c) (going : w.pool.closed = false) (link : w.links n = some x)
    (opens : x.closed = false) : Sound c { w with pool := w.pool.joined n } := by
  refine hw.repooled (hw.pool.joined (hw.held going n x link opens)) rfl rfl rfl (fun k hk => ?_)
    (fun k hk => (Pool.dialing_joined.1 hk).1) (fun k _ _ _ hk => Pool.mem_joined.2 (.inl hk))
    (fun k hk => ?_) fun hc => ?_
  · rcases Pool.mem_joined.1 hk with hk | rfl
    · exact hw.linked k hk
    · simp [link]
  · by_cases hne : k = n
    · subst hne
      exact .inr ⟨by simp [result, link], fun _ _ _ => Pool.mem_joined.2 (.inr rfl)⟩
    · exact .inl (Pool.dialing_joined.2 ⟨hk, hne⟩)
  · simp [going] at hc

theorem cleared (hw : w.Sound c) (ended : (w.result n).isSome)
    (lost : ∀ x, w.links n = some x → x.closed = true) :
    Sound c { w with pool := w.pool.cleared n } := by
  refine hw.repooled (hw.pool.cleared n) (by simp) (by simp) (by simp) (fun k hk => ?_)
    (fun k hk => (Pool.dialing_cleared.1 hk).1) (fun k _ _ _ hk => by simpa using hk)
    (fun k hk => ?_) fun hc => ?_
  · exact hw.linked k (by simpa using hk)
  · by_cases hne : k = n
    · subst hne
      exact .inr ⟨ended, fun x hx hopen => by simp [lost x hx] at hopen⟩
    · exact .inl (Pool.dialing_cleared.2 ⟨hk, hne⟩)
  · rw [Pool.members_cleared, hw.empty hc]

theorem removed (hw : w.Sound c) (closed : (w.look n).closed = true) :
    Sound c { w with pool := w.pool.remove n } := by
  refine hw.repooled (hw.pool.remove n) rfl rfl rfl
    (fun k hk => hw.linked k (List.mem_filter.1 hk).1) (fun _ => id) (fun k x hx hopen hk => ?_)
    (fun _ => .inl) fun hc => ?_
  · refine List.mem_filter.2 ⟨hk, decide_eq_true ?_⟩
    rintro rfl
    rw [look_of_link hx] at closed
    exact Bool.noConfusion (hopen.symm.trans closed)
  · rw [Pool.remove, hw.empty hc, List.filter_nil]

theorem dials (hw : w.Sound c) {pool : Pool} (sound : pool.Sound)
    (dials : pool = { w.pool with dialing := some w.pool.next, next := w.pool.next + 1 })
    (going : w.pool.closed = false) (idle : w.pool.dialing = none) : Sound c { w with pool } := by
  subst dials
  have hbegun (n : Nat) (h : w.Begun n) : 0 < n ∧ n < w.pool.next + 1 :=
    ⟨h.1, Nat.lt_succ_of_lt h.2⟩
  -- before, no dial was going on
  have hflying (n : Nat) (h : 0 < n ∧ n < w.pool.next + 1) (hnone : w.result n = none) :
      n = w.pool.next := by
    by_contra hne
    have hknown := hw.known going n ⟨⟨h.1, by omega⟩, hnone⟩
    simp [idle] at hknown
  exact
    { hw with
      pool := sound
      dialing := fun n hn => by
        obtain rfl := Option.some.inj hn
        exact ⟨hw.positive, Nat.lt_succ_self _⟩
      begun := fun s hs n ha => hbegun n (hw.begun s hs n ha)
      ended := fun n hn => hbegun n (hw.ended n hn)
      positive := Nat.succ_pos _
      known := fun _ n hn => congrArg some (hflying n hn.1 hn.2).symm
      single := fun n k hn hk => (hflying n hn.1 hn.2).trans (hflying k hk.1 hk.2).symm
      held := fun _ n x hx hopen =>
        (hw.held going n x hx hopen).imp_right fun hd => by simp [idle] at hd }

theorem asked (hw : w.Sound c) {answer : Pool.Answer} {pool : Pool}
    (told : w.pool.Told w.look answer pool) :
    Sound c { w with pool, callers := w.callers ++ [stageOf answer] } := by
  have sound := told.sound hw.pool
  have done {w : Lobby} (hw : w.Sound c) (r : Except LinkError Nat) :
      Sound c { w with callers := w.callers ++ [.done r] } :=
    hw.append fun n ha => absurd ha (Stage.not_awaits_done r n)
  have waits {w : Lobby} (hw : w.Sound c) {n : Nat} (hn : w.pool.dialing = some n) :
      Sound c { w with callers := w.callers ++ [.waiting n] } := by
    refine hw.append fun k ha => ?_
    obtain rfl : n = k := by simpa [Stage.Awaits] using ha
    exact hw.dialing n hn
  cases told with
  | closed => exact done hw _
  | ready => exact done hw.pruned _
  | full => exact done hw.pruned _
  | shared _ _ dialing => exact waits hw.pruned dialing
  | dialed going _ idle => exact waits (hw.pruned.dials sound rfl going idle) rfl

/-! ### Connections -/

/-- Connections change, and those that have closed stay closed. -/
theorem relinked (hw : w.Sound c) {links : Nat → Option Connection}
    (same : ∀ n, w.links n = none → links n = none)
    (next : ∀ n x, w.links n = some x → ∃ x', links n = some x' ∧ x'.mux.Limited c.mux ∧
      (x'.closed = false → x.closed = false)) : Sound c { w with links } := by
  have back (n : Nat) (x' : Connection) (hx' : links n = some x') :
      ∃ x, w.links n = some x ∧ x'.mux.Limited c.mux ∧ (x'.closed = false → x.closed = false) := by
    cases hx : w.links n with
    | none => simp [same n hx] at hx'
    | some x =>
      obtain ⟨y, hy, hlimited, hclosed⟩ := next n x hx
      obtain rfl := Option.some.inj (hx'.symm.trans hy)
      exact ⟨x, rfl, hlimited, hclosed⟩
  have hresult (n : Nat) : result { w with links } n = w.result n := by
    unfold result
    cases hx : w.links n with
    | none => simp [same n hx]
    | some x =>
      obtain ⟨y, hy, -⟩ := next n x hx
      simp [hy]
  have hflying (n : Nat) (h : Flying { w with links } n) : w.Flying n :=
    ⟨h.1, (hresult n).symm.trans h.2⟩
  exact
    { hw with
      limited := fun n x hx => (back n x hx).choose_spec.2.1
      linked := fun n hn => by
        obtain ⟨x, hx⟩ := Option.isSome_iff_exists.1 (hw.linked n hn)
        obtain ⟨y, hy, -⟩ := next n x hx
        exact Option.isSome_iff_exists.2 ⟨y, hy⟩
      ended := fun n hn => hw.ended n (hresult n ▸ hn)
      known := fun hc n hn => hw.known hc n (hflying n hn)
      single := fun n k hn hk => hw.single n k (hflying n hn) (hflying k hk)
      held := fun hc n x' hx' hopen => by
        obtain ⟨x, hx, -, hclosed⟩ := back n x' hx'
        exact hw.held hc n x hx (hclosed hopen)
      brought := fun n x' hx' hopen => by
        obtain ⟨x, hx, -, hclosed⟩ := back n x' hx'
        exact hw.brought n x hx (hclosed hopen) }

theorem traffic (hw : w.Sound c) (link : w.links n = some x) (e : Connection.Event) :
    Sound c { w with links := Function.update w.links n (some (x.step e)) } := by
  refine hw.relinked (fun k hk => ?_) fun k y hy => ?_
  · have hne : k ≠ n := by
      rintro rfl
      simp [link] at hk
    rwa [Function.update_of_ne hne]
  · by_cases hne : k = n
    · subst hne
      obtain rfl := Option.some.inj (link.symm.trans hy)
      refine ⟨x.step e, Function.update_self .., Connection.limited_step (hw.limited k x link) e, ?_⟩
      intro hopen
      cases hclosed : x.closed with
      | false => rfl
      | true => simp [Connection.closed_step hclosed e] at hopen
    · exact ⟨y, by rwa [Function.update_of_ne hne], hw.limited k y hy, id⟩

theorem hangUp (hw : w.Sound c) (ns : List Nat) : (w.hangUp ns).Sound c := by
  refine hw.relinked (fun n hn => by simp [hn]) fun n x hx => ?_
  by_cases hmem : n ∈ ns
  · refine ⟨x.close, by simp [hmem, hx], Connection.limited_teardown (hw.limited n x hx) _, ?_⟩
    intro hopen
    simp [Connection.close, Connection.closed_teardown] at hopen
  · exact ⟨x, by simp [hmem, hx], hw.limited n x hx, id⟩

theorem ends (hw : w.Sound c) (begun : w.Begun n) (first : w.result n = none)
    (landed : .landed n ∈ w.callers) {links : Nat → Option Connection}
    {failures : Nat → Option LinkError} (hlinks : ∀ k, k ≠ n → links k = w.links k)
    (hfailures : ∀ k, k ≠ n → failures k = w.failures k)
    (limited : ∀ x, links n = some x → x.mux.Limited c.mux)
    (why : ∀ e, failures n = some e → ∀ text, e ≠ .unavailable text) :
    Sound c { w with links, failures } := by
  have hresult {k : Nat} (hne : k ≠ n) : result { w with links, failures } k = w.result k := by
    simp only [result, hlinks k hne, hfailures k hne]
  have hflying (k : Nat) (h : Flying { w with links, failures } k) : w.Flying k := by
    refine ⟨h.1, ?_⟩
    by_cases hne : k = n
    · exact hne ▸ first
    · exact (hresult hne).symm.trans h.2
  refine
    { hw with
      limited := ?limited
      linked := ?linked
      ended := ?ended
      known := fun hc k hk => hw.known hc k (hflying k hk)
      single := fun k l hk hl => hw.single k l (hflying k hk) (hflying l hl)
      held := ?held
      brought := ?brought
      failures := ?failures }
  case limited =>
    intro k x hx
    by_cases hne : k = n
    · subst hne
      exact limited x hx
    · exact hw.limited k x (hlinks k hne ▸ hx)
  case linked =>
    intro k hk
    have hne : k ≠ n := by
      -- dials for connections in the pool have ended before
      rintro rfl
      obtain ⟨x, hx⟩ := Option.isSome_iff_exists.1 (hw.linked k hk)
      simp [result, hx] at first
    exact (congrArg Option.isSome (hlinks k hne)).trans (hw.linked k hk)
  case ended =>
    intro k hk
    by_cases hne : k = n
    · exact hne ▸ begun
    · exact hw.ended k (hresult hne ▸ hk)
  case held =>
    intro hc k x hx hopen
    by_cases hne : k = n
    · exact .inr (hne ▸ hw.known hc n ⟨begun, first⟩)
    · exact hw.held hc k x (hlinks k hne ▸ hx) hopen
  case brought =>
    intro k x hx hopen
    by_cases hne : k = n
    · exact .inr (hne ▸ landed)
    · exact hw.brought k x (hlinks k hne ▸ hx) hopen
  case failures =>
    intro k e he
    by_cases hne : k = n
    · subst hne
      exact why e he
    · exact hw.failures k e (hfailures k hne ▸ he)

theorem shut (hw : w.Sound c) :
    Sound c { w.hangUp w.pool.members with pool := w.pool.closeAll.2 } :=
  have hup := hw.hangUp w.pool.members
  { hup with
    pool := Pool.sound_closeAll _
    linked := nofun
    dialing := nofun
    known := nofun
    held := nofun
    brought := fun n x hx hopen => by
      refine .inr ((hup.brought n x hx hopen).resolve_left fun hn => ?_)
      -- an open connection would have been in the pool, and would have been closed with it
      obtain ⟨y, -, rfl⟩ := Option.map_eq_some_iff.1 ((if_pos hn).symm.trans hx)
      simp [Connection.close, Connection.closed_teardown] at hopen
    empty := fun _ => rfl }

/-! ### Callers whose dial has ended -/

theorem looking (hw : w.Sound c) (caller : w.callers[i]? = some (.waiting n)) :
    Sound c { w with callers := w.callers.set i (.landed n) } := by
  refine hw.set caller (fun k _ hk => Stage.noConfusion hk) fun k hk => ?_
  obtain rfl : n = k := by simpa [Stage.Awaits] using hk
  exact hw.begun _ (List.mem_of_getElem? caller) n (.inl rfl)

/-- A caller goes on whose dial has brought no connection that is still open. -/
theorem leaves (hw : w.Sound c) (caller : w.callers[i]? = some old) (awaits : old.Awaits n)
    (ended : (w.result n).isSome) (lost : ∀ x, w.links n = some x → x.closed = true)
    (r : Except LinkError Nat) :
    Sound c { w with pool := w.pool.cleared n, callers := w.callers.set i (.done r) } := by
  have hcleared := hw.cleared ended lost
  have hold (k : Nat) (x : Connection) (hk : old = .landed k) (hx : w.links k = some x)
      (hopen : x.closed = false) : k ∈ (w.pool.cleared n).members := by
    obtain rfl := awaits.eq_of_landed hk
    exact Bool.noConfusion (hopen.symm.trans (lost x hx))
  exact hcleared.set caller hold fun k hk => absurd hk (Stage.not_awaits_done r k)

theorem joins (hw : w.Sound c) (caller : w.callers[i]? = some old) (awaits : old.Awaits n)
    (going : w.pool.closed = false) (link : w.links n = some x) (opens : x.closed = false) :
    Sound c { w with pool := w.pool.joined n, callers := w.callers.set i (.done (.ok n)) } := by
  have hjoined := hw.joined going link opens
  have hold (k : Nat) (x : Connection) (hk : old = .landed k) (_ : w.links k = some x)
      (_ : x.closed = false) : k ∈ (w.pool.joined n).members :=
    Pool.mem_joined.2 (.inr (awaits.eq_of_landed hk))
  exact hjoined.set caller hold fun k hk => absurd hk (Stage.not_awaits_done _ k)

/-- Whatever a move comes to keeps this. -/
theorem moved (hw : w.Sound c) (m : w.Moved a w') : w'.Sound c := by
  cases m with
  | quiet => exact hw
  | asked told => exact hw.asked told
  | connected caller first limited =>
    have begun := hw.begun _ (List.mem_of_getElem? caller) _ (.inl rfl)
    refine (hw.looking caller).ends begun first (mem_set_self caller)
      (fun k hk => Function.update_of_ne hk _ _) (fun _ _ => rfl) (fun y hy => ?_) (hw.failures _)
    rw [Function.update_self] at hy
    obtain rfl := Option.some.inj hy
    exact hw.config ▸ limited
  | failed caller first why =>
    have begun := hw.begun _ (List.mem_of_getElem? caller) _ (.inl rfl)
    refine (hw.looking caller).ends begun first (mem_set_self caller) (fun _ _ => rfl)
      (fun k hk => Function.update_of_ne hk _ _) (hw.limited _) fun e he => ?_
    rw [Function.update_self] at he
    obtain rfl := Option.some.inj he
    exact why
  | joined caller awaits going link opens => exact hw.joins caller awaits going link opens
  | lost caller awaits link closed =>
    refine hw.leaves caller awaits (by simp [result, link]) (fun y hy => ?_) _
    exact Option.some.inj (link.symm.trans hy) ▸ closed
  | refused caller awaits link failure =>
    exact hw.leaves caller awaits (by simp [result, link, failure]) (by simp [link]) _
  | @unwanted i n x _ caller awaits _ link =>
    have hup : (w.hangUp [n]).links n = some x.close := by simp [Lobby.hangUp, link]
    refine (hw.hangUp [n]).leaves caller awaits (by simp [result, hup]) (fun y hy => ?_) _
    obtain rfl := Option.some.inj (hup.symm.trans hy)
    exact Connection.closed_teardown _ _
  | cancelled caller =>
    exact hw.set caller (fun k _ hk => Stage.noConfusion hk) fun k hk => by simp [Stage.Awaits] at hk
  | traffic link => exact hw.traffic link _
  | forgot closed => exact hw.removed closed
  | shut => exact hw.shut

/-- Every move keeps this. -/
theorem step (hw : w.Sound c) (a : Move) : (w.step a).Sound c := hw.moved (w.step_moved a)

end Sound

theorem run_concat (w : Lobby) (moves : List Move) (a : Move) :
    w.run (moves ++ [a]) = (w.run moves).step a := by
  simp [run]

theorem run_sound (c : Proxy.Config) (key : MasterKey) (moves : List Move) :
    ((start c key).run moves).Sound c := by
  induction moves using List.reverseRecOn with
  | nil => exact sound_start c key
  | append_singleton moves a ih => exact run_concat _ _ _ ▸ ih.step a

/-! ## What callers are told -/

/-- All that a move can come to for those who have called. -/
inductive Heard (w : Lobby) : Move → List Stage → Prop where
  | nothing {a : Move} : Heard w a w.callers
  | called {answer : Pool.Answer} {pool : Pool} (told : w.pool.Told w.look answer pool) :
      Heard w .call (w.callers ++ [stageOf answer])
  | moved {a : Move} {i n : Nat} {old s : Stage} (caller : w.callers[i]? = some old)
      (awaits : old = .waiting n ∨ old = .landed n ∧ a = .proceed i)
      (room : ∀ text, s ≠ .done (.error (.unavailable text))) : Heard w a (w.callers.set i s)

namespace Sound

theorem heard (hw : w.Sound c) (m : w.Moved a w') : w.Heard a w'.callers := by
  have goes {i n : Nat} {old s : Stage} (caller : w.callers[i]? = some old) (ha : old.Awaits n)
      (room : ∀ text, s ≠ .done (.error (.unavailable text))) :
      w.Heard (.proceed i) (w.callers.set i s) :=
    .moved caller (ha.imp_right fun h => ⟨h, rfl⟩) room
  cases m with
  | quiet | traffic | forgot | shut => exact .nothing
  | asked told => exact .called told
  | connected caller | failed caller | cancelled caller => exact .moved caller (.inl rfl) nofun
  | joined caller awaits | lost caller awaits | unwanted caller awaits =>
    exact goes caller awaits (by simp)
  | @refused i n s e caller awaits link failure =>
    exact goes caller awaits (by simpa using hw.failures n e failure)

theorem flying_le (hw : w.Sound c) : w.flying.length ≤ 1 := by
  have hnodup : w.flying.Nodup := (List.nodup_range' ..).filter _
  have hflying {n : Nat} (hn : n ∈ w.flying) : w.Flying n := by
    obtain ⟨hrange, hnone⟩ := List.mem_filter.1 hn
    have hbegun := List.mem_range'_1.1 hrange
    exact ⟨⟨hbegun.1, by omega⟩, of_decide_eq_true hnone⟩
  match h : w.flying with
  | [] => simp
  | [_] => simp
  | n :: k :: _ =>
    rw [h] at hnodup hflying
    have hsame : n = k := hw.single n k (hflying (by simp)) (hflying (by simp))
    simp [hsame] at hnodup

/-- Whoever is not made to wait gets a connection with room that has the fewest streams. -/
theorem given (hw : w.Sound c) (h : (w.pool.request w.look).1 = .ready n) :
    ∃ x, w.links n = some x ∧ n ∈ w.pool.members ∧ x.closed = false ∧ x.hasCapacity = true ∧
      ∀ k ∈ w.pool.members, ∀ y, w.links k = some y → y.hasCapacity = true →
        x.mux.activeStreams ≤ y.mux.activeStreams := by
  have hleast := Pool.request_ready h
  have told := w.pool.request_told w.look
  rw [h] at told
  generalize (w.pool.request w.look).2 = pool at told
  cases told with
  | ready _ mem room =>
    obtain ⟨hmem, hopen⟩ := List.mem_filter.1 mem
    obtain ⟨x, hx⟩ := Option.isSome_iff_exists.1 (hw.linked n hmem)
    rw [look_of_link hx] at hopen room hleast
    refine ⟨x, hx, hmem, by simpa [vitals] using hopen, room, fun k hk y hy hroom => ?_⟩
    have hle := hleast k
    rw [look_of_link hy] at hle
    refine hle (List.mem_filter.2 ⟨hk, ?_⟩) hroom
    rw [look_of_link hy]
    exact (Bool.and_eq_true_iff.1 hroom).1

/-- Only when all connections are full does the pool turn somebody away. -/
theorem full (hw : w.Sound c) {text : String} {pool : Pool}
    (told : w.pool.Told w.look (.failed (.unavailable text)) pool) : w.Full := by
  cases told with
  | full _ full limit =>
    have hroom := Nat.le_trans (Nat.le_add_right _ _) hw.pool.room
    have hle : (w.pool.healthy w.look).length ≤ w.pool.members.length := List.length_filter_le _ _
    refine ⟨hw.pool.nodup.filter _, ?_, fun n hn => ?_⟩
    · rw [hw.config, ← hw.limit]
      exact Nat.le_antisymm (Nat.le_trans hle hroom) limit
    obtain ⟨hmem, hopen⟩ := List.mem_filter.1 hn
    obtain ⟨x, hx⟩ := Option.isSome_iff_exists.1 (hw.linked n hmem)
    have hlimited := hw.limited n x hx
    have hfull := full n hn
    rw [look_of_link hx] at hopen hfull
    have hclosed : x.closed = false := by simpa [vitals] using hopen
    have hmax : c.mux.maxStreams ≤ x.mux.activeStreams := by
      simpa [vitals, Connection.hasCapacity, hclosed, hlimited.config] using hfull
    refine ⟨x, hx, hclosed, ?_⟩
    rw [hw.config]
    exact Nat.le_antisymm hlimited.room hmax

/-- Whoever is told that all connections are full has just called. -/
theorem turned_away (hw : w.Sound c) (m : w.Moved a w') {text : String}
    (h : w'.callers[i]? = some (.done (.error (.unavailable text)))) :
    w.callers[i]? = some (.done (.error (.unavailable text))) ∨
      a = .call ∧ i = w.callers.length ∧ w.Full := by
  have heard := hw.heard m
  generalize w'.callers = callers at heard h
  cases heard with
  | nothing => exact .inl h
  | @called answer pool told =>
    rcases of_getElem?_concat h with h | ⟨rfl, hstage⟩
    · exact .inl h
    cases answer with
    | ready | wait => cases hstage
    | failed e =>
      obtain rfl := Except.error.inj (Stage.done.inj hstage)
      exact .inr ⟨rfl, rfl, hw.full told⟩
  | moved _ _ room => exact (of_getElem?_set h).imp_right fun hs => absurd hs.2 (room text)

end Sound

/-- Whoever is told that all connections are full was told so at the call. -/
theorem run_turned_away (c : Proxy.Config) (key : MasterKey) {moves : List Move} {text : String}
    (h : ((start c key).run moves).callers[i]? = some (.done (.error (.unavailable text)))) :
    ∃ before after, moves = before ++ .call :: after ∧
      i = ((start c key).run before).callers.length ∧ ((start c key).run before).Full := by
  induction moves using List.reverseRecOn with
  | nil => simp [run, start] at h
  | append_singleton moves a ih =>
    rw [run_concat] at h
    rcases (run_sound c key moves).turned_away (step_moved _ a) h with h | ⟨rfl, hi, hfull⟩
    · obtain ⟨before, after, rfl, hi, hfull⟩ := ih h
      exact ⟨before, after ++ [a], by simp, hi, hfull⟩
    · exact ⟨moves, [], rfl, hi, hfull⟩

/-! ## Closed pools -/

theorem Moved.closed_next (m : w.Moved a w') (h : w.pool.closed = true) :
    w'.pool.closed = true ∧ w'.pool.next = w.pool.next := by
  have still (going : w.pool.closed = false) (P : Prop) : P :=
    Bool.noConfusion (going.symm.trans h)
  cases m with
  | quiet | connected | failed | cancelled | traffic | forgot => exact ⟨h, rfl⟩
  | asked told =>
    cases told with
    | closed => exact ⟨h, rfl⟩
    | ready going | shared going | full going | dialed going => exact still going _
  | joined _ _ going => exact still going _
  | lost | refused | unwanted => exact ⟨Pool.closed_cleared.trans h, Pool.next_cleared⟩
  | shut => exact ⟨rfl, rfl⟩

/-- What is true of a pool that was closed in the state `w₀`. -/
structure Shut (w₀ w : Lobby) : Prop where
  closed : w.pool.closed = true
  /-- No dial was begun since. -/
  next : w.pool.next = w₀.pool.next
  /-- Whoever called since was told that the pool is closed. -/
  late : ∀ i s, w₀.callers.length ≤ i → w.callers[i]? = some s →
    s = .done (.error .connectionClosed)

theorem shut_closeAll (w : Lobby) : Shut w (w.step .closeAll) where
  closed := rfl
  next := rfl
  late i s hi hs := by
    have hnone : w.callers[i]? = none := List.getElem?_eq_none hi
    cases hnone.symm.trans hs

theorem Shut.moved (h : Shut w₀ w) (hw : w.Sound c) (m : w.Moved a w') : Shut w₀ w' := by
  obtain ⟨hclosed, hnext⟩ := m.closed_next h.closed
  refine ⟨hclosed, hnext.trans h.next, ?_⟩
  have heard := hw.heard m
  generalize w'.callers = callers at heard
  cases heard with
  | nothing => exact h.late
  | @called answer pool told =>
    intro i s hi hs
    rcases of_getElem?_concat hs with hs | ⟨-, rfl⟩
    · exact h.late i s hi hs
    cases told with
    | closed => rfl
    | ready going | shared going | full going | dialed going =>
      exact Bool.noConfusion (going.symm.trans h.closed)
  | @moved _ k n old s caller awaits _ =>
    intro i t hi ht
    rcases of_getElem?_set ht with ht | ⟨rfl, -⟩
    · exact h.late i t hi ht
    · -- nobody who has called since waits for a dial
      obtain rfl := h.late k old hi caller
      simp at awaits

theorem run_shut (c : Proxy.Config) (key : MasterKey) (before after : List Move) :
    Shut ((start c key).run before) ((start c key).run (before ++ .closeAll :: after)) := by
  induction after using List.reverseRecOn with
  | nil =>
    rw [run_concat]
    exact shut_closeAll _
  | append_singleton after a ih =>
    have hw := run_sound c key (before ++ .closeAll :: after)
    have hsplit : before ++ .closeAll :: (after ++ [a]) = (before ++ .closeAll :: after) ++ [a] := by
      simp
    rw [hsplit, run_concat]
    exact ih.moved hw (step_moved _ a)

/-- A caller whose dial has ended waits until it goes on. -/
theorem Heard.landed {callers : List Stage} (heard : w.Heard a callers)
    (h : w.callers[i]? = some (.landed n)) (ha : a ≠ .proceed i) :
    callers[i]? = some (.landed n) := by
  cases heard with
  | nothing => exact h
  | called => exact (List.getElem?_append_left (List.getElem?_eq_some_iff.1 h).1).trans h
  | @moved _ k m old s caller awaits _ =>
    have hki : k ≠ i := by
      rintro rfl
      obtain rfl := Option.some.inj (caller.symm.trans h)
      rcases awaits with hwait | ⟨-, hgo⟩
      · cases hwait
      · exact ha hgo
    exact (List.getElem?_set_ne hki).trans h

/-- A connection that was dialed for a pool that is closed is closed too. -/
theorem step_proceed_closed (closed : w.pool.closed = true) (caller : w.callers[i]? = some s)
    (awaits : s.Awaits n) (link : w.links n = some x) :
    (w.step (.proceed i)).links n = some x.close ∧
      (w.step (.proceed i)).callers[i]? = some (.done (.error .connectionClosed)) := by
  have hresult : w.result n = some (.ok ()) := by simp [result, link]
  have hgo : w.step (.proceed i) = w.goOn i n := by
    rcases awaits with rfl | rfl <;> simp [step, caller]
  have hi := (List.getElem?_eq_some_iff.1 caller).1
  rw [hgo, goOn, hresult]
  simp [Pool.arrive_closed closed, hangUp, link, hi]

/-- **The pool is kept.** Take a pool and any run of it: calls, dials that end well or badly, callers that
go on or give up, all that happens on the connections, removals of closed connections, and the closing
of the pool. At most one dial is going on. The connections of the pool are different ones, no more than
its limit. A caller that is given one without a dial gets one that is open, has room for a stream and
has the fewest streams of those that do. Only a call made when as many connections as the limit allows
were open, and all were full, is told that none is available. Once the pool was closed it has no
connections, no dial is begun, and whoever calls is told that it is closed; if a dial that was going on
has brought a connection, the caller that was looking closes it when it goes on, and cannot give up
before; no other open connection is left. -/
theorem pool_kept (c : Proxy.Config) (key : MasterKey) (moves : List Move) :
    let w := (start c key).run moves
    w.flying.length ≤ 1 ∧
    w.pool.members.Nodup ∧ w.pool.members.length ≤ c.maxConnections ∧
    (∀ n, (w.step .call).callers = w.callers ++ [.done (.ok n)] →
      ∃ x, w.links n = some x ∧ n ∈ w.pool.members ∧ x.closed = false ∧ x.hasCapacity = true ∧
        ∀ k ∈ w.pool.members, ∀ y, w.links k = some y → y.hasCapacity = true →
          x.mux.activeStreams ≤ y.mux.activeStreams) ∧
    (∀ i text, w.callers[i]? = some (.done (.error (.unavailable text))) →
      ∃ before after, moves = before ++ .call :: after ∧
        i = ((start c key).run before).callers.length ∧ ((start c key).run before).Full) ∧
    ∀ before after, moves = before ++ .closeAll :: after →
      let w₀ := (start c key).run before
      w.pool.members = [] ∧ (∀ n, w.Begun n → w₀.Begun n) ∧
      (∀ i s, w₀.callers.length ≤ i → w.callers[i]? = some s →
        s = .done (.error .connectionClosed)) ∧
      ∀ n x, w.links n = some x → x.closed = false →
        ∃ i, w.callers[i]? = some (.landed n) ∧
          (∀ a, a ≠ .proceed i → (w.step a).callers[i]? = some (.landed n)) ∧
          (w.step (.proceed i)).callers[i]? = some (.done (.error .connectionClosed)) ∧
          ∃ y, (w.step (.proceed i)).links n = some y ∧ y.closed = true := by
  intro w
  have hw : w.Sound c := run_sound c key moves
  have hlimit := Nat.le_trans (Nat.le_add_right _ _) hw.pool.room
  refine ⟨hw.flying_le, hw.pool.nodup, hw.limit ▸ hlimit, fun n hn => hw.given ?_,
    fun i text => run_turned_away c key, ?_⟩
  · have hstage : stageOf (w.pool.request w.look).1 = .done (.ok n) :=
      List.singleton_inj.1 (List.append_cancel_left hn)
    generalize (w.pool.request w.look).1 = answer at hstage
    cases answer with
    | ready k => exact congrArg Pool.Answer.ready (Except.ok.inj (Stage.done.inj hstage))
    | wait | failed => cases hstage
  intro before after hmoves w₀
  have hshut : Shut w₀ w := by
    have h := run_shut c key before after
    rwa [← hmoves] at h
  have hempty := hw.empty hshut.closed
  refine ⟨hempty, fun n hn => ⟨hn.1, hshut.next ▸ hn.2⟩, hshut.late, fun n x hx hopen => ?_⟩
  have hlanded := (hw.brought n x hx hopen).resolve_left (by simp [hempty])
  obtain ⟨i, hi⟩ := List.getElem?_of_mem hlanded
  obtain ⟨hlink, htold⟩ := step_proceed_closed hshut.closed hi (.inr rfl) hx
  exact ⟨i, hi, fun a ha => (hw.heard (w.step_moved a)).landed hi ha, htold, x.close, hlink,
    Connection.closed_teardown x _⟩

/-- The pool is closed while two callers wait. The dial succeeds, and only then do they go on. -/
example :
    let key : MasterKey := ⟨[1], [2]⟩
    let ours := List.replicate 32 1
    let theirs := List.replicate 32 2
    let reply := Handshake.hello theirs ++ key.proof Handshake.serverLabel ours theirs
    let channel : Channel := { pieces := [.ok reply], ended := false }
    let w := (start { secret := ⟨[1]⟩ } key).run
      [.call, .call, .closeAll, .ends 0 (.talked "" ours channel), .proceed 0, .proceed 1, .call]
    (w.links 1).map Connection.closed = some true ∧
      w.callers = List.replicate 3 (.done (.error .connectionClosed)) := by
  decide +kernel

end SealedRelay.Lobby
