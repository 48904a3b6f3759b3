import Mathlib.Data.List.Nodup
import SealedRelay.Pool

/-!
# Connections in the pool

What a caller can be told by the pool, and what the pool keeps true of itself: its connections are
different ones, a dial is for a connection that is not among them yet, and together with that one
there are never more than the limit.

Results:
* `request_told`: all a request can come to, with the conditions.
* `Told.sound`, `Sound.joined`: requests and arrivals keep a pool sound.
* `Told.grown`, `grown_joined`: they also keep what other callers rely on.
-/
namespace SealedRelay

/-! ## Lists of callers -/

theorem of_getElem?_concat {α : Type} {xs : List α} {x y : α} {i : Nat}
    (h : (xs ++ [x])[i]? = some y) : xs[i]? = some y ∨ i = xs.length ∧ x = y := by
  rcases Nat.lt_trichotomy i xs.length with hi | rfl | hi
  · rw [List.getElem?_append_left hi] at h
    exact .inl h
  · rw [List.getElem?_concat_length] at h
    exact .inr ⟨rfl, Option.some.inj h⟩
  · rw [List.getElem?_eq_none (by simp; omega)] at h
    cases h

theorem of_getElem?_set {α : Type} {xs : List α} {x y : α} {i k : Nat}
    (h : (xs.set k x)[i]? = some y) : xs[i]? = some y ∨ k = i ∧ x = y := by
  rw [List.getElem?_set] at h
  split at h
  · rename_i hk
    split at h
    · exact .inr ⟨hk, Option.some.inj h⟩
    · cases h
  · exact .inl h

namespace Pool

variable {p p' : Pool} {look : Nat → Vitals} {n k : Nat} {a : Answer}

theorem leastLoaded_eq_none {ns : List Nat} : leastLoaded look ns = none ↔ ns = [] := by
  cases ns with
  | nil => simp [leastLoaded]
  | cons n ns =>
    simp only [leastLoaded, reduceCtorEq, iff_false]
    split <;> simp

theorem mem_of_leastLoaded {ns : List Nat} (h : leastLoaded look ns = some n) : n ∈ ns := by
  induction ns generalizing n with
  | nil => simp [leastLoaded] at h
  | cons k ns ih =>
    rw [leastLoaded] at h
    cases hl : leastLoaded look ns with
    | none =>
      rw [hl] at h
      obtain rfl := Option.some.inj h
      exact List.mem_cons_self
    | some d =>
      rw [hl] at h
      obtain rfl := Option.some.inj h
      split
      · exact List.mem_cons_self
      · exact List.mem_cons_of_mem _ (ih hl)

theorem leastLoaded_le {ns : List Nat} (h : leastLoaded look ns = some n) :
    ∀ k ∈ ns, (look n).streams ≤ (look k).streams := by
  induction ns generalizing n with
  | nil => simp
  | cons c ns ih =>
    rw [leastLoaded] at h
    cases hl : leastLoaded look ns with
    | none =>
      rw [hl] at h
      obtain rfl := Option.some.inj h
      rw [leastLoaded_eq_none.1 hl]
      simp
    | some d =>
      rw [hl] at h
      obtain rfl := Option.some.inj h
      have hd := ih hl
      split
      · rename_i hle
        exact List.forall_mem_cons.2 ⟨Nat.le_refl _, fun k hk => Nat.le_trans hle (hd k hk)⟩
      · rename_i hlt
        exact List.forall_mem_cons.2 ⟨by omega, hd⟩

/-! ## Requests -/

/-- The pool without the connections that have closed. -/
def pruned (p : Pool) (look : Nat → Vitals) : Pool := { p with members := p.healthy look }

inductive Told (p : Pool) (look : Nat → Vitals) : Answer → Pool → Prop where
  | closed (closed : p.closed = true) : Told p look (.failed .connectionClosed) p
  | ready {n : Nat} (going : p.closed = false) (mem : n ∈ p.healthy look)
      (room : (look n).capacity = true) : Told p look (.ready n) (p.pruned look)
  /-- Somebody else is dialing already. -/
  | shared {n : Nat} (going : p.closed = false)
      (full : ∀ k ∈ p.healthy look, (look k).capacity = false) (dialing : p.dialing = some n) :
      Told p look (.wait n) (p.pruned look)
  | full {text : String} (going : p.closed = false)
      (full : ∀ k ∈ p.healthy look, (look k).capacity = false)
      (limit : p.limit ≤ (p.healthy look).length) :
      Told p look (.failed (.unavailable text)) (p.pruned look)
  | dialed (going : p.closed = false) (full : ∀ k ∈ p.healthy look, (look k).capacity = false)
      (idle : p.dialing = none) (limit : (p.healthy look).length < p.limit) :
      Told p look (.wait p.next)
        { p.pruned look with dialing := some p.next, next := p.next + 1 }

theorem request_told (p : Pool) (look : Nat → Vitals) :
    Told p look (p.request look).1 (p.request look).2 := by
  unfold request
  split
  · rename_i hclosed
    exact .closed hclosed
  rename_i hclosed
  have hgoing : p.closed = false := by simpa using hclosed
  dsimp only
  split
  · rename_i n hleast
    obtain ⟨hmem, hroom⟩ := List.mem_filter.1 (mem_of_leastLoaded hleast)
    exact .ready hgoing hmem hroom
  rename_i hnone
  have hfull : ∀ k ∈ p.healthy look, (look k).capacity = false := fun k hk => by
    simpa using List.filter_eq_nil_iff.1 (leastLoaded_eq_none.1 hnone) k hk
  split
  · rename_i n hdialing
    exact .shared hgoing hfull hdialing
  rename_i hidle
  split
  · rename_i hlimit
    exact .full hgoing hfull hlimit
  · rename_i hlimit
    exact .dialed hgoing hfull hidle (Nat.lt_of_not_le hlimit)

/-- The connection that a caller is given has the fewest streams of those that have room. -/
theorem request_ready (h : (p.request look).1 = .ready n) :
    ∀ k ∈ p.healthy look, (look k).capacity = true → (look n).streams ≤ (look k).streams := by
  unfold request at h
  split at h
  · cases h
  dsimp only at h
  split at h
  · rename_i c hleast
    obtain rfl := Answer.ready.inj h
    exact fun k hk hroom => leastLoaded_le hleast k (List.mem_filter.2 ⟨hk, hroom⟩)
  split at h
  · cases h
  split at h <;> cases h

theorem Told.members (t : Told p look a p') : ∀ n ∈ p'.members, n ∈ p.members := by
  intro n hn
  cases t with
  | closed => exact hn
  | ready | shared | full | dialed => exact (List.mem_filter.1 hn).1

/-! ## Arrivals -/

def joined (p : Pool) (n : Nat) : Pool :=
  { p with
    dialing := if p.dialing = some n then none else p.dialing
    members := if n ∈ p.members then p.members else p.members ++ [n] }

/-- The pool once a caller has come back from a dial that brought no new connection. -/
def cleared (p : Pool) (n : Nat) : Pool :=
  if p.dialing = some n then { p with dialing := none } else p

@[simp] theorem members_cleared : (p.cleared n).members = p.members := by
  unfold cleared
  split <;> rfl

@[simp] theorem closed_cleared : (p.cleared n).closed = p.closed := by
  unfold cleared
  split <;> rfl

@[simp] theorem limit_cleared : (p.cleared n).limit = p.limit := by
  unfold cleared
  split <;> rfl

@[simp] theorem next_cleared : (p.cleared n).next = p.next := by
  unfold cleared
  split <;> rfl

theorem dialing_cleared : (p.cleared n).dialing = some k ↔ p.dialing = some k ∧ k ≠ n := by
  unfold cleared
  by_cases hn : p.dialing = some n
  · rw [if_pos hn, hn]
    simp [eq_comm]
  · rw [if_neg hn]
    exact ⟨fun hk => ⟨hk, fun he => hn (he ▸ hk)⟩, And.left⟩

theorem mem_joined : k ∈ (p.joined n).members ↔ k ∈ p.members ∨ k = n := by
  unfold joined
  split
  · rename_i hn
    exact ⟨.inl, fun h => h.elim id fun hk => hk ▸ hn⟩
  · simp

theorem dialing_joined : (p.joined n).dialing = some k ↔ p.dialing = some k ∧ k ≠ n := by
  have hsame : (p.joined n).dialing = (p.cleared n).dialing := by
    unfold cleared
    by_cases hn : p.dialing = some n
    · rw [if_pos hn]
      exact if_pos hn
    · rw [if_neg hn]
      exact if_neg hn
  rw [hsame, dialing_cleared]

theorem arrive_open (hgoing : p.closed = false) (hopen : (look n).closed = false) :
    p.arrive look n (.ok ()) = ({ result := .ok n }, p.joined n) := by
  obtain ⟨remote, limit, members, dialing, closed, next⟩ := p
  obtain rfl : closed = false := hgoing
  by_cases hd : dialing = some n <;> by_cases hn : n ∈ members <;>
    simp [arrive, joined, hopen, hd, hn]

theorem arrive_error (p : Pool) (look : Nat → Vitals) (n : Nat) (e : LinkError) :
    p.arrive look n (.error e) = ({ result := .error e }, p.cleared n) := rfl

theorem arrive_closed (hclosed : p.closed = true) :
    p.arrive look n (.ok ()) =
      ({ result := .error .connectionClosed, unwanted := true }, p.cleared n) := by
  by_cases hd : p.dialing = some n <;> simp [arrive, cleared, hclosed, hd]

theorem arrive_lost (hgoing : p.closed = false) (hlost : (look n).closed = true) :
    p.arrive look n (.ok ()) = ({ result := .ok n }, p.cleared n) := by
  by_cases hd : p.dialing = some n <;> simp [arrive, cleared, hgoing, hlost, hd]

/-! ## What is kept -/

/-- The pool `p'` has what callers of `p` rely on. -/
structure Grown (p p' : Pool) : Prop where
  limit : p'.limit = p.limit
  closed : p'.closed = p.closed
  members : ∀ n ∈ p.members, n ∈ p'.members
  waiting : ∀ n, p.dialing = some n → n ∈ p'.members ∨ p'.dialing = some n

theorem Grown.refl (p : Pool) : Grown p p := ⟨rfl, rfl, fun _ => id, fun _ => .inr⟩

theorem grown_joined (p : Pool) (n : Nat) : Grown p (p.joined n) where
  limit := rfl
  closed := rfl
  members k hk := mem_joined.2 (.inl hk)
  waiting k hk := by
    by_cases hn : k = n
    · exact .inl (mem_joined.2 (.inr hn))
    · exact .inr (dialing_joined.2 ⟨hk, hn⟩)

/-- A request changes nothing that callers rely on while no connection has closed. -/
theorem Told.grown (t : Told p look a p') (h : p.pruned look = p) : Grown p p' := by
  cases t with
  | closed => exact .refl p
  | ready | shared | full =>
    rw [h]
    exact .refl p
  | dialed _ _ idle =>
    rw [h]
    exact ⟨rfl, rfl, fun _ => id, fun n hn => by simp [idle] at hn⟩

/-! ## Soundness -/

/-- What is always true of a pool. -/
structure Sound (p : Pool) : Prop where
  nodup : p.members.Nodup
  /-- There is a place for the connection that is being dialed. -/
  room : p.members.length + p.dialing.toList.length ≤ p.limit
  known : ∀ n ∈ p.members, n < p.next
  ahead : ∀ n, p.dialing = some n → n < p.next ∧ n ∉ p.members

theorem Sound.pruned (hp : p.Sound) (look : Nat → Vitals) : (p.pruned look).Sound where
  nodup := hp.nodup.filter _
  room := Nat.le_trans (Nat.add_le_add_right (List.length_filter_le _ _) _) hp.room
  known n hn := hp.known n (List.mem_filter.1 hn).1
  ahead n hn := ⟨(hp.ahead n hn).1, fun h => (hp.ahead n hn).2 (List.mem_filter.1 h).1⟩

/-- No request makes a pool unsound. -/
theorem Told.sound (t : Told p look a p') (hp : p.Sound) : p'.Sound := by
  have hpruned := hp.pruned look
  cases t with
  | closed => exact hp
  | ready | shared | full => exact hpruned
  | dialed _ _ idle limit =>
    exact
      { nodup := hpruned.nodup
        room := limit
        known := fun n hn => Nat.lt_succ_of_lt (hpruned.known n hn)
        ahead := fun n hn => by
          obtain rfl := Option.some.inj hn
          exact ⟨Nat.lt_succ_self _, fun h => Nat.lt_irrefl _ (hpruned.known _ h)⟩ }

/-- Neither does the arrival of a connection that was dialed. -/
theorem Sound.joined (hp : p.Sound) (h : n ∈ p.members ∨ p.dialing = some n) :
    (p.joined n).Sound where
  nodup := by
    unfold Pool.joined
    split
    · exact hp.nodup
    · rename_i hn
      exact List.Nodup.append hp.nodup (List.nodup_singleton n) (by simpa using hn)
  room := by
    have hroom := hp.room
    rcases h with hn | hn
    · have hne : p.dialing ≠ some n := fun hd => (hp.ahead n hd).2 hn
      simpa [Pool.joined, hn, hne] using hroom
    · have hnew := (hp.ahead n hn).2
      simpa [Pool.joined, hn, hnew] using hroom
  known k hk := by
    rcases mem_joined.1 hk with hk | rfl
    · exact hp.known k hk
    · exact h.elim (hp.known k) fun hd => (hp.ahead k hd).1
  ahead k hk := by
    obtain ⟨hd, hne⟩ := dialing_joined.1 hk
    exact ⟨(hp.ahead k hd).1, fun h => (mem_joined.1 h).elim (hp.ahead k hd).2 hne⟩

/-- Nor does that of a caller whose dial brought no new connection. -/
theorem Sound.cleared (hp : p.Sound) (n : Nat) : (p.cleared n).Sound := by
  unfold Pool.cleared
  split
  · exact
      { nodup := hp.nodup
        room := Nat.le_trans (Nat.add_le_add_left (Nat.zero_le _) _) hp.room
        known := hp.known
        ahead := nofun }
  · exact hp

theorem Sound.remove (hp : p.Sound) (n : Nat) : (p.remove n).Sound where
  nodup := hp.nodup.filter _
  room := Nat.le_trans (Nat.add_le_add_right (List.length_filter_le _ _) _) hp.room
  known k hk := hp.known k (List.mem_filter.1 hk).1
  ahead k hk := ⟨(hp.ahead k hk).1, fun h => (hp.ahead k hk).2 (List.mem_filter.1 h).1⟩

theorem sound_closeAll (p : Pool) : p.closeAll.2.Sound where
  nodup := List.nodup_nil
  room := Nat.zero_le _
  known := nofun
  ahead := nofun

end Pool

end SealedRelay
