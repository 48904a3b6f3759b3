import Mathlib.Data.List.Induction
import Mathlib.Data.List.Nodup
import Mathlib.Logic.Function.Basic
import SealedRelay.Seal.Session

/-!
# Nonces

Both ends of a connection seal and open, in any order, and what they are given to open may be anything.
A nonce is made of the direction and the number of the payload. So an end uses the nonces of its own
direction one after the other, and none of them twice; opening uses none of them up.

Results:
* `Sealer.next_of_nextNonce`: what sealing does, by the nonce that it uses.
* `step_cases`: a call uses no nonce, or the next one of its end.
* `nonces_never_repeat`: any run of both sessions.
-/
namespace SealedRelay

namespace Sealer

/-- The nonce that the next payload is sealed with; there is none once the counter is used up. -/
def nextNonce (s : Sealer) : Option Bytes :=
  if s.counter ≥ lastCounter then none else some (nonce s.direction s.counter)

/-- The nonce decides what comes of sealing, and what goes into it is the nonce. -/
theorem next_of_nextNonce (s : Sealer) (aad plaintext : Bytes) :
    s.next aad plaintext =
      match s.nextNonce with
      | none => (.error .nonceExhausted, s)
      | some n =>
        (.ok (Crypto.Aead.encrypt s.key n aad plaintext), { s with counter := s.counter + 1 }) := by
  unfold next nextNonce
  split <;> rfl

end Sealer

/-- The sessions of both ends of a connection. -/
structure SessionPair where
  session : End → Session

namespace SessionPair

open Function (update)

inductive Use where
  | seals (e : End) (aad plaintext : Bytes)
  /-- What is opened may come from anywhere. -/
  | opens (e : End) (aad ciphertext : Bytes)

def step (p : SessionPair) : Use → SessionPair
  | .seals e aad plaintext =>
    let sealer := ((p.session e).sealer.next aad plaintext).2
    ⟨update p.session e { p.session e with sealer }⟩
  | .opens e aad ciphertext =>
    let opener := ((p.session e).opener.next aad ciphertext).2
    ⟨update p.session e { p.session e with opener }⟩

def run (p : SessionPair) (uses : List Use) : SessionPair := uses.foldl step p

/-- The nonce with which a call seals, and the end that makes the call. -/
def nonceOf (p : SessionPair) : Use → Option (End × Bytes)
  | .seals e _ _ => (p.session e).sealer.nextNonce.map (e, ·)
  | .opens _ _ _ => none

/-- The nonces with which calls seal, in order. -/
def nonces (p : SessionPair) : List Use → List (End × Bytes)
  | [] => []
  | u :: uses => (p.nonceOf u).toList ++ (p.step u).nonces uses

def fresh (keys : SessionKeys) : SessionPair := ⟨Session.new keys⟩

variable {keys : SessionKeys} {p : SessionPair} {e : End} {used : List (End × Bytes)}

theorem run_concat (p : SessionPair) (uses : List Use) (u : Use) :
    p.run (uses ++ [u]) = (p.run uses).step u := by
  simp [run]

theorem nonces_concat (p : SessionPair) (uses : List Use) (u : Use) :
    p.nonces (uses ++ [u]) = p.nonces uses ++ ((p.run uses).nonceOf u).toList := by
  induction uses generalizing p with
  | nil => exact List.append_nil _
  | cons v uses ih =>
    rw [List.cons_append, nonces, ih, nonces, List.append_assoc]
    rfl

/-- Nonces of one end under different numbers differ, and so do those of different ends. -/
theorem nonce_sends_inj {e e' : End} {m n : Nat} (hm : m < lastCounter) (hn : n < lastCounter)
    (h : nonce e.sends m = nonce e'.sends n) : e = e' ∧ m = n := by
  have hlast : lastCounter ≤ UInt64.size := Nat.sub_le _ _
  obtain ⟨hsends, rfl⟩ := nonce_injective (by omega) (by omega) h
  cases e <;> cases e' <;> first | exact ⟨rfl, rfl⟩ | cases hsends

/-- A call uses no nonce and leaves all sealers alone, or it uses the next one of its end. -/
theorem step_cases (p : SessionPair) (u : Use) :
    (p.nonceOf u = none ∧ ∀ e, ((p.step u).session e).sealer = (p.session e).sealer) ∨
      ∃ e, (p.session e).sealer.counter < lastCounter ∧
        p.nonceOf u =
          some (e, nonce (p.session e).sealer.direction (p.session e).sealer.counter) ∧
        ((p.step u).session e).sealer =
          { (p.session e).sealer with counter := (p.session e).sealer.counter + 1 } ∧
        ∀ e', e' ≠ e → ((p.step u).session e').sealer = (p.session e').sealer := by
  cases u with
  | seals e aad plaintext =>
    have hother (e' : End) (he : e' ≠ e) :
        ((p.step (.seals e aad plaintext)).session e').sealer = (p.session e').sealer := by
      simp [step, he]
    have hself : ((p.step (.seals e aad plaintext)).session e).sealer =
        ((p.session e).sealer.next aad plaintext).2 := by simp [step]
    by_cases hlast : (p.session e).sealer.counter ≥ lastCounter
    · refine .inl ⟨by simp [nonceOf, Sealer.nextNonce, hlast], fun e' => ?_⟩
      by_cases he : e' = e
      · rw [he, hself, Sealer.next, if_pos hlast]
      · exact hother e' he
    · refine .inr ⟨e, Nat.lt_of_not_le hlast, ?_, ?_, hother⟩
      · simp [nonceOf, Sealer.nextNonce, Nat.lt_of_not_le hlast]
      · rw [hself, Sealer.next, if_neg hlast]
  | opens e aad ciphertext =>
    refine .inl ⟨rfl, fun e' => ?_⟩
    by_cases he : e' = e
    · subst he
      simp [step]
    · simp [step, he]

/-- The nonces that were used, by the counters of the sealers: each end has used those of its own
direction, from the first one on. -/
structure Spent (keys : SessionKeys) (p : SessionPair) (used : List (End × Bytes)) : Prop where
  key : ∀ e, (p.session e).sealer.key = e.sends.key keys
  direction : ∀ e, (p.session e).sealer.direction = e.sends
  counter : ∀ e, (p.session e).sealer.counter ≤ lastCounter
  own : ∀ e, (used.filter (·.1 = e)).map Prod.snd =
    (List.range (p.session e).sealer.counter).map (nonce e.sends)
  distinct : (used.map Prod.snd).Nodup

theorem spent_fresh (keys : SessionKeys) : Spent keys (fresh keys) [] where
  key _ := rfl
  direction _ := rfl
  counter _ := Nat.zero_le _
  own _ := rfl
  distinct := List.nodup_nil

namespace Spent

/-- A nonce that was used has a number below the counter of its end. -/
theorem mem (h : Spent keys p used) {n : Bytes} (hn : (e, n) ∈ used) :
    ∃ k < (p.session e).sealer.counter, nonce e.sends k = n := by
  have hown : n ∈ (used.filter (·.1 = e)).map Prod.snd :=
    List.mem_map.2 ⟨(e, n), List.mem_filter.2 ⟨hn, decide_eq_true rfl⟩, rfl⟩
  rw [h.own e] at hown
  simpa using hown

theorem notMem (h : Spent keys p used) (hlt : (p.session e).sealer.counter < lastCounter) :
    nonce e.sends (p.session e).sealer.counter ∉ used.map Prod.snd := by
  intro hmem
  obtain ⟨⟨e', n⟩, hn, hsame⟩ := List.mem_map.1 hmem
  obtain ⟨k, hk, rfl⟩ := h.mem hn
  obtain ⟨rfl, rfl⟩ := nonce_sends_inj (Nat.lt_of_lt_of_le hk (h.counter e')) hlt hsame
  exact Nat.lt_irrefl _ hk

theorem step (h : Spent keys p used) (u : Use) :
    Spent keys (p.step u) (used ++ (p.nonceOf u).toList) := by
  rcases p.step_cases u with ⟨hnone, hsame⟩ | ⟨e, hlt, hsome, hnext, hother⟩
  · rw [hnone, Option.toList_none, List.append_nil]
    exact
      { key := fun e => hsame e ▸ h.key e
        direction := fun e => hsame e ▸ h.direction e
        counter := fun e => hsame e ▸ h.counter e
        own := fun e => hsame e ▸ h.own e
        distinct := h.distinct }
  rw [hsome, h.direction e, Option.toList_some]
  refine ⟨fun e' => ?_, fun e' => ?_, fun e' => ?_, fun e' => ?_, ?_⟩
  · by_cases he : e' = e
    · rw [he, hnext, h.key]
    · rw [hother e' he, h.key]
  · by_cases he : e' = e
    · rw [he, hnext, h.direction]
    · rw [hother e' he, h.direction]
  · by_cases he : e' = e
    · rw [he, hnext]
      exact hlt
    · rw [hother e' he]
      exact h.counter e'
  · by_cases he : e' = e
    · subst he
      rw [hnext]
      simp [List.filter_append, h.own e', List.range_succ]
    · rw [hother e' he]
      simp [List.filter_append, h.own e', Ne.symm he]
  · rw [List.map_append]
    exact h.distinct.append (List.nodup_singleton _) (by simpa using h.notMem hlt)

end Spent

theorem run_spent (keys : SessionKeys) (uses : List Use) :
    Spent keys ((fresh keys).run uses) ((fresh keys).nonces uses) := by
  induction uses using List.reverseRecOn with
  | nil => exact spent_fresh keys
  | append_singleton uses u ih =>
    rw [run_concat, nonces_concat]
    exact ih.step u

/-- **Nonces never repeat.** Let both ends of a connection seal and open anything in any order. The nonces
that they have sealed with are all different, and each end has used those of its own direction in
order, as many as its counter says. If the end that seals next is told that its nonces are used up,
no nonce is used and nothing has changed. Otherwise it has sealed with a new nonce, and its counter
has moved on by one. -/
theorem nonces_never_repeat (keys : SessionKeys) (uses : List Use) :
    let p := (fresh keys).run uses
    let used := (fresh keys).nonces uses
    (used.map Prod.snd).Nodup ∧ (∀ n ∈ used, n.2.length = Crypto.Aead.nonceSize) ∧
    (∀ e, (used.filter (·.1 = e)).map Prod.snd =
      (List.range (p.session e).sealer.counter).map (nonce e.sends)) ∧
    ∀ e aad plaintext,
      let u := Use.seals e aad plaintext
      let s := (p.session e).sealer
      let answer := (s.next aad plaintext).1
      (answer = .error .nonceExhausted →
        (fresh keys).nonces (uses ++ [u]) = used ∧ (fresh keys).run (uses ++ [u]) = p) ∧
      (answer ≠ .error .nonceExhausted →
        ∃ n, (fresh keys).nonces (uses ++ [u]) = used ++ [(e, n)] ∧
          answer = .ok (Crypto.Aead.encrypt s.key n aad plaintext) ∧
          (((fresh keys).run (uses ++ [u])).session e).sealer.counter = s.counter + 1) := by
  intro p used
  have h : Spent keys p used := run_spent keys uses
  refine ⟨h.distinct, fun n hn => ?_, h.own, fun e aad plaintext => ?_⟩
  · obtain ⟨k, -, hk⟩ := h.mem hn
    rw [← hk, length_nonce]
  intro u s answer
  have hnext := s.next_of_nextNonce aad plaintext
  have hnonce : p.nonceOf u = s.nextNonce.map (e, ·) := rfl
  have hstep : p.step u =
      ⟨update p.session e { p.session e with sealer := (s.next aad plaintext).2 }⟩ := rfl
  rw [nonces_concat, run_concat, show (fresh keys).run uses = p from rfl, hnonce, hstep,
    show answer = (s.next aad plaintext).1 from rfl]
  cases hn : s.nextNonce with
  | none =>
    rw [hn] at hnext
    rw [hnext]
    refine ⟨fun _ => ⟨List.append_nil _, ?_⟩, fun hne => absurd rfl hne⟩
    exact congrArg SessionPair.mk (Function.update_eq_self e p.session)
  | some n =>
    rw [hn] at hnext
    rw [hnext]
    exact ⟨nofun, fun _ => ⟨n, rfl, rfl, by simp⟩⟩

end SessionPair

end SealedRelay
