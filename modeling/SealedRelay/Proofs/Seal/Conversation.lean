import Mathlib.Data.List.Induction
import Mathlib.Logic.Function.Basic
import SealedRelay.Seal.Session

/-!
# Two sessions that talk to each other

Both ends seal and open in any order. What one end has sealed the other opens in the same order and with
the same associated data; each direction has its own key, nonces and counters, so the directions do not
disturb each other.

Results:
* `Lane.seals`, `Lane.opens`: sealing and opening keep the two halves of a direction in step.
* `lanes_run`: so they are after any conversation; every open gives what was sealed.
-/
namespace SealedRelay

namespace End

@[simp] theorem peer_peer (e : End) : e.peer.peer = e := by cases e <;> rfl

@[simp] theorem peer_ne (e : End) : e.peer ≠ e := by cases e <;> nofun

@[simp] theorem ne_peer (e : End) : e ≠ e.peer := e.peer_ne.symm

theorem eq_or_eq_peer (e e' : End) : e' = e ∨ e' = e.peer := by
  cases e <;> cases e' <;> simp [peer]

end End

/-- A payload that one end has sealed and the other has not opened. -/
structure Message where
  aad : Bytes
  plaintext : Bytes
  ciphertext : Bytes

structure Conversation where
  session : End → Session
  /-- What each end has sealed and the other has not opened, in order. -/
  onWay : End → List Message := fun _ => []
  /-- What each end was told when it opened. -/
  answers : End → List (Except SealError Bytes) := fun _ => []

namespace Conversation

open Function (update)

inductive Move where
  | seals (e : End) (aad plaintext : Bytes)
  /-- It opens the next payload of the other end, if there is one. -/
  | opens (e : End)

/-- What an end seals with a move. -/
def Move.plaintext? (e : End) : Move → Option Bytes
  | seals e' _ plaintext => if e' = e then some plaintext else none
  | opens _ => none

def plaintexts (e : End) (moves : List Move) : List Bytes := moves.filterMap (Move.plaintext? e)

def step (c : Conversation) : Move → Conversation
  | .seals e aad plaintext =>
    let (r, sealer) := (c.session e).sealer.next aad plaintext
    let c := { c with session := update c.session e { c.session e with sealer } }
    match r with
    | .error _ => c
    | .ok ciphertext =>
      { c with onWay := update c.onWay e (c.onWay e ++ [⟨aad, plaintext, ciphertext⟩]) }
  | .opens e =>
    match c.onWay e.peer with
    | [] => c
    | message :: later =>
      let (r, opener) := (c.session e).opener.next message.aad message.ciphertext
      { c with
        session := update c.session e { c.session e with opener }
        onWay := update c.onWay e.peer later
        answers := update c.answers e (c.answers e ++ [r]) }

def run (c : Conversation) (moves : List Move) : Conversation := moves.foldl step c

/-! ## One direction -/

/-- Messages sealed one after the other, the first of them with number `n`. -/
def Waiting (key : Bytes) (d : Direction) : Nat → List Message → Prop
  | _, [] => True
  | n, m :: later =>
    m.ciphertext = Crypto.Aead.encrypt key (nonce d n) m.aad m.plaintext ∧ Waiting key d (n + 1) later

/-- A sealer and the opener that faces it, with what has been sealed, what is on its way and what was
told. -/
structure Lane (plain : List Bytes) (s : Sealer) (o : Opener) (onWay : List Message)
    (answers : List (Except SealError Bytes)) : Prop where
  key : o.key = s.key
  direction : o.direction = s.direction
  sealed : s.counter = plain.length
  opened : o.counter = answers.length
  waiting : Waiting s.key s.direction o.counter onWay
  split : plain.map .ok = answers ++ onWay.map fun m => .ok m.plaintext

variable {key : Bytes} {d : Direction} {n : Nat} {plain : List Bytes} {s : Sealer} {o : Opener}
  {onWay : List Message} {answers : List (Except SealError Bytes)} {m : Message}

theorem Waiting.concat (h : Waiting key d n onWay)
    (hm : m.ciphertext = Crypto.Aead.encrypt key (nonce d (n + onWay.length)) m.aad m.plaintext) :
    Waiting key d n (onWay ++ [m]) := by
  induction onWay generalizing n with
  | nil => exact ⟨hm, trivial⟩
  | cons m' later ih =>
    refine ⟨h.1, ih h.2 ?_⟩
    rw [hm, List.length_cons, Nat.add_assoc, Nat.add_comm 1]

namespace Lane

theorem counter_eq (h : Lane plain s o onWay answers) : s.counter = o.counter + onWay.length := by
  have hlen := congrArg List.length h.split
  simp only [List.length_map, List.length_append] at hlen
  rw [h.sealed, h.opened, hlen]

/-- Below the last number a payload is sealed, and joins what is on its way. -/
theorem seals (h : Lane plain s o onWay answers) (hs : s.counter < lastCounter)
    (aad plaintext : Bytes) :
    ∃ ciphertext, s.next aad plaintext = (.ok ciphertext, { s with counter := s.counter + 1 }) ∧
      Lane (plain ++ [plaintext]) { s with counter := s.counter + 1 } o
        (onWay ++ [⟨aad, plaintext, ciphertext⟩]) answers := by
  refine ⟨_, if_neg (Nat.not_le_of_lt hs), h.key, h.direction, ?_, h.opened, ?_, ?_⟩
  · simp [h.sealed]
  · exact h.waiting.concat (by rw [h.counter_eq])
  · simp [h.split]

/-- The first payload on its way is opened as what was sealed. -/
theorem opens (h : Lane plain s o (m :: onWay) answers) (hs : s.counter ≤ lastCounter) :
    o.next m.aad m.ciphertext = (.ok m.plaintext, { o with counter := o.counter + 1 }) ∧
      Lane plain s { o with counter := o.counter + 1 } onWay (answers ++ [.ok m.plaintext]) := by
  have hlt : o.counter < lastCounter := by
    have := h.counter_eq
    rw [List.length_cons] at this
    omega
  obtain ⟨hcipher, hlater⟩ := h.waiting
  refine ⟨?_, h.key, h.direction, h.sealed, ?_, hlater, ?_⟩
  · rw [Opener.next, if_neg (Nat.not_le_of_lt hlt), hcipher, h.key, h.direction,
      Crypto.Aead.decrypt_encrypt]
  · simp [h.opened]
  · simp [h.split]

end Lane

/-! ## Any conversation -/

/-- Both directions are in step. -/
def Lanes (c : Conversation) (moves : List Move) : Prop :=
  ∀ e : End, Lane (plaintexts e moves) (c.session e).sealer (c.session e.peer).opener (c.onWay e)
    (c.answers e.peer)

theorem plaintexts_concat (e : End) (moves : List Move) (mv : Move) :
    plaintexts e (moves ++ [mv]) = plaintexts e moves ++ (mv.plaintext? e).toList := by
  rw [plaintexts, List.filterMap_append]
  cases hp : mv.plaintext? e <;> simp [plaintexts, hp]

variable {c : Conversation} {moves : List Move}

theorem lanes_seals (h : c.Lanes moves) (e : End) (aad plaintext : Bytes)
    (hfew : (plaintexts e moves).length < lastCounter) :
    (c.step (.seals e aad plaintext)).Lanes (moves ++ [.seals e aad plaintext]) := by
  obtain ⟨ciphertext, hnext, hlane⟩ := (h e).seals ((h e).sealed ▸ hfew) aad plaintext
  intro e'
  rw [step, hnext, plaintexts_concat]
  obtain rfl | rfl := e.eq_or_eq_peer e'
  · simpa [Move.plaintext?] using hlane
  · simpa [Move.plaintext?] using h e.peer

theorem lanes_opens (h : c.Lanes moves) (e : End)
    (hfew : (plaintexts e.peer moves).length ≤ lastCounter) :
    (c.step (.opens e)).Lanes (moves ++ [.opens e]) := by
  have hlane := h e.peer
  rw [e.peer_peer] at hlane
  have same (e' : End) : plaintexts e' (moves ++ [.opens e]) = plaintexts e' moves := by
    rw [plaintexts_concat]
    simp [Move.plaintext?]
  intro e'
  rw [step, same]
  cases hway : c.onWay e.peer with
  | nil => exact h e'
  | cons m later =>
    rw [hway] at hlane
    obtain ⟨hnext, hopened⟩ := hlane.opens (hlane.sealed ▸ hfew)
    dsimp only
    rw [hnext]
    obtain rfl | rfl := e.eq_or_eq_peer e'
    · simpa using h e'
    · simpa using hopened

theorem lanes_step {mv : Move} (h : c.Lanes moves)
    (hfew : ∀ e, (plaintexts e (moves ++ [mv])).length ≤ lastCounter) :
    (c.step mv).Lanes (moves ++ [mv]) := by
  cases mv with
  | seals e aad plaintext =>
    have hlen := hfew e
    rw [plaintexts_concat] at hlen
    simp only [Move.plaintext?, if_true, Option.toList_some, List.length_append,
      List.length_singleton] at hlen
    exact lanes_seals h e aad plaintext hlen
  | opens e =>
    have hlen := hfew e.peer
    rw [plaintexts_concat] at hlen
    exact lanes_opens h e (by simpa [Move.plaintext?] using hlen)

theorem length_plaintexts_le (e : End) (moves later : List Move) :
    (plaintexts e moves).length ≤ (plaintexts e (moves ++ later)).length := by
  rw [plaintexts, plaintexts, List.filterMap_append, List.length_append]
  exact Nat.le_add_right _ _

theorem lanes_run (h : c.Lanes []) (hfew : ∀ e, (plaintexts e moves).length ≤ lastCounter) :
    (c.run moves).Lanes moves := by
  induction moves using List.reverseRecOn with
  | nil => exact h
  | append_singleton moves mv ih =>
    rw [run, List.foldl_append]
    refine lanes_step (ih fun e => ?_) hfew
    exact Nat.le_trans (length_plaintexts_le e moves [mv]) (hfew e)

def fresh (keys : SessionKeys) : Conversation where
  session := Session.new keys

theorem lanes_fresh (keys : SessionKeys) : (fresh keys).Lanes [] := by
  intro e
  cases e <;> exact ⟨rfl, rfl, rfl, rfl, trivial, rfl⟩

end Conversation

end SealedRelay
