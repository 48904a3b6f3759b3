import Mathlib.Data.List.Infix
import SealedRelay.Proofs.Talk.Hearing
import SealedRelay.Proxy.Http

/-!
# Where a request head ends

The head of an HTTP request ends with the first blank line. It is looked for again whenever more bytes
have arrived, in a buffer that is never larger than a head may be. So it does not matter in which pieces
the bytes arrive: what is read is always the same head, and what was read beyond it is not lost.

Results:
* `headEnd?_eq_some_iff`, `headEnd?_eq_none_iff`: the search finds the first blank line.
* `receiveHead_run`: what comes of reading a head.
* `head_independent`: the whole request, for any arrival.
-/
namespace SealedRelay

namespace Channel

variable {c : Channel} {got : Bytes}

/-- A channel that holds `got` and on which no read fails. -/
structure Steady (c : Channel) (got : Bytes) : Prop extends Holds c got where
  faultless : ∀ p ∈ c.pieces, ∃ b, p = .ok b

/-- Patient or not, a reader finds the channel as it is. -/
theorem Steady.front_eq (h : c.Steady got) (patient : Bool) : c.front patient = c := by
  obtain ⟨pieces, ended, room, written⟩ := c
  cases patient with
  | false => rfl
  | true =>
    cases pieces with
    | nil => rfl
    | cons p pieces =>
      obtain ⟨b, rfl⟩ := h.faultless p List.mem_cons_self
      rfl

theorem faultless_read (h : ∀ p ∈ c.pieces, ∃ b, p = .ok b) (most : Nat) :
    ∀ p ∈ (c.read most).2.pieces, ∃ b, p = .ok b := by
  unfold read
  split
  · exact h
  · rename_i f pieces hp
    obtain ⟨b, hb⟩ := h (.error f) (hp ▸ List.mem_cons_self)
    cases hb
  · rename_i b pieces hp
    rw [hp] at h
    obtain ⟨-, hrest⟩ := List.forall_mem_cons.1 h
    split
    · exact hrest
    · exact List.forall_mem_cons.2 ⟨⟨_, rfl⟩, hrest⟩

/-- What a read is told: the end or nothing yet if there are no bytes, and otherwise some of them. -/
theorem Steady.read_cases (h : c.Steady got) (patient : Bool) {n : Nat} (hn : 0 < n) :
    (got = [] ∧ ∃ c', Moved c [] [] c' ∧
      (c.front patient).read n = (if c.ended then some (.ok []) else none, c')) ∨
      ∃ b rest c', b ≠ [] ∧ b.length ≤ n ∧ got = b ++ rest ∧ c'.Steady rest ∧ Moved c rest [] c' ∧
        (c.front patient).read n = (some (.ok b), c') := by
  have hcases := h.toHolds.read_cases hn
  rw [h.front_eq] at hcases
  rw [h.front_eq]
  refine hcases.imp_right ?_
  rintro ⟨b, rest, c', hb, hle, hgot, hmoved, hread⟩
  have hfaultless := faultless_read h.faultless n
  rw [hread] at hfaultless
  exact ⟨b, rest, c', hb, hle, hgot, ⟨hmoved.holds, hfaultless⟩, hmoved, hread⟩

theorem steady_arrived (arrivals : List Bytes) (ended : Bool) :
    (Talk.arrived arrivals ended).Steady arrivals.flatten where
  toHolds := Talk.holds_arrived arrivals ended
  faultless p hp := by
    obtain ⟨b, -, rfl⟩ := List.mem_map.1 hp
    exact ⟨b, rfl⟩

end Channel

end SealedRelay

namespace SealedRelay.Proxy.Http

open Talk

/-! ## Blank lines -/

/-- A blank line ends at `e`: the bytes before it end with LF LF or with LF CR LF. -/
def BlankLineEnds (s : Bytes) (e : Nat) : Prop :=
  e ≤ s.length ∧ ([10, 10] <:+ s.take e ∨ [10, 13, 10] <:+ s.take e)

/-- The first blank line ends at `e`. -/
structure HeadEnds (s : Bytes) (e : Nat) : Prop where
  blank : BlankLineEnds s e
  first : ∀ e' < e, ¬ BlankLineEnds s e'

variable {s t : Bytes} {b : UInt8} {e e' n : Nat}

theorem HeadEnds.unique (h : HeadEnds s e) (h' : HeadEnds s e') : e = e' := by
  rcases Nat.lt_trichotomy e e' with hlt | heq | hlt
  · exact absurd h.blank (h'.first e hlt)
  · exact heq
  · exact absurd h'.blank (h.first e' hlt)

theorem blankLineEnds_append (he : e ≤ s.length) :
    BlankLineEnds (s ++ t) e ↔ BlankLineEnds s e := by
  have hlen : e ≤ (s ++ t).length := by
    rw [List.length_append]
    omega
  simp only [BlankLineEnds, List.take_append_of_le_length he, he, hlen, true_and]

theorem headEnds_append (he : e ≤ s.length) : HeadEnds (s ++ t) e ↔ HeadEnds s e := by
  have hbefore (e' : Nat) (h : e' < e) : BlankLineEnds (s ++ t) e' ↔ BlankLineEnds s e' :=
    blankLineEnds_append (by omega)
  constructor
  · rintro ⟨hblank, hfirst⟩
    exact ⟨(blankLineEnds_append he).1 hblank, fun e' h => mt (hbefore e' h).2 (hfirst e' h)⟩
  · rintro ⟨hblank, hfirst⟩
    exact ⟨(blankLineEnds_append he).2 hblank, fun e' h => mt (hbefore e' h).1 (hfirst e' h)⟩

theorem not_blankLineEnds_nil : ¬ BlankLineEnds [] e := by
  simp [BlankLineEnds]

theorem two_le_of_blankLineEnds (h : BlankLineEnds s e) : 2 ≤ e := by
  obtain ⟨-, hline | hline⟩ := h
  all_goals
    have hlen := hline.length_le
    simp only [List.length_cons, List.length_nil, List.length_take] at hlen
    omega

theorem length_of_eq_take {l : Bytes} (hle : n ≤ s.length) (h : l = s.take n) : n = l.length := by
  rw [h, List.length_take_of_le hle]

theorem blankLineEnds_cons :
    BlankLineEnds (b :: s) e ↔ (b = 10 ∧ s.head? = some 10 ∧ e = 2) ∨
      (b = 10 ∧ s.take 2 = [13, 10] ∧ e = 3) ∨ ∃ k, e = k + 1 ∧ BlankLineEnds s k := by
  cases e with
  | zero => simp [BlankLineEnds]
  | succ k =>
    have hone : s.take 1 = [10] ↔ s.head? = some 10 := by cases s <;> simp
    simp only [BlankLineEnds, List.length_cons, List.take_succ_cons, List.suffix_cons_iff,
      List.cons.injEq, Nat.add_le_add_iff_right, Nat.add_right_cancel_iff]
    constructor
    · rintro ⟨hle, (⟨rfl, h⟩ | h) | ⟨rfl, h⟩ | h⟩
      · obtain rfl := length_of_eq_take hle h
        exact .inl ⟨rfl, hone.1 h.symm, rfl⟩
      · exact .inr (.inr ⟨k, rfl, hle, .inl h⟩)
      · obtain rfl := length_of_eq_take hle h
        exact .inr (.inl ⟨rfl, h.symm, rfl⟩)
      · exact .inr (.inr ⟨k, rfl, hle, .inr h⟩)
    · rintro (⟨rfl, h, hk⟩ | ⟨rfl, h, hk⟩ | ⟨_, rfl, hle, h⟩)
      · obtain rfl : k = 1 := by omega
        have hle : 1 ≤ s.length := by
          cases s with
          | nil => cases h
          | cons => exact Nat.le_add_left 1 _
        exact ⟨hle, .inl (.inl ⟨rfl, (hone.2 h).symm⟩)⟩
      · obtain rfl : k = 2 := by omega
        have hle : 2 ≤ s.length := by
          have hlen := congrArg List.length h
          simp only [List.length_take, List.length_cons, List.length_nil] at hlen
          omega
        exact ⟨hle, .inr (.inl ⟨rfl, h.symm⟩)⟩
      · exact ⟨hle, h.imp .inr .inr⟩

/-- The search counts from `n` to the end of the first blank line. -/
theorem headEnd?_spec (s : Bytes) (n : Nat) :
    match headEnd? n s with
    | some e => ∃ k, e = n + k ∧ HeadEnds s k
    | none => ∀ e, ¬ BlankLineEnds s e := by
  induction s generalizing n with
  | nil => exact fun _ => not_blankLineEnds_nil
  | cons b s ih =>
    by_cases hlf : b = 10 ∧ s.head? = some 10
    · rw [headEnd?, if_pos hlf]
      refine ⟨2, rfl, blankLineEnds_cons.2 (.inl ⟨hlf.1, hlf.2, rfl⟩), fun e' hlt h => ?_⟩
      exact absurd (two_le_of_blankLineEnds h) (Nat.not_le_of_lt hlt)
    by_cases hcr : b = 10 ∧ s.take 2 = [13, 10]
    · rw [headEnd?, if_neg hlf, if_pos hcr]
      refine ⟨3, rfl, blankLineEnds_cons.2 (.inr (.inl ⟨hcr.1, hcr.2, rfl⟩)), fun e' hlt h => ?_⟩
      rcases blankLineEnds_cons.1 h with ⟨hb, hs, -⟩ | ⟨-, -, rfl⟩ | ⟨k, rfl, hk⟩
      · exact hlf ⟨hb, hs⟩
      · exact Nat.lt_irrefl _ hlt
      · have hle := two_le_of_blankLineEnds hk
        omega
    -- no blank line starts at the first byte, so all of them are those of the rest
    have hlater (e : Nat) : BlankLineEnds (b :: s) e ↔ ∃ k, e = k + 1 ∧ BlankLineEnds s k := by
      rw [blankLineEnds_cons, or_iff_right fun h => hlf ⟨h.1, h.2.1⟩,
        or_iff_right fun h => hcr ⟨h.1, h.2.1⟩]
    rw [headEnd?, if_neg hlf, if_neg hcr]
    specialize ih (n + 1)
    split at ih
    · obtain ⟨k, rfl, hblank, hfirst⟩ := ih
      refine ⟨k + 1, by omega, (hlater _).2 ⟨k, rfl, hblank⟩, fun e' hlt h => ?_⟩
      obtain ⟨k', rfl, hk'⟩ := (hlater e').1 h
      exact hfirst k' (by omega) hk'
    · intro e h
      obtain ⟨k, -, hk⟩ := (hlater e).1 h
      exact ih k hk

theorem headEnd?_eq_some_iff : headEnd? 0 s = some e ↔ HeadEnds s e := by
  have hspec := headEnd?_spec s 0
  split at hspec
  · rename_i e' he'
    obtain ⟨k, rfl, hk⟩ := hspec
    rw [he', Nat.zero_add, Option.some.injEq]
    exact ⟨fun h => h ▸ hk, fun h => hk.unique h⟩
  · rename_i hnone
    rw [hnone]
    exact ⟨fun h => absurd h (by simp), fun h => absurd h.blank (hspec e)⟩

theorem headEnd?_eq_none_iff : headEnd? 0 s = none ↔ ∀ e, ¬ BlankLineEnds s e := by
  have hspec := headEnd?_spec s 0
  split at hspec
  · rename_i e' he'
    obtain ⟨k, rfl, hk⟩ := hspec
    rw [he']
    exact ⟨fun h => absurd h (by simp), fun h => absurd hk.blank (h k)⟩
  · rename_i hnone
    exact ⟨fun _ => hspec, fun _ => hnone⟩

/-! ## Reading the head -/

/-- The buffer has room for more while a head may still be complete, and never for more than a head may
have. -/
theorem capacity_bounds (h : n < maxHead) : n < capacity n ∧ capacity n ≤ maxHead := by
  unfold capacity
  split
  · rename_i hn
    exact ⟨hn, by decide⟩
  · rename_i hn
    have hlog : n.log2 < 13 := (Nat.log2_lt (by omega)).2 h
    rw [Nat.one_shiftLeft]
    refine ⟨Nat.lt_log2_self, ?_⟩
    have hpow : 2 ^ (n.log2 + 1) ≤ 2 ^ 13 := Nat.pow_le_pow_right (by decide) (by omega)
    exact hpow

theorem receiveHead_of_some {buffer : Bytes} (h : headEnd? 0 buffer = some e) :
    receiveHead buffer = .done (.ok (buffer, e)) := by
  rw [receiveHead, h]

theorem receiveHead_of_full {buffer : Bytes} (h : headEnd? 0 buffer = none)
    (hfull : maxHead ≤ buffer.length) :
    receiveHead buffer = .done (.error (.protocol s!"request head exceeds {maxHead} bytes")) := by
  rw [receiveHead, h]
  exact dif_pos hfull

theorem receiveHead_of_room {buffer : Bytes} (h : headEnd? 0 buffer = none)
    (hroom : buffer.length < maxHead) :
    receiveHead buffer = .recv (capacity buffer.length - buffer.length) false fun r =>
      match r with
      | .error f => .done (.error (.io f))
      | .ok b =>
        if b = [] then .done (.error (.protocol "connection closed before end of request head"))
        else receiveHead (buffer ++ b) := by
  rw [receiveHead, h]
  exact dif_neg (Nat.not_le_of_lt hroom)

/-- What comes of reading a head from a client that says `s`, and what is left to read. -/
inductive HeadRead (s : Bytes) (ended : Bool) :
    Option (Except Error (Bytes × Nat)) → Bytes → Prop where
  | found {e : Nat} {buffer rest : Bytes} (all : buffer ++ rest = s) (ends : HeadEnds s e)
      (inside : e ≤ buffer.length) (bounded : buffer.length ≤ maxHead) :
      HeadRead s ended (some (.ok (buffer, e))) rest
  | tooLong (long : maxHead ≤ s.length) (endless : ∀ e ≤ maxHead, ¬ BlankLineEnds s e) :
      HeadRead s ended (some (.error (.protocol s!"request head exceeds {maxHead} bytes")))
        (s.drop maxHead)
  | cutShort (short : s.length < maxHead) (endless : ∀ e, ¬ BlankLineEnds s e)
      (last : ended = true) :
      HeadRead s ended
        (some (.error (.protocol "connection closed before end of request head"))) []
  | waits (short : s.length < maxHead) (endless : ∀ e, ¬ BlankLineEnds s e)
      (more : ended = false) : HeadRead s ended none []

/-- Reading goes on with what has been read so far, whatever the reads were. -/
theorem receiveHead_run (buffer : Bytes) {c : Channel} {rest : Bytes} (hc : c.Steady rest)
    (hbuffer : buffer.length ≤ maxHead) :
    let z := (receiveHead buffer).run c
    ∃ left, HeadRead (buffer ++ rest) c.ended z.1.result? left ∧ c.Moved left [] z.2 := by
  induction hk : maxHead - buffer.length using Nat.strongRecOn generalizing buffer c rest with
  | ind k ih =>
    cases hend : headEnd? 0 buffer with
    | some e =>
      have hends := headEnd?_eq_some_iff.1 hend
      have hle : e ≤ buffer.length := hends.blank.1
      rw [receiveHead_of_some hend]
      exact ⟨rest, .found rfl ((headEnds_append hle).2 hends) hle hbuffer, hc.toHolds.refl⟩
    | none =>
      have hendless := headEnd?_eq_none_iff.1 hend
      by_cases hfull : maxHead ≤ buffer.length
      · have hlen : buffer.length = maxHead := by omega
        have hdrop : (buffer ++ rest).drop maxHead = rest := List.drop_left' hlen
        have hlong : HeadRead (buffer ++ rest) c.ended _ _ := .tooLong
          (by rw [List.length_append]; omega)
          (fun e he => mt (blankLineEnds_append (by omega)).1 (hendless e))
        rw [receiveHead_of_full hend hfull]
        rw [hdrop] at hlong
        exact ⟨rest, hlong, hc.toHolds.refl⟩
      · have hroom : buffer.length < maxHead := Nat.lt_of_not_le hfull
        obtain ⟨hgrows, hmost⟩ := capacity_bounds hroom
        rw [receiveHead_of_room hend hroom, run_recv]
        rcases hc.read_cases false (Nat.sub_pos_of_lt hgrows) with
          ⟨rfl, c', hmoved, hread⟩ | ⟨b, rest', c', hb, hle, rfl, hc', hmoved, hread⟩
        · rw [hread, List.append_nil]
          cases hended : c.ended with
          | true => exact ⟨[], .cutShort hroom hendless rfl, hmoved⟩
          | false => exact ⟨[], .waits hroom hendless rfl, hmoved⟩
        · have hpos : 0 < b.length := List.length_pos_iff.2 hb
          have hfits : (buffer ++ b).length ≤ maxHead := by
            rw [List.length_append]
            omega
          have hless : maxHead - (buffer ++ b).length < k := by
            rw [List.length_append]
            omega
          obtain ⟨left, hhead, hmoved'⟩ := ih _ hless (buffer ++ b) hc' hfits rfl
          rw [hread]
          dsimp only
          rw [if_neg hb]
          rw [List.append_assoc, hmoved.ended] at hhead
          exact ⟨left, hhead, hmoved.trans hmoved'⟩

/-! ## The request -/

/-- What becomes of a head that has been read. -/
def requested : Except Error (Bytes × Nat) → Except Error Request
  | .ok (buffered, e) => (parseHead (buffered.take e)).map fun line => ⟨line, buffered, e⟩
  | .error err => .error err

theorem requested_eq_ok_iff {buffered : Bytes} {r : Request} :
    requested (.ok (buffered, e)) = .ok r ↔
      ∃ line, parseHead (buffered.take e) = .ok line ∧ r = ⟨line, buffered, e⟩ := by
  simp only [requested]
  cases parseHead (buffered.take e) with
  | error => exact ⟨nofun, nofun⟩
  | ok line =>
    constructor
    · rintro ⟨⟩
      exact ⟨line, rfl, rfl⟩
    · rintro ⟨_, ⟨⟩, rfl⟩
      rfl

/-- What is made of a head that has been read. -/
def receiveParsed : Except Error (Bytes × Nat) → Talk (Except Error Request) :=
  ExceptT.bindCont fun (buffered, e) =>
    match parseHead (buffered.take e) with
    | .ok line => pure ⟨line, buffered, e⟩
    | .error err => throw err

theorem receiveParsed_eq (r : Except Error (Bytes × Nat)) : receiveParsed r = .done (requested r) := by
  rcases r with err | ⟨buffered, e⟩
  · rfl
  · simp only [receiveParsed, ExceptT.bindCont, requested]
    cases parseHead (buffered.take e) <;> rfl

/-- Once its head has been read there is no more to read of a request. -/
theorem receiveRequest_run (c : Channel) :
    (receiveRequest.run.run c).1.result? = ((receiveHead []).run c).1.result?.map requested ∧
      (receiveRequest.run.run c).2 = ((receiveHead []).run c).2 := by
  have hbind : receiveRequest.run = (receiveHead []).bind receiveParsed := rfl
  rw [hbind, run_bind]
  cases hresult : ((receiveHead []).run c).1.result? with
  | none => exact ⟨result?_bind hresult, rfl⟩
  | some r =>
    dsimp only
    rw [receiveParsed_eq]
    exact ⟨rfl, rfl⟩

namespace HeadRead

variable {ended : Bool} {r : Option (Except Error (Bytes × Nat))} {left : Bytes}

theorem of_ends (h : HeadRead s ended r left) (hends : HeadEnds s e) (hle : e ≤ maxHead) :
    ∃ buffer, r = some (.ok (buffer, e)) ∧ buffer ++ left = s ∧ e ≤ buffer.length := by
  cases h with
  | found all ends inside =>
    obtain rfl := hends.unique ends
    exact ⟨_, rfl, all, inside⟩
  | tooLong _ endless => exact absurd hends.blank (endless e hle)
  | cutShort _ endless | waits _ endless => exact absurd hends.blank (endless e)

/-- Without a head within the limit it depends on what else is there. -/
theorem of_endless (h : HeadRead s ended r left) (hno : ∀ e ≤ maxHead, ¬ BlankLineEnds s e) :
    r = if maxHead ≤ s.length then some (.error (.protocol "request head exceeds 8192 bytes"))
      else if ended then
        some (.error (.protocol "connection closed before end of request head"))
      else none := by
  cases h with
  | found _ ends inside bounded => exact absurd ends.blank (hno _ (Nat.le_trans inside bounded))
  | tooLong long => exact (if_pos long).symm
  | cutShort short _ last => rw [if_neg (Nat.not_le_of_lt short), if_pos last]
  | waits short _ more => rw [if_neg (Nat.not_le_of_lt short), if_neg (by simp [more])]

end HeadRead

/-- What has been read when a request is complete, or cannot be any more. -/
theorem receiveRequest_attend (arrivals : List Bytes) (ended : Bool) :
    let z := receiveRequest.run.attend arrivals ended
    ∃ (r : Option (Except Error (Bytes × Nat))) (left : Bytes),
      HeadRead arrivals.flatten ended r left ∧ z.1.result? = r.map requested ∧
        z.2.unread = left ∧ z.2.written = [] := by
  intro z
  have hz : z = receiveRequest.run.run (arrived arrivals ended) := attend_eq _ _ _
  obtain ⟨left, hhead, hmoved⟩ := receiveHead_run [] (Channel.steady_arrived arrivals ended)
    (Nat.zero_le _)
  obtain ⟨hresult, hchannel⟩ := receiveRequest_run (arrived arrivals ended)
  rw [hz, hresult, hchannel]
  exact ⟨_, left, hhead, rfl, hmoved.holds.unread, hmoved.written⟩

/-- **Reading a request head does not depend on how its bytes arrive.** Let the first blank line that a
client sends end at `e`, within the limit. Then the request is what its first `e` bytes make of it, or
fails as they do, and what was read beyond them is followed by what is still to be read. If no blank line
ends within the limit, the request fails once as many bytes have arrived or the client has ended, and
before that it waits. So no head beyond the limit is accepted. Nothing is written. -/
theorem head_independent (arrivals : List Bytes) (ended : Bool) :
    let s := arrivals.flatten
    let z := receiveRequest.run.attend arrivals ended
    (∀ e ≤ maxHead, HeadEnds s e →
      (∀ line, parseHead (s.take e) = .ok line → ∃ r : Request, z.1.result? = some (.ok r) ∧
        r.line = line ∧ r.headLength = e ∧ r.head = s.take e ∧ r.leftover ++ z.2.unread = s.drop e) ∧
      (∀ err, parseHead (s.take e) = .error err →
        z.1.result? = some (.error err) ∧ z.2.unread <:+ s.drop e)) ∧
    ((∀ e ≤ maxHead, ¬ BlankLineEnds s e) → z.1.result? =
      if maxHead ≤ s.length then some (.error (.protocol "request head exceeds 8192 bytes"))
      else if ended then
        some (.error (.protocol "connection closed before end of request head"))
      else none) ∧
    (∀ r : Request, z.1.result? = some (.ok r) →
      HeadEnds s r.headLength ∧ r.headLength ≤ maxHead) ∧
    z.2.written = [] := by
  intro s z
  obtain ⟨r, left, hhead, hresult, hunread, hwritten⟩ := receiveRequest_attend arrivals ended
  refine ⟨fun e hle hends => ?_, fun hno => ?_, fun request hrequest => ?_, hwritten⟩
  · obtain ⟨buffer, rfl, hall, hinside⟩ := hhead.of_ends hends hle
    have htake : buffer.take e = s.take e := by
      rw [← List.take_append_of_le_length hinside, hall]
    have hdrop : buffer.drop e ++ left = s.drop e := by
      rw [← List.drop_append_of_le_length hinside, hall]
    refine ⟨fun line hline => ?_, fun err herr => ?_⟩
    · refine ⟨⟨line, buffer, e⟩, ?_, rfl, rfl, htake, ?_⟩
      · rw [hresult, Option.map_some, requested, htake, hline]
        rfl
      · rw [hunread]
        exact hdrop
    · rw [hresult, Option.map_some, requested, htake, herr, hunread]
      exact ⟨rfl, buffer.drop e, hdrop⟩
  · rw [hresult, hhead.of_endless hno]
    split
    · rfl
    · split <;> rfl
  · rw [hresult] at hrequest
    cases hhead with
    | found _ ends inside bounded =>
      obtain ⟨line, -, rfl⟩ := requested_eq_ok_iff.1 (Option.some.inj hrequest)
      exact ⟨ends, Nat.le_trans inside bounded⟩
    | tooLong | cutShort | waits => cases hrequest

/-- The blank line arrives in pieces, and the last of them goes on. -/
def inPieces : List Bytes := [Bytes.ofText "CONNECT a:1 HTTP/1.1\n", [13], [10, 13, 10, 7], [8]]

theorem head_in_pieces :
    let z := receiveRequest.run.attend inPieces false
    HeadEnds inPieces.flatten 23 ∧ ∃ r : Request, z.1.result? = some (.ok r) ∧
      r.line.target = .tunnel (.domain "a" 1) ∧ r.headLength = 23 ∧
      r.leftover ++ z.2.unread = [13, 10, 7, 8] := by
  intro z
  have hends : HeadEnds inPieces.flatten 23 := headEnd?_eq_some_iff.1 (by decide +kernel)
  have hline : parseHead (inPieces.flatten.take 23) =
      .ok ⟨"CONNECT", "HTTP/1.1", .tunnel (.domain "a" 1)⟩ := by decide +kernel
  have hbehind : inPieces.flatten.drop 23 = [13, 10, 7, 8] := by decide +kernel
  obtain ⟨hhead, -⟩ := head_independent inPieces false
  obtain ⟨r, hr, hrline, hlength, -, hrest⟩ := (hhead 23 (by decide) hends).1 _ hline
  exact ⟨hends, r, hr, by rw [hrline], hlength, hrest.trans hbehind⟩

end SealedRelay.Proxy.Http
