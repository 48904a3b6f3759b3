import Mathlib.Data.List.Basic
import SealedRelay.Talk

/-!
# Talks that cannot tell in which pieces the bytes arrive

A talk that reads exact amounts and is patient comes to the same end, leaves the same bytes unread and
writes the same, in whatever pieces the bytes arrive and however often it had to wait for them.

Results:
* `run_extend`: a talk that has waited goes on as if all had been there from the start.
* `attend_eq`: so it does when pieces arrive one after the other.
* `hears_recvExactly`, `hears_send`, `Hears.bind`: what a talk hears, put together from its steps.
-/
namespace SealedRelay

namespace Channel

variable {c c' c'' : Channel} {got rest rest' w w' : Bytes}

/-- A piece of which a patient reader only sees bytes: some bytes, or an interruption. -/
def Benign : Except Fault Bytes → Prop
  | .ok b => b ≠ []
  | .error f => f.kind = .interrupted

/-- A channel on which `got` is still to be read, in benign pieces, and on which anything can be
written. -/
structure Holds (c : Channel) (got : Bytes) : Prop where
  pieces : ∀ p ∈ c.pieces, Benign p
  unread : c.unread = got
  room : c.room = none

/-- `c'` is `c` with `rest` still to be read and `w` written. -/
structure Moved (c : Channel) (rest w : Bytes) (c' : Channel) : Prop where
  holds : c'.Holds rest
  ended : c'.ended = c.ended
  written : c'.written = c.written ++ w

theorem Holds.refl (h : c.Holds got) : Moved c got [] c := ⟨h, rfl, by simp⟩

theorem Moved.trans (h : Moved c rest w c') (h' : Moved c' rest' w' c'') :
    Moved c rest' (w ++ w') c'' where
  holds := h'.holds
  ended := h'.ended.trans h.ended
  written := by rw [h'.written, h.written, List.append_assoc]

/-- The channel as a read finds it. -/
def front (c : Channel) (patient : Bool) : Channel := if patient then c.calm else c

/-- Once interruptions have passed, a channel is empty or has bytes at the front. -/
theorem Holds.front_cases (h : c.Holds got) :
    (got = [] ∧ c.front true = { c with pieces := [] }) ∨
      ∃ b pieces, b ≠ [] ∧ c.front true = { c with pieces := .ok b :: pieces } ∧
        (∀ p ∈ pieces, Benign p) ∧ got = b ++ { c with pieces : Channel }.unread := by
  obtain ⟨pieces, ended, room, written⟩ := c
  obtain ⟨hpieces, rfl, hroom⟩ := h
  induction pieces with
  | nil => exact .inl ⟨rfl, rfl⟩
  | cons p pieces ih =>
    obtain ⟨hp, hrest⟩ := List.forall_mem_cons.1 hpieces
    cases p with
    | ok b => exact .inr ⟨b, pieces, hp, rfl, hrest, rfl⟩
    | error f =>
      have hskip : ({ pieces := .error f :: pieces, ended, room, written } : Channel).front true =
          ({ pieces, ended, room, written } : Channel).front true := by
        simp only [front, calm, List.dropWhile_cons, if_true]
        rw [if_pos (by simpa [Benign] using hp)]
      rw [hskip]
      exact ih hrest hroom

/-- What a patient read is told: the end or nothing yet if there are no bytes, and otherwise some of
them. -/
theorem Holds.read_cases (h : c.Holds got) {n : Nat} (hn : 0 < n) :
    (got = [] ∧ ∃ c', Moved c [] [] c' ∧
      (c.front true).read n = (if c.ended then some (.ok []) else none, c')) ∨
      ∃ b rest c', b ≠ [] ∧ b.length ≤ n ∧ got = b ++ rest ∧ Moved c rest [] c' ∧
        (c.front true).read n = (some (.ok b), c') := by
  rcases h.front_cases with ⟨hgot, hfront⟩ | ⟨b, pieces, hb, hfront, hpieces, hgot⟩
  · refine .inl ⟨hgot, { c with pieces := [] }, ⟨⟨nofun, rfl, h.room⟩, rfl, by simp⟩, ?_⟩
    rw [hfront]
    rfl
  · right
    rw [hfront, read]
    dsimp only
    split
    · rename_i hle
      exact ⟨b, _, _, hb, hle, hgot, ⟨⟨hpieces, rfl, h.room⟩, rfl, by simp⟩, rfl⟩
    · rename_i hle
      let left : Channel := { c with pieces := .ok (b.drop n) :: pieces }
      have hleft : left.unread = b.drop n ++ { c with pieces : Channel }.unread := rfl
      refine ⟨b.take n, left.unread, left, ?_, ?_, ?_, ⟨⟨?_, rfl, h.room⟩, rfl, by simp [left]⟩, rfl⟩
      · simp only [ne_eq, List.take_eq_nil_iff, hb, or_false]
        omega
      · exact List.length_take_le n b
      · rw [hleft, ← List.append_assoc, List.take_append_drop, hgot]
      · refine List.forall_mem_cons.2 ⟨?_, hpieces⟩
        simp only [Benign, ne_eq, List.drop_eq_nil_iff]
        omega

/-! ## More arrives -/

/-- A channel on which more arrives, and perhaps then nothing more. -/
def extend (c : Channel) (more : List (Except Fault Bytes)) (ended : Bool) : Channel :=
  { c with pieces := c.pieces ++ more, ended }

theorem extend_extend (c : Channel) (more later : List (Except Fault Bytes)) (e e' : Bool) :
    (c.extend more e).extend later e' = c.extend (more ++ later) e' := by
  simp only [extend, List.append_assoc]

theorem ended_read (c : Channel) (most : Nat) : (c.read most).2.ended = c.ended := by
  unfold read
  split
  · rfl
  · rfl
  · split <;> rfl

theorem written_read (c : Channel) (most : Nat) : (c.read most).2.written = c.written := by
  unfold read
  split
  · rfl
  · rfl
  · split <;> rfl

@[simp] theorem written_arrive (c : Channel) (b : Bytes) : (c.arrive b).written = c.written := by
  unfold arrive
  split <;> rfl

theorem written_write (c : Channel) (data : Bytes) : c.written <+: (c.write data).2.written := by
  unfold write
  split
  · exact List.prefix_append _ _
  · split <;> exact List.prefix_append _ _

/-- Pieces that arrive behind others do not change what a read is told of those. -/
theorem read_extend (h : c.pieces ≠ []) (most : Nat) (more : List (Except Fault Bytes)) (e : Bool) :
    (c.extend more e).read most = ((c.read most).1, (c.read most).2.extend more e) := by
  obtain ⟨pieces, ended, room, written⟩ := c
  rcases pieces with _ | ⟨_ | b, pieces⟩
  · exact absurd rfl h
  · rfl
  · simp only [read, extend, List.cons_append]
    split <;> rfl

theorem read_of_nil (h : c.pieces = []) (hc : c.ended = false) (most : Nat) :
    c.read most = (none, c) := by
  simp [read, h, hc]

theorem exists_read (h : c.pieces ≠ []) (most : Nat) : ∃ r c', c.read most = (some r, c') := by
  unfold read
  split
  · contradiction
  · exact ⟨_, _, rfl⟩
  · split <;> exact ⟨_, _, rfl⟩

@[simp] theorem ended_front (c : Channel) (patient : Bool) : (c.front patient).ended = c.ended := by
  unfold front
  split <;> rfl

@[simp] theorem written_front (c : Channel) (patient : Bool) :
    (c.front patient).written = c.written := by
  unfold front
  split <;> rfl

theorem front_extend_of_ne {patient : Bool} (h : (c.front patient).pieces ≠ [])
    (more : List (Except Fault Bytes)) (e : Bool) :
    (c.extend more e).front patient = (c.front patient).extend more e := by
  cases patient with
  | false => rfl
  | true =>
    simp only [front, calm, extend, List.dropWhile_append, if_true] at h ⊢
    rw [if_neg (by simpa using h)]

theorem front_extend_of_nil {patient : Bool} (h : (c.front patient).pieces = [])
    (more : List (Except Fault Bytes)) (e : Bool) :
    ((c.front patient).extend more e).front patient = (c.extend more e).front patient := by
  cases patient with
  | false => rfl
  | true =>
    simp only [front, calm, extend, List.dropWhile_append, if_true] at h ⊢
    rw [h]
    rfl

theorem write_extend (c : Channel) (data : Bytes) (more : List (Except Fault Bytes)) (e : Bool) :
    (c.extend more e).write data = ((c.write data).1, (c.write data).2.extend more e) ∧
      (c.write data).2.ended = c.ended := by
  simp only [write, extend]
  split
  · exact ⟨rfl, rfl⟩
  · split <;> exact ⟨rfl, rfl⟩

end Channel

namespace Talk

variable {α β ε : Type} {t : Talk α} {got rest rest' w w' : Bytes} {ended : Bool}

theorem run_recv (most : Nat) (patient : Bool) (next : Except Fault Bytes → Talk α) (c : Channel) :
    (recv most patient next).run c =
      match (c.front patient).read most with
      | (none, c) => (recv most patient next, c)
      | (some r, c) => (next r).run c := by
  rw [run]
  rfl

/-- A talk that has waited goes on as if everything had been there from the start. -/
theorem run_extend (t : Talk α) {c : Channel} (hc : c.ended = false)
    (more : List (Except Fault Bytes)) (e : Bool) :
    (t.run c).1.run ((t.run c).2.extend more e) = t.run (c.extend more e) := by
  induction t generalizing c with
  | done => rfl
  | send data next ih =>
    obtain ⟨hwrite, hended⟩ := c.write_extend data more e
    simp only [run, hwrite]
    exact ih _ (hended.trans hc)
  | recv most patient next ih =>
    have hfront : (c.front patient).ended = false := (c.ended_front patient).trans hc
    by_cases hp : (c.front patient).pieces = []
    · rw [run_recv _ _ _ c, Channel.read_of_nil hp hfront]
      dsimp only
      rw [run_recv, Channel.front_extend_of_nil hp, ← run_recv]
    · obtain ⟨r, c', hread⟩ := Channel.exists_read hp most
      have hended := ((c.front patient).ended_read most).trans hfront
      rw [run_recv _ _ _ c, run_recv, Channel.front_extend_of_ne hp, Channel.read_extend hp]
      rw [hread] at hended ⊢
      exact ih r hended

/-- A talk to which bytes arrive in pieces, and perhaps in the end no more. It goes on with each piece
as far as it can. -/
def attend (t : Talk α) (arrivals : List Bytes) (ended : Bool) : Talk α × Channel :=
  let start := t.run { pieces := [], ended := false }
  let (t, c) := arrivals.foldl (fun r b => r.1.run (r.2.arrive b)) start
  if ended then t.run { c with ended } else (t, c)

theorem attend_concat (t : Talk α) (arrivals : List Bytes) (b : Bytes) :
    t.attend (arrivals ++ [b]) false =
      (t.attend arrivals false).1.run ((t.attend arrivals false).2.arrive b) := by
  simp [attend, List.foldl_append]

/-- The pieces as a channel that holds all of them. -/
def arrived (arrivals : List Bytes) (ended : Bool) : Channel where
  pieces := (arrivals.filter (· ≠ [])).map .ok
  ended

theorem holds_arrived (arrivals : List Bytes) (ended : Bool) :
    (arrived arrivals ended).Holds arrivals.flatten where
  pieces p hp := by
    obtain ⟨b, hb, rfl⟩ := List.mem_map.1 hp
    simpa [Channel.Benign] using (List.mem_filter.1 hb).2
  unread := by
    simp only [Channel.unread, arrived, List.flatMap_map]
    induction arrivals with
    | nil => rfl
    | cons b arrivals ih => by_cases hb : b = [] <;> simp_all
  room := rfl

theorem ended_run (t : Talk α) (c : Channel) : (t.run c).2.ended = c.ended := by
  induction t generalizing c with
  | done => rfl
  | send data next ih => exact (ih _ _).trans (c.write_extend data [] false).2
  | recv most patient next ih =>
    have hread := ((c.front patient).ended_read most).trans (c.ended_front patient)
    rw [run_recv]
    split
    · rename_i hr
      rwa [hr] at hread
    · rename_i hr
      rw [hr] at hread
      exact (ih _ _).trans hread

theorem written_run (t : Talk α) (c : Channel) : c.written <+: (t.run c).2.written := by
  induction t generalizing c with
  | done => exact List.prefix_rfl
  | send data next ih => exact (c.written_write data).trans (ih _ _)
  | recv most patient next ih =>
    have hread := ((c.front patient).written_read most).trans (c.written_front patient)
    rw [run_recv]
    split
    · rename_i hr
      rw [hr] at hread
      exact hread ▸ List.prefix_rfl
    · rename_i hr
      rw [hr] at hread
      exact hread ▸ ih _ _

theorem foldl_arrive (t : Talk α) {c : Channel} (hc : c.ended = false) (arrivals : List Bytes) :
    arrivals.foldl (fun r b => r.1.run (r.2.arrive b)) (t.run c) =
      t.run (c.extend ((arrivals.filter (· ≠ [])).map .ok) false) := by
  induction arrivals generalizing c with
  | nil =>
    rw [List.foldl_nil, List.filter_nil, List.map_nil, Channel.extend, List.append_nil, ← hc]
  | cons b arrivals ih =>
    have harrive : (t.run c).2.arrive b =
        (t.run c).2.extend (([b].filter (· ≠ [])).map .ok) false := by
      have hended : (t.run c).2.ended = false := (t.ended_run c).trans hc
      by_cases hb : b = []
      · simp [Channel.arrive, Channel.extend, hb, ← hended]
      · simp [Channel.arrive, Channel.extend, hb, ← hended]
    rw [List.foldl_cons, harrive, run_extend t hc, ih rfl, Channel.extend_extend,
      ← List.map_append, ← List.filter_append, List.singleton_append]

/-- Pieces that arrive one by one might as well have been there from the start. -/
theorem attend_eq (t : Talk α) (arrivals : List Bytes) (ended : Bool) :
    t.attend arrivals ended = t.run (arrived arrivals ended) := by
  let c : Channel := { pieces := [], ended := false }
  have hall := t.foldl_arrive (show c.ended = false from rfl) arrivals
  have hstart : c.extend ((arrivals.filter (· ≠ [])).map .ok) false = arrived arrivals false := rfl
  rw [hstart] at hall
  cases ended with
  | false => exact hall
  | true =>
    have hmore := t.run_extend (show (arrived arrivals false).ended = false from rfl) [] true
    simp only [Channel.extend, List.append_nil] at hmore
    simp only [attend, if_true]
    rw [hall, hmore]
    rfl

/-! ## What a talk hears -/

/-- Whatever benign pieces bring `got`, the talk comes to `r` (or waits), leaves `rest` unread and writes
`w`. -/
def Hears (t : Talk α) (got : Bytes) (ended : Bool) (r : Option α) (rest w : Bytes) : Prop :=
  ∀ c : Channel, c.Holds got → c.ended = ended →
    (t.run c).1.result? = r ∧ c.Moved rest w (t.run c).2

theorem result?_bind {f : α → Talk β} (h : t.result? = none) : (t.bind f).result? = none := by
  cases t with
  | done => cases h
  | recv | send => rfl

theorem hears_done (a : α) (got : Bytes) (ended : Bool) : (done a).Hears got ended (some a) got [] :=
  fun _ hc _ => ⟨rfl, hc.refl⟩

theorem Hears.send {next : Except Fault Unit → Talk α} {data : Bytes} {r : Option α}
    (h : (next (.ok ())).Hears got ended r rest w) :
    (Talk.send data next).Hears got ended r rest (data ++ w) := by
  intro c hc he
  have hwrite : c.write data = (.ok (), { c with written := c.written ++ data }) := by
    simp only [Channel.write, hc.room]
  have hwritten : c.Moved got data { c with written := c.written ++ data } :=
    ⟨⟨hc.pieces, hc.unread, hc.room⟩, rfl, rfl⟩
  obtain ⟨hr, hmoved⟩ := h _ hwritten.holds he
  rw [run, hwrite]
  exact ⟨hr, hwritten.trans hmoved⟩

/-- A write is all that is left to do. -/
theorem hears_send {next : Except Fault Unit → Talk α} {a : α} (h : next (.ok ()) = done a)
    (data got : Bytes) (ended : Bool) : (Talk.send data next).Hears got ended (some a) got data := by
  have hsent : (Talk.send data next).Hears got ended (some a) got (data ++ []) :=
    Hears.send (h ▸ hears_done a got ended)
  rwa [List.append_nil] at hsent

theorem run_bind (t : Talk α) (f : α → Talk β) (c : Channel) :
    (t.bind f).run c =
      match (t.run c).1.result? with
      | some a => (f a).run (t.run c).2
      | none => ((t.run c).1.bind f, (t.run c).2) := by
  induction t generalizing c with
  | done => rfl
  | send data next ih =>
    rw [Talk.bind, run, run]
    exact ih _ _
  | recv most patient next ih =>
    rw [Talk.bind, run_recv, run_recv]
    split
    · rfl
    · exact ih _ _

theorem Hears.bind {f : α → Talk β} {a : α} {r : Option β} (h : t.Hears got ended (some a) rest w)
    (hf : (f a).Hears rest ended r rest' w') : (t.bind f).Hears got ended r rest' (w ++ w') := by
  intro c hc he
  obtain ⟨hr, hmoved⟩ := h c hc he
  obtain ⟨hr', hmoved'⟩ := hf _ hmoved.holds (hmoved.ended.trans he)
  rw [run_bind, hr]
  exact ⟨hr', hmoved.trans hmoved'⟩

theorem Hears.bind_none {f : α → Talk β} (h : t.Hears got ended none rest w) :
    (t.bind f).Hears got ended none rest w := by
  intro c hc he
  obtain ⟨hr, hmoved⟩ := h c hc he
  rw [run_bind, hr]
  exact ⟨result?_bind hr, hmoved⟩

/-! ## Exact reads -/

theorem recvExactly_zero (acc : Bytes) : recvExactly 0 acc = done (.ok acc) := by
  rw [recvExactly]
  rfl

theorem recvExactly_of_pos {n : Nat} (hn : 0 < n) (acc : Bytes) :
    recvExactly n acc = recv n true fun r =>
      match r with
      | .error f => done (.error f)
      | .ok b =>
        if b = [] then done (.error .earlyEnd)
        else recvExactly (n - b.length) (acc ++ b.take n) := by
  rw [recvExactly, dif_neg (Nat.ne_of_gt hn)]
  rfl

/-- An exact read gets what is there, if it is enough. Otherwise it waits, or finds that the input has
ended. -/
theorem hears_recvExactly (n : Nat) (acc got : Bytes) (ended : Bool) :
    (recvExactly n acc).Hears got ended
      (if n ≤ got.length then some (.ok (acc ++ got.take n))
        else if ended then some (.error .earlyEnd) else none)
      (got.drop n) [] := by
  induction n using Nat.strongRecOn generalizing acc got with
  | ind n ih =>
    cases Nat.eq_zero_or_pos n with
    | inl hzero =>
      subst hzero
      rw [recvExactly_zero, if_pos (Nat.zero_le _), List.take_zero, List.append_nil]
      exact hears_done _ got ended
    | inr hpos =>
      intro c hc he
      rw [recvExactly_of_pos hpos, run_recv]
      rcases hc.read_cases hpos with ⟨rfl, c', hmoved, hread⟩ | ⟨b, rest, c', hb, hle, rfl, hmoved, hread⟩
      · have hfew : ¬ n ≤ ([] : Bytes).length := Nat.not_le_of_lt hpos
        rw [hread, he, if_neg hfew, List.drop_nil]
        cases ended with
        | false => exact ⟨rfl, hmoved⟩
        | true => exact ⟨rfl, hmoved⟩
      · have hlen : 0 < b.length := List.length_pos_iff.2 hb
        have hmore : n - b.length ≤ rest.length ↔ n ≤ (b ++ rest).length := by
          rw [List.length_append]
          omega
        have htake : (b ++ rest).take n = b.take n ++ rest.take (n - b.length) := List.take_append
        have hdrop : (b ++ rest).drop n = rest.drop (n - b.length) := by
          rw [List.drop_append, List.drop_eq_nil_of_le hle, List.nil_append]
        obtain ⟨hr, hmoved'⟩ := ih (n - b.length) (by omega) (acc ++ b.take n) rest c' hmoved.holds
          (hmoved.ended.trans he)
        rw [hread]
        dsimp only
        rw [if_neg hb, htake, hdrop, ← List.append_assoc]
        simp only [hmore] at hr
        exact ⟨hr, hmoved.trans hmoved'⟩

/-- A talk to which bytes arrive in pieces comes to what it hears. -/
theorem Hears.attend {arrivals : List Bytes} {r : Option α}
    (h : t.Hears arrivals.flatten ended r rest w) :
    (t.attend arrivals ended).1.result? = r ∧ (t.attend arrivals ended).2.unread = rest ∧
      (t.attend arrivals ended).2.written = w := by
  obtain ⟨hr, hmoved⟩ := h _ (holds_arrived arrivals ended) rfl
  rw [attend_eq]
  exact ⟨hr, hmoved.holds.unread, hmoved.written⟩

/-! ## Exchanges that can fail -/

section Exchange

variable {x : ExceptT ε Talk α} {f : α → ExceptT ε Talk β} {r : Option (Except ε β)}

theorem hears_pure (a : α) (got : Bytes) (ended : Bool) :
    (pure a : ExceptT ε Talk α).run.Hears got ended (some (.ok a)) got [] :=
  hears_done _ got ended

theorem Hears.bind_ok {a : α} (h : x.run.Hears got ended (some (.ok a)) rest w)
    (hf : (f a).run.Hears rest ended r rest' w') : (x >>= f).run.Hears got ended r rest' (w ++ w') :=
  Hears.bind h hf

theorem Hears.bind_error {e : ε} (h : x.run.Hears got ended (some (.error e)) rest w) :
    (x >>= f).run.Hears got ended (some (.error e)) rest w := by
  have hstop : (ExceptT.bindCont f (.error e)).Hears rest ended (some (.error e)) rest [] :=
    hears_done _ rest ended
  exact List.append_nil w ▸ Hears.bind h hstop

theorem Hears.bind_waits (h : x.run.Hears got ended none rest w) :
    (x >>= f).run.Hears got ended none rest w :=
  Hears.bind_none h

/-- An exchange that has not succeeded yet, or never will, does not go on. -/
theorem Hears.bind_stops {r : Option (Except ε α)} (h : x.run.Hears got ended r rest w)
    (hr : ∀ a, r ≠ some (.ok a)) :
    ∃ r' : Option (Except ε β), (x >>= f).run.Hears got ended r' rest w ∧
      (∀ b, r' ≠ some (.ok b)) ∧ (r = none → r' = none) := by
  rcases r with _ | ⟨e | a⟩
  · exact ⟨none, h.bind_waits, nofun, fun _ => rfl⟩
  · exact ⟨some (.error e), h.bind_error, nofun, nofun⟩
  · exact absurd rfl (hr a)

end Exchange

end Talk

end SealedRelay
