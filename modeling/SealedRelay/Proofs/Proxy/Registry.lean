import Mathlib.Algebra.BigOperators.Group.List.Lemmas
import Mathlib.Algebra.GroupWithZero.Nat
import Mathlib.Data.List.Dedup
import SealedRelay.Proxy.Registry

/-!
# No byte is counted twice and none is lost

What a registry holds is what has happened to it: whom it was told of, what was counted for each of them
and who is done. A client that is done leaves the list and goes into the totals and into the tally of its
destination, which is the same amount in another place.

Results:
* `Keeps.tally`: changing one tally changes nothing else.
* `Legal.books`: after any moves the registry holds what they say.
* `snapshot_conserves`: so every report adds up.
-/
namespace SealedRelay

/-! ## Sums of traffic -/

namespace Traffic

instance : Zero Traffic := ⟨{}⟩

theorem zero_eq : (0 : Traffic) = ⟨0, 0⟩ := rfl

theorem add_eq (a b : Traffic) : a + b = ⟨a.upload + b.upload, a.download + b.download⟩ := rfl

instance : AddCommMonoid Traffic where
  add_assoc a b c := by simp only [add_eq, Nat.add_assoc]
  zero_add a := by simp only [zero_eq, add_eq, Nat.zero_add]
  add_zero a := rfl
  add_comm a b := by simp only [add_eq, Nat.add_comm]
  nsmul := nsmulRec

theorem total_eq_sum (ts : List Traffic) : total ts = ts.sum :=
  List.sum_eq_foldl.symm

end Traffic

namespace Proxy

/-- The traffic of some registrations. -/
def share (p : Registration → Bool) (l : List Registration) : Traffic :=
  Traffic.total ((l.filter p).map (·.traffic))

variable {p q s : Registration → Bool} {l : List Registration} {a b : Registration}

theorem share_eq (p : Registration → Bool) (l : List Registration) :
    share p l = (l.map fun a => if p a then a.traffic else 0).sum := by
  rw [share, Traffic.total_eq_sum]
  induction l with
  | nil => rfl
  | cons a l ih =>
    rw [List.filter_cons, List.map_cons, List.sum_cons, ← ih]
    split
    · rw [List.map_cons, List.sum_cons]
    · rw [zero_add]

theorem share_congr (h : ∀ a ∈ l, p a = q a) : share p l = share q l := by
  rw [share, share, List.filter_congr h]

theorem share_map {f : Registration → Registration} (h : ∀ a ∈ l, q (f a) = p a)
    (same : ∀ a ∈ l, p a = true → (f a).traffic = a.traffic) : share q (l.map f) = share p l := by
  rw [share_eq, share_eq, List.map_map]
  refine congrArg List.sum (List.map_congr_left fun a ha => ?_)
  rw [Function.comp_apply, h a ha]
  cases hp : p a with
  | false => rfl
  | true => exact same a ha hp

theorem share_concat (p : Registration → Bool) (l : List Registration) (a : Registration) :
    share p (l ++ [a]) = share p l + if p a then a.traffic else 0 := by
  simp only [share_eq, List.map_append, List.sum_append, List.map_cons, List.map_nil, List.sum_singleton]

theorem share_add (h : ∀ a ∈ l, q a = (p a || s a)) (apart : ∀ a ∈ l, p a = true → s a = false) :
    share q l = share p l + share s l := by
  rw [share_eq, share_eq, share_eq, ← List.sum_map_add]
  refine congrArg List.sum (List.map_congr_left fun a ha => ?_)
  rw [h a ha]
  cases hp : p a with
  | false => simp
  | true => simp [apart a ha hp]

end Proxy

end SealedRelay

namespace SealedRelay.Proxy.Registry

/-! ## Tallies -/

/-- The tallies of these destinations, in order, as `f` has them. -/
structure Keeps (ts : List Tally) (texts : List String) (f : String → Tally) : Prop where
  sorted : ts.Pairwise (·.destination < ·.destination)
  mem : ∀ text, text ∈ ts.map (·.destination) ↔ text ∈ texts
  eq : ∀ t ∈ ts, t = f t.destination

variable {d text : String} {g : Tally → Tally} {t : Tally} {ts : List Tally}

theorem map_tally (hg : ∀ t, (g t).destination = t.destination) (ts : List Tally) :
    text ∈ (tally d g ts).map (·.destination) ↔ text ∈ ts.map (·.destination) ∨ text = d := by
  induction ts with
  | nil => simp [tally, hg]
  | cons u ts ih =>
    rw [tally]
    split
    · rename_i hu
      rw [List.map_cons, List.mem_cons, hg, hu, List.map_cons, List.mem_cons, hu, or_right_comm, or_self]
    split
    · rw [List.map_cons, List.mem_cons, hg, or_comm]
    · rw [List.map_cons, List.mem_cons, ih, List.map_cons, List.mem_cons, or_assoc]

theorem sorted_tally (hg : ∀ t, (g t).destination = t.destination)
    (hs : ts.Pairwise (·.destination < ·.destination)) :
    (tally d g ts).Pairwise (·.destination < ·.destination) := by
  induction ts with
  | nil => exact List.pairwise_singleton _ _
  | cons u ts ih =>
    obtain ⟨hu, hts⟩ := List.pairwise_cons.1 hs
    rw [tally]
    split
    · refine List.pairwise_cons.2 ⟨fun t ht => ?_, hts⟩
      rw [hg]
      exact hu t ht
    split
    · rename_i hlt
      refine List.pairwise_cons.2 ⟨fun t ht => ?_, hs⟩
      rw [hg]
      rcases List.mem_cons.1 ht with rfl | ht
      · exact hlt
      · exact String.lt_trans hlt (hu t ht)
    · rename_i hne hle
      refine List.pairwise_cons.2 ⟨fun t ht => ?_, ih hts⟩
      rcases (map_tally hg ts).1 (List.mem_map_of_mem ht) with hin | heq
      · obtain ⟨v, hv, hvt⟩ := List.mem_map.1 hin
        exact hvt ▸ hu v hv
      · rw [heq]
        exact Std.lt_of_le_of_ne (String.not_lt.1 hle) hne

/-- A tally is another one's, or the changed one, or a new one. -/
theorem mem_of_tally (hs : ts.Pairwise (·.destination < ·.destination)) (ht : t ∈ tally d g ts) :
    (t ∈ ts ∧ t.destination ≠ d) ∨ (∃ u ∈ ts, u.destination = d ∧ t = g u) ∨
      (∀ u ∈ ts, u.destination ≠ d) ∧ t = g { destination := d } := by
  induction ts with
  | nil => exact .inr (.inr ⟨nofun, List.mem_singleton.1 ht⟩)
  | cons u ts ih =>
    obtain ⟨hu, hts⟩ := List.pairwise_cons.1 hs
    rw [tally] at ht
    split at ht
    · rename_i hd
      rcases List.mem_cons.1 ht with rfl | ht
      · exact .inr (.inl ⟨u, List.mem_cons_self, hd, rfl⟩)
      · refine .inl ⟨List.mem_cons_of_mem _ ht, fun he => ?_⟩
        have hlt := hu t ht
        rw [hd, he] at hlt
        exact String.lt_irrefl _ hlt
    rename_i hne
    split at ht
    · rename_i hlt
      have hlater : ∀ v ∈ u :: ts, v.destination ≠ d := by
        intro v hv he
        rcases List.mem_cons.1 hv with rfl | hv
        · exact hne he
        · exact String.lt_asymm hlt (he ▸ hu v hv)
      rcases List.mem_cons.1 ht with rfl | ht
      · exact .inr (.inr ⟨hlater, rfl⟩)
      · exact .inl ⟨ht, hlater t ht⟩
    · rcases List.mem_cons.1 ht with rfl | ht
      · exact .inl ⟨List.mem_cons_self, hne⟩
      · rcases ih hts ht with ⟨hin, hd⟩ | ⟨v, hv, hd, heq⟩ | ⟨hnone, heq⟩
        · exact .inl ⟨List.mem_cons_of_mem _ hin, hd⟩
        · exact .inr (.inl ⟨v, List.mem_cons_of_mem _ hv, hd, heq⟩)
        · exact .inr (.inr ⟨List.forall_mem_cons.2 ⟨hne, hnone⟩, heq⟩)

variable {texts texts' : List String} {f f' : String → Tally}

/-- One destination's tally is changed, or made. -/
theorem Keeps.tally (h : Keeps ts texts f) (hg : ∀ t, (g t).destination = t.destination)
    (hnew : d ∉ texts → f d = { destination := d })
    (htexts : ∀ text, text ∈ texts' ↔ text ∈ texts ∨ text = d) (hd : f' d = g (f d))
    (hother : ∀ text ≠ d, f' text = f text) : Keeps (tally d g ts) texts' f' where
  sorted := sorted_tally hg h.sorted
  mem text := by rw [map_tally hg, h.mem, htexts]
  eq t ht := by
    rcases mem_of_tally h.sorted ht with ⟨hin, hne⟩ | ⟨u, hu, rfl, rfl⟩ | ⟨hnone, rfl⟩
    · exact (h.eq t hin).trans (hother _ hne).symm
    · rw [hg, hd, ← h.eq u hu]
    · have hfresh : d ∉ texts := fun hin => by
        obtain ⟨u, hu, hud⟩ := List.mem_map.1 ((h.mem d).2 hin)
        exact hnone u hu hud
      rw [hg, hd, hnew hfresh]

/-! ## What has happened -/

inductive Move where
  | register (now : Nat) (client : ScopedEndpoint) (protocol : Protocol) (d : Destination)
  | count (number : Nat) (t : Traffic)
  | finish (number : Nat)
  deriving DecidableEq

def step (r : Registry) : Move → Registry
  | .register now client protocol d => (r.register now client protocol d).2
  | .count number t => r.count number t
  | .finish number => r.finish number

def run (moves : List Move) : Registry := moves.foldl step {}

def Move.traffic? : Move → Option Traffic
  | count _ t => some t
  | _ => none

def Move.trafficOf? (number : Nat) : Move → Option Traffic
  | count n t => if n = number then some t else none
  | _ => none

/-- Whom a move registers, without a number yet. -/
def Move.registration? : Move → Option Registration
  | register now client protocol d =>
    some { number := 0, client, protocol, destination := d.text, since := now }
  | _ => none

/-- Everything that was ever counted for the client with a number. -/
def counted (moves : List Move) (number : Nat) : Traffic :=
  Traffic.total (moves.filterMap (·.trafficOf? number))

/-- All registrations that were ever made, numbered from one, with everything that was counted for each. -/
def registrations (moves : List Move) : List Registration :=
  (moves.filterMap Move.registration?).mapIdx fun i a =>
    { a with number := i + 1, traffic := counted moves (i + 1) }

/-- The client with this number was registered and is not done. -/
def Live (moves : List Move) (number : Nat) : Prop :=
  number ∈ (registrations moves).map (·.number) ∧ .finish number ∉ moves

instance (moves : List Move) (number : Nat) : Decidable (Live moves number) :=
  inferInstanceAs (Decidable (_ ∧ _))

/-- Traffic is counted for clients that are being relayed, and only those come to be done. -/
inductive Legal : List Move → Prop where
  | start : Legal []
  | register {moves : List Move} {now : Nat} {client : ScopedEndpoint} {protocol : Protocol}
      {d : Destination} (before : Legal moves) : Legal (moves ++ [.register now client protocol d])
  | count {moves : List Move} {number : Nat} {t : Traffic} (before : Legal moves)
      (live : Live moves number) : Legal (moves ++ [.count number t])
  | finish {moves : List Move} {number : Nat} (before : Legal moves) (live : Live moves number) :
      Legal (moves ++ [.finish number])

variable {moves : List Move} {number n : Nat} {traffic : Traffic} {a b : Registration}

/-! ### Numbers -/

theorem getElem_registrations {i : Nat} (h : i < (registrations moves).length) :
    ((registrations moves)[i]).number = i + 1 ∧ ((registrations moves)[i]).traffic = counted moves (i + 1) := by
  simp [registrations]

theorem pairwise_registrations (moves : List Move) :
    (registrations moves).Pairwise (·.number < ·.number) := by
  rw [List.pairwise_iff_getElem]
  intro i j hi hj hij
  rw [(getElem_registrations hi).1, (getElem_registrations hj).1]
  omega

theorem number_bounds (ha : a ∈ registrations moves) :
    1 ≤ a.number ∧ a.number ≤ (registrations moves).length := by
  obtain ⟨i, hi, rfl⟩ := List.mem_iff_getElem.1 ha
  rw [(getElem_registrations hi).1]
  omega

theorem number_inj (ha : a ∈ registrations moves) (hb : b ∈ registrations moves)
    (h : a.number = b.number) : a = b := by
  obtain ⟨i, hi, rfl⟩ := List.mem_iff_getElem.1 ha
  obtain ⟨j, hj, rfl⟩ := List.mem_iff_getElem.1 hb
  rw [(getElem_registrations hi).1, (getElem_registrations hj).1] at h
  obtain rfl : i = j := by omega
  rfl

theorem Live.le (h : Live moves number) : number ≤ (registrations moves).length := by
  obtain ⟨a, ha, rfl⟩ := List.mem_map.1 h.1
  exact (number_bounds ha).2

/-! ### One move more -/

theorem counted_concat (moves : List Move) (m : Move) (number : Nat) :
    counted (moves ++ [m]) number = counted moves number + ((m.trafficOf? number).getD 0) := by
  simp only [counted, Traffic.total_eq_sum, List.filterMap_append, List.sum_append]
  cases h : m.trafficOf? number <;> simp [h]

theorem registrations_concat (moves : List Move) (m : Move) :
    registrations (moves ++ [m]) =
      (registrations moves).map (fun a => { a with traffic := a.traffic + (m.trafficOf? a.number).getD 0 }) ++
        (m.registration?.map fun a =>
          { a with
            number := (registrations moves).length + 1
            traffic := counted (moves ++ [m]) ((registrations moves).length + 1) }).toList := by
  have hold : (registrations moves).map (fun a =>
      { a with traffic := a.traffic + (m.trafficOf? a.number).getD 0 : Registration }) =
      (moves.filterMap Move.registration?).mapIdx fun i a =>
        { a with number := i + 1, traffic := counted (moves ++ [m]) (i + 1) } := by
    refine List.ext_getElem (by simp [registrations]) fun i _ _ => ?_
    simp [registrations, counted_concat]
  have hlength : (registrations moves).length = (moves.filterMap Move.registration?).length := by
    rw [registrations, List.length_mapIdx]
  rw [hold, hlength, registrations, List.filterMap_append]
  cases h : m.registration? with
  | none => simp [h]
  | some b => simp [h, List.mapIdx_concat]

theorem registrations_register (moves : List Move) (now : Nat) (client : ScopedEndpoint) (protocol : Protocol)
    (d : Destination) :
    registrations (moves ++ [.register now client protocol d]) = registrations moves ++
      [{ number := (registrations moves).length + 1, client, protocol, destination := d.text, since := now
         traffic := counted moves ((registrations moves).length + 1) }] := by
  rw [registrations_concat]
  simp [Move.trafficOf?, Move.registration?, counted_concat]

theorem registrations_count (moves : List Move) (number : Nat) (t : Traffic) :
    registrations (moves ++ [.count number t]) = (registrations moves).map fun a =>
      if a.number = number then { a with traffic := a.traffic + t } else a := by
  rw [registrations_concat]
  simp only [Move.registration?, Option.map_none, Option.toList_none, List.append_nil]
  refine List.map_congr_left fun a _ => ?_
  simp only [Move.trafficOf?, eq_comm (a := number)]
  split <;> simp

theorem registrations_finish (moves : List Move) (number : Nat) :
    registrations (moves ++ [.finish number]) = registrations moves := by
  rw [registrations_concat]
  simp [Move.trafficOf?, Move.registration?]

/-- Nothing has happened to a number that is not given out yet. -/
theorem Legal.unheard (h : Legal moves) (hn : (registrations moves).length < n) :
    counted moves n = 0 ∧ .finish n ∉ moves := by
  induction h with
  | start => exact ⟨rfl, List.not_mem_nil⟩
  | register _ ih =>
    rw [registrations_register, List.length_append] at hn
    obtain ⟨hcounted, hfinish⟩ := ih (Nat.lt_of_le_of_lt (Nat.le_add_right _ _) hn)
    simp [counted_concat, Move.trafficOf?, hcounted, hfinish]
  | count _ live ih =>
    rw [registrations_count, List.length_map] at hn
    obtain ⟨hcounted, hfinish⟩ := ih hn
    have hne := Nat.ne_of_lt (Nat.lt_of_le_of_lt live.le hn)
    simp [counted_concat, Move.trafficOf?, hcounted, hfinish, hne]
  | finish _ live ih =>
    rw [registrations_finish] at hn
    obtain ⟨hcounted, hfinish⟩ := ih hn
    have hne := Nat.ne_of_gt (Nat.lt_of_le_of_lt live.le hn)
    simp [counted_concat, Move.trafficOf?, hcounted, hfinish, hne]

/-! ## Books -/

/-- What is known about a destination from clients that are done. -/
def summary (moves : List Move) (text : String) : Tally where
  destination := text
  connections := ((registrations moves).map (·.destination)).count text
  traffic := share (fun a => a.destination = text ∧ .finish a.number ∈ moves) (registrations moves)

/-- A registry that holds what the moves say. -/
structure Books (moves : List Move) (r : Registry) : Prop where
  registered : r.registered = (registrations moves).length
  active : r.active = (registrations moves).filter fun a => .finish a.number ∉ moves
  finished : r.finished = share (fun a => .finish a.number ∈ moves) (registrations moves)
  tallies : Keeps r.tallies ((registrations moves).map (·.destination)) (summary moves)

variable {r : Registry}

theorem books_start : Books [] {} := by
  refine ⟨rfl, rfl, rfl, List.Pairwise.nil, fun text => Iff.rfl, nofun⟩

theorem summary_of_unknown {d : String} (h : d ∉ (registrations moves).map (·.destination)) :
    summary moves d = { destination := d } := by
  have hnone : (registrations moves).filter
      (fun a => a.destination = d ∧ .finish a.number ∈ moves) = [] := by
    simp only [List.filter_eq_nil_iff, decide_eq_true_eq, not_and]
    exact fun a ha he => absurd (List.mem_map.2 ⟨a, ha, he⟩) h
  simp only [summary, List.count_eq_zero_of_not_mem h, share, hnone]
  rfl

theorem Books.register (h : Books moves r) (legal : Legal moves) (now : Nat) (client : ScopedEndpoint)
    (protocol : Protocol) (d : Destination) :
    Books (moves ++ [.register now client protocol d]) (r.register now client protocol d).2 := by
  obtain ⟨hcounted, hfinish⟩ := legal.unheard (Nat.lt_add_one _)
  have hmem (n : Nat) : Move.finish n ∈ moves ++ [.register now client protocol d] ↔ .finish n ∈ moves := by
    simp
  have hall := registrations_register moves now client protocol d
  rw [hcounted] at hall
  refine ⟨?_, ?_, ?_, ?_⟩
  · rw [hall, List.length_append, ← h.registered]
    rfl
  · simp only [hall, hmem, List.filter_append, Registry.register, h.active, h.registered]
    rw [List.filter_cons_of_pos (by simpa using hfinish)]
    rfl
  · simp only [hall, hmem, share_concat]
    rw [if_neg (by simpa using hfinish), add_zero]
    exact h.finished
  · refine h.tallies.tally (fun _ => rfl) summary_of_unknown (fun text => ?_) ?_ fun text hne => ?_
    · simp [hall]
    · simp only [summary, hall, hmem, share_concat]
      simp [hfinish]
    · simp only [summary, hall, hmem, share_concat]
      simp [hne.symm]

/-- Traffic is added to one registration, and nobody is done by it. -/
theorem share_count (live : Live moves number) (t : Traffic) (p : Registration → Bool)
    (hp : ∀ (a : Registration) (u : Traffic), p { a with traffic := u } = p a)
    (hdone : ∀ a, p a = true → .finish a.number ∈ moves) :
    share p (registrations (moves ++ [.count number t])) = share p (registrations moves) := by
  rw [registrations_count]
  refine share_map (fun a _ => ?_) fun a _ hpa => ?_
  · split
    · exact hp a _
    · rfl
  · rw [if_neg]
    rintro rfl
    exact live.2 (hdone a hpa)

theorem Books.count (h : Books moves r) (live : Live moves number) (t : Traffic) :
    Books (moves ++ [.count number t]) (r.count number t) := by
  have hmem (n : Nat) : Move.finish n ∈ moves ++ [.count number t] ↔ .finish n ∈ moves := by
    simp
  have hall := registrations_count moves number t
  have htexts : (registrations (moves ++ [.count number t])).map (·.destination) =
      (registrations moves).map (·.destination) := by
    rw [hall, List.map_map]
    refine List.map_congr_left fun a _ => ?_
    rw [Function.comp_apply]
    split <;> rfl
  have hsummary (text : String) : summary (moves ++ [.count number t]) text = summary moves text := by
    have htraffic := share_count live t (fun a => a.destination = text ∧ .finish a.number ∈ moves)
      (fun _ _ => rfl) (by simp)
    simp only [summary, hmem, htexts, htraffic]
  refine ⟨?_, ?_, ?_, ?_⟩
  · rw [hall, List.length_map]
    exact h.registered
  · rw [hall, Registry.count, h.active, List.filter_map]
    refine congrArg _ (List.filter_congr fun a _ => ?_)
    rw [Function.comp_apply]
    split <;> simp
  · simp only [hmem]
    rw [share_count live t _ (fun _ _ => rfl) (by simp)]
    exact h.finished
  · rw [htexts, funext hsummary]
    exact h.tallies

theorem filter_number {l : List Registration} (hs : l.Pairwise (·.number < ·.number)) (ha : a ∈ l) :
    l.filter (fun b => b.number = a.number) = [a] := by
  induction l with
  | nil => cases ha
  | cons b l ih =>
    obtain ⟨hb, hl⟩ := List.pairwise_cons.1 hs
    rcases List.mem_cons.1 ha with rfl | ha
    · have hlater : l.filter (fun b => b.number = a.number) = [] := by
        simpa using fun b hin => Nat.ne_of_gt (hb b hin)
      rw [List.filter_cons_of_pos (by simp), hlater]
    · rw [List.filter_cons_of_neg (by simpa using Nat.ne_of_lt (hb a ha)), ih hl ha]

/-- When a client is done its traffic comes to that of the others that are. -/
theorem share_finish (ha : a ∈ registrations moves) (live : .finish a.number ∉ moves)
    (p : Registration → Bool) (hp : p a = true) :
    share (fun b => p b ∧ .finish b.number ∈ moves ++ [.finish a.number]) (registrations moves) =
      share (fun b => p b ∧ .finish b.number ∈ moves) (registrations moves) + a.traffic := by
  have hsame {b : Registration} (hb : b ∈ registrations moves) (he : b.number = a.number) : b = a :=
    number_inj hb ha he
  have hone : share (fun b => b.number = a.number) (registrations moves) = a.traffic := by
    rw [share, filter_number (pairwise_registrations moves) ha, Traffic.total_eq_sum]
    exact List.sum_singleton
  rw [← hone]
  refine share_add (fun b hb => ?_) fun b hb hpb => ?_
  · by_cases he : b.number = a.number
    · obtain rfl := hsame hb he
      simp [hp]
    · simp [he]
  · rw [decide_eq_false_iff_not]
    intro he
    obtain rfl := hsame hb he
    simp [live] at hpb

theorem Books.finish (h : Books moves r) (live : Live moves number) :
    Books (moves ++ [.finish number]) (r.finish number) := by
  obtain ⟨a, ha, rfl⟩ := List.mem_map.1 live.1
  have hall := registrations_finish moves a.number
  have hactive : r.active.find? (·.number = a.number) = some a := by
    have hfilter : r.active.filter (·.number = a.number) = [a] := by
      refine filter_number ?_ ?_
      · rw [h.active]
        exact (pairwise_registrations moves).filter _
      · rw [h.active]
        exact List.mem_filter.2 ⟨ha, by simpa using live.2⟩
    rw [← List.head?_filter, hfilter, List.head?_cons]
  have hrun : r.finish a.number =
      { r with
        active := r.active.filter (·.number ≠ a.number)
        finished := r.finished + a.traffic
        tallies := tally a.destination (fun t => { t with traffic := t.traffic + a.traffic })
          r.tallies } := by
    rw [Registry.finish, Registry.find?, hactive]
  rw [hrun]
  refine ⟨?_, ?_, ?_, ?_⟩
  · rw [hall]
    exact h.registered
  · simp only [hall, h.active, List.filter_filter]
    refine List.filter_congr fun b _ => ?_
    simp [and_comm]
  · have hshare := share_finish ha live.2 (fun _ => true) rfl
    simp only [true_and] at hshare
    rw [hall, hshare, h.finished]
  · rw [hall]
    refine h.tallies.tally (fun _ => rfl) summary_of_unknown (fun text => ?_) ?_ fun text hne => ?_
    · rw [iff_self_or]
      rintro rfl
      exact List.mem_map_of_mem ha
    · have hshare := share_finish ha live.2 (fun b => b.destination = a.destination) (by simp)
      simp only [decide_eq_true_eq] at hshare
      simp only [summary, hall, hshare]
    · simp only [summary, hall]
      congr 1
      refine share_congr fun b hb => ?_
      by_cases he : b.number = a.number
      · obtain rfl := number_inj hb ha he
        simp [hne.symm]
      · simp [he]

/-- At any time the registry holds what has happened. -/
theorem Legal.books (legal : Legal moves) : Books moves (run moves) := by
  induction legal with
  | start => exact books_start
  | register before ih =>
    rw [run, List.foldl_append]
    exact ih.register before _ _ _ _
  | count _ live ih =>
    rw [run, List.foldl_append]
    exact ih.count live _
  | finish _ live ih =>
    rw [run, List.foldl_append]
    exact ih.finish live

/-! ## Reports -/

/-- What a report says about a client that is being relayed. -/
def report (now : Nat) (a : Registration) : ConnectionReport where
  number := a.number
  client := a.client.text
  protocol := a.protocol
  destination := a.destination
  traffic := a.traffic
  ageMillis := now - a.since

theorem sum_single {α : Type} [DecidableEq α] {keys : List α} {key : α} (hn : keys.Nodup)
    (hin : key ∈ keys) (t : Traffic) : (keys.map fun other => if other = key then t else 0).sum = t := by
  induction keys with
  | nil => cases hin
  | cons other keys ih =>
    obtain ⟨hother, hn⟩ := List.nodup_cons.1 hn
    rw [List.map_cons, List.sum_cons]
    rcases List.mem_cons.1 hin with rfl | hin
    · have hrest : (keys.map fun other => if other = key then t else 0).sum = 0 := by
        refine List.sum_eq_zero fun u hu => ?_
        obtain ⟨other, hin, rfl⟩ := List.mem_map.1 hu
        exact if_neg fun he : other = key => hother (he ▸ hin)
      rw [if_pos rfl, hrest, add_zero]
    · rw [if_neg fun he : other = key => hother (he ▸ hin), ih hn hin, zero_add]

theorem sum_share {texts : List String} {l : List Registration} (hn : texts.Nodup)
    (hin : ∀ a ∈ l, a.destination ∈ texts) :
    (texts.map fun text => share (·.destination = text) l).sum = Traffic.total (l.map (·.traffic)) := by
  induction l with
  | nil =>
    refine List.sum_eq_zero fun u hu => ?_
    obtain ⟨text, -, rfl⟩ := List.mem_map.1 hu
    rfl
  | cons a l ih =>
    obtain ⟨ha, hl⟩ := List.forall_mem_cons.1 hin
    have hsplit (text : String) : share (·.destination = text) (a :: l) =
        (if text = a.destination then a.traffic else 0) + share (·.destination = text) l := by
      simp only [share_eq, List.map_cons, List.sum_cons, decide_eq_true_eq, eq_comm (a := text)]
    simp only [hsplit, List.sum_map_add, sum_single hn ha, ih hl, Traffic.total_eq_sum, List.map_cons,
      List.sum_cons]

theorem sum_count {texts l : List String} (hn : texts.Nodup) (h : ∀ text, text ∈ texts ↔ text ∈ l) :
    (texts.map fun text => l.count text).sum = l.length := by
  have hperm : texts.Perm l.dedup := (List.perm_ext_iff_of_nodup hn l.nodup_dedup).2 fun text => by
    rw [h, List.mem_dedup]
  rw [(hperm.map _).sum_eq]
  exact List.sum_map_count_dedup_eq_length l

/-- Everything that was counted was counted for one of the registrations. -/
theorem Legal.total_counted (legal : Legal moves) :
    Traffic.total ((registrations moves).map (·.traffic)) =
      Traffic.total (moves.filterMap Move.traffic?) := by
  simp only [Traffic.total_eq_sum]
  induction legal with
  | start => rfl
  | register before ih =>
    rw [registrations_register, (before.unheard (Nat.lt_add_one _)).1]
    rw [List.map_append, List.sum_append, List.filterMap_append, List.sum_append, ih]
    exact congrArg _ List.sum_singleton
  | @count moves number t _ live ih =>
    have hnodup : ((registrations moves).map (·.number)).Nodup :=
      (List.pairwise_map.2 (pairwise_registrations moves)).imp Nat.ne_of_lt
    have hall : (registrations (moves ++ [.count number t])).map (·.traffic) =
        (registrations moves).map fun a => a.traffic + if a.number = number then t else 0 := by
      rw [registrations_count, List.map_map]
      refine List.map_congr_left fun a _ => ?_
      rw [Function.comp_apply]
      split
      · rfl
      · rw [add_zero]
    have hone := sum_single hnodup live.1 t
    rw [List.map_map] at hone
    have hsplit : ((registrations (moves ++ [.count number t])).map (·.traffic)).sum = _ + t :=
      (congrArg List.sum hall).trans (List.sum_map_add.trans (congrArg _ hone))
    rw [hsplit, ih, List.filterMap_append, List.sum_append]
    exact congrArg _ List.sum_singleton.symm
  | finish _ _ ih =>
    rw [registrations_finish, ih, List.filterMap_append, List.sum_append]
    exact (add_zero _).symm

/-- The clients that are done and those that are being relayed, together. -/
theorem Books.share_eq (h : Books moves r) (p : Registration → Bool) :
    share (fun a => p a ∧ .finish a.number ∈ moves) (registrations moves) + share p r.active =
      share p (registrations moves) := by
  have hactive : share p r.active =
      share (fun a => p a ∧ .finish a.number ∉ moves) (registrations moves) := by
    rw [share, share, h.active, List.filter_filter]
    simp
  rw [hactive]
  refine (share_add (fun a _ => ?_) fun a _ ha => ?_).symm
  · by_cases hdone : .finish a.number ∈ moves <;> simp [hdone]
  · simp only [decide_eq_true_eq] at ha
    simp [ha.2]

theorem share_true (l : List Registration) : share (fun _ => true) l = Traffic.total (l.map (·.traffic)) := by
  rw [share, List.filter_true]

/-- **Every report adds up.** Whatever clients were registered, counted for and done, in whatever order, a
report says how many there ever were and all that was ever counted. For each destination there is one
entry, in order, with as many of them and as much traffic as are that destination's, and these add up to
the totals. The clients that are not done are listed by their numbers. -/
theorem snapshot_conserves (legal : Legal moves) (now : Nat) :
    let s := (run moves).snapshot now
    let all := registrations moves
    s.connections = all.length ∧
    s.traffic = Traffic.total (moves.filterMap Move.traffic?) ∧
    s.traffic = Traffic.total (all.map (·.traffic)) ∧
    s.destinations.Pairwise (·.destination < ·.destination) ∧
    (∀ text, text ∈ s.destinations.map (·.destination) ↔ text ∈ all.map (·.destination)) ∧
    (∀ d ∈ s.destinations,
      d.connections = (all.map (·.destination)).count d.destination ∧
      d.traffic = Traffic.total ((all.filter (·.destination = d.destination)).map (·.traffic))) ∧
    (s.destinations.map (·.connections)).sum = s.connections ∧
    Traffic.total (s.destinations.map (·.traffic)) = s.traffic ∧
    s.active = (all.filter fun a => .finish a.number ∉ moves).map (report now) ∧
    s.active.Pairwise (·.number < ·.number) := by
  intro s all
  have books := legal.books
  have hall : s.traffic = Traffic.total (all.map (·.traffic)) := by
    have hshare := books.share_eq fun _ => true
    simp only [true_and, share_true] at hshare
    exact (congrArg (· + _) books.finished).trans hshare
  have htexts : s.destinations.map (·.destination) = (run moves).tallies.map (·.destination) :=
    List.map_map ..
  have hsorted : (s.destinations.map (·.destination)).Pairwise (· < ·) := by
    rw [htexts]
    exact List.pairwise_map.2 books.tallies.sorted
  have hnodup : (s.destinations.map (·.destination)).Nodup := by
    refine hsorted.imp ?_
    rintro text _ hlt rfl
    exact String.lt_irrefl text hlt
  have hmem (text : String) :
      text ∈ s.destinations.map (·.destination) ↔ text ∈ all.map (·.destination) := by
    rw [htexts]
    exact books.tallies.mem text
  have hentry : ∀ d ∈ s.destinations, d.connections = (all.map (·.destination)).count d.destination ∧
      d.traffic = share (·.destination = d.destination) all := by
    intro d hd
    obtain ⟨t, ht, rfl⟩ := List.mem_map.1 hd
    have hshare := books.share_eq (·.destination = t.destination)
    simp only [decide_eq_true_eq] at hshare
    rw [books.tallies.eq t ht]
    exact ⟨rfl, hshare⟩
  refine ⟨books.registered, hall.trans legal.total_counted, hall, List.pairwise_map.1 hsorted, hmem, hentry,
    ?_, ?_, ?_, ?_⟩
  · have hconnections : s.destinations.map (·.connections) =
        (s.destinations.map (·.destination)).map fun text => (all.map (·.destination)).count text := by
      rw [List.map_map]
      exact List.map_congr_left fun d hd => (hentry d hd).1
    rw [hconnections, sum_count hnodup hmem, List.length_map]
    exact books.registered.symm
  · have htraffic : s.destinations.map (·.traffic) =
        (s.destinations.map (·.destination)).map fun text => share (·.destination = text) all := by
      rw [List.map_map]
      exact List.map_congr_left fun d hd => (hentry d hd).2
    rw [Traffic.total_eq_sum, htraffic, sum_share hnodup, hall]
    exact fun a ha => (hmem _).2 (List.mem_map_of_mem ha)
  · exact congrArg (List.map _) books.active
  · refine List.pairwise_map.2 ?_
    rw [books.active]
    exact (pairwise_registrations moves).filter _

/-- Two clients of one destination and one of another come, and one of them goes. -/
def visit : List Move :=
  let client : ScopedEndpoint := { ip := .v4 .loopback, port := 5000 }
  [.register 0 client .socks5 (.domain "b" 80), .register 1 client .httpConnect (.domain "a" 443),
    .count 1 ⟨3, 4⟩, .register 2 client .socks5 (.domain "b" 80), .finish 1, .count 3 ⟨5, 0⟩,
    .count 2 ⟨1, 1⟩]

theorem legal_visit : Legal visit := by
  refine .count (.count (.finish (.register (.count (.register (.register .start)) ?_)) ?_) ?_) ?_
  all_goals decide +kernel

theorem visit_adds_up :
    Legal visit ∧
    let s := (run visit).snapshot 10
    s.connections = 3 ∧ s.traffic = ⟨9, 5⟩ ∧
    s.destinations.map (fun d => (d.destination, d.connections, d.traffic)) =
      [("a:443", 1, ⟨1, 1⟩), ("b:80", 2, ⟨8, 4⟩)] ∧
    Traffic.total (s.destinations.map (·.traffic)) = s.traffic ∧
    s.active.Pairwise (·.number < ·.number) ∧ s.active.map (·.number) = [2, 3] := by
  obtain ⟨hconnections, htraffic, -, -, -, -, -, htotal, hactive, hsorted⟩ := snapshot_conserves legal_visit 10
  refine ⟨legal_visit, ?_, ?_, ?_, htotal, hsorted, ?_⟩
  · rw [hconnections]
    decide +kernel
  · rw [htraffic]
    decide +kernel
  · decide +kernel
  · rw [hactive]
    decide +kernel

end SealedRelay.Proxy.Registry
