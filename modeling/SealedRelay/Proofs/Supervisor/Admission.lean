import Mathlib.Data.List.Count
import Mathlib.Data.List.Perm.Basic
import Mathlib.Data.List.Perm.Lattice
import SealedRelay.Supervisor

/-!
# The cap on clients

A client is admitted or turned away at once. Whoever is admitted may come to be relayed, is registered
then, and gives its admission back when all of that is over. So there are never more admissions than
the cap allows, and never more registrations than admissions. The cap itself has to be one that
admissions can be counted under; that is not checked where settings are.

Results:
* `step_sound`: whatever happens, the supervisor's counts are those of its guests.
* `shuttingDown_run`: it shuts down from the moment it is told to.
* `admissions_capped`: who is admitted, and who is not.
* `accepted_cap_uncountable`: settings that are accepted, and no supervisor for them.
-/
namespace SealedRelay

open Proxy (Config Error Registry)

inductive Reception.Guest where
  | admitted
  /-- It is relayed, and registered under a number. -/
  | relayed (number : Nat)
  /-- It is relayed no longer. -/
  | parting
  /-- It has given its admission back. -/
  | gone
  deriving DecidableEq

/-- A supervisor and the clients that it has admitted. -/
structure Reception where
  supervisor : Supervisor
  guests : List Reception.Guest := []

namespace Reception

inductive Event where
  /-- A client connects, and asks to be admitted. -/
  | knock
  /-- An admitted client begins to be relayed. -/
  | register (i now : Nat) (client : ScopedEndpoint) (protocol : Proxy.Protocol) (d : Destination)
  /-- A client is relayed no longer. -/
  | finish (i : Nat)
  /-- Whoever serves a client ends, wherever it is. -/
  | leave (i : Nat)
  | stop
  deriving DecidableEq

def enrol (w : Reception) (i now : Nat) (client : ScopedEndpoint) (protocol : Proxy.Protocol)
    (d : Destination) : Reception :=
  let (number, registry) := w.supervisor.registry.register now client protocol d
  { supervisor := { w.supervisor with registry }, guests := w.guests.set i (.relayed number) }

def finish (w : Reception) (i number : Nat) : Reception where
  supervisor := { w.supervisor with registry := w.supervisor.registry.finish number }
  guests := w.guests.set i .parting

def letGo (w : Reception) (i : Nat) : Reception where
  supervisor := w.supervisor.release
  guests := w.guests.set i .gone

/-- What is not possible for a client where it is changes nothing. One that leaves while it is relayed
ends its registration first. -/
def step (w : Reception) : Event → Reception
  | .knock =>
    match w.supervisor.admitClient with
    | .ok supervisor => { supervisor, guests := w.guests ++ [.admitted] }
    | .error _ => w
  | .register i now client protocol d =>
    match w.guests[i]? with
    | some .admitted => w.enrol i now client protocol d
    | _ => w
  | .finish i =>
    match w.guests[i]? with
    | some (.relayed number) => w.finish i number
    | _ => w
  | .leave i =>
    match w.guests[i]? with
    | some .admitted | some .parting => w.letGo i
    | some (.relayed number) => (w.finish i number).letGo i
    | _ => w
  | .stop => { w with supervisor := w.supervisor.stop }

def run (w : Reception) (events : List Event) : Reception := events.foldl step w

def start (s : Supervisor) : Reception := { supervisor := s }

def Guest.isIn : Guest → Bool
  | gone => false
  | _ => true

def Guest.number? : Guest → Option Nat
  | relayed number => some number
  | _ => none

/-- How many admissions are held. -/
def live (w : Reception) : Nat := w.guests.countP Guest.isIn

/-- The numbers of the clients that are relayed. -/
def numbers (w : Reception) : List Nat := w.guests.filterMap Guest.number?

/-- The supervisor counts what there is, and there is no more than it may admit. -/
structure Sound (cap : Nat) (w : Reception) : Prop where
  limited : w.supervisor.maxStreams = cap
  admitted : w.supervisor.admitted = w.live
  within : w.live ≤ cap
  registered : (w.supervisor.registry.active.map (·.number)).Perm w.numbers
  distinct : w.numbers.Nodup
  used : ∀ n ∈ w.numbers, n ≤ w.supervisor.registry.registered

variable {w : Reception} {cap i number : Nat} {g : Guest} {e : Event}

/-! ## One guest among others -/

/-- A guest and the others, in any order; only the one is touched when it is put elsewhere. -/
theorem exists_others (h : w.guests[i]? = some g) :
    ∃ others, w.guests.Perm (g :: others) ∧ ∀ g', (w.guests.set i g').Perm (g' :: others) := by
  obtain ⟨hi, rfl⟩ := List.getElem?_eq_some_iff.1 h
  exact ⟨w.guests.eraseIdx i, (List.getElem_cons_eraseIdx_perm hi).symm,
    fun g' => List.set_perm_cons_eraseIdx hi g'⟩

theorem live_of_perm {l : List Guest} (h : w.guests.Perm l) : w.live = l.countP Guest.isIn :=
  h.countP_eq _

theorem numbers_of_perm {l : List Guest} (h : w.guests.Perm l) :
    w.numbers.Perm (l.filterMap Guest.number?) :=
  h.filterMap _

theorem length_numbers_le (w : Reception) : w.numbers.length ≤ w.live := by
  rw [numbers, List.length_filterMap_eq_countP, live]
  refine List.countP_mono_left fun g _ h => ?_
  cases g with
  | gone => cases h
  | admitted | relayed | parting => rfl

/-! ## What one event does -/

theorem admitClient_eq_ok {s s' : Supervisor} (h : s.admitClient = .ok s') :
    s.admitted < s.maxStreams ∧ s' = { s with admitted := s.admitted + 1 } := by
  unfold Supervisor.admitClient at h
  split at h
  · cases h
  split at h
  · cases h
  · rename_i hroom
    rw [Supervisor.available] at hroom
    exact ⟨by omega, (Except.ok.inj h).symm⟩

theorem isSome_new?_iff {c : Config} :
    (Supervisor.new? c).isSome ↔ c.maxStreams ≤ Supervisor.largestCap := by
  unfold Supervisor.new?
  split
  · rename_i htoo
    exact iff_of_false nofun (Nat.not_le_of_lt htoo)
  · rename_i hcountable
    exact iff_of_true rfl (Nat.le_of_not_lt hcountable)

theorem sound_new {c : Config} {s : Supervisor} (h : Supervisor.new? c = some s) :
    Sound c.maxStreams (start s) ∧ s.shuttingDown = false := by
  unfold Supervisor.new? at h
  split at h
  · cases h
  · obtain rfl := Option.some.inj h
    exact ⟨⟨rfl, rfl, Nat.zero_le _, .nil, List.nodup_nil, nofun⟩, rfl⟩

theorem Sound.knock {s : Supervisor} (h : Sound cap w) (hs : w.supervisor.admitClient = .ok s) :
    Sound cap { supervisor := s, guests := w.guests ++ [.admitted] } := by
  obtain ⟨hroom, rfl⟩ := admitClient_eq_ok hs
  have hlive : live { w with guests := w.guests ++ [.admitted] } = w.live + 1 := List.countP_append
  have hnumbers : numbers { w with guests := w.guests ++ [.admitted] } = w.numbers := by
    simp [numbers, Guest.number?]
  rw [h.limited, h.admitted] at hroom
  exact {
    limited := h.limited
    admitted := (congrArg (· + 1) h.admitted).trans hlive.symm
    within := hlive ▸ hroom
    registered := hnumbers ▸ h.registered
    distinct := hnumbers ▸ h.distinct
    used := hnumbers ▸ h.used }

theorem Sound.enrol (h : Sound cap w) (hg : w.guests[i]? = some .admitted) (now : Nat)
    (client : ScopedEndpoint) (protocol : Proxy.Protocol) (d : Destination) :
    Sound cap (w.enrol i now client protocol d) := by
  obtain ⟨others, hall, hset⟩ := exists_others hg
  let n := w.supervisor.registry.registered + 1
  have hguests : (w.enrol i now client protocol d).guests.Perm (.relayed n :: others) := hset _
  have hlive : (w.enrol i now client protocol d).live = w.live := by
    rw [live_of_perm hall, live_of_perm hguests]
    rfl
  have hnumbers : (w.enrol i now client protocol d).numbers.Perm (n :: w.numbers) :=
    (numbers_of_perm hguests).trans ((numbers_of_perm hall).symm.cons n)
  have hactive : (w.enrol i now client protocol d).supervisor.registry.active.map (·.number) =
      w.supervisor.registry.active.map (·.number) ++ [n] := List.map_append
  have hfresh : n ∉ w.numbers := fun hn => absurd (h.used n hn) (Nat.not_succ_le_self _)
  exact {
    limited := h.limited
    admitted := h.admitted.trans hlive.symm
    within := hlive ▸ h.within
    registered := by
      rw [hactive]
      exact (List.perm_append_singleton n _).trans ((h.registered.cons n).trans hnumbers.symm)
    distinct := hnumbers.nodup_iff.2 (List.nodup_cons.2 ⟨hfresh, h.distinct⟩)
    used := by
      intro k hk
      rcases List.mem_cons.1 (hnumbers.mem_iff.1 hk) with rfl | hk
      · exact Nat.le_refl n
      · exact Nat.le_succ_of_le (h.used k hk) }

/-- A registration that is there is the only one that ends. -/
theorem map_finish {r : Registry} (h : number ∈ r.active.map (·.number)) :
    (r.finish number).active.map (·.number) = (r.active.map (·.number)).filter (· ≠ number) ∧
      (r.finish number).registered = r.registered := by
  obtain ⟨a, ha, hnumber⟩ := List.mem_map.1 h
  have hfound : (r.find? number).isSome := List.find?_isSome.2 ⟨a, ha, decide_eq_true hnumber⟩
  obtain ⟨b, hb⟩ := Option.isSome_iff_exists.1 hfound
  rw [Registry.finish, hb, List.filter_map]
  exact ⟨rfl, rfl⟩

theorem Sound.finish (h : Sound cap w) (hg : w.guests[i]? = some (.relayed number)) :
    Sound cap (w.finish i number) ∧ (w.finish i number).guests[i]? = some .parting := by
  obtain ⟨others, hall, hset⟩ := exists_others hg
  have hguests : (w.finish i number).guests.Perm (.parting :: others) := hset _
  have hlive : (w.finish i number).live = w.live := by
    rw [live_of_perm hall, live_of_perm hguests]
    rfl
  have hbefore : w.numbers.Perm (number :: others.filterMap Guest.number?) := numbers_of_perm hall
  have hafter : (w.finish i number).numbers.Perm ((.parting :: others).filterMap Guest.number?) :=
    numbers_of_perm hguests
  obtain ⟨hother, hrest⟩ := List.nodup_cons.1 (hbefore.nodup_iff.1 h.distinct)
  have hin : number ∈ w.supervisor.registry.active.map (·.number) :=
    h.registered.mem_iff.2 (hbefore.mem_iff.2 List.mem_cons_self)
  obtain ⟨hactive, hregistered⟩ := map_finish hin
  have hremain : (number :: others.filterMap Guest.number?).filter (· ≠ number) =
      others.filterMap Guest.number? := by
    rw [List.filter_cons_of_neg (by simp), List.filter_eq_self]
    rintro k hk
    exact decide_eq_true fun hkn => hother (hkn ▸ hk)
  refine ⟨?_, ?_⟩
  · exact {
      limited := h.limited
      admitted := h.admitted.trans hlive.symm
      within := hlive ▸ h.within
      registered := by
        have hleft := (h.registered.trans hbefore).filter (· ≠ number)
        rw [← hactive, hremain] at hleft
        exact hleft.trans hafter.symm
      distinct := hafter.nodup_iff.2 hrest
      used := by
        intro k hk
        have hk' : k ∈ w.numbers := hbefore.mem_iff.2 (List.mem_cons_of_mem _ (hafter.mem_iff.1 hk))
        exact hregistered ▸ h.used k hk' }
  · exact List.getElem?_set_self (List.getElem?_eq_some_iff.1 hg).1

theorem Sound.letGo (h : Sound cap w) (hg : w.guests[i]? = some g) (hin : g.isIn = true)
    (hnumber : g.number? = none) : Sound cap (w.letGo i) := by
  obtain ⟨others, hall, hset⟩ := exists_others hg
  have hguests : (w.letGo i).guests.Perm (.gone :: others) := hset _
  have hlive : w.live = (w.letGo i).live + 1 := by
    rw [live_of_perm hall, live_of_perm hguests, List.countP_cons_of_pos hin]
    rfl
  have hnumbers : (w.letGo i).numbers.Perm w.numbers := by
    have hbefore := numbers_of_perm hall
    rw [List.filterMap_cons_none hnumber] at hbefore
    exact (numbers_of_perm hguests).trans hbefore.symm
  exact {
    limited := h.limited
    admitted := by
      have hadmitted : (w.letGo i).supervisor.admitted = w.supervisor.admitted - 1 := rfl
      rw [hadmitted, h.admitted, hlive, Nat.add_sub_cancel]
    within := by
      have := h.within
      omega
    registered := h.registered.trans hnumbers.symm
    distinct := hnumbers.nodup_iff.2 h.distinct
    used := fun k hk => h.used k (hnumbers.mem_iff.1 hk) }

/-- Whatever happens, the supervisor's counts are those of its guests. -/
theorem step_sound (h : Sound cap w) (e : Event) : Sound cap (w.step e) := by
  cases e with
  | knock =>
    simp only [step]
    split
    · rename_i hs
      exact h.knock hs
    · exact h
  | register i now client protocol d =>
    simp only [step]
    split
    · rename_i hg
      exact h.enrol hg now client protocol d
    · exact h
  | finish i =>
    simp only [step]
    split
    · rename_i hg
      exact (h.finish hg).1
    · exact h
  | leave i =>
    simp only [step]
    split
    · rename_i hg
      exact h.letGo hg rfl rfl
    · rename_i hg
      exact h.letGo hg rfl rfl
    · rename_i hg
      obtain ⟨hfinished, hparting⟩ := h.finish hg
      exact hfinished.letGo hparting rfl rfl
    · exact h
  | stop => exact ⟨h.limited, h.admitted, h.within, h.registered, h.distinct, h.used⟩

theorem run_sound (h : Sound cap w) (events : List Event) : Sound cap (w.run events) := by
  induction events generalizing w with
  | nil => exact h
  | cons e events ih => exact ih (step_sound h e)

/-! ## Shutting down -/

theorem shuttingDown_step (w : Reception) (e : Event) :
    (w.step e).supervisor.shuttingDown = true ↔ w.supervisor.shuttingDown = true ∨ e = .stop := by
  cases e with
  | knock =>
    simp only [step]
    split
    · rename_i hs
      obtain ⟨-, rfl⟩ := admitClient_eq_ok hs
      simp
    · simp
  | register | finish | leave =>
    simp only [step]
    split <;> simp [enrol, finish, letGo, Supervisor.release]
  | stop => simp [step, Supervisor.stop]

theorem shuttingDown_run (w : Reception) (events : List Event) :
    (w.run events).supervisor.shuttingDown = true ↔
      w.supervisor.shuttingDown = true ∨ .stop ∈ events := by
  induction events generalizing w with
  | nil => simp [run]
  | cons e events ih =>
    refine (ih (w.step e)).trans ?_
    rw [shuttingDown_step, List.mem_cons, or_assoc, eq_comm (a := e)]

/-! ## Who is admitted -/

/-- Before the relay shuts down it is the cap alone that decides. -/
theorem Sound.admitClient_ok_iff (h : Sound cap w) (hs : w.supervisor.shuttingDown = false) :
    (∃ s, w.supervisor.admitClient = .ok s) ↔ w.live < cap := by
  rw [← h.admitted, ← h.limited]
  constructor
  · rintro ⟨s, hok⟩
    exact (admitClient_eq_ok hok).1
  · intro hroom
    have havailable : ¬ w.supervisor.available = 0 := by
      rw [Supervisor.available]
      omega
    simp [Supervisor.admitClient, hs, havailable]

theorem validate_maxStreams {c : Config} (h : c.validate = .ok ()) : 0 < c.maxStreams := by
  refine Nat.pos_of_ne_zero fun hzero => ?_
  simp only [Config.validate, hzero, true_or, if_true] at h
  split at h
  · cases h
  · split at h <;> cases h

/-- **The cap on clients holds.** Let settings be accepted, with a cap under which admissions can be
counted. Then there is a supervisor with these settings; and whoever comes, is registered, is done or
leaves, and whether the relay is told to stop or not, there are never more admissions than the cap, nor
more registrations than admissions. Until the relay is told to stop a client is admitted exactly if
there are fewer admissions than the cap, which is at least one; after that nobody is. -/
theorem admissions_capped {c : Config} (hc : c.validate = .ok ())
    (countable : c.maxStreams ≤ Supervisor.largestCap) :
    0 < c.maxStreams ∧ ∃ s, Supervisor.new? c = some s ∧ ∀ events : List Event,
      let w := (start s).run events
      w.live ≤ c.maxStreams ∧
      w.supervisor.registry.active.length ≤ w.live ∧
      (.stop ∉ events → ((∃ s', w.supervisor.admitClient = .ok s') ↔ w.live < c.maxStreams)) ∧
      (.stop ∈ events → w.supervisor.admitClient = .error .shuttingDown) := by
  obtain ⟨s, hs⟩ := Option.isSome_iff_exists.1 (isSome_new?_iff.2 countable)
  obtain ⟨hstart, hgoing⟩ := sound_new hs
  refine ⟨validate_maxStreams hc, s, hs, fun events => ?_⟩
  intro w
  have hsound : Sound c.maxStreams w := run_sound hstart events
  have hdown := shuttingDown_run (start s) events
  refine ⟨hsound.within, ?_, fun going => ?_, fun stopped => ?_⟩
  · calc w.supervisor.registry.active.length
        = (w.supervisor.registry.active.map (·.number)).length := (List.length_map _).symm
      _ = w.numbers.length := hsound.registered.length_eq
      _ ≤ w.live := length_numbers_le w
  · refine hsound.admitClient_ok_iff (Bool.eq_false_iff.2 fun hstopped => ?_)
    exact (hdown.1 hstopped).elim (by simp [start, hgoing]) going
  · have hstopped : w.supervisor.shuttingDown = true := hdown.2 (.inr stopped)
    rw [Supervisor.admitClient, if_pos hstopped]

/-- One client at a time. -/
def narrow : Config := { secret := ⟨[7]⟩, maxStreams := 1 }

/-- The first client is relayed when a second one knocks in vain. It leaves in the middle, the next one
takes its place, and the relay is told to stop. -/
def narrowDay : List Event :=
  [.knock, .register 0 5 { ip := .v4 .loopback, port := 4000 } .socks5 (.domain "a.test" 80), .knock,
    .leave 0, .knock, .stop]

theorem narrow_day_capped :
    narrow.validate = .ok () ∧ narrow.maxStreams ≤ Supervisor.largestCap ∧
      ∃ s, Supervisor.new? narrow = some s ∧
        ((start s).run narrowDay).guests = [.gone, .admitted] ∧
        ((start s).run narrowDay).supervisor.registry.active.length ≤ 1 ∧
        ((start s).run narrowDay).supervisor.admitClient = .error .shuttingDown := by
  have hvalid : narrow.validate = .ok () := by decide +kernel
  have hcountable : narrow.maxStreams ≤ Supervisor.largestCap := by decide +kernel
  obtain ⟨-, s, hs, hrun⟩ := admissions_capped hvalid hcountable
  obtain ⟨hlive, hregistered, -, hstopped⟩ := hrun narrowDay
  obtain rfl : _ = s := Option.some.inj hs
  exact ⟨hvalid, hcountable, _, hs, by decide +kernel, Nat.le_trans hregistered hlive, hstopped (by decide)⟩

/-- A cap of 2 ^ 61. -/
def vast : Config := { secret := ⟨[7]⟩, maxStreams := 2305843009213693952 }

/-- Settings that are accepted, and no supervisor for them. -/
theorem accepted_cap_uncountable : vast.validate = .ok () ∧ Supervisor.new? vast = none :=
  ⟨by decide +kernel, if_pos (by decide +kernel)⟩

end Reception

end SealedRelay
