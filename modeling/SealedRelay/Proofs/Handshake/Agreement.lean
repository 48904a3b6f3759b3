import Mathlib.Algebra.Group.Nat.Defs
import SealedRelay.Proofs.Handshake.Acceptance
import SealedRelay.Proofs.Seal.Conversation

/-!
# Two ends that know the secret

Both sides of a handshake face each other. What one writes reaches the other in pieces of any size and
after any delay. As long as bytes are missing a side waits, and nothing that is on its way is ever
rejected; so when nothing is on its way any more both have succeeded, with sessions that fit.

Results:
* `heard`: what a side does with the beginning of what the other side sends.
* `onTrack_deliver`: each side has got a beginning of what the other side sends, at any time.
* `OnTrack.result`, `OnTrack.reached_of_quiet`: who has got everything succeeds, and both get everything.
* `sessions_agree`: the handshake and the conversation after it.
-/
namespace SealedRelay.Handshake

open Function (update)
open Talk

/-- Both sides of a handshake, and how much of what the other wrote has reached each of them. -/
structure Line where
  talk : End → Talk (Except LinkError Session)
  channel : End → Channel
  reached : End → Nat

structure Delivery where
  reader : End
  most : Nat

namespace Line

def start (key : MasterKey) (random : End → Bytes) : Line where
  talk e := ((side e key (random e)).run { pieces := [], ended := false }).1
  channel e := ((side e key (random e)).run { pieces := [], ended := false }).2
  reached _ := 0

def written (x : Line) (e : End) : Bytes := (x.channel e).written

def deliver (x : Line) (d : Delivery) : Line :=
  let b := ((x.written d.reader.peer).drop (x.reached d.reader)).take d.most
  let r := (x.talk d.reader).run ((x.channel d.reader).arrive b)
  { talk := update x.talk d.reader r.1
    channel := update x.channel d.reader r.2
    reached := update x.reached d.reader (x.reached d.reader + b.length) }

def run (x : Line) (schedule : List Delivery) : Line := schedule.foldl deliver x

/-- Nothing is on its way. -/
def Quiet (x : Line) : Prop := ∀ e, x.reached e = (x.written e.peer).length

/-! What a delivery changes at its reader, and at the other side nothing. -/

variable (x : Line) (e : End) (most : Nat)

@[simp] theorem reached_deliver : (x.deliver ⟨e, most⟩).reached e =
    x.reached e + (((x.written e.peer).drop (x.reached e)).take most).length :=
  Function.update_self ..

@[simp] theorem reached_deliver_peer : (x.deliver ⟨e, most⟩).reached e.peer = x.reached e.peer :=
  Function.update_of_ne e.peer_ne _ _

@[simp] theorem talk_deliver_peer : (x.deliver ⟨e, most⟩).talk e.peer = x.talk e.peer :=
  Function.update_of_ne e.peer_ne _ _

@[simp] theorem channel_deliver_peer : (x.deliver ⟨e, most⟩).channel e.peer = x.channel e.peer :=
  Function.update_of_ne e.peer_ne _ _

@[simp] theorem written_deliver_peer : (x.deliver ⟨e, most⟩).written e.peer = x.written e.peer :=
  congrArg Channel.written (x.channel_deliver_peer e most)

theorem run_deliver : ((x.deliver ⟨e, most⟩).talk e, (x.deliver ⟨e, most⟩).channel e) =
    (x.talk e).run ((x.channel e).arrive (((x.written e.peer).drop (x.reached e)).take most)) := by
  simp only [deliver, Function.update_self]

theorem written_deliver : x.written e <+: (x.deliver ⟨e, most⟩).written e := by
  have hwritten := (x.talk e).written_run
    ((x.channel e).arrive (((x.written e.peer).drop (x.reached e)).take most))
  rwa [Channel.written_arrive, ← run_deliver] at hwritten

end Line

variable {key : MasterKey} {random : End → Bytes} {got rest : Bytes}

/-! ## What a side sends -/

/-- The label of a side's proof. -/
def label : End → Bytes
  | .client => clientLabel
  | .server => serverLabel

def sends (key : MasterKey) (random : End → Bytes) (e : End) : Bytes :=
  hello (random e) ++ key.proof (label e) (random .client) (random .server)

/-- How much a side must have got before it sends all of that. -/
def needs : End → Nat
  | .client => helloSize + proofSize
  | .server => helloSize

/-- The session that a side comes to. -/
def agreed (key : MasterKey) (random : End → Bytes) (e : End) : Session :=
  Session.new (key.sessionKeys (random .client) (random .server)) e

theorem length_sends (h : ∀ e, (random e).length = randomSize) (e : End) :
    (sends key random e).length = 69 := by
  rw [sends, List.length_append, MasterKey.length_proof, length_hello (h e)]
  rfl

/-- What a side does with the beginning of what the other side sends: it waits until it has got all, and
sends a beginning of its own, and everything once it has got what it needs. -/
structure Heard (key : MasterKey) (random : End → Bytes) (e : End) (got : Bytes)
    (r : Option (Except LinkError Session)) (w : Bytes) : Prop where
  result : r = if got.length = 69 then some (.ok (agreed key random e)) else none
  written : w <+: sends key random e
  opens : e = .client → helloSize ≤ w.length
  answers : needs e ≤ got.length → w = sends key random e

/-- The beginning of what a side sends, once it holds a hello. -/
theorem greets_of_prefix {e : End} (hrandom : (random e).length = randomSize)
    (hgot : got <+: sends key random e) (hlen : helloSize ≤ got.length) :
    ∃ more, Greets got (random e) more ∧
      more <+: key.proof (label e) (random .client) (random .server) := by
  have hprefix : hello (random e) <+: got :=
    List.prefix_of_prefix_length_le (List.prefix_append _ _) hgot
      (by rwa [length_hello hrandom])
  obtain ⟨more, rfl⟩ := hprefix
  exact ⟨more, ⟨rfl, hrandom⟩, (List.prefix_append_right_inj _).1 hgot⟩

/-- It holds the right proof exactly if it is all that the side sends. -/
theorem take_proof_iff {e : End} {more : Bytes} (greets : Greets got (random e) more)
    (hmore : more <+: key.proof (label e) (random .client) (random .server)) :
    more.take proofSize = key.proof (label e) (random .client) (random .server) ↔
      got.length = 69 := by
  have hle := hmore.length_le
  rw [MasterKey.length_proof] at hle
  have hlen := greets.length
  have hsize : helloSize + proofSize = 69 := rfl
  rw [List.take_of_length_le hle]
  constructor
  · rintro rfl
    rw [hlen, MasterKey.length_proof, hsize]
  · intro h
    refine hmore.eq_of_length ?_
    rw [MasterKey.length_proof]
    omega

theorem client_on_track (hrandom : ∀ e, (random e).length = randomSize)
    (hgot : got <+: sends key random .server) :
    ∃ r rest w, (side .client key (random .client)).Hears got false r rest w ∧
      Heard key random .client got r w := by
  have hlen := hgot.length_le
  rw [length_sends hrandom] at hlen
  have hsize : helloSize + proofSize = 69 := rfl
  cases client_heard key (random .client) got false with
  | @unproved r rest wrong hears fails waits =>
    have hshort : got.length ≠ 69 := fun h => by
      obtain ⟨more, greets, hmore⟩ := greets_of_prefix (hrandom .server) hgot (by omega)
      exact wrong _ more greets ((take_proof_iff greets hmore).2 h)
    refine ⟨r, rest, _, hears, ?_, ⟨_, rfl⟩, fun _ => ?_, fun h => ?_⟩
    · rw [if_neg hshort]
      exact waits rfl (by omega)
    · exact Nat.le_of_eq (length_hello (hrandom .client)).symm
    · exact absurd h (by simp only [needs]; omega)
  | @proved sr more greets right hears =>
    have hmore := le_length_of_proof right
    have hall : got.length = 69 := by
      have := greets.length
      omega
    obtain ⟨more', greets', -⟩ := greets_of_prefix (hrandom .server) hgot (by omega)
    obtain ⟨rfl, rfl⟩ := greets.unique greets'
    refine ⟨_, _, _, hears, ?_, List.prefix_rfl, fun _ => ?_, fun _ => rfl⟩
    · rw [if_pos hall]
      rfl
    · rw [List.length_append, length_hello (hrandom .client)]
      exact Nat.le_add_right _ _

theorem server_on_track (hrandom : ∀ e, (random e).length = randomSize)
    (hgot : got <+: sends key random .client) :
    ∃ r rest w, (side .server key (random .server)).Hears got false r rest w ∧
      Heard key random .server got r w := by
  have hlen := hgot.length_le
  rw [length_sends hrandom] at hlen
  have hsize : helloSize + proofSize = 69 := rfl
  cases server_heard key (random .server) got false with
  | @ungreeted r rest none hears fails waits =>
    have hshort : got.length < helloSize := Nat.lt_of_not_le fun h => by
      obtain ⟨more, greets, -⟩ := greets_of_prefix (hrandom .client) hgot h
      exact none _ _ greets
    refine ⟨r, rest, _, hears, ?_, List.nil_prefix, nofun, fun h => ?_⟩
    · rw [if_neg (by omega)]
      exact waits rfl hshort
    · exact absurd h (Nat.not_le_of_lt hshort)
  | @unproved r cr more rest greets wrong hears fails waits =>
    have hlong := greets.length
    obtain ⟨more', greets', hmore⟩ := greets_of_prefix (hrandom .client) hgot (by omega)
    obtain ⟨rfl, rfl⟩ := greets.unique greets'
    have hshort : got.length ≠ 69 := mt (take_proof_iff greets hmore).2 wrong
    refine ⟨r, rest, _, hears, ?_, List.prefix_rfl, nofun, fun _ => rfl⟩
    rw [if_neg hshort]
    exact waits rfl (by omega)
  | @proved cr more greets right hears =>
    have hlong := greets.length
    obtain ⟨more', greets', hmore⟩ := greets_of_prefix (hrandom .client) hgot (by omega)
    obtain ⟨rfl, rfl⟩ := greets.unique greets'
    refine ⟨_, _, _, hears, ?_, List.prefix_rfl, nofun, fun _ => rfl⟩
    rw [if_pos ((take_proof_iff greets hmore).1 right)]
    rfl

/-- What a side does with the beginning of what the other side sends. -/
theorem heard (hrandom : ∀ e, (random e).length = randomSize) {e : End}
    (hgot : got <+: sends key random e.peer) :
    ∃ r rest w, (side e key (random e)).Hears got false r rest w ∧ Heard key random e got r w := by
  cases e with
  | client => exact client_on_track hrandom hgot
  | server => exact server_on_track hrandom hgot

/-! ## Any schedule -/

/-- A side has got these pieces, which are a beginning of what the other side sends. -/
structure Follows (key : MasterKey) (random : End → Bytes) (x : Line) (e : End)
    (arrivals : List Bytes) : Prop where
  run : (x.talk e, x.channel e) = (side e key (random e)).attend arrivals false
  reached : arrivals.flatten = (x.written e.peer).take (x.reached e)
  le : x.reached e ≤ (x.written e.peer).length
  genuine : arrivals.flatten <+: sends key random e.peer

/-- Both sides have got a beginning of what the other side sends. -/
def OnTrack (key : MasterKey) (random : End → Bytes) (x : Line) : Prop :=
  ∀ e, ∃ arrivals, Follows key random x e arrivals

theorem onTrack_start (key : MasterKey) (random : End → Bytes) :
    OnTrack key random (Line.start key random) :=
  fun _ => ⟨[], rfl, rfl, Nat.zero_le _, List.nil_prefix⟩

variable {x : Line} {e : End}

theorem OnTrack.heard (h : OnTrack key random x) (hrandom : ∀ e, (random e).length = randomSize)
    (e : End) : ∃ got, got.length = x.reached e ∧
      Heard key random e got (x.talk e).result? (x.written e) := by
  obtain ⟨arrivals, hrun, hreached, hle, hgenuine⟩ := h e
  obtain ⟨r, rest, w, hears, hheard⟩ := Handshake.heard hrandom hgenuine
  obtain ⟨hr, -, hw⟩ := hears.attend
  rw [← hrun] at hr hw
  refine ⟨arrivals.flatten, ?_, ?_⟩
  · rw [hreached, List.length_take, Nat.min_eq_left hle]
  · rwa [← hr, ← hw] at hheard

/-- A side succeeds when it has got everything, and waits until then. -/
theorem OnTrack.result (h : OnTrack key random x) (hrandom : ∀ e, (random e).length = randomSize)
    (e : End) : (x.talk e).result? =
      if x.reached e = 69 then some (.ok (agreed key random e)) else none := by
  obtain ⟨got, hlen, hheard⟩ := h.heard hrandom e
  rw [hheard.result, hlen]

theorem OnTrack.written_of_needs (h : OnTrack key random x)
    (hrandom : ∀ e, (random e).length = randomSize) (hneeds : needs e ≤ x.reached e) :
    x.written e = sends key random e := by
  obtain ⟨got, hlen, hheard⟩ := h.heard hrandom e
  exact hheard.answers (hlen ▸ hneeds)

/-- What reaches a side next continues what has reached it. -/
theorem take_reached (w : Bytes) (n most : Nat) :
    w.take (n + ((w.drop n).take most).length) = w.take n ++ (w.drop n).take most := by
  rw [List.take_add]
  congr 1
  exact (List.prefix_iff_eq_take.1 (List.take_prefix most (w.drop n))).symm

theorem Follows.deliver {arrivals : List Bytes} (h : Follows key random x e arrivals)
    (hpeer : x.written e.peer <+: sends key random e.peer) (most : Nat) :
    Follows key random (x.deliver ⟨e, most⟩) e
      (arrivals ++ [((x.written e.peer).drop (x.reached e)).take most]) := by
  have hflat : (arrivals ++ [((x.written e.peer).drop (x.reached e)).take most]).flatten =
      (x.written e.peer).take ((x.deliver ⟨e, most⟩).reached e) := by
    rw [List.flatten_concat, h.reached, x.reached_deliver, take_reached]
  refine ⟨?_, ?_, ?_, ?_⟩
  · rw [attend_concat, ← h.run]
    exact x.run_deliver e most
  · rw [hflat, x.written_deliver_peer]
  · rw [x.reached_deliver, x.written_deliver_peer, List.length_take, List.length_drop]
    have := h.le
    omega
  · rw [hflat]
    exact (List.take_prefix _ _).trans hpeer

theorem Follows.deliver_peer {arrivals : List Bytes} (h : Follows key random x e.peer arrivals)
    (most : Nat) : Follows key random (x.deliver ⟨e, most⟩) e.peer arrivals := by
  obtain ⟨hrun, hreached, hle, hgenuine⟩ := h
  have hgrown := x.written_deliver e most
  rw [e.peer_peer] at hreached hle
  refine ⟨?_, ?_, ?_, hgenuine⟩
  · rw [x.talk_deliver_peer, x.channel_deliver_peer, hrun]
  · obtain ⟨w, hw⟩ := hgrown
    rw [e.peer_peer, x.reached_deliver_peer, ← hw, List.take_append_of_le_length hle, hreached]
  · rw [e.peer_peer, x.reached_deliver_peer]
    exact Nat.le_trans hle hgrown.length_le

theorem onTrack_deliver (h : OnTrack key random x) (hrandom : ∀ e, (random e).length = randomSize)
    (d : Delivery) : OnTrack key random (x.deliver d) := by
  obtain ⟨e, most⟩ := d
  intro e'
  obtain rfl | rfl := e.eq_or_eq_peer e'
  · obtain ⟨arrivals, hfollows⟩ := h e'
    obtain ⟨got, -, hheard⟩ := h.heard hrandom e'.peer
    exact ⟨_, hfollows.deliver hheard.written most⟩
  · obtain ⟨arrivals, hfollows⟩ := h e.peer
    exact ⟨arrivals, hfollows.deliver_peer most⟩

theorem onTrack_run (h : OnTrack key random x) (hrandom : ∀ e, (random e).length = randomSize)
    (schedule : List Delivery) : OnTrack key random (x.run schedule) := by
  induction schedule generalizing x with
  | nil => exact h
  | cons d schedule ih => exact ih (onTrack_deliver h hrandom d)

/-! ## The end -/

namespace OnTrack

variable (hrandom : ∀ e, (random e).length = randomSize)

include hrandom

theorem opens (h : OnTrack key random x) : helloSize ≤ (x.written .client).length := by
  obtain ⟨got, -, hheard⟩ := h.heard hrandom .client
  exact hheard.opens rfl

theorem length_written (h : OnTrack key random x) (hneeds : needs e ≤ x.reached e) :
    (x.written e).length = 69 := by
  rw [h.written_of_needs hrandom hneeds, length_sends hrandom]

/-- When nothing is on its way, both sides have got everything. -/
theorem reached_of_quiet (h : OnTrack key random x) (hquiet : x.Quiet) (e : End) :
    x.reached e = 69 := by
  have hclient : x.reached .client = 69 :=
    (hquiet .client).trans (h.length_written hrandom (hquiet .server ▸ h.opens hrandom))
  cases e with
  | client => exact hclient
  | server => exact (hquiet .server).trans (h.length_written hrandom (Nat.le_of_eq hclient.symm))

/-- Everything that is on its way to a side can reach it at once. -/
theorem deliver_all (h : OnTrack key random x) (e : End) :
    (x.deliver ⟨e, 69⟩).reached e = (x.written e.peer).length ∧
      (x.deliver ⟨e, 69⟩).reached e.peer = x.reached e.peer ∧
      (x.deliver ⟨e, 69⟩).written e.peer = x.written e.peer := by
  obtain ⟨arrivals, -, -, hle, -⟩ := h e
  obtain ⟨got, -, hheard⟩ := h.heard hrandom e.peer
  have hfew := hheard.written.length_le
  rw [length_sends hrandom] at hfew
  refine ⟨?_, x.reached_deliver_peer e 69, x.written_deliver_peer e 69⟩
  rw [x.reached_deliver, List.length_take, List.length_drop]
  omega

/-- It takes three deliveries until nothing is on its way. -/
theorem exists_quiet (h : OnTrack key random x) : ∃ more, (x.run more).Quiet := by
  let x₁ := x.deliver ⟨.server, 69⟩
  let x₂ := x₁.deliver ⟨.client, 69⟩
  let x₃ := x₂.deliver ⟨.server, 69⟩
  have h₁ : OnTrack key random x₁ := onTrack_deliver h hrandom _
  have h₂ : OnTrack key random x₂ := onTrack_deliver h₁ hrandom _
  have h₃ : OnTrack key random x₃ := onTrack_deliver h₂ hrandom _
  -- the client's hello reaches the server, so it answers
  obtain ⟨hserver, -, -⟩ := h.deliver_all hrandom .server
  have hanswer : (x₁.written .server).length = 69 :=
    h₁.length_written hrandom (hserver ▸ h.opens hrandom)
  -- the answer reaches the client, so it proves itself
  obtain ⟨hclient, -, -⟩ := h₁.deliver_all hrandom .client
  have hproof : (x₂.written .client).length = 69 :=
    h₂.length_written hrandom (Nat.le_of_eq (hclient.trans hanswer).symm)
  -- and the proof reaches the server
  obtain ⟨hserver', hclient', hkept⟩ := h₂.deliver_all hrandom .server
  have hlast : x₃.reached .server = 69 := hserver'.trans hproof
  have hserver'' : (x₃.written .server).length = 69 :=
    h₃.length_written hrandom (hlast ▸ (by decide))
  refine ⟨[⟨.server, 69⟩, ⟨.client, 69⟩, ⟨.server, 69⟩], fun e => ?_⟩
  change x₃.reached e = (x₃.written e.peer).length
  cases e with
  | client => exact (hclient'.trans (hclient.trans hanswer)).trans hserver''.symm
  | server => exact hserver'.trans (congrArg List.length hkept).symm

end OnTrack

/-- **Two ends with the same secret agree.** Whatever the secret (it must not be empty) and the randoms,
and however the bytes are cut and delayed, a side of the handshake succeeds in time if and only if all 69
bytes for it have reached it by then, and it fails for no other reason. They have when nothing is on its
way any more, and from anywhere there is a way to that. The two sessions then fit: whatever both ends seal
and open, in any order, each open gives the next thing that the other end has sealed, and the counters of
both ends say how much that was. -/
theorem sessions_agree (secret : Secret) (hsecret : secret.bytes ≠ []) (random : End → Bytes)
    (hrandom : ∀ e, (random e).length = 32) :
    ∃ key, MasterKey.derive secret = .ok key ∧ ∃ session : End → Session,
      (∀ schedule, let x := (Line.start key random).run schedule
        (∀ e config, outcome config (x.talk e) =
          if x.reached e = 69 then .ok (session e) else .error (timedOut config)) ∧
        (x.Quiet → ∀ e, x.reached e = 69) ∧ ∃ more, (x.run more).Quiet) ∧
      ∀ moves, (∀ e, (Conversation.plaintexts e moves).length < 2 ^ 64 - 1) →
        let c := ({ session } : Conversation).run moves
        ∀ e, (Conversation.plaintexts e.peer moves).map .ok =
            c.answers e ++ (c.onWay e.peer).map (fun m => .ok m.plaintext) ∧
          (c.session e).opener.counter = (c.answers e).length ∧
          (c.session e).sealer.counter = (Conversation.plaintexts e moves).length := by
  obtain ⟨key, hkey⟩ : ∃ key, MasterKey.derive secret = .ok key := ⟨_, if_neg hsecret⟩
  refine ⟨key, hkey, agreed key random, fun schedule => ?_, fun moves hfew e => ?_⟩
  · have htrack := onTrack_run (onTrack_start key random) hrandom schedule
    refine ⟨fun e config => ?_, htrack.reached_of_quiet hrandom, htrack.exists_quiet hrandom⟩
    rw [outcome, htrack.result hrandom]
    split <;> rfl
  · let keys := key.sessionKeys (random .client) (random .server)
    have hlanes : ((Conversation.fresh keys).run moves).Lanes moves :=
      Conversation.lanes_run (Conversation.lanes_fresh keys) fun e => Nat.le_of_lt (hfew e)
    have htold := hlanes e.peer
    rw [e.peer_peer] at htold
    exact ⟨htold.split, htold.opened, (hlanes e).sealed⟩

theorem sessions_agree_on_ping :
    let secret : Secret := ⟨Bytes.ofText "hunter2"⟩
    let random : End → Bytes
      | .client => List.replicate 32 1
      | .server => List.replicate 32 2
    let moves : List Conversation.Move :=
      [.seals .client [7] (Bytes.ofText "ping"), .seals .server [] (Bytes.ofText "pong"),
        .opens .server, .seals .client [] [], .opens .client]
    secret.bytes ≠ [] ∧ (∀ e, (random e).length = 32) ∧
      (∀ e, (Conversation.plaintexts e moves).length < 2 ^ 64 - 1) ∧
      ∃ key session, MasterKey.derive secret = .ok key ∧
        (∃ schedule, ∀ e, outcome {} (((Line.start key random).run schedule).talk e) = .ok (session e)) ∧
        let c := ({ session } : Conversation).run moves
        c.answers .server <+: [.ok (Bytes.ofText "ping"), .ok []] ∧
          c.answers .client <+: [.ok (Bytes.ofText "pong")] := by
  intro secret random moves
  have hsecret : secret.bytes ≠ [] := by decide +kernel
  have hrandom : ∀ e, (random e).length = 32 := by rintro (_ | _) <;> rfl
  have hfew : ∀ e, (Conversation.plaintexts e moves).length < 2 ^ 64 - 1 := by
    rintro (_ | _) <;> decide +kernel
  obtain ⟨key, hkey, session, hhandshake, htalk⟩ := sessions_agree secret hsecret random hrandom
  refine ⟨hsecret, hrandom, hfew, key, session, hkey, ?_, ?_, ?_⟩
  · obtain ⟨-, -, more, hquiet⟩ := hhandshake []
    obtain ⟨hends, hreached, -⟩ := hhandshake more
    refine ⟨more, fun e => ?_⟩
    rw [hends, if_pos (hreached hquiet e)]
  · exact ⟨_, (htalk moves hfew .server).1.symm⟩
  · exact ⟨_, (htalk moves hfew .client).1.symm⟩

end SealedRelay.Handshake
