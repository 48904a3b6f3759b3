import Mathlib.Data.List.Induction
import SealedRelay.Proofs.Connection.Teardown
import SealedRelay.Proofs.Frame.Streaming

/-!
# Only what the peer has sealed is handed over

Whoever is on the wire may send any bytes. An opener opens a payload only if the sealer in step with it
makes exactly this of some plaintext, and it counts every payload, whether it opens or not. So the
frames that a reader hands over are those that the peer would have sealed, one after the other from the
first on, and their wire form is how the bytes begin that have arrived. The first failure ends it.

Results:
* `Opener.next_eq_ok_iff`: an opener accepts what the sealer in step with it makes, and nothing else.
* `handing_read`: what is handed over of frames that have arrived, and what is not.
* `Authentic.step`: how the bytes of a run begin, after every event.
* `only_sealed_opens`: openers, and any run of a connection.
-/
namespace SealedRelay

/-! ## Openers -/

namespace Opener

variable {key aad c p : Bytes} {d : Direction} {n : Nat}

/-- An opener accepts what the sealer in step with it makes, and nothing else. -/
theorem next_eq_ok_iff (hn : n < lastCounter) :
    ((⟨key, d, n⟩ : Opener).next aad c).1 = .ok p ↔
      ((⟨key, d, n⟩ : Sealer).next aad p).1 = .ok c := by
  have hlast : ¬n ≥ lastCounter := Nat.not_le_of_lt hn
  rw [Opener.next, Sealer.next, if_neg hlast, if_neg hlast, Except.ok.injEq]
  cases hd : Crypto.Aead.decrypt key (nonce d n) aad c with
  | none =>
    refine iff_of_false (by simp) fun hc => ?_
    rw [Crypto.Aead.decrypt_eq_some_iff.2 hc.symm] at hd
    cases hd
  | some p' =>
    have hc := Crypto.Aead.decrypt_eq_some_iff.1 hd
    constructor
    · intro h
      obtain rfl := Except.ok.inj h
      exact hc.symm
    · intro h
      have hp := Crypto.Aead.decrypt_eq_some_iff.2 h.symm
      exact congrArg Except.ok (Option.some.inj (hd.symm.trans hp))

theorem next_snd (hn : n < lastCounter) :
    ((⟨key, d, n⟩ : Opener).next aad c).2 = ⟨key, d, n + 1⟩ := by
  rw [Opener.next, if_neg (Nat.not_le_of_lt hn)]

theorem next_eq_error (hn : n < lastCounter) {e : SealError}
    (h : ((⟨key, d, n⟩ : Opener).next aad c).1 = .error e) : e = .authenticationFailure := by
  rw [Opener.next, if_neg (Nat.not_le_of_lt hn)] at h
  dsimp only at h
  split at h
  · cases h
  · exact (Except.error.inj h).symm

/-- A payload that is too short for its tag is not genuine. -/
theorem next_of_short (hn : n < lastCounter) (hc : c.length < Crypto.Aead.tagSize) :
    ((⟨key, d, n⟩ : Opener).next aad c).1 = .error .authenticationFailure := by
  cases h : ((⟨key, d, n⟩ : Opener).next aad c).1 with
  | error e => rw [next_eq_error hn h]
  | ok p =>
    have hseal := (next_eq_ok_iff hn).1 h
    rw [Sealer.next, if_neg (Nat.not_le_of_lt hn)] at hseal
    have hlen := congrArg List.length (Except.ok.inj hseal)
    rw [Crypto.Aead.length_encrypt] at hlen
    omega

end Opener

/-- The bytes that a sealer and the encoder make of frames, one after the other: the first of them is
sealed under the counter of the sealer, and each of the others under the next one. -/
inductive Sealer.Seals : Sealer → List Frame → Bytes → Prop where
  | nothing (s : Sealer) : Seals s [] []
  | frame {s s' : Sealer} {f : Frame} {payload wire : Bytes} {fs : List Frame} {b : Bytes}
      (sealed : s.next f.routing f.payload = (.ok payload, s'))
      (encoded : ({ f with payload } : Frame).encode = .ok wire) (later : Seals s' fs b) :
      Seals s (f :: fs) (wire ++ b)

namespace Sealer

variable {s s' : Sealer} {fs gs : List Frame} {b b' c : Bytes} {w : Frame} {o : Opener}

theorem eq_after_of_next {aad plaintext : Bytes} (h : s.next aad plaintext = (.ok c, s')) :
    s' = s.after 1 := by
  unfold next at h
  split at h
  · cases h
  · exact (Prod.mk.inj h).2.symm

/-- What is sealed later is sealed under later counters. -/
theorem Seals.append (h : Seals s fs b) (later : Seals (s.after fs.length) gs b') :
    Seals s (fs ++ gs) (b ++ b') := by
  induction h with
  | nothing => exact later
  | frame sealed encoded _ ih =>
    obtain rfl := eq_after_of_next sealed
    rw [List.length_cons, Nat.add_comm, ← after_after] at later
    rw [List.append_assoc]
    exact .frame sealed encoded (ih later)

theorem next_of_opener_next {payload : Bytes}
    (h : s.opener.next w.routing w.payload = (.ok payload, o)) :
    o = (s.after 1).opener ∧ s.next w.routing payload = (.ok w.payload, s.after 1) := by
  by_cases hlast : s.counter ≥ lastCounter
  · have hnext : s.opener.next w.routing w.payload = (.error .nonceExhausted, s.opener) :=
      if_pos hlast
    cases hnext.symm.trans h
  have hlt := Nat.lt_of_not_le hlast
  refine ⟨?_, Prod.ext ((Opener.next_eq_ok_iff hlt).1 (congrArg Prod.fst h)) ?_⟩
  · exact (congrArg Prod.snd h).symm.trans (Opener.next_snd hlt)
  · rw [next, if_neg hlast]
    rfl

/-- The frame number `n` is sealed under the counter that is `n` later, and its bytes are there behind
those of the frames before it. -/
theorem Seals.nth (h : Seals s fs b) {n : Nat} {f : Frame} (hn : fs[n]? = some f) :
    ∃ before payload wire later, Seals s (fs.take n) before ∧
      (s.after n).next f.routing f.payload = (.ok payload, s.after (n + 1)) ∧
      ({ f with payload } : Frame).encode = .ok wire ∧ b = before ++ wire ++ later := by
  induction h generalizing n with
  | nothing => cases hn
  | @frame s s' g payload wire fs b sealed encoded others ih =>
    obtain rfl := eq_after_of_next sealed
    cases n with
    | zero =>
      obtain rfl : g = f := Option.some.inj hn
      exact ⟨[], payload, wire, b, .nothing s, sealed, encoded, rfl⟩
    | succ n =>
      obtain ⟨before, payload', wire', later, hbefore, hseal, hencode, rfl⟩ := ih hn
      rw [after_after, after_after, Nat.add_comm 1 n, Nat.add_comm 1 (n + 1)] at hseal
      exact ⟨wire ++ before, payload', wire', later, .frame sealed encoded hbefore, hseal, hencode,
        by simp⟩

/-- Of frames that have arrived the opener in step opens those that are sealed, up to the first that is
not. -/
theorem exists_seals_frames {sealed : List Frame} (hw : ∀ w ∈ sealed, w.encode = .ok w.toBytes) :
    ∃ wire rest, sealed.flatMap Frame.toBytes = wire ++ rest ∧
      s.Seals (s.opener.frames sealed).1 wire := by
  induction sealed generalizing s with
  | nil => exact ⟨[], [], rfl, .nothing s⟩
  | cons w sealed ih =>
    obtain ⟨hencode, hw⟩ := List.forall_mem_cons.1 hw
    rcases ho : s.opener.next w.routing w.payload with ⟨e | payload, o⟩
    · refine ⟨[], _, rfl, ?_⟩
      simp only [Opener.frames, ho]
      exact .nothing s
    · obtain ⟨rfl, hseal⟩ := next_of_opener_next ho
      obtain ⟨wire, rest, hbytes, hseals⟩ := ih (s := s.after 1) hw
      refine ⟨w.toBytes ++ wire, rest, by simp [hbytes], ?_⟩
      simp only [Opener.frames, ho]
      exact .frame (f := { w with payload }) hseal hencode hseals

end Sealer

theorem Frame.Fits.encode_eq {most : Nat} {f : Frame} (h : f.Fits most) : f.encode = .ok f.toBytes := by
  rw [encode, if_neg (not_not_intro h.stream), if_neg (Nat.not_lt_of_le h.declared)]

/-- Frames are taken off a buffer until there is none, or an error. -/
theorem Frame.exists_decodeAll (most : Nat) (b : Bytes) :
    ∃ sealed r rest, decodeAll most b = (sealed, .of r rest) ∧
      b = sealed.flatMap toBytes ++ rest ∧ (∀ w ∈ sealed, w.Fits most) ∧
      decode most rest = .atEnd r := by
  fun_induction decodeAll most b with
  | case1 b f rest h frames ending heq ih =>
    obtain ⟨sealed, r, rest', hall, hrest, hfits, hend⟩ := ih
    obtain ⟨rfl, rfl⟩ := Prod.mk.inj (heq.symm.trans hall)
    obtain ⟨hf, rfl⟩ := decode_eq_frame_iff.1 h
    refine ⟨f :: frames, r, rest', rfl, ?_, List.forall_mem_cons.2 ⟨hf, hfits⟩, hend⟩
    rw [List.flatMap_cons, List.append_assoc, ← hrest]
  | case2 b h => exact ⟨[], none, b, rfl, rfl, List.forall_mem_nil _, h⟩
  | case3 b e h => exact ⟨[], some e, b, rfl, rfl, List.forall_mem_nil _, h⟩

namespace Connection

/-! ## What is handed over -/

/-- The frame that is handed over when a sealed one has arrived; none if that does not open. -/
def unsealed (x : Connection) (w : Frame) : Option Frame :=
  if x.closed then none
  else
    match (x.opener.next w.routing w.payload).1 with
    | .ok payload => some { w with payload }
    | .error _ => none

/-- The frames that are handed over of sealed ones that have arrived. -/
def handing (now : Duration) : Connection → List Frame → List Frame
  | _, [] => []
  | x, w :: sealed => (x.unsealed w).toList ++ handing now (x.handle now w) sealed

/-- The frames that are handed over to the multiplexer with an event. -/
def handedOver (x : Connection) : Event → List Frame
  | .bytes now b => handing now x (x.decoded b).1
  | _ => []

def Event.arrival : Event → Bytes
  | .bytes _ b => b
  | _ => []

def run (x : Connection) (events : List Event) : Connection := events.foldl step x

/-- The frames that are handed over while one event happens after the other. -/
def handedAll (x : Connection) : List Event → List Frame
  | [] => []
  | e :: events => x.handedOver e ++ (x.step e).handedAll events

variable {x z : Connection} {s : Sealer} {c : Mux.Config} {now : Duration} {sealed frames : List Frame}
  {b : Bytes} {w : Frame}

theorem handing_of_closed (h : x.closed = true) : handing now x sealed = [] := by
  induction sealed with
  | nil => rfl
  | cons w sealed ih =>
    rw [handing, handle_of_closed h, ih, unsealed, if_pos h]
    rfl

theorem unsealed_of_next (hopen : x.closed = false) :
    x.unsealed w =
      match (x.opener.next w.routing w.payload).1 with
      | .ok payload => some { w with payload }
      | .error _ => none :=
  if_neg (by simp [hopen])

/-- Of frames that have arrived a reader hands over those that the peer has sealed, up to the first that
does not open or breaks a rule. If it takes them all it is in step with the peer's sealer behind them. -/
theorem handing_read (hm : x.mux.Sound) (hopen : x.closed = false) (hs : x.opener = s.opener)
    (hw : ∀ w ∈ sealed, w.encode = .ok w.toBytes) (now : Duration) :
    let z := sealed.foldl (handle now) x
    let frames := handing now x sealed
    ∃ wire rest, sealed.flatMap Frame.toBytes = wire ++ rest ∧ s.Seals frames wire ∧
      ((z.closed = false ∧ z.mux = x.mux.handed frames ∧ rest = [] ∧
          z.opener = (s.after frames.length).opener) ∨
        ∃ e, Ended (x.mux.handed frames) e z) := by
  induction sealed generalizing x s with
  | nil => exact ⟨[], [], rfl, .nothing s, .inl ⟨hopen, rfl, rfl, hs⟩⟩
  | cons w sealed ih =>
    obtain ⟨hencode, hw⟩ := List.forall_mem_cons.1 hw
    rw [handing, unsealed_of_next hopen, List.foldl_cons]
    rcases ho : x.opener.next w.routing w.payload with ⟨e | payload, o⟩
    · have hended : Ended x.mux (streamError (.ofSeal e)) (x.handle now w) := by
        rw [handle_unopened hopen ho]
        exact ended_teardown rfl hm hopen
      rw [handing_of_closed hended.closed, foldl_handle_of_closed hended.closed]
      exact ⟨[], _, rfl, .nothing s, .inr ⟨_, hended⟩⟩
    rw [hs] at ho
    obtain ⟨rfl, hseal⟩ := Sealer.next_of_opener_next ho
    rw [← hs] at ho
    let f : Frame := { w with payload }
    cases hr : (x.mux.receive f).1 with
    | error e =>
      have hended : Ended (x.mux.handed [f]) (streamError e) (x.handle now w) := by
        rw [handle_opened hopen ho now, hr]
        exact ended_teardown rfl (hm.receive f) hopen
      rw [handing_of_closed hended.closed, foldl_handle_of_closed hended.closed]
      refine ⟨w.toBytes ++ [], sealed.flatMap Frame.toBytes, by simp, ?_, .inr ⟨_, hended⟩⟩
      exact .frame (f := f) hseal hencode (.nothing _)
    | ok =>
      have hhandle : x.handle now w = x.noted now w (s.after 1).opener (x.mux.receive f).2 := by
        rw [handle_opened hopen ho now, hr]
      rw [hhandle]
      obtain ⟨wire, rest, hbytes, hseals, hend⟩ :=
        ih (x := x.noted now w (s.after 1).opener (x.mux.receive f).2) (hm.receive f) hopen rfl hw
      refine ⟨w.toBytes ++ wire, rest, by simp [hbytes], .frame (f := f) hseal hencode hseals, ?_⟩
      simp only [Option.toList_some, List.cons_append, List.nil_append, List.length_cons]
      rw [Nat.add_comm _ 1, ← Sealer.after_after]
      exact hend

/-- What a read does to the streams is handing over the frames that it logs. Then the connection goes on,
or it has ended. -/
theorem receive_handed (hm : x.mux.Sound) (hopen : x.closed = false) (hs : x.opener = s.opener)
    (now : Duration) (b : Bytes) :
    let z := x.receive now b
    let frames := x.handedOver (.bytes now b)
    ∃ wire rest, x.received ++ b = wire ++ rest ∧ s.Seals frames wire ∧
      ((z.closed = false ∧ z.mux = x.mux.handed frames ∧ z.received = rest ∧
          Frame.decode (wireLimit x.mux.config) rest = .more ∧
          z.opener = (s.after frames.length).opener) ∨
        ∃ e, Ended (x.mux.handed frames) e z) := by
  obtain ⟨sealed, r, left, hall, hbytes, hfits, hleft⟩ :=
    Frame.exists_decodeAll (wireLimit x.mux.config) (x.received ++ b)
  have hdecoded : x.decoded b = (sealed, .of r left) := hall
  have hencode : ∀ w ∈ sealed, w.encode = .ok w.toBytes := fun w hw => (hfits w hw).encode_eq
  obtain ⟨wire, rest, hwire, hseals, hend⟩ := handing_read hm hopen hs hencode now
  refine ⟨wire, rest ++ left, by rw [hbytes, hwire, List.append_assoc], ?_, ?_⟩
  · rwa [handedOver, hdecoded]
  rw [receive_eq hopen, handedOver, hdecoded]
  cases r with
  | none =>
    rcases hend with ⟨hz, hmux, rfl, ho⟩ | ⟨e, he⟩
    · exact .inl ⟨hz, hmux, rfl, hleft, ho⟩
    · exact .inr ⟨_, he.received left⟩
  | some e =>
    rcases hend with ⟨hz, hmux, -, -⟩ | ⟨e', he⟩
    · refine .inr ⟨streamError (.ofFrame e), Ended.received ?_ left⟩
      exact ended_teardown (congrArg Mux.streams hmux) (hmux ▸ sound_handed hm _) hz
    · dsimp only [Frame.Ending.of]
      rw [teardown_of_closed he.closed]
      exact .inr ⟨_, he.received left⟩

/-- What no bytes arrive with leaves the reader as it is, or ends the connection. -/
theorem step_reader {e : Event} (hopen : x.closed = false) (hquiet : ∀ now b, e ≠ .bytes now b) :
    (x.step e).closed = true ∨
      (x.step e).closed = false ∧ (x.step e).received = x.received ∧ (x.step e).opener = x.opener := by
  cases e with
  | call => exact .inr ⟨hopen, rfl, rfl⟩
  | bytes now b => exact absurd rfl (hquiet now b)
  | endOfInput =>
    rw [step, endOfInput]
    split <;> exact .inl (closed_teardown _ _)
  | socketFailed => exact .inl (closed_teardown _ _)
  | write =>
    rw [step, nextWire, if_neg (by simp [hopen])]
    split
    · exact .inr ⟨hopen, rfl, rfl⟩
    dsimp only
    split
    · exact .inl (closed_teardown _ _)
    split
    · exact .inl (closed_teardown _ _)
    · exact .inr ⟨hopen, rfl, rfl⟩
  | tick =>
    rw [step, tick, if_neg (by simp [hopen])]
    dsimp only
    split
    · exact .inl (closed_teardown _ _)
    split <;> exact .inr ⟨hopen, rfl, rfl⟩
  | close => exact .inl (closed_teardown _ _)

/-! ## Any run -/

/-- Of the bytes that have arrived, the first are the wire form of the frames that were handed over, as
`s` seals them. While the connection is open the others are those that it keeps. -/
structure Authentic (c : Mux.Config) (s : Sealer) (frames : List Frame) (b : Bytes)
    (x : Connection) : Prop where
  limited : x.mux.Limited c
  bytes : ∃ wire rest, b = wire ++ rest ∧ s.Seals frames wire ∧
    (x.closed = false → rest = x.received ∧ Frame.decode (wireLimit c) rest = .more ∧
      x.opener = (s.after frames.length).opener)

namespace Authentic

theorem handedOver_of_closed (h : x.closed = true) (e : Event) : x.handedOver e = [] := by
  cases e with
  | bytes now b => exact handing_of_closed h
  | _ => rfl

/-- It stays so, whatever happens. -/
theorem step (h : x.Authentic c s frames b) (e : Event) :
    (x.step e).Authentic c s (frames ++ x.handedOver e) (b ++ e.arrival) := by
  refine ⟨limited_step h.limited e, ?_⟩
  obtain ⟨wire, rest, hb, hseals, hreader⟩ := h.bytes
  cases hx : x.closed with
  | true =>
    refine ⟨wire, rest ++ e.arrival, by rw [hb, List.append_assoc], ?_, fun hopen => ?_⟩
    · rwa [handedOver_of_closed hx, List.append_nil]
    · cases (closed_step hx e).symm.trans hopen
  | false =>
  obtain ⟨rfl, hmore, ho⟩ := hreader hx
  by_cases hquiet : ∀ now b, e ≠ .bytes now b
  · have hnone : x.handedOver e = [] ∧ e.arrival = [] := by
      cases e with
      | bytes now b => exact absurd rfl (hquiet now b)
      | _ => exact ⟨rfl, rfl⟩
    rw [hnone.1, hnone.2, List.append_nil, List.append_nil]
    refine ⟨wire, x.received, hb, hseals, fun hopen => ?_⟩
    rcases step_reader hx hquiet with hclosed | ⟨-, hreceived, hopener⟩
    · cases hclosed.symm.trans hopen
    · exact ⟨hreceived.symm, hmore, hopener.trans ho⟩
  · obtain ⟨now, piece, rfl⟩ : ∃ now piece, e = .bytes now piece := by simpa using hquiet
    obtain ⟨wire', rest', hpiece, hnew, hend⟩ := receive_handed h.limited.sound hx ho now piece
    refine ⟨wire ++ wire', rest', ?_, hseals.append hnew, fun hopen => ?_⟩
    · rw [hb, Event.arrival, List.append_assoc, hpiece, List.append_assoc]
    rcases hend with ⟨-, -, hreceived, hmore', hopener⟩ | ⟨e, he⟩
    · rw [h.limited.config] at hmore'
      rw [List.length_append, ← Sealer.after_after]
      exact ⟨hreceived.symm, hmore', hopener⟩
    · cases he.closed.symm.trans hopen

end Authentic

theorem run_concat (x : Connection) (events : List Event) (e : Event) :
    x.run (events ++ [e]) = (x.run events).step e := List.foldl_append

theorem handedAll_append (x : Connection) (events later : List Event) :
    x.handedAll (events ++ later) = x.handedAll events ++ (x.run events).handedAll later := by
  induction events generalizing x with
  | nil => rfl
  | cons e events ih => rw [List.cons_append, handedAll, handedAll, ih, List.append_assoc]; rfl

theorem handedAll_of_closed (h : x.closed = true) (events : List Event) : x.handedAll events = [] := by
  induction events generalizing x with
  | nil => rfl
  | cons e events ih =>
    rw [handedAll, Authentic.handedOver_of_closed h, ih (closed_step h e), List.nil_append]

/-- The sealer with which a fresh connection is in step is the one of the other end. -/
theorem opener_new (id : Nat) (peer : String) (e : End) (keys : SessionKeys) (config : Mux.Config) :
    (new id peer e (Session.new keys e) config).opener = (Session.new keys e.peer).sealer.opener := by
  cases e <;> rfl

theorem authentic_new (id : Nat) (peer : String) (e : End) (keys : SessionKeys)
    (config : Mux.Config) :
    (new id peer e (Session.new keys e) config).Authentic config (Session.new keys e.peer).sealer
      [] [] where
  limited := ⟨Mux.sound_fresh _ config, rfl, Nat.zero_le _⟩
  bytes := ⟨[], [], rfl, .nothing _, fun _ => ⟨rfl, rfl, opener_new id peer e keys config⟩⟩

theorem Authentic.run (h : x.Authentic c s [] []) (events : List Event) :
    (x.run events).Authentic c s (x.handedAll events) (events.flatMap Event.arrival) := by
  induction events using List.reverseRecOn with
  | nil => exact h
  | append_singleton events e ih =>
    rw [run_concat, handedAll_append, List.flatMap_append, List.flatMap_singleton]
    have hstep := ih.step e
    rwa [handedAll, handedAll, List.append_nil]

/-- **Only what the peer has sealed is handed over.** At every counter value but the last an opener
accepts exactly what a sealer with the same key, direction and counter makes; every call, also one with
fewer bytes than a tag, moves the counter on by one, and what is not genuine gives nothing but an error.

So of any bytes whatever an opener opens only frames with whose sealed form, one after the other, they
begin. A connection hands over no others, whatever happens to it: the frame number `n` that it hands over
has arrived as what the sealer and the encoder of the peer make of its kind, stream and payload at counter
`n`, behind the frames before it. While the connection is open, no whole frame is left among the bytes
that it keeps. When one does not open the connection is closed, and a closed connection hands over
nothing more. -/
theorem only_sealed_opens :
    (∀ (key aad : Bytes) (d : Direction) (n : Nat), n < lastCounter →
      let o : Opener := ⟨key, d, n⟩
      let s : Sealer := ⟨key, d, n⟩
      (∀ c p, (o.next aad c).1 = .ok p ↔ (s.next aad p).1 = .ok c) ∧
      ∀ c, (o.next aad c).2 = ⟨key, d, n + 1⟩ ∧
        (∀ e, (o.next aad c).1 = .error e → e = .authenticationFailure) ∧
        (c.length < Crypto.Aead.tagSize → (o.next aad c).1 = .error .authenticationFailure)) ∧
    (∀ (s : Sealer) (most : Nat) (b : Bytes), ∃ wire rest, b = wire ++ rest ∧
      s.Seals (s.opener.frames (Frame.decodeAll most b).1).1 wire) ∧
    ∀ (keys : SessionKeys) (e : End) (id : Nat) (peer : String) (config : Mux.Config)
      (events : List Event),
      let start := new id peer e (Session.new keys e) config
      let s := (Session.new keys e.peer).sealer
      let x := start.run events
      let frames := start.handedAll events
      let bytes := events.flatMap Event.arrival
      (∃ wire rest, bytes = wire ++ rest ∧ s.Seals frames wire ∧
        (x.closed = false → rest = x.received ∧ Frame.decode (wireLimit config) rest = .more)) ∧
      (∀ n f, frames[n]? = some f → ∃ before payload wire rest, s.Seals (frames.take n) before ∧
        (s.after n).next f.routing f.payload = (.ok payload, s.after (n + 1)) ∧
        ({ f with payload } : Frame).encode = .ok wire ∧ bytes = before ++ wire ++ rest) ∧
      (x.closed = true → ∀ later, start.handedAll (events ++ later) = frames) ∧
      ∀ now b,
        let z := x.step (.bytes now b)
        let newer := x.handedOver (.bytes now b)
        start.handedAll (events ++ [.bytes now b]) = frames ++ newer ∧
          (x.closed = true ∧ newer = [] ∧ z = x ∨
            z.closed = false ∧ z.mux = x.mux.handed newer ∨
            ∃ err, Ended (x.mux.handed newer) err z) := by
  refine ⟨fun key aad d n hn => ?_, fun s most b => ?_, fun keys e id peer config events => ?_⟩
  · exact ⟨fun c p => Opener.next_eq_ok_iff hn, fun c =>
      ⟨Opener.next_snd hn, fun e => Opener.next_eq_error hn, Opener.next_of_short hn⟩⟩
  · obtain ⟨sealed, r, left, hall, hbytes, hfits, -⟩ := Frame.exists_decodeAll most b
    obtain ⟨wire, rest, hwire, hseals⟩ :=
      Sealer.exists_seals_frames (s := s) fun w hw => (hfits w hw).encode_eq
    refine ⟨wire, rest ++ left, by rw [hbytes, hwire, List.append_assoc], ?_⟩
    rwa [hall]
  intro start s x frames bytes
  have authentic := (authentic_new id peer e keys config).run events
  obtain ⟨wire, rest, hbytes, hseals, hreader⟩ := authentic.bytes
  refine ⟨⟨wire, rest, hbytes, hseals, fun hopen => ?_⟩, fun n f hn => ?_, fun hclosed later => ?_,
    fun now b => ⟨?_, ?_⟩⟩
  · exact ⟨(hreader hopen).1, (hreader hopen).2.1⟩
  · obtain ⟨before, payload, wire', later, hbefore, hseal, hencode, rfl⟩ := hseals.nth hn
    refine ⟨before, payload, wire', later ++ rest, hbefore, hseal, hencode, ?_⟩
    exact hbytes.trans (List.append_assoc _ later rest)
  · rw [handedAll_append, handedAll_of_closed hclosed, List.append_nil]
  · rw [handedAll_append, handedAll, handedAll, List.append_nil]
  cases hx : x.closed with
  | true => exact .inl ⟨rfl, handing_of_closed hx, if_pos hx⟩
  | false =>
    obtain ⟨_, _, _, _, hend⟩ := receive_handed authentic.limited.sound hx (hreader hx).2.2 now b
    exact .inr (hend.imp_left fun h => ⟨h.1, h.2.1⟩)

end Connection

end SealedRelay
