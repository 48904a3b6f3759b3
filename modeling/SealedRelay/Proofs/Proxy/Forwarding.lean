import SealedRelay.Proofs.Mux.Lifecycle
import SealedRelay.Proofs.Proxy.Handover
import SealedRelay.Proofs.Splice.Pumps
import SealedRelay.Proxy.Relaying

/-!
# Every byte of a client, once and in order

From the handshake on, a client's bytes are in three places: on the stream, in what goes first, and in
front of or inside the splice. A passage of a client goes on by small moves: the client says something,
frames come in or go out, the relay runs. No move loses a byte or changes the order, and the stream is
only ended when the client has ended and all of its bytes are there.

Results:
* `Relaying.run_passed`: what one run of the relay puts on the stream.
* `Passage.run_faithful`: what holds at any time of a passage.
* `client_bytes_forwarded`: so the stream carries what the client says for the destination.
-/
namespace SealedRelay.Proxy

open Mux Splice

/-! ## One run -/

namespace Relaying

/-- What is still to be put on the stream. -/
def left (r : Relaying) : Bytes := r.replay ++ r.splice.left

/-- A relay that is not over puts some of what is left on the stream, and then may be over. -/
theorem run_passed {m : Mux} (hm : m.Sound) {r : Relaying} (hgoing : r.splice.result.isSome = false)
    (now : Nat) :
    let z := r.run now m
    ∃ out rest s, Worked m r.splice.handle out z.2 ∧ Passed r.left r.splice out rest s ∧
      (z.1.splice = s ∧ z.1.left = rest ∨ ∃ e, z.1.splice = s.finish e) := by
  intro z
  have hz : z = r.run now m := rfl
  rw [run, if_neg (by simp [hgoing])] at hz
  obtain ⟨out, worked, unended, written⟩ := writeAll_worked m r.splice.handle r.replay
  rcases hwrite : m.writeAll r.splice.handle r.replay with ⟨progress, m₁⟩
  rw [hwrite] at worked written hz
  have started {rest : Bytes} (sent : bytesIn out ++ rest = r.replay) :
      Passed r.left r.splice out (rest ++ r.splice.left) r.splice :=
    .partly rfl rfl rfl rfl unended (by rw [← List.append_assoc, sent]; rfl)
  cases written with
  | partly sent => exact hz ▸ ⟨out, _, _, worked, started sent, .inl ⟨rfl, rfl⟩⟩
  | failed nothing =>
    obtain ⟨out', worked', unended', nothing'⟩ := abort_worked (worked.sound hm) r.splice.handle
    refine hz ▸ ⟨out ++ out', r.left, r.splice, worked.trans worked', ?_, .inr ⟨_, rfl⟩⟩
    refine .partly rfl rfl rfl rfl (unended.append unended') ?_
    rw [bytesIn_append, nothing, nothing']
    rfl
  | all sent =>
    obtain ⟨out', worked', s, hpassed, hend⟩ := run_outcome (worked.sound hm) r.splice now
    have hstarted := started ((List.append_nil _).trans sent)
    refine hz ▸ ⟨out ++ out', s.left, s, worked.trans worked', hstarted.trans hpassed, ?_⟩
    exact hend.imp (fun h => ⟨h, by rw [← h]; rfl⟩) id

end Relaying

/-! ## Passages -/

/-- A client that is being relayed, and what became of its bytes. -/
structure Passage where
  relaying : Relaying
  mux : Mux
  /-- Everything the client has said, from its first byte. -/
  said : Bytes
  /-- The client says no more. -/
  ended : Bool
  /-- The frames that the relay has put on its stream, in order. -/
  queued : List Frame := []

namespace Passage

inductive Move where
  /-- The client says some more. -/
  | say (b : Bytes)
  /-- The client has said everything. -/
  | endOfInput
  /-- The client reads what there is for it. -/
  | listen
  /-- The client reads no more. -/
  | hangUp
  /-- A frame comes in, credit for one, or another part of the program makes a call. -/
  | link (e : Mux.Event)
  /-- The frames that are queued go out. -/
  | sendQueue
  | run (now : Nat)

def withSplice (p : Passage) (f : Splice → Splice) : Passage :=
  { p with relaying := { p.relaying with splice := f p.relaying.splice } }

def step (p : Passage) : Move → Passage
  | .say b =>
    if p.ended then p
    else { p.withSplice fun s => { s with inbound.buffer := s.inbound.buffer ++ b } with said := p.said ++ b }
  | .endOfInput => { p.withSplice fun s => { s with inbound.closed := true } with ended := true }
  | .listen => p.withSplice fun s => { s with outbound := s.outbound.drain.2 }
  | .hangUp => p.withSplice fun s => { s with outbound := s.outbound.close }
  | .link e => { p with mux := p.mux.step e }
  | .sendQueue => { p with mux := { p.mux with outbound := [] } }
  | .run now =>
    let (relaying, mux) := p.relaying.run now p.mux
    { p with relaying, mux, queued := p.queued ++ mux.outbound.drop p.mux.outbound.length }

def run (p : Passage) (moves : List Move) : Passage := moves.foldl step p

/-- A client that has said `said` up to here makes `request`, and its stream is open. The channel holds
what the handshake has not read. -/
def start (said : Bytes) (request : RelayRequest) (c : Channel) (m : Mux) (h : Mux.Handle) (grace : Duration)
    (outbound : Pipe) : Passage where
  relaying := .new request h grace
    { capacity := outbound.capacity, buffer := c.unread, closed := c.ended } outbound
  mux := m
  said
  ended := c.ended

/-- The stream behind `h` carries what the client says from its byte `k` on. -/
structure Faithful (h : Mux.Handle) (k : Nat) (p : Passage) : Prop where
  sound : p.mux.Sound
  sending : p.mux.sending = true
  handle : p.relaying.splice.handle = h
  inside : k ≤ p.said.length
  part : bytesIn p.queued <+: p.said.drop k
  /-- While the relay goes on, nothing is lost. -/
  going : p.relaying.splice.result.isSome = false →
    bytesIn p.queued ++ p.relaying.left = p.said.drop k ∧ p.relaying.splice.inbound.closed = p.ended
  all : p.relaying.splice.up.ended = true → p.ended = true ∧ bytesIn p.queued = p.said.drop k
  closing : Unended p.queued ∨ p.relaying.splice.up.ended = true
  own : ∀ f ∈ p.queued, p.mux.Own h f

variable {h : Mux.Handle} {k : Nat} {p : Passage}

namespace Faithful

theorem say (hp : p.Faithful h k) (b : Bytes) : (p.step (.say b)).Faithful h k := by
  rw [step]
  split
  · exact hp
  rename_i hended
  have hgrown : (p.said ++ b).drop k = p.said.drop k ++ b := List.drop_append_of_le_length hp.inside
  refine { hp with inside := ?_, part := ?_, going := fun hgoing => ?_, all := fun hup => ?_ }
  · exact Nat.le_trans hp.inside (by simp)
  · rw [hgrown]
    exact hp.part.trans (List.prefix_append _ _)
  · obtain ⟨hall, hclosed⟩ := hp.going hgoing
    refine ⟨?_, hclosed⟩
    rw [hgrown, ← hall]
    simp only [withSplice, Relaying.left, Splice.left, List.append_assoc]
  · exact absurd (hp.all hup).1 hended

theorem endOfInput (hp : p.Faithful h k) : (p.step .endOfInput).Faithful h k :=
  { hp with
    going := fun hgoing => ⟨(hp.going hgoing).1, rfl⟩
    all := fun hup => ⟨rfl, (hp.all hup).2⟩ }

/-- The other direction of the splice does not matter. -/
theorem outbound (hp : p.Faithful h k) (f : Pipe → Pipe) :
    (p.withSplice fun s => { s with outbound := f s.outbound }).Faithful h k :=
  { hp with }

theorem link (hp : p.Faithful h k) (e : Mux.Event) : (p.step (.link e)).Faithful h k := by
  obtain ⟨changes, -, hsending⟩ := step_changes hp.sound hp.sending e
  have hsound := (changes_keep (I := fun _ => True) (fun _ _ _ => trivial) hp.sound trivial changes).1
  refine { hp with sound := hsound, sending := hsending, own := fun f hf => ?_ }
  obtain ⟨s, hs, hid⟩ := hp.own f hf
  obtain ⟨s', hs', hnext⟩ := step_moves hp.sound e h s hs
  exact ⟨s', hs', hnext.id.trans hid⟩

theorem sendQueue (hp : p.Faithful h k) : (p.step .sendQueue).Faithful h k :=
  { hp with sound := { hp.sound with } }

variable {out : List Frame} {rest : Bytes} {s : Splice}

/-- What has been passed on continues what is on the stream. -/
theorem passed (hp : p.Faithful h k) (hgoing : p.relaying.splice.result.isSome = false)
    (hpassed : Passed p.relaying.left p.relaying.splice out rest s) :
    bytesIn (p.queued ++ out) ++ rest = p.said.drop k ∧
      (s.up.ended = true → p.ended = true ∧ bytesIn (p.queued ++ out) = p.said.drop k) ∧
      (Unended (p.queued ++ out) ∨ s.up.ended = true) := by
  obtain ⟨hall, hclosed⟩ := hp.going hgoing
  have hkept : bytesIn (p.queued ++ out) ++ rest = p.said.drop k := by
    rw [bytesIn_append, List.append_assoc, hpassed.kept, hall]
  refine ⟨hkept, fun hup => ?_, ?_⟩
  · rcases hpassed.ended hup with hbefore | ⟨hrest, hlast⟩
    · -- all of it was on the stream before, so nothing has followed
      obtain ⟨hended, hdone⟩ := hp.all hbefore
      have hnothing : p.relaying.left = [] := List.append_right_eq_self.1 (hall.trans hdone.symm)
      have hout := hpassed.kept
      rw [hnothing, List.append_eq_nil_iff] at hout
      exact ⟨hended, by rw [bytesIn_append, hout.1, List.append_nil, hdone]⟩
    · rw [hrest, List.append_nil] at hkept
      exact ⟨hclosed ▸ hlast, hkept⟩
  · rcases hpassed.closing with hout | hup
    · exact hp.closing.imp (·.append hout) hpassed.stays
    · exact .inr hup

theorem run (hp : p.Faithful h k) (now : Nat) : (p.step (.run now)).Faithful h k := by
  cases hresult : p.relaying.splice.result.isSome with
  | true =>
    have hrun : p.relaying.run now p.mux = (p.relaying, p.mux) := if_pos hresult
    have hstep : p.step (.run now) = p := by
      simp only [step, hrun, List.drop_length, List.append_nil]
    rw [hstep]
    exact hp
  | false =>
    obtain ⟨out, rest, s, worked, hpassed, hend⟩ := Relaying.run_passed hp.sound hresult now
    obtain ⟨hkept, hall, hclosing⟩ := hp.passed hresult hpassed
    have hkeptMux := worked.kept
    rw [hp.handle] at worked
    have hqueued : (p.step (.run now)).queued = p.queued ++ out := by
      simp only [step, hkeptMux.outbound hp.sending, List.drop_left]
    have hup : (p.step (.run now)).relaying.splice.up = s.up := by
      rcases hend with ⟨hs, -⟩ | ⟨e, hs⟩ <;> exact hs ▸ rfl
    have hhandle : (p.step (.run now)).relaying.splice.handle = s.handle := by
      rcases hend with ⟨hs, -⟩ | ⟨e, hs⟩ <;> exact hs ▸ rfl
    refine {
      sound := worked.sound hp.sound
      sending := hkeptMux.sending.trans hp.sending
      handle := hhandle.trans (hpassed.handle.trans hp.handle)
      inside := hp.inside
      part := ?_
      going := ?_
      all := ?_
      closing := ?_
      own := ?_ }
    · exact hqueued ▸ ⟨rest, hkept⟩
    · intro hgoing
      rcases hend with ⟨hs, hleft⟩ | ⟨e, hs⟩
      · rw [hqueued]
        refine ⟨(congrArg _ hleft).trans hkept, ?_⟩
        have hclosed := hpassed.closed.trans (hp.going hresult).2
        exact (congrArg (·.inbound.closed) hs).trans hclosed
      · rw [show (p.step (.run now)).relaying.splice = _ from hs] at hgoing
        cases hgoing
    · rw [hup, hqueued]
      exact hall
    · rw [hup, hqueued]
      exact hclosing
    · rw [hqueued]
      intro f hf
      rcases List.mem_append.1 hf with hf | hf
      · exact worked.own.1 f (hp.own f hf)
      · exact worked.own.2 f hf

theorem step (hp : p.Faithful h k) (move : Move) : (p.step move).Faithful h k := by
  cases move with
  | say b => exact hp.say b
  | endOfInput => exact hp.endOfInput
  | listen => exact hp.outbound fun p => p.drain.2
  | hangUp => exact hp.outbound Pipe.close
  | link e => exact hp.link e
  | sendQueue => exact hp.sendQueue
  | run now => exact hp.run now

end Faithful

/-- At any time of a passage its stream carries what the client says. -/
theorem run_faithful (hp : p.Faithful h k) (moves : List Move) : (p.run moves).Faithful h k := by
  induction moves generalizing p with
  | nil => exact hp
  | cons move moves ih => exact ih (hp.step move)

theorem start_faithful {fe : FrontEnd} {request : RelayRequest} {said : Bytes} {c : Channel} {m : Mux}
    (hskips : Skips fe request said c.unread k) (hm : m.Sound) (hs : m.sending = true) (h : Mux.Handle)
    (grace : Duration) (outbound : Pipe) : (start said request c m h grace outbound).Faithful h k where
  sound := hm
  sending := hs
  handle := rfl
  inside := hskips.inside
  part := List.nil_prefix
  going _ := ⟨hskips.rest, rfl⟩
  all := nofun
  closing := .inl unended_nil
  own := nofun

theorem said_step (p : Passage) (move : Move) : p.said <+: (p.step move).said := by
  cases move with
  | say b =>
    rw [step]
    split
    · exact List.prefix_rfl
    · exact List.prefix_append _ _
  | _ => exact List.prefix_rfl

theorem said_run (p : Passage) (moves : List Move) : p.said <+: (p.run moves).said := by
  induction moves generalizing p with
  | nil => exact List.prefix_rfl
  | cons move moves ih => exact (p.said_step move).trans (ih _)

end Passage

/-- **Every byte of a client, once and in order.** Let a handshake, whatever pieces it arrives in, come to
a request for a relay. Then at any time of its passage it is settled what the client has said for the
destination, and what the relay has put on its stream begins that. While the relay goes on it still holds
all the rest, in order. All of it is there once the relay has ended the stream, which it only does when the
client has ended. An HTTP handshake that succeeds writes nothing. -/
theorem client_bytes_forwarded (fe : FrontEnd) (arrivals : List Bytes) (ended : Bool) :
    let z := fe.handshake.run.attend arrivals ended
    (∀ request, z.1.result? = some (.ok (.relay request)) →
      ∀ (role : Mux.Role) (config : Mux.Config) (before : List Mux.Event) (h : Mux.Handle)
        (grace : Duration) (outbound : Pipe) (moves : List Passage.Move),
        let m := (Mux.fresh role config).run before
        let p := (Passage.start arrivals.flatten request z.2 m h grace outbound).run moves
        ∃ due, (∀ due', Owed p.said fe request due' ↔ due' = due) ∧ bytesIn p.queued <+: due ∧
          (p.relaying.splice.result.isSome = false → bytesIn p.queued ++ p.relaying.left = due) ∧
          (p.relaying.splice.up.ended = true ∨ closeFrame (p.mux.stream h).id .normal ∈ p.queued →
            p.ended = true ∧ bytesIn p.queued = due) ∧
          ∀ f ∈ p.queued, f.stream = (p.mux.stream h).id) ∧
    (fe = .http → ∀ x, z.1.result? = some (.ok x) → z.2.written = []) := by
  intro z
  refine ⟨fun request hrequest role config before h grace outbound moves => ?_, ?_⟩
  · intro m p
    obtain ⟨k, hskips⟩ := FrontEnd.handshake_skips hrequest
    obtain ⟨hm, -, -, -⟩ := run_keeps (I := fun _ => True) (fun _ _ _ => trivial)
      (sound_fresh role config) rfl trivial before
    obtain ⟨-, -, hsending⟩ := run_changes (sound_fresh role config) rfl before
    have hp : p.Faithful h k :=
      Passage.run_faithful (Passage.start_faithful hskips hm hsending h grace outbound) moves
    obtain ⟨later, hlater⟩ := Passage.said_run
      (Passage.start arrivals.flatten request z.2 m h grace outbound) moves
    refine ⟨p.said.drop k, fun due => ?_, hp.part, fun hgoing => (hp.going hgoing).1, fun hover => ?_,
      fun f hf => ?_⟩
    · have howed := hskips.owed later due
      rwa [show arrivals.flatten ++ later = p.said from hlater] at howed
    · rcases hover with hup | hclose
      · exact hp.all hup
      · rcases hp.closing with hopen | hup
        · exact absurd hclose (hopen.not_mem _)
        · exact hp.all hup
    · obtain ⟨s, hs, hid⟩ := hp.own f hf
      rw [stream_of_getElem? hs, hid]
  · rintro rfl x hx
    obtain ⟨-, -, -, -, -, -, hwritten⟩ := FrontEnd.request_read hx
    exact hwritten

/-- A client asks for a tunnel and goes on at once. -/
def eager : List Bytes := [Bytes.ofText "CONNECT a:1 HTTP/1.1\r\n\r", [10, 1, 2, 3]]

def eagerRequest : RelayRequest := ⟨.domain "a" 1, .tunnel "HTTP/1.1", [1, 2, 3]⟩

/-- There is credit for two bytes at first, for the rest only after the client has ended. -/
def eagerPassage : Passage :=
  let credit n : Mux.Event := .frame ⟨.ack, 1, Payload.encodeCredit n⟩
  let m := (Mux.fresh .initiator {}).run [.call (.openStream (.domain "a" 1)), credit 2]
  let c := (FrontEnd.http.handshake.run.attend eager false).2
  (Passage.start eager.flatten eagerRequest c m 0 ⟨0⟩ { capacity := 8 }).run
    [.run 0, .say [4], .run 1, .endOfInput, .run 2, .link (credit 9), .run 3]

theorem eager_forwarded :
    (FrontEnd.http.handshake.run.attend eager false).1.result? = some (.ok (.relay eagerRequest)) ∧
      eagerPassage.relaying.splice.up.ended = true ∧ bytesIn eagerPassage.queued = [1, 2, 3, 4] ∧
      Owed eagerPassage.said .http eagerRequest [1, 2, 3, 4] := by
  have hresult : (FrontEnd.http.handshake.run.attend eager false).1.result? =
      some (.ok (.relay eagerRequest)) := by decide +kernel
  have hup : eagerPassage.relaying.splice.up.ended = true := by decide +kernel
  have hqueued : bytesIn eagerPassage.queued = [1, 2, 3, 4] := by decide +kernel
  obtain ⟨due, howed, -, -, hall, -⟩ :=
    (client_bytes_forwarded .http eager false).1 eagerRequest hresult .initiator {} _ 0 ⟨0⟩ _ _
  obtain rfl := hqueued.symm.trans (hall (.inl hup)).2
  exact ⟨hresult, hup, hqueued, (howed _).2 rfl⟩

end SealedRelay.Proxy
