import SealedRelay.Mux.Inbound

/-!
# One turn of one end of a stream

Whatever a call or a frame does to a multiplexer, it does by turns: in a turn one end of one stream
goes from one state to the next and queues a few frames of that stream. `Turn` lists all of them
with their conditions. The lemmas after it say, once for all turns, what later proofs use of them.

Results:
* `Turn.bytes_out`: a turn queues exactly the bytes it was asked to send.
* `Turn.inbox_eq`: while a stream has not failed, what arrives is read, in order, or still there.
* `Turn.mute`, `Turn.mute_of_close`: after its close an end sends nothing.
-/
namespace SealedRelay

def Frame.bytes (f : Frame) : Bytes := if f.kind = .data then f.payload else []

def Frame.credit (f : Frame) : Nat :=
  if f.kind = .ack then
    match Payload.decodeCredit f.payload with
    | .ok credit => credit
    | .error _ => 0
  else 0

/-- A close or an ack whose payload cannot be read. -/
def Frame.Garbled (f : Frame) : Prop :=
  (f.kind = .close ∧ ∃ e, CloseReason.decode f.payload = .error e) ∨
    (f.kind = .ack ∧ ∃ e, Payload.decodeCredit f.payload = .error e)

/-- A frame whose payload is what its kind asks for. -/
def Frame.Readable (f : Frame) : Prop :=
  match f.kind with
  | .ping => f.payload = Payload.pingRequest ∨ f.payload = Payload.pingReply
  | .opening => ∃ d, Destination.decode f.payload = .ok d
  | .data => True
  | .close => ∃ reason, CloseReason.decode f.payload = .ok reason
  | .ack => ∃ credit, Payload.decodeCredit f.payload = .ok credit

theorem Frame.Garbled.kind {f : Frame} (h : f.Garbled) : f.kind = .close ∨ f.kind = .ack :=
  h.imp And.left And.left

theorem Frame.Garbled.bytes {f : Frame} (h : f.Garbled) : f.bytes = [] := by
  rcases h.kind with hk | hk <;> simp [Frame.bytes, hk]

theorem Frame.Garbled.credit {f : Frame} (h : f.Garbled) : f.credit = 0 := by
  rcases h with ⟨hk, -⟩ | ⟨hk, e, he⟩
  · simp [Frame.credit, hk]
  · simp [Frame.credit, hk, he]

theorem Frame.credit_of_decode {f : Frame} {credit : Nat} (hk : f.kind = .ack)
    (hd : Payload.decodeCredit f.payload = .ok credit) : f.credit = credit := by
  simp [Frame.credit, hk, hd]

namespace Mux

def bytesIn (q : List Frame) : Bytes := q.flatMap Frame.bytes

def creditIn (q : List Frame) : Nat := q.foldr (fun f n => f.credit + n) 0

@[simp] theorem bytesIn_nil : bytesIn [] = [] := rfl

@[simp] theorem bytesIn_cons (f : Frame) (q : List Frame) :
    bytesIn (f :: q) = f.bytes ++ bytesIn q := by simp [bytesIn]

@[simp] theorem bytesIn_append (q r : List Frame) : bytesIn (q ++ r) = bytesIn q ++ bytesIn r := by
  simp [bytesIn]

@[simp] theorem creditIn_nil : creditIn [] = 0 := rfl

@[simp] theorem creditIn_cons (f : Frame) (q : List Frame) :
    creditIn (f :: q) = f.credit + creditIn q := rfl

@[simp] theorem creditIn_append (q r : List Frame) :
    creditIn (q ++ r) = creditIn q + creditIn r := by
  induction q with
  | nil => simp
  | cons f q ih => rw [List.cons_append, creditIn_cons, creditIn_cons, ih, Nat.add_assoc]

theorem bytesIn_eq_nil {q : List Frame} (h : ∀ f ∈ q, f.kind ≠ .data) : bytesIn q = [] := by
  induction q with
  | nil => rfl
  | cons f q ih =>
    rw [bytesIn_cons, ih fun g hg => h g (List.mem_cons_of_mem _ hg)]
    simp [Frame.bytes, h f List.mem_cons_self]

theorem creditIn_eq_zero {q : List Frame} (h : ∀ f ∈ q, f.kind ≠ .ack) : creditIn q = 0 := by
  induction q with
  | nil => rfl
  | cons f q ih =>
    rw [creditIn_cons, ih fun g hg => h g (List.mem_cons_of_mem _ hg)]
    simp [Frame.credit, h f List.mem_cons_self]

/-! ## The frames that a turn queues -/

def dataFrames (c : Config) (id : StreamId) (bytes : Bytes) : List Frame :=
  (Bytes.chunks (max c.maxFramePayload 1) bytes).map fun piece => ⟨.data, id, piece⟩

def closeFrame (id : StreamId) (reason : CloseReason) : Frame := ⟨.close, id, reason.encode⟩

def ackFrame (id : StreamId) (credit : Nat) : Frame := ⟨.ack, id, Payload.encodeCredit credit⟩

theorem mem_dataFrames {c : Config} {id : StreamId} {bytes : Bytes} {f : Frame}
    (h : f ∈ dataFrames c id bytes) : f.kind = .data ∧ f.stream = id := by
  obtain ⟨piece, -, rfl⟩ := List.mem_map.1 h
  exact ⟨rfl, rfl⟩

/-- A piece is never empty, and it keeps to the limit. -/
theorem payload_of_mem_dataFrames {c : Config} {id : StreamId} {bytes : Bytes} {f : Frame}
    (h : f ∈ dataFrames c id bytes) :
    f.payload ≠ [] ∧ f.payload.length ≤ max c.maxFramePayload 1 := by
  obtain ⟨piece, hpiece, rfl⟩ := List.mem_map.1 h
  exact ⟨Bytes.ne_nil_of_mem_chunks hpiece, Bytes.length_le_of_mem_chunks hpiece⟩

@[simp] theorem bytesIn_dataFrames (c : Config) (id : StreamId) (bytes : Bytes) :
    bytesIn (dataFrames c id bytes) = bytes := by
  have hn : max c.maxFramePayload 1 ≠ 0 := by omega
  calc bytesIn (dataFrames c id bytes)
    _ = (Bytes.chunks (max c.maxFramePayload 1) bytes).flatten := by
      rw [bytesIn, dataFrames, List.flatMap_map]
      exact List.flatMap_id
    _ = bytes := Bytes.flatten_chunks hn bytes

@[simp] theorem creditIn_dataFrames (c : Config) (id : StreamId) (bytes : Bytes) :
    creditIn (dataFrames c id bytes) = 0 :=
  creditIn_eq_zero fun f hf => by simp [(mem_dataFrames hf).1]

@[simp] theorem closeFrame_kind (id : StreamId) (r : CloseReason) :
    (closeFrame id r).kind = .close := rfl

@[simp] theorem closeFrame_stream (id : StreamId) (r : CloseReason) :
    (closeFrame id r).stream = id := rfl

@[simp] theorem closeFrame_bytes (id : StreamId) (r : CloseReason) :
    (closeFrame id r).bytes = [] := rfl

@[simp] theorem closeFrame_credit (id : StreamId) (r : CloseReason) :
    (closeFrame id r).credit = 0 := rfl

@[simp] theorem ackFrame_kind (id : StreamId) (n : Nat) : (ackFrame id n).kind = .ack := rfl

@[simp] theorem ackFrame_stream (id : StreamId) (n : Nat) : (ackFrame id n).stream = id := rfl

@[simp] theorem ackFrame_bytes (id : StreamId) (n : Nat) : (ackFrame id n).bytes = [] := rfl

theorem ackFrame_credit (id : StreamId) {n : Nat} (h : n < UInt32.size) : (ackFrame id n).credit = n := by
  simp only [Frame.credit, ackFrame, if_true, Payload.decodeCredit_encodeCredit h]

theorem dataFrames_readable {c : Config} {id : StreamId} {bytes : Bytes} {f : Frame}
    (h : f ∈ dataFrames c id bytes) : f.Readable := by
  simp [Frame.Readable, (mem_dataFrames h).1]

theorem closeFrame_readable (id : StreamId) (r : CloseReason) : (closeFrame id r).Readable :=
  ⟨r, CloseReason.decode_encode r⟩

theorem ackFrame_readable (id : StreamId) (n : Nat) : (ackFrame id n).Readable :=
  ⟨_, if_pos (Bytes.length_ofNat 4 n)⟩

/-! ## Turns -/

/-- What one end of a stream does or has done to it. -/
inductive Deed where
  | sent (bytes : Bytes)
  | took (chunk : Bytes)
  | accepted
  | halfClosed
  | aborted (reason : CloseReason)
  /-- Nobody confirmed the stream in time. -/
  | expired
  /-- The connection failed. -/
  | failed
  | arrived (f : Frame)

def Deed.bytesSent : Deed → Bytes
  | sent bytes => bytes
  | _ => []

def Deed.bytesTaken : Deed → Bytes
  | took chunk => chunk
  | _ => []

/-- The frame that a deed takes off the queue, if it does. -/
def Deed.frames : Deed → List Frame
  | arrived f => [f]
  | _ => []

/-- Deeds of this side, as opposed to what the other side's frames do. -/
def Deed.IsLocal (d : Deed) : Prop := ∀ f, d ≠ arrived f

theorem Deed.IsLocal.frames_eq {d : Deed} (h : d.IsLocal) : d.frames = [] := by
  cases d with
  | arrived f => exact absurd rfl (h f)
  | _ => rfl

/-- Deeds of a program that ends only its own direction without an error, on a connection that does
not fail. -/
def Deed.Polite : Deed → Prop
  | aborted reason => reason.isAbort = true
  | failed => False
  | _ => True

/-- The turns of an end in state `s`: the deed, the frames it queues and the state after it. -/
inductive Turn (role : Role) (c : Config) (s : Stream) : Deed → List Frame → Stream → Prop where
  | send {bytes : Bytes} (phase : s.phase = .open_ ∨ s.phase = .remoteClosing)
      (sound : s.failure = none) (some_ : bytes ≠ []) (room : bytes.length ≤ s.sendWindow) :
      Turn role c s (.sent bytes) (dataFrames c s.id bytes)
        { s with sendWindow := s.sendWindow - bytes.length }
  | take {chunk : Bytes} {rest : List Bytes} (inbox : s.inbox = chunk :: rest)
      (early : s.remoteClosed = true ∨ s.pendingCredit + chunk.length < c.creditThreshold) :
      Turn role c s (.took chunk) []
        { s with inbox := rest, pendingCredit := s.pendingCredit + chunk.length }
  | takeAndGrant {chunk : Bytes} {rest : List Bytes} {credit : Nat}
      (inbox : s.inbox = chunk :: rest) (going : s.remoteClosed = false)
      (due : c.creditThreshold ≤ s.pendingCredit + chunk.length)
      (amount : credit = min (s.pendingCredit + chunk.length) largestCredit) :
      Turn role c s (.took chunk) [ackFrame s.id credit]
        { s with
          inbox := rest
          pendingCredit := s.pendingCredit + chunk.length - credit
          recvAllowance := s.recvAllowance + credit }
  | accept (asked : role = .responder) (phase : s.phase = .pendingOpen) :
      Turn role c s .accepted [ackFrame s.id c.initialWindow]
        { s with phase := .open_, recvAllowance := c.initialWindow }
  | halfClose (phase : s.phase = .open_ ∨ s.phase = .remoteClosing) :
      Turn role c s .halfClosed [closeFrame s.id .normal]
        { s with
          localClosed := true
          phase := if s.remoteClosed then .closed else .localClosing }
  | abort {reason : CloseReason} (phase : s.phase ≠ .closed) :
      Turn role c s (.aborted reason) [closeFrame s.id reason] (s.terminated (.streamClosed s.id))
  | expire (asking : role = .initiator) (phase : s.phase = .pendingOpen) :
      Turn role c s .expired [closeFrame s.id .timeout]
        { s with
          phase := .closed
          awaitingOpen := false
          failure := some (.openTimeout c.openTimeout) }
  | fail {e : LinkError} (phase : s.phase ≠ .closed) : Turn role c s .failed [] (s.terminated e)
  | data {f : Frame} (kind : f.kind = .data) (phase : s.phase ≠ .closed)
      (going : s.remoteClosed = false) (room : f.payload.length ≤ s.recvAllowance) :
      Turn role c s (.arrived f) []
        { s with
          recvAllowance := s.recvAllowance - f.payload.length
          inbox := if f.payload = [] then s.inbox else s.inbox ++ [f.payload] }
  | excess {f : Frame} (kind : f.kind = .data) (phase : s.phase ≠ .closed)
      (bad : s.remoteClosed = true ∨ s.recvAllowance < f.payload.length) :
      Turn role c s (.arrived f) [closeFrame s.id .reset] (s.terminated (.streamClosed s.id))
  | refusal {f : Frame} {reason : CloseReason} (kind : f.kind = .close)
      (payload : CloseReason.decode f.payload = .ok reason) (phase : s.phase = .pendingOpen) :
      Turn role c s (.arrived f) [] (s.terminated (.refused s.id reason))
  | tear {f : Frame} {reason : CloseReason} {e : LinkError} (kind : f.kind = .close)
      (payload : CloseReason.decode f.payload = .ok reason) (harsh : reason.isAbort = true)
      (confirmed : s.phase ≠ .pendingOpen) (phase : s.phase ≠ .closed) :
      Turn role c s (.arrived f) [] (s.terminated e)
  | finish {f : Frame} (kind : f.kind = .close)
      (payload : CloseReason.decode f.payload = .ok .normal)
      (confirmed : s.phase ≠ .pendingOpen) (phase : s.phase ≠ .closed) :
      Turn role c s (.arrived f) []
        { s with
          remoteClosed := true
          phase := if s.localClosed then .closed else .remoteClosing }
  | confirm {f : Frame} {credit : Nat} (kind : f.kind = .ack)
      (payload : Payload.decodeCredit f.payload = .ok credit) (asking : role = .initiator)
      (phase : s.phase = .pendingOpen) :
      Turn role c s (.arrived f) [ackFrame s.id c.initialWindow]
        (Stream.tellOpener { s.credited credit with phase := .open_ } (.ok ()))
  | early {f : Frame} {credit : Nat} (kind : f.kind = .ack)
      (payload : Payload.decodeCredit f.payload = .ok credit) (asked : role = .responder)
      (phase : s.phase = .pendingOpen) :
      Turn role c s (.arrived f) [] s
  | credit {f : Frame} {credit : Nat} (kind : f.kind = .ack)
      (payload : Payload.decodeCredit f.payload = .ok credit)
      (confirmed : s.phase ≠ .pendingOpen) (phase : s.phase ≠ .closed) :
      Turn role c s (.arrived f) [] (s.credited credit)

namespace Turn

variable {role : Role} {c : Config} {s s' : Stream} {d : Deed} {out : List Frame}

theorem id_eq (t : Turn role c s d out s') : s'.id = s.id := by
  cases t <;> simp [Stream.credited]

/-- A turn queues frames of its own stream, and never asks for another. -/
theorem out_stream (t : Turn role c s d out s') :
    ∀ f ∈ out, f.stream = s.id ∧ f.kind ≠ .ping ∧ f.kind ≠ .opening := by
  intro f hf
  cases t with
  | send => simp [mem_dataFrames hf]
  | take | fail | data | refusal | tear | finish | early | credit =>
    exact absurd hf List.not_mem_nil
  | takeAndGrant | accept | halfClose | abort | expire | excess | confirm =>
    obtain rfl := List.mem_singleton.1 hf
    simp

theorem out_readable (t : Turn role c s d out s') : ∀ f ∈ out, f.Readable := by
  intro f hf
  cases t with
  | send => exact dataFrames_readable hf
  | take | fail | data | refusal | tear | finish | early | credit =>
    exact absurd hf List.not_mem_nil
  | halfClose | abort | expire | excess =>
    exact List.mem_singleton.1 hf ▸ closeFrame_readable _ _
  | takeAndGrant | accept | confirm => exact List.mem_singleton.1 hf ▸ ackFrame_readable _ _

theorem closed (t : Turn role c s d out s') (h : s.phase = .closed) : s'.phase = .closed := by
  cases t <;> simp_all

theorem bytes_out (t : Turn role c s d out s') : bytesIn out = d.bytesSent := by
  cases t <;> simp [Deed.bytesSent]

/-- The data frames of a turn come alone: it is a send of an end that may send. -/
theorem data_out (t : Turn role c s d out s') {f : Frame} (hf : f ∈ out) (hk : f.kind = .data) :
    (s.phase = .open_ ∨ s.phase = .remoteClosing) ∧ ∀ g ∈ out, g.kind = .data := by
  cases t with
  | send phase => exact ⟨phase, fun g hg => (mem_dataFrames hg).1⟩
  | take | fail | data | refusal | tear | finish | early | credit =>
    exact absurd hf List.not_mem_nil
  | takeAndGrant | accept | halfClose | abort | expire | excess | confirm =>
    obtain rfl := List.mem_singleton.1 hf
    simp at hk

/-! ## Arrivals and confirmation -/

/-- Frames arrive at live streams only, and never ask for one. -/
theorem arrived {f : Frame} (t : Turn role c s (.arrived f) out s') :
    s.phase ≠ .closed ∧ f.kind ≠ .opening ∧ f.kind ≠ .ping := by
  cases t with
  | data kind phase | excess kind phase | credit kind _ _ phase | tear kind _ _ _ phase
  | finish kind _ _ phase => exact ⟨phase, by simp [kind]⟩
  | refusal kind _ phase | confirm kind _ _ phase | early kind _ _ phase =>
    exact ⟨by simp [phase], by simp [kind]⟩

/-- A stream that waits for its confirmation has waited from the start. -/
theorem pending_before (t : Turn role c s d out s') (h : s'.phase = .pendingOpen) :
    s.phase = .pendingOpen := by
  cases t with
  | halfClose => cases hr : s.remoteClosed <;> simp [hr] at h
  | finish => cases hl : s.localClosed <;> simp [hl] at h
  | send | take | takeAndGrant | data | early | credit => exact h
  | accept | abort | expire | fail | excess | refusal | tear | confirm => simp at h

/-- Nothing has been exchanged on a stream that this side asked for. -/
structure Idle (s : Stream) : Prop where
  phase : s.phase = .pendingOpen ∨ s.phase = .closed
  going : s.remoteClosed = false
  inbox : s.inbox = []
  sendWindow : s.sendWindow = 0

/-- All that can be done on an idle stream is to give it up. -/
theorem idle_of_local (t : Turn .initiator c s d out s') (here : d.IsLocal) (h : Idle s) :
    Idle s' ∧ d.bytesSent = [] ∧ d.bytesTaken = [] ∧ ∀ f ∈ out, f.kind = .close := by
  obtain ⟨hphase, hgoing, hinbox, hwindow⟩ := h
  cases t with
  | send phase | halfClose phase => rcases phase with h | h <;> simp [h] at hphase
  | take inbox | takeAndGrant inbox => simp [hinbox] at inbox
  | accept asked => cases asked
  | abort | fail =>
    refine ⟨⟨.inr (by simp), by simpa, by simp, by simpa⟩, rfl, rfl, by simp⟩
  | expire => exact ⟨⟨.inr rfl, hgoing, hinbox, hwindow⟩, rfl, rfl, by simp⟩
  | _ => exact absurd rfl (here _)

/-- A close before the confirmation leaves a stream idle. -/
theorem idle_of_close {f : Frame} (t : Turn role c s (.arrived f) out s') (hk : f.kind = .close)
    (h : Idle s) : Idle s' ∧ out = [] := by
  obtain ⟨hphase, hgoing, hinbox, hwindow⟩ := h
  cases t with
  | refusal => exact ⟨⟨.inr (by simp), by simpa, by simp, by simpa⟩, rfl⟩
  | tear _ _ _ confirmed phase | finish _ _ confirmed phase =>
    exact absurd hphase (not_or.2 ⟨confirmed, phase⟩)
  | data kind | excess kind | confirm kind | early kind | credit kind => simp [hk] at kind

/-- No deed leaves a stream waiting for its confirmation, if there is nothing to read. -/
theorem confirmed_of_local (t : Turn role c s d out s') (here : d.IsLocal) (hi : s.inbox = []) :
    s'.phase ≠ .pendingOpen := by
  intro hp
  have hs := t.pending_before hp
  cases t with
  | send phase | halfClose phase => rcases phase with h | h <;> simp [hs] at h
  | take inbox | takeAndGrant inbox => simp [hi] at inbox
  | accept | abort | expire | fail => simp at hp
  | _ => exact absurd rfl (here _)

/-- A close does not leave a stream waiting for its confirmation. -/
theorem confirmed_of_close {f : Frame} (t : Turn role c s (.arrived f) out s')
    (hk : f.kind = .close) : s'.phase ≠ .pendingOpen := by
  intro hp
  have hs := t.pending_before hp
  cases t with
  | refusal | tear => simp at hp
  | finish _ _ confirmed => exact absurd hs confirmed
  | data kind | excess kind | confirm kind | early kind | credit kind => simp [hk] at kind

/-! ## Closing -/

/-- An end that has ended its own direction. -/
def Mute (s : Stream) : Prop := s.phase = .localClosing ∨ s.phase = .closed

/-- A mute end stays mute. -/
theorem mute (t : Turn role c s d out s') (h : Mute s)
    (hl : s.phase = .localClosing → s.localClosed = true) : Mute s' := by
  rcases h with h | h
  · cases t <;> simp_all [Mute, Stream.credited]
  · exact .inr (t.closed h)

theorem out_of_mute (t : Turn role c s d out s') (h : Mute s) : ∀ f ∈ out, f.kind ≠ .data := by
  intro f hf hk
  rcases (t.data_out hf hk).1 with hp | hp <;> rcases h with h | h <;> simp [hp] at h

/-- Whoever queues a close is mute from then on. -/
theorem mute_of_close (t : Turn role c s d out s') {f : Frame} (hf : f ∈ out)
    (hk : f.kind = .close) : Mute s' := by
  cases t with
  | send => simp [mem_dataFrames hf] at hk
  | halfClose => cases h : s.remoteClosed <;> simp [Mute]
  | abort | expire | excess => simp [Mute]
  | take | fail | data | refusal | tear | finish | early | credit =>
    exact absurd hf List.not_mem_nil
  | takeAndGrant | accept | confirm =>
    obtain rfl := List.mem_singleton.1 hf
    simp at hk

theorem out_orderly (t : Turn role c s d out s') :
    out.Pairwise fun f g => f.kind = .close → g.kind ≠ .data := by
  cases t with
  | send =>
    refine List.pairwise_of_forall_mem_list fun f hf g _ hk => ?_
    simp [(mem_dataFrames hf).1] at hk
  | _ => simp

/-- Only a close makes an end believe that the other direction has ended. -/
theorem remoteClosed (t : Turn role c s d out s') (h : s'.remoteClosed = true) :
    s.remoteClosed = true ∨ ∃ f, d = .arrived f ∧ f.kind = .close := by
  cases t with
  | @finish f kind => exact .inr ⟨f, rfl, kind⟩
  | _ => exact .inl (by simpa [Stream.credited] using h)

/-! ## Bytes -/

/-- While a stream has not failed, what had arrived and what arrives now is what is read now and
what is still there. -/
theorem inbox_eq (t : Turn role c s d out s') (h : s'.failure = none) :
    s.failure = none ∧
      s.inbox.flatten ++ bytesIn d.frames = d.bytesTaken ++ s'.inbox.flatten := by
  cases t with
  | send | accept | halfClose => exact ⟨h, by simp [Deed.frames, Deed.bytesTaken]⟩
  | take inbox | takeAndGrant inbox =>
    exact ⟨h, by simp [inbox, Deed.frames, Deed.bytesTaken]⟩
  | expire => simp at h
  | @data f kind =>
    refine ⟨h, ?_⟩
    by_cases hp : f.payload = [] <;> simp [Deed.frames, Deed.bytesTaken, Frame.bytes, kind, hp]
  | finish kind | early kind =>
    exact ⟨h, by simp [Deed.frames, Deed.bytesTaken, Frame.bytes, kind]⟩
  | confirm kind | credit kind =>
    exact ⟨by simpa [Stream.credited] using h,
      by simp [Deed.frames, Deed.bytesTaken, Frame.bytes, kind, Stream.credited]⟩
  | abort | fail | excess | refusal | tear =>
    exact absurd h (Stream.failure_terminated_ne_none _ _)

/-- What is read now and what is still there begins what had arrived and arrives now. -/
theorem inbox_isPrefix (t : Turn role c s d out s') :
    d.bytesTaken ++ s'.inbox.flatten <+: s.inbox.flatten ++ bytesIn d.frames := by
  by_cases h : s'.failure = none
  · exact (t.inbox_eq h).2 ▸ List.prefix_rfl
  · cases t with
    | take inbox | takeAndGrant inbox => simp [inbox, Deed.frames, Deed.bytesTaken]
    | @data f kind =>
      by_cases hp : f.payload = [] <;>
        simp [Deed.frames, Deed.bytesTaken, Frame.bytes, kind, hp]
    | _ => simp [Deed.frames, Deed.bytesTaken, Stream.credited]

end Turn

end Mux

end SealedRelay
