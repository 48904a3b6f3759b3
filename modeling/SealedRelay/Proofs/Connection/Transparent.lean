import Mathlib.Data.List.Basic
import SealedRelay.Proofs.Connection.Alone
import SealedRelay.Proofs.Frame.Decode

/-!
# A pair of connections is a pipe for frames

One end seals and writes the frames that its multiplexer has queued. The other end reads the bytes in
pieces of any size, opens each frame once all of it is there, and hands it to its own multiplexer.
The four layers in between cancel out: it is as if the frames had been handed over directly.

Results:
* `writeAll_eq`: what one end writes, from its sealer and its queue.
* `handle_sealed`: opening a frame that was sealed in step is handing it over.
* `receive_agrees`: a read hands over the frames that it completes, and keeps the rest.
* `frames_arrive`: any number of reads, up to any point at which the bytes stop.
-/
namespace SealedRelay

/-- A frame that a connection with a limit can send: its stream is valid, and its payload, once
sealed, keeps to the limit and can be declared in a header. -/
structure Frame.Sendable (limit : Nat) (f : Frame) : Prop where
  stream : ValidStream f.kind f.stream
  payload : f.payload.length + Crypto.Aead.tagSize ≤ limit
  declared : f.payload.length + Crypto.Aead.tagSize ≤ largestPayload

instance (limit : Nat) (f : Frame) : Decidable (f.Sendable limit) :=
  decidable_of_iff (Frame.ValidStream f.kind f.stream ∧
      f.payload.length + Crypto.Aead.tagSize ≤ limit ∧
      f.payload.length + Crypto.Aead.tagSize ≤ Frame.largestPayload)
    ⟨fun ⟨stream, payload, declared⟩ => ⟨stream, payload, declared⟩,
      fun ⟨stream, payload, declared⟩ => ⟨stream, payload, declared⟩⟩

/-- Bytes that a frame takes on the wire once it is sealed. -/
def Frame.sealedSize (f : Frame) : Nat := f.wireSize + Crypto.Aead.tagSize

/-- Bytes that frames take on the wire once they are sealed. -/
def Frame.sealedSizes : List Frame → Nat
  | [] => 0
  | f :: fs => f.sealedSize + sealedSizes fs

theorem Frame.sealedSizes_append (fs gs : List Frame) :
    sealedSizes (fs ++ gs) = sealedSizes fs + sealedSizes gs := by
  induction fs with
  | nil => simp [sealedSizes]
  | cons f fs ih => simp [sealedSizes, ih, Nat.add_assoc]

/-- The encoder takes a frame that keeps to its limit. -/
theorem Frame.write_of_fits {most : Nat} {f : Frame} (h : f.Fits most) :
    Codec.write { maxPayload := most } f = .ok { maxPayload := most, encoded := f.toBytes } := by
  rw [Codec.write, if_neg (Nat.not_lt_of_le h.payload), encode, if_neg (not_not_intro h.stream),
    if_neg (Nat.not_lt_of_le h.declared)]
  rfl

namespace Sealer

/-- The opener that is in step with a sealer. -/
def opener (s : Sealer) : Opener := { key := s.key, direction := s.direction, counter := s.counter }

/-- A sealer that has sealed `n` more payloads. -/
def after (s : Sealer) (n : Nat) : Sealer := { s with counter := s.counter + n }

def sealFrame (s : Sealer) (f : Frame) : Frame :=
  { f with payload := Crypto.Aead.encrypt s.key (nonce s.direction s.counter) f.routing f.payload }

def sealAll (s : Sealer) : List Frame → List Frame
  | [] => []
  | f :: fs => s.sealFrame f :: (s.after 1).sealAll fs

def wire (s : Sealer) (fs : List Frame) : Bytes := (s.sealAll fs).flatMap Frame.toBytes

variable {s : Sealer} {f : Frame} {fs : List Frame} {limit : Nat}

@[simp] theorem after_zero (s : Sealer) : s.after 0 = s := rfl

@[simp] theorem after_after (s : Sealer) (m n : Nat) : (s.after m).after n = s.after (m + n) := by
  simp [after, Nat.add_assoc]

@[simp] theorem counter_after (s : Sealer) (n : Nat) : (s.after n).counter = s.counter + n := rfl

@[simp] theorem wireSize_sealFrame (s : Sealer) (f : Frame) :
    (s.sealFrame f).wireSize = f.sealedSize := by
  simp only [Frame.wireSize, sealFrame, Crypto.Aead.length_encrypt, Frame.sealedSize]
  omega

theorem next_eq (hs : s.counter < lastCounter) (f : Frame) :
    s.next f.routing f.payload = (.ok (s.sealFrame f).payload, s.after 1) := by
  rw [next, if_neg (Nat.not_le_of_lt hs)]
  rfl

theorem opener_next (hs : s.counter < lastCounter) (f : Frame) :
    s.opener.next f.routing (s.sealFrame f).payload = (.ok f.payload, (s.after 1).opener) := by
  obtain ⟨sealed, hseal, hopen⟩ : ∃ sealed, s.next f.routing f.payload = (.ok sealed, s.after 1) ∧
      s.opener.next f.routing sealed = (.ok f.payload, (s.after 1).opener) :=
    Opener.open_sealed rfl rfl rfl hs
  rw [next_eq hs] at hseal
  obtain rfl := Except.ok.inj (Prod.mk.inj hseal).1
  exact hopen

theorem fits_sealFrame (h : f.Sendable limit) (s : Sealer) : (s.sealFrame f).Fits limit where
  stream := h.stream
  payload := by simpa [sealFrame] using h.payload
  declared := by simpa [sealFrame] using h.declared

theorem fits_sealAll (h : ∀ f ∈ fs, f.Sendable limit) : ∀ f ∈ s.sealAll fs, f.Fits limit := by
  induction fs generalizing s with
  | nil => simp [sealAll]
  | cons f fs ih =>
    obtain ⟨hf, hfs⟩ := List.forall_mem_cons.1 h
    exact List.forall_mem_cons.2 ⟨fits_sealFrame hf s, ih hfs⟩

@[simp] theorem wire_nil (s : Sealer) : s.wire [] = [] := rfl

@[simp] theorem wire_cons (s : Sealer) (f : Frame) (fs : List Frame) :
    s.wire (f :: fs) = (s.sealFrame f).toBytes ++ (s.after 1).wire fs := by
  rw [wire, sealAll, List.flatMap_cons]
  rfl

theorem wire_append (s : Sealer) (fs gs : List Frame) :
    s.wire (fs ++ gs) = s.wire fs ++ (s.after fs.length).wire gs := by
  induction fs generalizing s with
  | nil => rfl
  | cons f fs ih => simp [ih, Nat.add_comm]

theorem length_wire (s : Sealer) (fs : List Frame) : (s.wire fs).length = Frame.sealedSizes fs := by
  induction fs generalizing s with
  | nil => rfl
  | cons f fs ih => simp [ih, Frame.sealedSizes]

/-- `rest` is the beginning of what is written for `fs`, and does not hold a whole frame. -/
structure Begins (s : Sealer) (fs : List Frame) (rest : Bytes) : Prop where
  isPrefix : rest <+: s.wire fs
  short : ∀ f later, fs = f :: later → rest.length < f.sealedSize

theorem begins_nil (s : Sealer) (fs : List Frame) : s.Begins fs [] where
  isPrefix := List.nil_prefix
  short f _ _ := by
    simp only [Frame.sealedSize, Frame.wireSize, Frame.headerSize, List.length_nil]
    omega

/-- A beginning of what is written for some frames holds the first few of them, and the beginning of
what is written for the others. -/
theorem exists_whole {b : Bytes} (hb : b <+: s.wire fs) :
    ∃ whole later rest, fs = whole ++ later ∧ b = s.wire whole ++ rest ∧
      (s.after whole.length).Begins later rest := by
  induction fs generalizing s b with
  | nil => exact ⟨[], [], b, rfl, rfl, hb, by simp⟩
  | cons f fs ih =>
    by_cases hlt : b.length < f.sealedSize
    · refine ⟨[], f :: fs, b, rfl, rfl, hb, ?_⟩
      rintro g later ⟨⟩
      exact hlt
    · rw [wire_cons] at hb
      obtain ⟨b, rfl⟩ : (s.sealFrame f).toBytes <+: b :=
        List.prefix_of_prefix_length_le (List.prefix_append _ _) hb (by simpa using hlt)
      obtain ⟨whole, later, rest, rfl, rfl, hrest⟩ := ih ((List.prefix_append_right_inj _).1 hb)
      refine ⟨f :: whole, later, rest, rfl, by simp, ?_⟩
      rwa [List.length_cons, Nat.add_comm, ← after_after]

/-- A beginning that does not hold a whole frame makes the decoder wait. -/
theorem Begins.decode {rest : Bytes} (h : s.Begins fs rest) (hf : ∀ f ∈ fs, f.Sendable limit) :
    Frame.decode limit rest = .more := by
  cases fs with
  | nil =>
    have hnil : rest = [] := List.prefix_nil.1 h.isPrefix
    rw [hnil]
    exact Frame.decode_short (by decide)
  | cons f fs =>
    have hlt := h.short f fs rfl
    have hprefix := h.isPrefix
    rw [wire_cons] at hprefix
    have hlt' : rest.length < (s.sealFrame f).toBytes.length := by simpa using hlt
    refine Frame.decode_of_isPrefix (fits_sealFrame (hf f List.mem_cons_self) s) ?_ hlt'
    exact List.prefix_of_prefix_length_le hprefix (List.prefix_append _ _) (Nat.le_of_lt hlt')

end Sealer

namespace Connection

/-! ## Writing -/

def writeNext (c : Connection) : Bytes × Connection :=
  match c.nextWire with
  | (some wire, c) => (wire, c.wrote wire.length)
  | (none, c) => ([], c)

def write : Nat → Connection → Bytes × Connection
  | 0, c => ([], c)
  | n + 1, c =>
    let (wire, c) := c.writeNext
    let (wires, c) := write n c
    (wire ++ wires, c)

def writeAll (c : Connection) : Bytes × Connection := write c.mux.outbound.length c

/-- The connection after some of its frames have been written, with `q` still queued. -/
def written (c : Connection) (fs q : List Frame) : Connection :=
  { c with
    sealer := c.sealer.after fs.length
    mux := { c.mux with outbound := q }
    bytesSent := c.bytesSent + Frame.sealedSizes fs }

theorem nextWire_eq {c : Connection} {f : Frame} {q : List Frame} (hopen : c.closed = false)
    (hq : c.mux.outbound = f :: q) (hf : f.Sendable (wireLimit c.mux.config))
    (hs : c.sealer.counter < lastCounter) :
    c.nextWire = (some (c.sealer.sealFrame f).toBytes,
      { c with sealer := c.sealer.after 1, mux := { c.mux with outbound := q } }) := by
  simp only [nextWire, hopen, hq, Sealer.next_eq hs f]
  rw [show ({ f with payload := (c.sealer.sealFrame f).payload } : Frame) = c.sealer.sealFrame f from rfl,
    Frame.write_of_fits (Sealer.fits_sealFrame hf c.sealer)]
  rfl

theorem nextWire_exhausted {c : Connection} {f : Frame} {q : List Frame} (hopen : c.closed = false)
    (hq : c.mux.outbound = f :: q) (hs : lastCounter ≤ c.sealer.counter) :
    c.nextWire =
      (none, { c with mux := { c.mux with outbound := q } }.teardown (.ofSeal .nonceExhausted)) := by
  have hnext : c.sealer.next f.routing f.payload = (.error .nonceExhausted, c.sealer) := if_pos hs
  simp [nextWire, hopen, hq, hnext]

theorem writeNext_eq {c : Connection} {f : Frame} {q : List Frame} (hopen : c.closed = false)
    (hq : c.mux.outbound = f :: q) (hf : f.Sendable (wireLimit c.mux.config))
    (hs : c.sealer.counter < lastCounter) :
    c.writeNext = ((c.sealer.sealFrame f).toBytes, c.written [f] q) := by
  rw [writeNext, nextWire_eq hopen hq hf hs]
  simp [wrote, written, Frame.sealedSizes]

theorem write_eq {c : Connection} {fs q : List Frame} (hopen : c.closed = false)
    (hq : c.mux.outbound = fs ++ q) (hf : ∀ f ∈ fs, f.Sendable (wireLimit c.mux.config))
    (hs : c.sealer.counter + fs.length ≤ lastCounter) :
    c.write fs.length = (c.sealer.wire fs, c.written fs q) := by
  induction fs generalizing c with
  | nil =>
    rw [List.nil_append] at hq
    simp [write, written, ← hq, Frame.sealedSizes]
  | cons f fs ih =>
    obtain ⟨hf, hfs⟩ := List.forall_mem_cons.1 hf
    rw [List.length_cons] at hs
    have hnext := writeNext_eq hopen (q := fs ++ q) hq hf (by omega)
    have hrest : (c.written [f] (fs ++ q)).write fs.length = _ :=
      ih hopen rfl hfs (by simp only [written, Sealer.counter_after, List.length_singleton]; omega)
    simp only [List.length_cons, write, hnext, hrest]
    simp [written, Frame.sealedSizes, Nat.add_assoc, Nat.add_comm 1]

/-- What one end writes, from its sealer and its queue. -/
theorem writeAll_eq {c : Connection} (hopen : c.closed = false)
    (hf : ∀ f ∈ c.mux.outbound, f.Sendable (wireLimit c.mux.config))
    (hs : c.sealer.counter + c.mux.outbound.length ≤ lastCounter) :
    c.writeAll = (c.sealer.wire c.mux.outbound, c.written c.mux.outbound []) :=
  write_eq hopen (List.append_nil _).symm hf hs

/-! ## Reading -/

/-- Hands a frame over to the multiplexer as if it had not travelled, and counts the bytes that it
takes on the wire. A frame that is rejected ends the connection. -/
def handOver (c : Connection) (f : Frame) : Connection :=
  if c.closed then c
  else
    let c := { c with bytesReceived := c.bytesReceived + f.sealedSize }
    match c.mux.receive f with
    | (.error e, mux) => { c with mux }.teardown e
    | (.ok (), mux) => { c with mux }

structure Read where
  /-- What the end has done to its streams since the last read. -/
  work : Mux → Mux
  now : Duration
  bytes : Bytes

/-- The end after that work. -/
def worked (c : Connection) (r : Read) : Connection := { c with mux := r.work c.mux }

def read (c : Connection) (r : Read) : Connection := (c.worked r).receive r.now r.bytes

/-- Does the work, and then has frames handed over instead. -/
def deliver (c : Connection) (r : Read) (fs : List Frame) : Connection :=
  fs.foldl handOver (c.worked r)

/-- Does the work of each read, and has a group of frames handed over for it. -/
def deliverAll (c : Connection) (reads : List Read) (parts : List (List Frame)) : Connection :=
  (reads.zip parts).foldl (fun c part => c.deliver part.1 part.2) c

/-- The same streams, both open or both closed, and as many bytes counted. -/
structure Agrees (c d : Connection) : Prop where
  mux : c.mux = d.mux
  closed : c.closed = d.closed
  bytesReceived : c.bytesReceived = d.bytesReceived

/-- An open end that is in step with a sealer, holds the bytes `rest`, has counted `count` bytes, and
takes what an end with a limit sends. -/
structure Reading (s : Sealer) (limit : Nat) (rest : Bytes) (count : Nat) (c : Connection) : Prop where
  opener : c.opener = s.opener
  received : c.received = rest
  bytesReceived : c.bytesReceived = count
  limit : limit ≤ wireLimit c.mux.config

variable {c d : Connection} {s : Sealer} {now : Duration} {limit count : Nat} {rest : Bytes} {f : Frame}
  {fs : List Frame}

theorem Agrees.teardown (h : Agrees c d) (e : LinkError) : Agrees (c.teardown e) (d.teardown e) := by
  unfold Connection.teardown
  rw [h.closed]
  split
  · exact h
  · exact ⟨by rw [h.mux], rfl, h.bytesReceived⟩

theorem Agrees.handOver (h : Agrees c d) (f : Frame) : Agrees (c.handOver f) (d.handOver f) := by
  unfold Connection.handOver
  rw [h.closed]
  split
  · exact h
  · dsimp only
    rw [h.mux, h.bytesReceived]
    split
    · refine Agrees.teardown ?_ _
      exact ⟨rfl, rfl, rfl⟩
    · exact ⟨rfl, rfl, rfl⟩

/-- Handing a frame over changes nothing but the streams and the count, if the end stays open. -/
theorem Reading.handOver (h : Reading s limit rest count c) (hc : c.closed = false) {f : Frame}
    (hopen : (c.handOver f).closed = false) :
    Reading s limit rest (count + f.sealedSize) (c.handOver f) := by
  have hconfig := Mux.config_receive c.mux f
  have hcount : c.bytesReceived + f.sealedSize = count + f.sealedSize := by rw [h.bytesReceived]
  unfold Connection.handOver at hopen ⊢
  simp only [hc, Bool.false_eq_true, if_false] at hopen ⊢
  split
  · rename_i hr
    rw [hr] at hopen
    simp [closed_teardown] at hopen
  · rename_i hr
    rw [hr] at hconfig
    exact ⟨h.opener, h.received, hcount, hconfig ▸ h.limit⟩

theorem handOver_of_closed (h : c.closed = true) (f : Frame) : c.handOver f = c := if_pos h

theorem handle_of_closed (h : c.closed = true) (now : Duration) (f : Frame) : c.handle now f = c :=
  if_pos h

/-- Opening a frame that was sealed in step is handing it over. -/
theorem handle_sealed (hopen : c.closed = false) (hstep : c.opener = s.opener)
    (hs : s.counter < lastCounter) (now : Duration) (f : Frame) :
    c.handle now (s.sealFrame f) =
      { c with opener := (s.after 1).opener, lastInbound := now.millis }.handOver f := by
  have hnext : c.opener.next (s.sealFrame f).routing (s.sealFrame f).payload =
      (.ok f.payload, (s.after 1).opener) := hstep ▸ Sealer.opener_next hs f
  have hplain : ({ s.sealFrame f with payload := f.payload } : Frame) = f := rfl
  simp only [handle, hopen, hnext, hplain, handOver, Sealer.wireSize_sealFrame]
  obtain ⟨r, mux⟩ := c.mux.receive f
  cases r <;> rfl

/-- Opening frames that were sealed in step is handing them over. -/
theorem foldl_handle (now : Duration) (h : Agrees c d)
    (hc : c.closed = false → Reading s limit rest count c)
    (hs : s.counter + fs.length ≤ lastCounter) :
    let c' := (s.sealAll fs).foldl (handle now) c
    Agrees c' (fs.foldl handOver d) ∧
      (c'.closed = false →
        Reading (s.after fs.length) limit rest (count + Frame.sealedSizes fs) c') := by
  induction fs generalizing s count c d with
  | nil => exact ⟨h, hc⟩
  | cons f fs ih =>
    rw [List.length_cons] at hs
    cases hclosed : c.closed with
    | true =>
      have hd : d.closed = true := h.closed ▸ hclosed
      rw [List.foldl_fixed' (handle_of_closed hclosed now), List.foldl_fixed' (handOver_of_closed hd)]
      exact ⟨h, fun hopen => by simp [hclosed] at hopen⟩
    | false =>
      have hr := hc hclosed
      have hagree : Agrees { c with opener := (s.after 1).opener, lastInbound := now.millis } d :=
        ⟨h.mux, h.closed, h.bytesReceived⟩
      have hreading : Reading (s.after 1) limit rest count
          { c with opener := (s.after 1).opener, lastInbound := now.millis } :=
        ⟨rfl, hr.received, hr.bytesReceived, hr.limit⟩
      rw [Sealer.sealAll, List.foldl_cons, handle_sealed hclosed hr.opener (by omega)]
      have hrest := ih (hagree.handOver f) (hreading.handOver hclosed)
        (by simp only [Sealer.counter_after]; omega)
      rw [Sealer.after_after] at hrest
      simpa [Frame.sealedSizes, Nat.add_assoc, Nat.add_comm 1] using hrest

theorem Agrees.worked (h : Agrees c d) (r : Read) : Agrees (c.worked r) (d.worked r) :=
  ⟨by rw [Connection.worked, Connection.worked, h.mux], h.closed, h.bytesReceived⟩

theorem Reading.worked {r : Read} (h : Reading s limit rest count c)
    (hwork : ∀ m, (r.work m).config = m.config) : Reading s limit rest count (c.worked r) :=
  ⟨h.opener, h.received, h.bytesReceived, by
    rw [Connection.worked, hwork]
    exact h.limit⟩

/-- Bytes that complete some frames: they are opened one after the other, and the rest is kept. -/
theorem receive_whole {whole later : List Frame} {bytes : Bytes} (now : Duration) (hopen : c.closed = false)
    (hf : ∀ f ∈ whole ++ later, f.Sendable (wireLimit c.mux.config))
    (hbytes : c.received ++ bytes = s.wire whole ++ rest)
    (hrest : (s.after whole.length).Begins later rest) :
    c.receive now bytes = { (s.sealAll whole).foldl (handle now) c with received := rest } := by
  have hwhole : ∀ f ∈ s.sealAll whole, f.Fits (wireLimit c.mux.config) :=
    Sealer.fits_sealAll fun f hf' => hf f (List.mem_append_left later hf')
  have hdecode : Frame.decodeAll (wireLimit c.mux.config) (c.received ++ bytes) =
      (s.sealAll whole, .more rest) := by
    rw [hbytes]
    exact Frame.decodeAll_toBytes hwhole
      (hrest.decode fun f hf' => hf f (List.mem_append_right whole hf'))
  rw [receive, hopen, hdecode]
  rfl

/-- Bytes that arrive are frames handed over, and the rest is kept. -/
theorem receive_agrees {whole later : List Frame} {buffer bytes : Bytes} (now : Duration)
    (h : Agrees c d) (hc : c.closed = false → Reading s limit buffer count c)
    (hf : ∀ f ∈ whole ++ later, f.Sendable limit) (hs : s.counter + whole.length ≤ lastCounter)
    (hbytes : buffer ++ bytes = s.wire whole ++ rest)
    (hrest : (s.after whole.length).Begins later rest) :
    Agrees (c.receive now bytes) (whole.foldl handOver d) ∧
      ((c.receive now bytes).closed = false →
        Reading (s.after whole.length) limit rest (count + Frame.sealedSizes whole)
          (c.receive now bytes)) := by
  cases hclosed : c.closed with
  | true =>
    have hd : d.closed = true := h.closed ▸ hclosed
    rw [show c.receive now bytes = c from if_pos hclosed, List.foldl_fixed' (handOver_of_closed hd)]
    exact ⟨h, fun hopen => by simp [hclosed] at hopen⟩
  | false =>
    have hr := hc hclosed
    have hreceive := receive_whole now hclosed
      (fun f hf' => { hf f hf' with payload := Nat.le_trans (hf f hf').payload hr.limit })
      (hr.received.symm ▸ hbytes) hrest
    obtain ⟨hagree, hreading⟩ := foldl_handle now h hc hs
    rw [hreceive]
    refine ⟨⟨hagree.mux, hagree.closed, hagree.bytesReceived⟩, fun hopen => ?_⟩
    have hr' := hreading hopen
    exact ⟨hr'.opener, rfl, hr'.bytesReceived, hr'.limit⟩

/-- Reads hand over, in groups, the frames whose bytes have arrived in full. -/
theorem reads_agree {reads : List Read} {buffer : Bytes} (h : Agrees c d)
    (hc : c.closed = false → Reading s limit buffer count c)
    (hwork : ∀ r ∈ reads, ∀ m, (r.work m).config = m.config)
    (hf : ∀ f ∈ fs, f.Sendable limit) (hs : s.counter + fs.length ≤ lastCounter)
    (hbuffer : s.Begins fs buffer) (hbytes : buffer ++ reads.flatMap Read.bytes <+: s.wire fs) :
    ∃ (parts : List (List Frame)) (later : List Frame) (rest : Bytes),
      parts.length = reads.length ∧ fs = parts.flatten ++ later ∧
      buffer ++ reads.flatMap Read.bytes = s.wire parts.flatten ++ rest ∧
      (s.after parts.flatten.length).Begins later rest ∧
      Agrees (reads.foldl read c) (d.deliverAll reads parts) ∧
      ((reads.foldl read c).closed = false →
        Reading (s.after parts.flatten.length) limit rest
          (count + Frame.sealedSizes parts.flatten) (reads.foldl read c)) := by
  induction reads generalizing s fs buffer count c d with
  | nil =>
    refine ⟨[], fs, buffer, rfl, rfl, by simp, hbuffer, h, hc⟩
  | cons r reads ih =>
    obtain ⟨hworkr, hwork⟩ := List.forall_mem_cons.1 hwork
    rw [List.flatMap_cons, ← List.append_assoc] at hbytes
    obtain ⟨whole, later, rest, rfl, hwhole, hrest⟩ :=
      Sealer.exists_whole ((List.prefix_append _ _).trans hbytes)
    rw [List.length_append] at hs
    obtain ⟨hagree, hreading⟩ := receive_agrees r.now (h.worked r)
      (fun hopen => (hc hopen).worked hworkr) hf (by omega) hwhole hrest
    rw [hwhole, Sealer.wire_append, List.append_assoc, List.prefix_append_right_inj] at hbytes
    obtain ⟨parts, later, rest', hlen, rfl, hbytes', hrest', hagree', hreading'⟩ :=
      ih hagree hreading hwork (fun f hf' => hf f (List.mem_append_right whole hf'))
        (by simp only [Sealer.counter_after]; omega) hrest hbytes
    refine ⟨whole :: parts, later, rest', by simp [hlen], by simp, ?_, ?_, hagree', ?_⟩
    · rw [List.flatMap_cons, ← List.append_assoc, hwhole, List.append_assoc, hbytes', List.flatten_cons,
        Sealer.wire_append, List.append_assoc]
    · rwa [List.flatten_cons, List.length_append, ← Sealer.after_after]
    · rw [List.flatten_cons, List.length_append, ← Sealer.after_after, Frame.sealedSizes_append,
        ← Nat.add_assoc]
      exact hreading'

/-! ## The pipe -/

/-- **A pair of connections is a pipe for frames.** One end writes what it has queued, and the other
end, in step with it, reads the first `k` of these bytes in pieces of any size, with any work on its
streams in between. Then it is as if the frames whose bytes have arrived in full, and no others, had
been handed over in groups, one for each read: up to the first one that is rejected, which ends the
connection. Once all of them have been handed over both ends have counted the same bytes. Where the
bytes stop, an end that is still open finds its peer unreachable. -/
theorem frames_arrive (a b : Connection) (ha : a.closed = false)
    (hsend : ∀ f ∈ a.mux.outbound, f.Sendable (wireLimit a.mux.config))
    (hcount : a.sealer.counter + a.mux.outbound.length ≤ lastCounter)
    (hstep : b.opener = a.sealer.opener) (hempty : b.received = [])
    (hcounted : b.bytesReceived = a.bytesSent)
    (hlimit : wireLimit a.mux.config ≤ wireLimit b.mux.config) (reads : List Read)
    (hwork : ∀ r ∈ reads, ∀ m, (r.work m).config = m.config) (k : Nat)
    (hreads : reads.flatMap Read.bytes = a.writeAll.1.take k) :
    let a' := a.writeAll.2
    let b' := reads.foldl read b
    a'.closed = false ∧ a'.mux.outbound = [] ∧
      ∃ (parts : List (List Frame)) (later : List Frame),
        a.mux.outbound = parts.flatten ++ later ∧ parts.length = reads.length ∧
        Frame.sealedSizes parts.flatten ≤ k ∧
        (∀ f rest, later = f :: rest → k < Frame.sealedSizes parts.flatten + f.sealedSize) ∧
        b'.mux = (b.deliverAll reads parts).mux ∧ b'.closed = (b.deliverAll reads parts).closed ∧
        b'.bytesReceived = (b.deliverAll reads parts).bytesReceived ∧
        (b'.closed = false →
          (∃ text, b'.endOfInput = b'.teardown (.unreachable text)) ∧
          (later = [] → b'.bytesReceived = a'.bytesSent ∧ b'.received = [] ∧
            b'.opener = a'.sealer.opener)) := by
  have hwrite := writeAll_eq ha hsend hcount
  intro a' b'
  have ha' : a' = a.written a.mux.outbound [] := congrArg Prod.snd hwrite
  rw [hwrite] at hreads
  have hprefix : [] ++ reads.flatMap Read.bytes <+: a.sealer.wire a.mux.outbound := by
    rw [List.nil_append, hreads]
    exact List.take_prefix _ _
  have start : b.closed = false → Reading a.sealer (wireLimit a.mux.config) [] a.bytesSent b :=
    fun _ => ⟨hstep, hempty, hcounted, hlimit⟩
  obtain ⟨parts, later, rest, hlen, hframes, hbytes, hrest, hagree, hreading⟩ :=
    reads_agree ⟨rfl, rfl, rfl⟩ start hwork hsend hcount (Sealer.begins_nil _ _) hprefix
  have hsizes : min k (Frame.sealedSizes parts.flatten + Frame.sealedSizes later) =
      Frame.sealedSizes parts.flatten + rest.length := by
    have hlength := congrArg List.length hbytes
    rwa [List.nil_append, hreads, List.length_take, List.length_append, Sealer.length_wire,
      Sealer.length_wire, hframes, Frame.sealedSizes_append] at hlength
  refine ⟨ha' ▸ ha, ha' ▸ rfl, parts, later, hframes, hlen, by omega, ?_, hagree.mux,
    hagree.closed, hagree.bytesReceived, fun hopen => ⟨?_, ?_⟩⟩
  · rintro f others rfl
    have hshort := hrest.short f others rfl
    have hmore : f.sealedSize ≤ Frame.sealedSizes (f :: others) := by simp [Frame.sealedSizes]
    omega
  · unfold endOfInput
    split
    · exact ⟨_, rfl⟩
    · exact ⟨_, rfl⟩
  · rintro rfl
    have hr := hreading hopen
    rw [List.append_nil] at hframes
    have hnil : rest = [] := List.prefix_nil.1 hrest.isPrefix
    refine ⟨?_, hnil ▸ hr.received, ?_⟩
    · rw [hr.bytesReceived, ← hframes, ha']
      rfl
    · rw [hr.opener, ← hframes, ha']
      rfl

/-- All but the last byte of two frames arrives: the first one is handed over. -/
theorem frames_arrive_cut_short :
    let keys : SessionKeys := ⟨[1], [2]⟩
    let client := new 0 "" .client (Session.new keys .client) {}
    let frames : List Frame := [⟨.opening, 1, [1, 127, 0, 0, 1, 0, 80]⟩, ⟨.data, 1, [1, 2, 3]⟩]
    let a := { client with mux := { client.mux with outbound := frames } }
    let r : Read := { work := fun m => m, now := ⟨0⟩, bytes := a.writeAll.1.take 59 }
    let b' := (new 1 "" .server (Session.new keys .server) {}).read r
    b'.closed = false ∧ b'.mux.incoming = [0] ∧ b'.bytesReceived = 32 ∧
      ∃ text, b'.endOfInput = b'.teardown (.unreachable text) := by
  intro keys client frames a r b'
  have hsend : ∀ f ∈ a.mux.outbound, f.Sendable (wireLimit a.mux.config) := by decide
  obtain ⟨-, -, parts, later, hframes, hlen, hle, hlt, hmux, hclosed, hbytes, hend⟩ :=
    frames_arrive a (new 1 "" .server (Session.new keys .server) {}) rfl hsend (by decide) rfl rfl rfl
      (Nat.le_refl _) [r] (by simp [r]) 59 (by simp [r])
  obtain ⟨whole, rfl⟩ := List.length_eq_one_iff.1 hlen
  have hwhole : whole = [⟨.opening, 1, [1, 127, 0, 0, 1, 0, 80]⟩] := by
    simp only [List.flatten_cons, List.flatten_nil, List.append_nil] at hframes hle hlt
    match whole, hframes with
    | [], hframes =>
      have hshort := hlt _ _ hframes.symm
      simp [Frame.sealedSizes, Frame.sealedSize, Frame.wireSize, Frame.headerSize,
        Crypto.Aead.tagSize] at hshort
    | [f], hframes =>
      obtain ⟨rfl, -⟩ := List.cons.inj hframes
      rfl
    | f :: g :: rest, hframes =>
      obtain ⟨hf, hrest⟩ := List.cons.inj hframes
      obtain ⟨hg, -⟩ := List.cons.inj hrest
      simp [← hf, ← hg, Frame.sealedSizes, Frame.sealedSize, Frame.wireSize, Frame.headerSize,
        Crypto.Aead.tagSize] at hle
      omega
  subst hwhole
  have hopen : b'.closed = false := hclosed.trans (by decide)
  exact ⟨hopen, hmux ▸ by decide, hbytes.trans (by decide), (hend hopen).1⟩

end Connection
end SealedRelay
