import SealedRelay.Frame
/-!
# Frames on the wire

A frame is written as kind (1 byte), stream (4), payload length (4) and payload. A decoder reads
frames off the front of a buffer; what is wrong with a header is reported once the header is
complete, without waiting for the payload.
-/
namespace SealedRelay.Frame

def toBytes (f : Frame) : Bytes :=
  f.routing ++ Bytes.ofNat 4 f.payload.length ++ f.payload

@[simp] theorem length_routingHeader (kind : Kind) (stream : StreamId) :
    (routingHeader kind stream).length = 5 := by
  simp [routingHeader]

@[simp] theorem length_toBytes (f : Frame) : f.toBytes.length = f.wireSize := by
  simp only [toBytes, routing, wireSize, headerSize, List.length_append, length_routingHeader,
    Bytes.length_ofNat]

/-- Writes a frame, if its stream is valid and its payload can be declared. -/
def encode (f : Frame) : Except Error Bytes :=
  if ¬ ValidStream f.kind f.stream then .error (.invalidStream f.kind f.stream)
  else if f.payload.length > largestPayload then
    .error (.payloadTooLarge f.payload.length largestPayload)
  else .ok f.toBytes

inductive Decoded where
  /-- A frame, and the bytes after it. -/
  | frame (frame : Frame) (rest : Bytes)
  /-- The beginning of a frame, or nothing. -/
  | more
  | error (error : Error)
  deriving DecidableEq

/-- Takes one frame with a payload of at most `most` bytes off the front of a buffer. -/
def decode (most : Nat) (buffer : Bytes) : Decoded :=
  match buffer with
  | k :: i0 :: i1 :: i2 :: i3 :: l0 :: l1 :: l2 :: l3 :: body =>
    match Kind.ofByte? k with
    | none => .error (.unknownKind k)
    | some kind =>
      let stream := Bytes.toUInt32 [i0, i1, i2, i3]
      let size := Bytes.toNat [l0, l1, l2, l3]
      if ¬ ValidStream kind stream then .error (.invalidStream kind stream)
      else if size > most then .error (.payloadTooLarge size most)
      else
        let payload := body.take size
        if payload.length < size then .more else .frame ⟨kind, stream, payload⟩ (body.drop size)
  | _ => .more

theorem decode_rest_length {most : Nat} {buffer rest : Bytes} {f : Frame}
    (h : decode most buffer = .frame f rest) : rest.length < buffer.length := by
  unfold decode at h
  split at h
  · split at h
    · simp at h
    · simp only at h
      split at h
      · simp at h
      split at h
      · simp at h
      split at h
      · simp at h
      · injection h with _ hr
        subst hr
        simp only [List.length_drop, List.length_cons]
        omega
  · simp at h

/-- How a run of decoding ended. -/
inductive Ending where
  | more (rest : Bytes)
  | error (error : Error) (rest : Bytes)
  deriving DecidableEq

/-- Takes frames off a buffer until it gives none. -/
def decodeAll (most : Nat) (buffer : Bytes) : List Frame × Ending :=
  match _h : decode most buffer with
  | .frame f rest =>
    let (frames, ending) := decodeAll most rest
    (f :: frames, ending)
  | .more => ([], .more buffer)
  | .error e => ([], .error e buffer)
termination_by buffer.length
decreasing_by exact decode_rest_length _h

/-- A streaming codec: the limit on payloads, the bytes received but not yet decoded, and the
bytes encoded but not yet sent. -/
structure Codec where
  maxPayload : Nat := defaultMaxPayload
  received : Bytes := []
  encoded : Bytes := []

namespace Codec

def feed (c : Codec) (bytes : Bytes) : Codec := { c with received := c.received ++ bytes }

/-- The next frame, if all of it has arrived. -/
def next (c : Codec) : Except Error (Option Frame) × Codec :=
  match decode c.maxPayload c.received with
  | .frame f rest => (.ok (some f), { c with received := rest })
  | .more => (.ok none, c)
  | .error e => (.error e, c)

/-- The next frame when no more bytes will come: the beginning of a frame is then an error. -/
def nextAtEnd (c : Codec) : Except Error (Option Frame) × Codec :=
  match c.next with
  | (.ok none, c) => (if c.received = [] then .ok none else .error .connectionClosed, c)
  | r => r

/-- Writes a frame whose payload keeps to the limit. -/
def write (c : Codec) (f : Frame) : Except Error Codec :=
  if f.payload.length > c.maxPayload then
    .error (.payloadTooLarge f.payload.length c.maxPayload)
  else f.encode.map fun bytes => { c with encoded := c.encoded ++ bytes }

end Codec

end SealedRelay.Frame
