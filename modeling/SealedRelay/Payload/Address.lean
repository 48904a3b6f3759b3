import SealedRelay.Destination
import SealedRelay.Payload.Error
/-!
# Destinations on the wire

A destination is written as one byte for the type of address, the address, and the port in two
bytes. A domain name has one byte of length before it. SOCKS5 clients name their destination in
the same form.

Result:
* `decode_encode`: a destination is read as it was written.
-/
namespace SealedRelay.Destination

def ipv4Type : UInt8 := 1

def domainType : UInt8 := 3

def ipv6Type : UInt8 := 4

/-- Writes a destination; a domain name must have between 1 and 255 bytes. -/
def encode : Destination → Except Payload.Error Bytes
  | ip ⟨.v4 a, port⟩ => .ok (ipv4Type :: a.octets ++ Bytes.ofUInt16 port)
  | ip ⟨.v6 a, port⟩ => .ok (ipv6Type :: a.octets ++ Bytes.ofUInt16 port)
  | domain name port =>
    let bytes := Bytes.ofText name
    if bytes.length = 0 ∨ bytes.length > 255 then .error (.domainLength bytes.length)
    else .ok (domainType :: UInt8.ofNat bytes.length :: bytes ++ Bytes.ofUInt16 port)

/-- The destination in front of `body`, and how many bytes it takes, for an address type. -/
def decodeBody (type : UInt8) (body : Bytes) : Except Payload.Error (Destination × Nat) :=
  if type = ipv4Type then
    if h : 6 ≤ body.length then
      let a : Ipv4 := ⟨body.take 4, by simp; omega⟩
      .ok (.ip ⟨.v4 a, Bytes.toUInt16 ((body.drop 4).take 2)⟩, 6)
    else .error (.truncated .ipv4)
  else if type = ipv6Type then
    if h : 18 ≤ body.length then
      let a : Ipv6 := ⟨body.take 16, by simp; omega⟩
      .ok (.ip ⟨.v6 a, Bytes.toUInt16 ((body.drop 16).take 2)⟩, 18)
    else .error (.truncated .ipv6)
  else if type = domainType then
    match body with
    | [] => .error (.truncated .domainLength)
    | n :: rest =>
      let n := n.toNat
      if n = 0 then .error .emptyDomain
      else if rest.length < n + 2 then .error (.truncated .domain)
      else
        match Bytes.toText? (rest.take n) with
        | none => .error .domainNotText
        | some name => .ok (.domain name (Bytes.toUInt16 ((rest.drop n).take 2)), 1 + n + 2)
  else .error (.unknownAddressType type)

/-- Reads a destination that takes up the whole payload. -/
def decode : Bytes → Except Payload.Error Destination
  | [] => .error .noAddress
  | type :: body =>
    match decodeBody type body with
    | .error e => .error e
    | .ok (d, used) =>
      if body.length = used then .ok d else .error (.trailing (body.length - used))

/-- Whatever stands behind it, a destination is read as it was written, up to its end. -/
theorem decodeBody_encode {d : Destination} {b : Bytes} (h : d.encode = .ok b) (rest : Bytes) :
    ∃ type body, b = type :: body ∧ decodeBody type (body ++ rest) = .ok (d, body.length) := by
  match d with
  | .ip ⟨.v4 a, port⟩ =>
    obtain rfl := Except.ok.inj h
    refine ⟨_, _, rfl, ?_⟩
    have hlen : 6 ≤ 4 + (2 + rest.length) := by omega
    simp [decodeBody, a.size, hlen]
  | .ip ⟨.v6 a, port⟩ =>
    obtain rfl := Except.ok.inj h
    refine ⟨_, _, rfl, ?_⟩
    have hlen : 18 ≤ 16 + (2 + rest.length) := by omega
    simp [decodeBody, a.size, hlen, ipv4Type, ipv6Type]
  | .domain name port =>
    simp only [encode] at h
    split at h
    · simp at h
    rename_i hlen
    obtain ⟨hpos, hle⟩ := not_or.1 hlen
    obtain rfl := Except.ok.inj h
    refine ⟨_, _, rfl, ?_⟩
    have hn : (UInt8.ofNat (Bytes.ofText name).length).toNat = (Bytes.ofText name).length := by
      rw [UInt8.toNat_ofNat']
      omega
    have hroom : ¬(Bytes.ofText name).length + (2 + rest.length) < (Bytes.ofText name).length + 2 := by
      omega
    simp [decodeBody, hn, hpos, hroom, domainType, ipv4Type, ipv6Type]
    omega

theorem decode_encode {d : Destination} {b : Bytes} (h : d.encode = .ok b) : decode b = .ok d := by
  obtain ⟨type, body, rfl, hd⟩ := decodeBody_encode h []
  rw [List.append_nil] at hd
  simp [decode, hd]

end SealedRelay.Destination
