import Mathlib.Data.List.Basic
import SealedRelay.Payload.Address

/-!
# The written form of a destination

A destination has one written form, and bytes are read as a destination only if they are its written
form. `Written` is this form as a relation; it agrees with the writer as well as with the reader.

Results:
* `ofText_of_toText?`: a text has one spelling in UTF-8.
* `encode_eq_ok_iff`, `decode_eq_ok_iff`: what is written and what is read.
* `decode_iff_encode`: reading and writing are inverse to each other.
* `decode_eq_error_iff`: why bytes are refused.
* `one_written_form`: all of it together.
-/
namespace SealedRelay.Bytes

theorem ofText_of_toText? {b : Bytes} {s : String} (h : toText? b = some s) : ofText s = b := by
  rw [toText?, String.fromUTF8?] at h
  split at h
  · obtain rfl := Option.some.inj h
    rw [ofText, String.fromUTF8, ByteArray.toList, toList_loop]
    rfl
  · cases h

theorem length_ofText (s : String) : (ofText s).length = s.utf8ByteSize := by
  rw [ofText, ByteArray.toList, toList_loop]
  exact Array.length_toList

theorem isEmpty_iff_length_ofText {s : String} : s.isEmpty ↔ (ofText s).length = 0 := by
  rw [length_ofText, String.isEmpty, beq_iff_eq]

/-- The two bytes behind the first `n` as a number, written again. -/
theorem take_add_two {n : Nat} {b : Bytes} (h : n + 2 ≤ b.length) :
    b.take (n + 2) = b.take n ++ ofUInt16 (toUInt16 ((b.drop n).take 2)) := by
  have hport : ((b.drop n).take 2).length = 2 := by
    rw [List.length_take, List.length_drop]
    omega
  rw [ofUInt16_toUInt16 hport, List.take_add]

end SealedRelay.Bytes

namespace SealedRelay.Destination

open Bytes

variable {d : Destination} {b : Bytes} {e : Payload.Error}

/-- A destination and its written form. -/
inductive Written : Destination → Bytes → Prop
  | ipv4 (a : Ipv4) (port : UInt16) :
    Written (.ip ⟨.v4 a, port⟩) (ipv4Type :: a.octets ++ ofUInt16 port)
  | ipv6 (a : Ipv6) (port : UInt16) :
    Written (.ip ⟨.v6 a, port⟩) (ipv6Type :: a.octets ++ ofUInt16 port)
  | domain {name : String} {n : UInt8} (length : n.toNat = (ofText name).length) (pos : n.toNat ≠ 0)
      (port : UInt16) :
    Written (.domain name port) (domainType :: n :: ofText name ++ ofUInt16 port)

theorem Written.exists_cons (h : Written d b) : ∃ type body, b = type :: body := by
  cases h <;> exact ⟨_, _, rfl⟩

theorem Written.of_ipv4 (h : Written d (ipv4Type :: b)) :
    ∃ a port, d = .ip ⟨.v4 a, port⟩ ∧ b = a.octets ++ ofUInt16 port := by
  cases h with
  | ipv4 a port => exact ⟨a, port, rfl, rfl⟩

theorem Written.of_ipv6 (h : Written d (ipv6Type :: b)) :
    ∃ a port, d = .ip ⟨.v6 a, port⟩ ∧ b = a.octets ++ ofUInt16 port := by
  cases h with
  | ipv6 a port => exact ⟨a, port, rfl, rfl⟩

theorem encode_eq_ok_iff : d.encode = .ok b ↔ Written d b := by
  constructor
  · intro h
    match d with
    | .ip ⟨.v4 a, port⟩ =>
      obtain rfl := Except.ok.inj h
      exact .ipv4 a port
    | .ip ⟨.v6 a, port⟩ =>
      obtain rfl := Except.ok.inj h
      exact .ipv6 a port
    | .domain name port =>
      simp only [encode] at h
      split at h
      · cases h
      rename_i hlen
      obtain ⟨hpos, hle⟩ := not_or.1 hlen
      obtain rfl := Except.ok.inj h
      have hn : (UInt8.ofNat (ofText name).length).toNat = (ofText name).length := by
        rw [UInt8.toNat_ofNat']
        omega
      exact .domain hn (hn.trans_ne hpos) port
  · intro h
    cases h with
    | ipv4 => rfl
    | ipv6 => rfl
    | domain length pos port =>
      rename_i name n
      have hlt := n.toNat_lt
      have hlen : ¬ ((ofText name).length = 0 ∨ (ofText name).length > 255) := by omega
      simp only [encode]
      rw [if_neg hlen, ← length, UInt8.ofNat_toNat]

/-- What stands in front of `body` is written as the bytes that it takes. -/
theorem written_of_decodeBody {type : UInt8} {body : Bytes} {used : Nat}
    (h : decodeBody type body = .ok (d, used)) : Written d (type :: body.take used) := by
  unfold decodeBody at h
  split at h
  · rename_i htype
    split at h
    · rename_i hlen
      obtain ⟨rfl, rfl⟩ := Prod.mk.inj (Except.ok.inj h)
      rw [htype, take_add_two (n := 4) hlen]
      exact .ipv4 ⟨body.take 4, _⟩ _
    · cases h
  split at h
  · rename_i htype
    split at h
    · rename_i hlen
      obtain ⟨rfl, rfl⟩ := Prod.mk.inj (Except.ok.inj h)
      rw [htype, take_add_two (n := 16) hlen]
      exact .ipv6 ⟨body.take 16, _⟩ _
    · cases h
  split at h
  · rename_i htype
    split at h
    · cases h
    rename_i n rest
    dsimp only at h
    split at h
    · cases h
    rename_i hn
    split at h
    · cases h
    rename_i hlen
    split at h
    · cases h
    rename_i name hname
    obtain ⟨rfl, rfl⟩ := Prod.mk.inj (Except.ok.inj h)
    have hused : 1 + n.toNat + 2 = n.toNat + 2 + 1 := by omega
    have hlength : n.toNat = (ofText name).length := by
      rw [ofText_of_toText? hname, List.length_take]
      omega
    rw [htype, hused, List.take_succ_cons, take_add_two (Nat.le_of_not_lt hlen),
      ← ofText_of_toText? hname]
    exact .domain hlength hn _
  · cases h

theorem decode_eq_ok_iff : decode b = .ok d ↔ Written d b := by
  constructor
  · intro h
    cases b with
    | nil => cases h
    | cons type body =>
      rw [decode] at h
      split at h
      · cases h
      rename_i used hbody
      split at h
      · rename_i hused
        obtain rfl := Except.ok.inj h
        have hwritten := written_of_decodeBody hbody
        rwa [← hused, List.take_length] at hwritten
      · cases h
  · exact fun h => decode_encode (encode_eq_ok_iff.2 h)

/-- Reading and writing are inverse to each other. -/
theorem decode_iff_encode : decode b = .ok d ↔ d.encode = .ok b :=
  decode_eq_ok_iff.trans encode_eq_ok_iff.symm

/-! ## What is not a destination -/

/-- Why bytes are not the written form of a destination. Of several faults the first counts. -/
inductive Misread : Bytes → Payload.Error → Prop
  | nothing : Misread [] .noAddress
  | unknown {type : UInt8} (ipv4 : type ≠ ipv4Type) (ipv6 : type ≠ ipv6Type)
    (domain : type ≠ domainType) (body : Bytes) :
    Misread (type :: body) (.unknownAddressType type)
  | shortIpv4 {body : Bytes} (short : body.length < 6) :
    Misread (ipv4Type :: body) (.truncated .ipv4)
  | shortIpv6 {body : Bytes} (short : body.length < 18) :
    Misread (ipv6Type :: body) (.truncated .ipv6)
  | noLength : Misread [domainType] (.truncated .domainLength)
  | noName (body : Bytes) : Misread (domainType :: 0 :: body) .emptyDomain
  | shortDomain {n : UInt8} {body : Bytes} (pos : n.toNat ≠ 0) (short : body.length < n.toNat + 2) :
    Misread (domainType :: n :: body) (.truncated .domain)
  | noText {n : UInt8} {body : Bytes} (pos : n.toNat ≠ 0) (long : n.toNat + 2 ≤ body.length)
    (garbled : toText? (body.take n.toNat) = none) :
    Misread (domainType :: n :: body) .domainNotText
  | trailing {d : Destination} {b rest : Bytes} (written : Written d b) (more : rest ≠ []) :
    Misread (b ++ rest) (.trailing rest.length)

/-- The front of `body` cannot be read for a reason of its own. -/
theorem misread_of_decodeBody {type : UInt8} {body : Bytes} (h : decodeBody type body = .error e) :
    Misread (type :: body) e := by
  unfold decodeBody at h
  split at h
  · rename_i htype
    subst htype
    split at h
    · cases h
    · rename_i hshort
      obtain rfl := Except.error.inj h
      exact .shortIpv4 (Nat.lt_of_not_le hshort)
  rename_i hipv4
  split at h
  · rename_i htype
    subst htype
    split at h
    · cases h
    · rename_i hshort
      obtain rfl := Except.error.inj h
      exact .shortIpv6 (Nat.lt_of_not_le hshort)
  rename_i hipv6
  split at h
  · rename_i htype
    subst htype
    split at h
    · obtain rfl := Except.error.inj h
      exact .noLength
    rename_i n rest
    dsimp only at h
    split at h
    · rename_i hn
      obtain rfl := Except.error.inj h
      obtain rfl : n = 0 := UInt8.toNat_inj.1 hn
      exact .noName rest
    rename_i hn
    split at h
    · rename_i hshort
      obtain rfl := Except.error.inj h
      exact .shortDomain hn hshort
    rename_i hlong
    split at h
    · rename_i hgarbled
      obtain rfl := Except.error.inj h
      exact .noText hn (Nat.le_of_not_lt hlong) hgarbled
    · cases h
  · rename_i hdomain
    obtain rfl := Except.error.inj h
    exact .unknown hipv4 hipv6 hdomain body

theorem used_le_of_decodeBody {type : UInt8} {body : Bytes} {used : Nat}
    (h : decodeBody type body = .ok (d, used)) : used ≤ body.length := by
  have hwritten := encode_eq_ok_iff.2 (written_of_decodeBody h)
  obtain ⟨_, _, hb, hbody⟩ := decodeBody_encode hwritten (body.drop used)
  obtain ⟨rfl, rfl⟩ := List.cons.inj hb
  rw [List.take_append_drop, h] at hbody
  have hlength := congrArg Prod.snd (Except.ok.inj hbody)
  rw [List.length_take] at hlength
  omega

theorem decode_written_append {rest : Bytes} (h : Written d b) (more : rest ≠ []) :
    decode (b ++ rest) = .error (.trailing rest.length) := by
  obtain ⟨type, body, rfl, hbody⟩ := decodeBody_encode (encode_eq_ok_iff.2 h) rest
  have hlen : ¬(body ++ rest).length = body.length := by simp [more]
  have hcount : (body ++ rest).length - body.length = rest.length := by simp
  rw [List.cons_append, decode, hbody]
  dsimp only
  rw [if_neg hlen, hcount]

/-- Each fault is reported when it is there, and no other. -/
theorem decode_eq_error_iff : decode b = .error e ↔ Misread b e := by
  constructor
  · intro h
    cases b with
    | nil =>
      obtain rfl := Except.error.inj h
      exact .nothing
    | cons type body =>
      rw [decode] at h
      split at h
      · rename_i hbody
        obtain rfl := Except.error.inj h
        exact misread_of_decodeBody hbody
      rename_i used hbody
      split at h
      · cases h
      rename_i hused
      obtain rfl := Except.error.inj h
      have hsplit : type :: body = (type :: body.take used) ++ body.drop used := by simp
      have hused' := used_le_of_decodeBody hbody
      have hmore : body.drop used ≠ [] := by
        rw [Ne, List.drop_eq_nil_iff]
        omega
      rw [hsplit, ← List.length_drop]
      exact .trailing (written_of_decodeBody hbody) hmore
  · intro h
    cases h with
    | nothing => rfl
    | unknown ipv4 ipv6 domain => simp [decode, decodeBody, ipv4, ipv6, domain]
    | shortIpv4 short => simp [decode, decodeBody, Nat.not_le_of_lt short]
    | shortIpv6 short => simp [decode, decodeBody, Nat.not_le_of_lt short, ipv6Type, ipv4Type]
    | noLength => rfl
    | noName => rfl
    | shortDomain pos short =>
      simp [decode, decodeBody, domainType, ipv6Type, ipv4Type, pos, short]
    | noText pos long garbled =>
      simp [decode, decodeBody, domainType, ipv6Type, ipv4Type, pos, Nat.not_lt_of_le long, garbled]
    | trailing written more => exact decode_written_append written more

/-! ## One written form -/

/-- A destination that can be written: any address, and a domain name of 1 to 255 bytes. -/
def Writable : Destination → Prop
  | ip _ => True
  | domain name _ => 1 ≤ name.utf8ByteSize ∧ name.utf8ByteSize ≤ 255

theorem exists_encode_iff : (∃ b, d.encode = .ok b) ↔ d.Writable := by
  cases d with
  | ip addr =>
    obtain ⟨_ | _, _⟩ := addr <;> exact iff_of_true ⟨_, rfl⟩ trivial
  | domain name port =>
    simp only [encode, Writable, ← length_ofText]
    split
    · rename_i h
      refine iff_of_false (by simp) ?_
      omega
    · rename_i h
      refine iff_of_true ⟨_, rfl⟩ ?_
      omega

/-- The beginning of a written form is not one itself. -/
theorem decode_of_isPrefix {p : Bytes} (h : Written d b) (hp : p <+: b) (hne : p ≠ b) :
    ∃ e, decode p = .error e := by
  obtain ⟨rest, rfl⟩ := hp
  cases hd : decode p with
  | error e => exact ⟨e, rfl⟩
  | ok d' =>
    have hmore : rest ≠ [] := by
      rintro rfl
      exact hne (List.append_nil p).symm
    have hlonger := decode_written_append (decode_eq_ok_iff.1 hd) hmore
    cases hlonger.symm.trans (decode_eq_ok_iff.2 h)

/-- **One written form.** A destination is written exactly if it is an address or a domain name of 1 to
255 bytes, and then read as it was. Bytes are read as a destination exactly if they are what is
written for it; so no destination has two forms, and no form that is cut short is one. All other
bytes are refused for what is wrong with them: nothing there, an unknown type of address, an address
or a name cut short, an empty name, a name that is no text, or bytes left over. -/
theorem one_written_form :
    (∀ d : Destination, (∃ b, d.encode = .ok b) ↔ d.Writable) ∧
    (∀ d : Destination, d.Writable → ∃ b, d.encode = .ok b ∧ decode b = .ok d) ∧
    (∀ b (d : Destination), decode b = .ok d ↔ d.encode = .ok b) ∧
    (∀ d b b', decode b = .ok d → decode b' = .ok d → b = b') ∧
    (∀ (d : Destination) b p, d.encode = .ok b → p <+: b → p ≠ b → ∃ e, decode p = .error e) ∧
    ∀ b e, decode b = .error e ↔ Misread b e := by
  refine ⟨fun d => exists_encode_iff, fun d hd => ?_, fun b d => decode_iff_encode,
    fun d b b' h h' => ?_, fun d b p h => decode_of_isPrefix (encode_eq_ok_iff.1 h),
    fun b e => decode_eq_error_iff⟩
  · obtain ⟨b, hb⟩ := exists_encode_iff.2 hd
    exact ⟨b, hb, decode_encode hb⟩
  · have hb := decode_iff_encode.1 h
    exact Except.ok.inj (hb.symm.trans (decode_iff_encode.1 h'))

end SealedRelay.Destination
