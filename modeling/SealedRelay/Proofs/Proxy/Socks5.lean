import SealedRelay.Proofs.Payload.Destination
import SealedRelay.Proofs.Talk.Acceptance
import SealedRelay.Proxy.Socks5

/-!
# What a SOCKS5 client has to say

The exchange with a SOCKS5 client comes to a destination exactly if the client says what it should, in
whatever pieces that arrives and whatever comes behind it. Two readers of addresses meet here: this
exchange and the one of the payloads that open streams. They accept the same addresses.

Results:
* `accepts_receiveDestination`: the two readers of addresses agree.
* `accepts_accept`: what the whole exchange accepts, step by step.
* `accept_exact`: the same in terms of bytes, for any arrival.
-/
namespace SealedRelay.Proxy

open Talk

theorem Exchange.accepts_receive (n : Nat) : Accepts (receive n) (Dialogue.bytes n) where
  takes := by
    rintro _ said _ ⟨rfl, rfl, rfl⟩ rest ended
    have hread := hears_recvExactly said.length [] (said ++ rest) ended
    rw [if_pos (by simp), List.take_left, List.drop_left] at hread
    exact hread.bind (hears_done _ rest ended)
  refuses got ended hnone := by
    have hshort : ¬ n ≤ got.length := fun hn =>
      hnone (got.take n) _ _ ⟨List.length_take_of_le hn, rfl, rfl⟩ (List.take_prefix n got)
    have hread := hears_recvExactly n [] got ended
    rw [if_neg hshort] at hread
    cases ended with
    | false => exact ⟨none, _, _, hread.bind_none, nofun⟩
    | true => exact ⟨some (.error (.io .earlyEnd)), _, _, hread.bind (hears_done _ _ _), nofun⟩

theorem Exchange.accepts_transmit (b : Bytes) : Accepts (transmit b) (Dialogue.answered b) where
  takes := by
    rintro _ _ answer ⟨rfl, rfl⟩ rest ended
    refine hears_send ?_ answer rest ended
    rfl
  refuses got ended hnone := absurd List.nil_prefix (hnone () [] b ⟨rfl, rfl⟩)

end SealedRelay.Proxy

namespace SealedRelay.Proxy.Socks5

open Talk Exchange Bytes

/-! ## Strings and credentials -/

/-- A string after one byte for its length. -/
def short : Dialogue Bytes := fun b said answer =>
  ∃ n : UInt8, n.toNat = b.length ∧ said = n :: b ∧ answer = []

theorem accepts_receiveShort : Accepts receiveShort short := by
  refine ((accepts_receive 1).bind fun length => accepts_receive _).congr fun b said answer => ?_
  rw [Dialogue.bytes_andThen]
  constructor
  · rintro ⟨header, _, hone, rfl, hlen, rfl, rfl⟩
    obtain ⟨n, rfl⟩ := List.length_eq_one_iff.1 hone
    exact ⟨n, hlen.symm, rfl, rfl⟩
  · rintro ⟨n, hn, rfl, rfl⟩
    exact ⟨[n], b, rfl, rfl, hn.symm, rfl, rfl⟩

theorem short_andThen {β : Type} {E : Bytes → Dialogue β} {b : β} {said answer : Bytes} :
    short.andThen E b said answer ↔
      ∃ (n : UInt8) (a s : Bytes), n.toNat = a.length ∧ said = n :: a ++ s ∧ E a b s answer := by
  constructor
  · rintro ⟨a, _, s, _, w, ⟨n, hn, rfl, rfl⟩, hrest, rfl, rfl⟩
    exact ⟨n, a, s, hn, rfl, hrest⟩
  · rintro ⟨n, a, s, hn, rfl, hrest⟩
    exact ⟨a, n :: a, s, [], answer, ⟨n, hn, rfl, rfl⟩, hrest, rfl, rfl⟩

/-- The end of the authentication, when the server has been told a username and a password. -/
def judge (c : Credentials) (username password : Bytes) : Exchange Unit := do
  let genuine := username = ofText c.username ∧ password = ofText c.password
  transmit [authVersion, if genuine then 0 else 1]
  if ¬ genuine then throw .authFailed

theorem accepts_judge (c : Credentials) (username password : Bytes) :
    Accepts (judge c username password) fun _ said answer =>
      (username = ofText c.username ∧ password = ofText c.password) ∧ said = [] ∧
        answer = [authVersion, 0] := by
  by_cases h : username = ofText c.username ∧ password = ofText c.password
  · have heq : judge c username password = (transmit [authVersion, 0] >>= fun _ => pure ()) := by
      simp only [judge, h]
      rfl
    rw [heq]
    refine ((accepts_transmit _).bind fun _ => accepts_pure ()).congr fun _ said answer => ?_
    rw [Dialogue.answered_andThen]
    constructor
    · rintro ⟨_, rfl, -, rfl, rfl⟩
      exact ⟨h, rfl, rfl⟩
    · rintro ⟨-, rfl, rfl⟩
      exact ⟨[], rfl, rfl, rfl, rfl⟩
  · have heq : judge c username password =
        (transmit [authVersion, 1] >>= fun _ => throw .authFailed) := by
      simp only [judge, h]
      rfl
    rw [heq]
    exact ((accepts_transmit _).bind_never fun _ => accepts_throw _).congr fun _ _ _ =>
      ⟨False.elim, fun hgenuine => h hgenuine.1⟩

/-- Authentication as the client has to do it: not at all, or with the credentials. -/
inductive Login : Option Credentials → Bytes → Prop
  | unasked : Login none []
  | asked {c : Credentials} {i j : UInt8} (username : i.toNat = (ofText c.username).length)
      (password : j.toNat = (ofText c.password).length) :
    Login (some c) (1 :: i :: ofText c.username ++ j :: ofText c.password)

/-- The answer to the right credentials, if there have to be any. -/
def consent (auth : Option Credentials) : Bytes := if auth.isSome then [1, 0] else []

theorem accepts_authenticate (c : Credentials) :
    Accepts (authenticate c) fun _ said answer =>
      Login (some c) said ∧ answer = consent (some c) := by
  -- once both strings have been read, `judge` is what is left of the exchange
  have hstrings : Accepts
      (receiveShort >>= fun username => receiveShort >>= fun password => judge c username password) _ :=
    accepts_receiveShort.bind fun username => accepts_receiveShort.bind fun password =>
      accepts_judge c username password
  refine ((accepts_receive 1).bind fun header =>
    (accepts_throw _).never_bind.ite fun _ => hstrings).congr fun _ said answer => ?_
  simp only [Dialogue.bytes_andThen, short_andThen, not_not]
  constructor
  · rintro ⟨_, _, -, rfl, rfl, i, username, _, hi, rfl, j, password, _, hj, rfl, genuine, rfl, rfl⟩
    obtain ⟨rfl, rfl⟩ := genuine
    rw [List.append_nil]
    exact ⟨.asked hi hj, rfl⟩
  · rintro ⟨hlogin, rfl⟩
    cases hlogin with
    | asked hi hj =>
      rename_i i j
      refine ⟨[1], _, rfl, rfl, rfl, ?_⟩
      refine ⟨i, ofText c.username, _, hi, rfl, ?_⟩
      refine ⟨j, ofText c.password, [], hj, (List.append_nil _).symm, ?_⟩
      exact ⟨⟨rfl, rfl⟩, rfl, rfl⟩

/-! ## The choice of a method -/

def method (auth : Option Credentials) : UInt8 := if auth.isSome then 2 else 0

/-- The offer of the right method among others, and the authentication. -/
def greeting (auth : Option Credentials) : Dialogue Unit := fun _ said answer =>
  ∃ (n : UInt8) (methods login : Bytes), n.toNat = methods.length ∧ method auth ∈ methods ∧
    Login auth login ∧ said = 5 :: n :: methods ++ login ∧ answer = [5, method auth] ++ consent auth

theorem accepts_login (auth : Option Credentials) :
    Accepts (match auth with
      | none => pure ()
      | some c => authenticate c) fun _ said answer => Login auth said ∧ answer = consent auth := by
  cases auth with
  | none =>
    refine (accepts_pure ()).congr fun _ said answer => ?_
    constructor
    · rintro ⟨-, rfl, rfl⟩
      exact ⟨.unasked, rfl⟩
    · rintro ⟨⟨⟩, rfl⟩
      exact ⟨rfl, rfl, rfl⟩
  | some c => exact accepts_authenticate c

/-- The answer to the methods that a client offers, and authentication. -/
def choose (auth : Option Credentials) (methods : Bytes) : Exchange Unit := do
  if ¬ methods.contains (method auth) then
    transmit [version, noneAcceptable]
    throw .unsupportedAuth
  transmit [version, method auth]
  match auth with
  | none => pure ()
  | some c => authenticate c

theorem accepts_choose (auth : Option Credentials) (methods : Bytes) :
    Accepts (choose auth methods) fun _ said answer =>
      method auth ∈ methods ∧ Login auth said ∧ answer = [5, method auth] ++ consent auth := by
  have hanswer := (accepts_transmit [version, method auth]).bind fun _ => accepts_login auth
  refine (Accepts.ite ((accepts_transmit _).bind_never fun _ => (accepts_throw _).never_bind)
    fun _ => hanswer).congr fun _ said answer => ?_
  rw [Dialogue.answered_andThen, not_not, List.contains_iff_mem]
  constructor
  · rintro ⟨hmem, _, rfl, hlogin, rfl⟩
    exact ⟨hmem, hlogin, rfl⟩
  · rintro ⟨hmem, hlogin, rfl⟩
    exact ⟨hmem, consent auth, rfl, hlogin, rfl⟩

theorem accepts_negotiate (auth : Option Credentials) : Accepts (negotiate auth) (greeting auth) := by
  refine ((accepts_receive 2).bind fun header => (accepts_throw _).never_bind.ite fun _ =>
    (accepts_receive _).bind fun methods => accepts_choose auth methods).congr fun _ said answer => ?_
  simp only [Dialogue.bytes_andThen, not_not]
  constructor
  · rintro ⟨header, _, htwo, rfl, hversion, methods, login, hn, rfl, hmem, hlogin, rfl⟩
    obtain ⟨v, n, rfl⟩ := List.length_eq_two.1 htwo
    obtain rfl : v = version := hversion
    exact ⟨n, methods, login, hn.symm, hmem, hlogin, rfl, rfl⟩
  · rintro ⟨n, methods, login, hn, hmem, hlogin, rfl, rfl⟩
    exact ⟨[5, n], methods ++ login, rfl, rfl, rfl, methods, login, hn.symm, rfl, hmem, hlogin, rfl⟩

/-! ## The request -/

theorem accepts_refuse {α : Type} (code : UInt8) (e : Error) :
    Accepts (refuse code e : Exchange α) Dialogue.never :=
  (accepts_transmit (replyBytes code)).bind_never fun _ => accepts_throw e

/-- The address behind its type, as a payload that opens a stream has it. -/
def address (type : UInt8) : Dialogue Destination := fun d said answer =>
  Destination.Written d (type :: said) ∧ answer = []

theorem octets_left {n : Nat} {b : Bytes} (h : b.length = n) (rest : Bytes) :
    octets n (b ++ rest) = b := by
  refine List.ext_getElem ((length_octets ..).trans h.symm) fun i hi hb => ?_
  have hlt : i < (b ++ rest).length := by
    rw [List.length_append]
    omega
  have happend : (b ++ rest)[i] = b[i] := List.getElem_append_left hb
  rw [← happend]
  simp [octets, List.getElem?_eq_getElem hlt]

theorem octets_append_port {n : Nat} {b : Bytes} (h : b.length = n + 2) :
    octets n b ++ ofUInt16 (toUInt16 (b.drop n)) = b := by
  have hocts : octets n b = b.take n := by
    have hlen : (b.take n).length = n := List.length_take_of_le (by omega)
    have hleft := octets_left hlen (b.drop n)
    rwa [List.take_append_drop] at hleft
  have hport : (b.drop n).length = 2 := by
    rw [List.length_drop]
    omega
  rw [hocts, ofUInt16_toUInt16 hport, List.take_append_drop]

theorem written_ipv4_iff {d : Destination} {b : Bytes} :
    Destination.Written d (ipv4Type :: b) ↔
      b.length = 6 ∧ d = .ip ⟨.v4 ⟨octets 4 b, length_octets ..⟩, toUInt16 (b.drop 4)⟩ := by
  constructor
  · intro h
    obtain ⟨a, port, rfl, rfl⟩ := h.of_ipv4
    refine ⟨by simp [a.size], ?_⟩
    simp only [octets_left a.size, List.drop_left' a.size, toUInt16_ofUInt16]
  · rintro ⟨hlen, rfl⟩
    have hwritten := Destination.Written.ipv4 ⟨octets 4 b, length_octets ..⟩ (toUInt16 (b.drop 4))
    rwa [List.cons_append, octets_append_port hlen] at hwritten

theorem written_ipv6_iff {d : Destination} {b : Bytes} :
    Destination.Written d (ipv6Type :: b) ↔
      b.length = 18 ∧ d = .ip ⟨.v6 ⟨octets 16 b, length_octets ..⟩, toUInt16 (b.drop 16)⟩ := by
  constructor
  · intro h
    obtain ⟨a, port, rfl, rfl⟩ := h.of_ipv6
    refine ⟨by simp [a.size], ?_⟩
    simp only [octets_left a.size, List.drop_left' a.size, toUInt16_ofUInt16]
  · rintro ⟨hlen, rfl⟩
    have hwritten := Destination.Written.ipv6 ⟨octets 16 b, length_octets ..⟩ (toUInt16 (b.drop 16))
    rwa [List.cons_append, octets_append_port hlen] at hwritten

theorem accepts_endpoint {type : UInt8} {n : Nat} {f : Bytes → Destination}
    (hf : ∀ d b, Destination.Written d (type :: b) ↔ b.length = n ∧ d = f b) :
    Accepts (receive n >>= fun b => pure (f b)) (address type) := by
  refine ((accepts_receive n).bind fun b => accepts_pure (f b)).congr fun d said answer => ?_
  rw [Dialogue.bytes_andThen, address, hf]
  constructor
  · rintro ⟨b, _, hlen, rfl, rfl, rfl, rfl⟩
    rw [List.append_nil]
    exact ⟨⟨hlen, rfl⟩, rfl⟩
  · rintro ⟨⟨hlen, rfl⟩, rfl⟩
    exact ⟨said, [], hlen, (List.append_nil _).symm, rfl, rfl, rfl⟩

theorem accepts_name (name port : Bytes) :
    Accepts (match toText? name with
      | none => refuse generalFailure (.protocol "domain is not utf-8")
      | some text =>
        if text.isEmpty then refuse generalFailure (.protocol "empty domain")
        else pure (.domain text (toUInt16 port)) : Exchange Destination) fun d said answer =>
          ∃ text, toText? name = some text ∧ ¬ text.isEmpty ∧ d = .domain text (toUInt16 port) ∧
            said = [] ∧ answer = [] := by
  cases htext : toText? name with
  | none => exact (accepts_refuse _ _).congr fun _ _ _ => ⟨False.elim, nofun⟩
  | some text =>
    refine (Accepts.ite (accepts_refuse _ _) fun _ => accepts_pure _).congr fun d said answer => ?_
    constructor
    · exact fun h => ⟨text, rfl, h⟩
    · rintro ⟨_, ⟨⟩, h⟩
      exact h

theorem accepts_domain :
    Accepts (do
      let name ← receiveShort
      let port ← receive 2
      match toText? name with
      | none => refuse generalFailure (.protocol "domain is not utf-8")
      | some text =>
        if text.isEmpty then refuse generalFailure (.protocol "empty domain")
        else pure (.domain text (toUInt16 port))) (address domainType) := by
  refine (accepts_receiveShort.bind fun name => (accepts_receive 2).bind fun port =>
    accepts_name name port).congr fun d said answer => ?_
  simp only [short_andThen, Dialogue.bytes_andThen]
  constructor
  · rintro ⟨n, name, _, hn, rfl, port, _, hport, rfl, text, htext, hne, rfl, rfl, rfl⟩
    rw [← ofText_of_toText? htext] at hn ⊢
    have hpos : n.toNat ≠ 0 := hn.trans_ne (mt isEmpty_iff_length_ofText.2 hne)
    have hwritten := Destination.Written.domain hn hpos (toUInt16 port)
    rw [ofUInt16_toUInt16 hport] at hwritten
    rw [List.append_nil]
    exact ⟨hwritten, rfl⟩
  · rintro ⟨hd, rfl⟩
    cases hd with
    | domain hn hpos port =>
      rename_i text n
      have hne : ¬ text.isEmpty := fun h => hpos (hn.trans (isEmpty_iff_length_ofText.1 h))
      refine ⟨n, ofText text, ofUInt16 port, hn, rfl, ?_⟩
      refine ⟨ofUInt16 port, [], length_ofUInt16 port, (List.append_nil _).symm, ?_⟩
      exact ⟨text, toText?_ofText text, hne, by rw [toUInt16_ofUInt16], rfl, rfl⟩

/-- The two readers of addresses agree. -/
theorem accepts_receiveDestination (type : UInt8) : Accepts (receiveDestination type) (address type) := by
  unfold receiveDestination
  split
  · rename_i htype
    exact htype ▸ accepts_endpoint fun d b => written_ipv4_iff
  split
  · rename_i htype
    exact htype ▸ accepts_endpoint fun d b => written_ipv6_iff
  split
  · rename_i htype
    exact htype ▸ accepts_domain
  · rename_i hipv4 hipv6 hdomain
    refine (accepts_refuse _ _).congr fun d said answer => ⟨False.elim, fun hd => ?_⟩
    cases hd.1 with
    | ipv4 => exact hipv4 rfl
    | ipv6 => exact hipv6 rfl
    | domain => exact hdomain rfl

/-- The request to connect to a destination. -/
def request : Dialogue Destination := fun d said answer =>
  ∃ (r : UInt8) (b : Bytes), Destination.Written d b ∧ said = 5 :: 1 :: r :: b ∧ answer = []

theorem accepts_receiveRequest : Accepts receiveRequest request := by
  refine ((accepts_receive 4).bind fun header => (accepts_refuse _ _).ite fun _ =>
    (accepts_refuse _ _).ite fun _ => accepts_receiveDestination _).congr fun d said answer => ?_
  simp only [Dialogue.bytes_andThen, not_not]
  constructor
  · rintro ⟨header, body, hfour, rfl, hversion, hcommand, hd, rfl⟩
    obtain ⟨v, c, r, type, rfl⟩ : ∃ v c r type, header = [v, c, r, type] :=
      match header, hfour with
      | [v, c, r, type], _ => ⟨v, c, r, type, rfl⟩
    obtain rfl : v = version := hversion
    obtain rfl : c = connectCommand := hcommand
    exact ⟨r, type :: body, hd, rfl, rfl⟩
  · rintro ⟨r, b, hd, rfl, rfl⟩
    obtain ⟨type, body, rfl⟩ := hd.exists_cons
    exact ⟨[5, 1, r, type], body, rfl, rfl, rfl, rfl, hd, rfl⟩

theorem accepts_accept (auth : Option Credentials) :
    Accepts (accept auth) ((greeting auth).andThen fun _ => request) :=
  (accepts_negotiate auth).bind fun _ => accepts_receiveRequest

/-! ## In bytes -/

/-- `said` asks for `d`, which stands in it as `b`: the offer of the right method, the credentials if
there are any, and the command to connect. -/
inductive Asks (auth : Option Credentials) (d : Destination) (b : Bytes) : (said : Bytes) → Prop
  | intro {n r : UInt8} {methods login : Bytes} (count : n.toNat = methods.length)
      (offers : method auth ∈ methods) (authentic : Login auth login)
      (decodes : Destination.decode b = .ok d) :
    Asks auth d b ([5, n] ++ methods ++ login ++ [5, 1, r] ++ b)

theorem greeting_andThen_request {auth : Option Credentials} {d : Destination} {said answer : Bytes} :
    ((greeting auth).andThen fun _ => request) d said answer ↔
      (∃ b, Asks auth d b said) ∧ answer = [5, method auth] ++ consent auth := by
  constructor
  · rintro ⟨_, _, _, _, _, ⟨n, methods, login, hn, hmem, hlogin, rfl, rfl⟩, ⟨r, b, hd, rfl, rfl⟩, rfl, rfl⟩
    have hasks : Asks auth d b ([5, n] ++ methods ++ login ++ [5, 1, r] ++ b) :=
      ⟨hn, hmem, hlogin, Destination.decode_eq_ok_iff.2 hd⟩
    rw [List.append_assoc _ [5, 1, r] b] at hasks
    exact ⟨⟨b, hasks⟩, List.append_nil _⟩
  · rintro ⟨⟨b, hn, hmem, hlogin, hd⟩, rfl⟩
    exact ⟨(), _, _, _, [], ⟨_, _, _, hn, hmem, hlogin, rfl, rfl⟩,
      ⟨_, b, Destination.decode_eq_ok_iff.1 hd, rfl, rfl⟩, List.append_assoc .., (List.append_nil _).symm⟩

/-- **What a SOCKS5 client has to say.** Whatever pieces the bytes arrive in, the exchange comes to a
destination exactly if they begin with what asks for it. Then the address stands there as the destination
is written, what comes behind is still to be read, and the answer is the method, with the consent to the
credentials if there are any. -/
theorem accept_exact (auth : Option Credentials) (arrivals : List Bytes) (ended : Bool) :
    let z := (accept auth).run.attend arrivals ended
    (∀ d, z.1.result? = some (.ok d) ↔
      ∃ b said rest, Asks auth d b said ∧ arrivals.flatten = said ++ rest) ∧
    ∀ d b said rest, Asks auth d b said → arrivals.flatten = said ++ rest →
      d.encode = .ok b ∧ z.2.unread = rest ∧
        z.2.written = [5, method auth] ++ consent auth := by
  refine ⟨fun d => (accepts_accept auth).result?_attend.trans ?_, fun d b said rest hasks hgot => ?_⟩
  · simp only [greeting_andThen_request]
    constructor
    · rintro ⟨said, _, ⟨⟨b, hasks⟩, -⟩, rest, hgot⟩
      exact ⟨b, said, rest, hasks, hgot.symm⟩
    · rintro ⟨b, said, rest, hasks, hgot⟩
      exact ⟨said, _, ⟨⟨b, hasks⟩, rfl⟩, rest, hgot.symm⟩
  · have hend := (accepts_accept auth).attend (greeting_andThen_request.2 ⟨⟨b, hasks⟩, rfl⟩) hgot ended
    have hd : Destination.decode b = .ok d := by
      cases hasks with
      | intro _ _ _ decodes => exact decodes
    exact ⟨Destination.decode_iff_encode.1 hd, hend.2⟩

example :
    let z := (accept (some ⟨"u", "pw"⟩)).run.attend
      [[5, 2, 0, 2, 1], [1, 0x75, 2, 0x70, 0x77, 5, 1], [0, 3, 1, 0x61, 0, 80, 7]] false
    z.1.result? = some (.ok (.domain "a" 80)) ∧ z.2.unread = [7] ∧ z.2.written = [5, 2, 1, 0] := by
  decide +kernel

end SealedRelay.Proxy.Socks5
