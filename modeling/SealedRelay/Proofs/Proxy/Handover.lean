import SealedRelay.Proofs.Proxy.RequestHead
import SealedRelay.Proofs.Proxy.Socks5
import SealedRelay.Proxy.FrontEnd

/-!
# What a handshake hands over

A front end reads ahead of what it needs, and how far depends on how the bytes arrive. What a client says
is for the destination from some point on: behind the request of a SOCKS5 client, behind the head that
asks for a tunnel, and from the first byte of a request that is forwarded. However far was read ahead,
what goes first and what is still to be read begin there together.

Results:
* `handshake_http`: an HTTP handshake that succeeds is a request that was read, and nothing more.
* `handshake_skips`: what the handshake leaves of the client's bytes.
-/
namespace SealedRelay.Proxy

open Talk

/-- When a client says `stream` and that is taken for `request`, `due` is what goes to the destination. -/
inductive Owed (stream : Bytes) : FrontEnd → RelayRequest → (due : Bytes) → Prop where
  | socks5 {auth : Option Credentials} {d : Destination} {b said due replay : Bytes}
      (asks : Socks5.Asks auth d b said) (all : stream = said ++ due) :
      Owed stream (.socks5 auth) ⟨d, .socks5, replay⟩ due
  | tunnel {d : Destination} {e : Nat} {method version : String} {replay : Bytes}
      (ends : Http.HeadEnds stream e)
      (head : Http.parseHead (stream.take e) = .ok ⟨method, version, .tunnel d⟩) :
      Owed stream .http ⟨d, .tunnel version, replay⟩ (stream.drop e)
  | forward {d : Destination} {e : Nat} {method version : String} {replay : Bytes}
      (ends : Http.HeadEnds stream e)
      (head : Http.parseHead (stream.take e) = .ok ⟨method, version, .forward d⟩) :
      Owed stream .http ⟨d, .forward version, replay⟩ stream

/-- The first `k` bytes that the client says are the handshake's, whatever it says later. The rest of what
it has said is to be sent first, or is `unread`. -/
structure Skips (fe : FrontEnd) (request : RelayRequest) (said unread : Bytes) (k : Nat) : Prop where
  inside : k ≤ said.length
  rest : request.replay ++ unread = said.drop k
  owed : ∀ later due, Owed (said ++ later) fe request due ↔ due = (said ++ later).drop k

variable {request : RelayRequest} {said unread : Bytes}

namespace FrontEnd

/-! ## SOCKS5 -/

theorem accepts_handshake (auth : Option Credentials) :
    Accepts (socks5 auth).handshake
      (((Socks5.greeting auth).andThen fun _ => Socks5.request).andThen fun d =>
        Dialogue.done (.relay ⟨d, .socks5, []⟩)) :=
  (Socks5.accepts_accept auth).bind fun _ => accepts_pure _

/-- Two requests that the same bytes begin with leave the same rest. -/
theorem asks_unique {auth : Option Credentials} {d d' : Destination} {b b' said said' rest rest' : Bytes}
    (h : Socks5.Asks auth d b said) (h' : Socks5.Asks auth d' b' said')
    (heq : said ++ rest = said' ++ rest') : rest = rest' := by
  have hgot (l : Bytes) : [l].flatten = l := List.flatten_singleton
  have hrest := (Socks5.accept_exact auth [said ++ rest] false).2 d b said rest h (hgot _)
  have hrest' := (Socks5.accept_exact auth [said ++ rest] false).2 d' b' said' rest' h'
    ((hgot _).trans heq)
  exact hrest.2.1.symm.trans hrest'.2.1

theorem skips_socks5 {auth : Option Credentials} {arrivals : List Bytes} {ended : Bool}
    (h : ((socks5 auth).handshake.run.attend arrivals ended).1.result? = some (.ok (.relay request))) :
    ∃ k, Skips (socks5 auth) request arrivals.flatten
      ((socks5 auth).handshake.run.attend arrivals ended).2.unread k := by
  obtain ⟨_, answer, hdialogue, rest, hall⟩ := (accepts_handshake auth).result?_attend.1 h
  have hunread := ((accepts_handshake auth).attend hdialogue hall.symm ended).2.1
  obtain ⟨d, said, _, _, _, hgreeting, ⟨hrequest, rfl, rfl⟩, rfl, rfl⟩ := hdialogue
  cases hrequest
  obtain ⟨⟨b, hasks⟩, -⟩ := Socks5.greeting_andThen_request.1 hgreeting
  rw [List.append_nil] at hall
  refine ⟨said.length, ?_, ?_, fun later due => ?_⟩
  · rw [← hall, List.length_append]
    exact Nat.le_add_right _ _
  · rw [hunread, ← hall, List.drop_left]
    rfl
  · rw [← hall, List.append_assoc, List.drop_left]
    constructor
    · intro howed
      cases howed with
      | socks5 hasks' hall' => exact (asks_unique hasks hasks' hall').symm
    · rintro rfl
      exact .socks5 hasks rfl

/-! ## HTTP -/

/-- What is left to do when a request has been read or not. -/
def conclude : Except Error Http.Request → Exchange ClientRequest
  | .ok r => return ofHttp r
  | .error (.protocol detail) => do
    discard <| ExceptT.lift (Http.sendStatus "HTTP/1.1" 400 "Bad Request").run
    throw (.protocol detail)
  | .error e => throw e

theorem handshake_http_eq : http.handshake.run =
    (Http.receiveRequest.run.bind fun r => .done (.ok r)).bind (ExceptT.bindCont conclude) :=
  rfl

theorem conclude_eq_ok {r : Except Error Http.Request} {c : Channel} {x : ClientRequest}
    (h : ((conclude r).run.run c).1.result? = some (.ok x)) :
    ∃ request, r = .ok request ∧ x = ofHttp request ∧ ((conclude r).run.run c).2 = c := by
  rcases r with e | request
  · cases e with
    | protocol => cases h
    | _ => cases h
  · have hx : Except.ok (ofHttp request) = Except.ok x := Option.some.inj h
    exact ⟨request, rfl, (Except.ok.inj hx).symm, rfl⟩

/-- A handshake that succeeds is a request that was read. Nothing else is read or written. -/
theorem handshake_http {c : Channel} {x : ClientRequest}
    (h : (http.handshake.run.run c).1.result? = some (.ok x)) :
    ∃ r, (Http.receiveRequest.run.run c).1.result? = some (.ok r) ∧ x = ofHttp r ∧
      (http.handshake.run.run c).2 = (Http.receiveRequest.run.run c).2 := by
  rw [handshake_http_eq, run_bind, run_bind] at h ⊢
  cases hread : (Http.receiveRequest.run.run c).1.result? with
  | none =>
    rw [hread] at h
    dsimp only at h
    rw [result?_bind hread] at h
    cases (result?_bind (result?_bind hread)).symm.trans h
  | some r =>
    rw [hread] at h
    obtain ⟨request, rfl, rfl, hchannel⟩ := conclude_eq_ok h
    exact ⟨request, rfl, rfl, hchannel⟩

theorem request_read {arrivals : List Bytes} {ended : Bool} {x : ClientRequest}
    (h : (http.handshake.run.attend arrivals ended).1.result? = some (.ok x)) :
    ∃ r : Http.Request, x = ofHttp r ∧ Http.HeadEnds arrivals.flatten r.headLength ∧
      r.headLength ≤ r.buffered.length ∧ Http.parseHead (arrivals.flatten.take r.headLength) = .ok r.line ∧
      r.buffered ++ (http.handshake.run.attend arrivals ended).2.unread = arrivals.flatten ∧
      (http.handshake.run.attend arrivals ended).2.written = [] := by
  rw [attend_eq] at h ⊢
  obtain ⟨r, hresult, rfl, hchannel⟩ := handshake_http h
  obtain ⟨_, left, hhead, hread, hunread, hwritten⟩ := Http.receiveRequest_attend arrivals ended
  rw [attend_eq] at hread hunread hwritten
  rw [hresult] at hread
  rw [hchannel, hunread]
  cases hhead with
  | found all ends inside =>
    obtain ⟨line, hline, rfl⟩ := Http.requested_eq_ok_iff.1 (Option.some.inj hread.symm)
    rw [← List.take_append_of_le_length inside, all] at hline
    exact ⟨_, rfl, ends, inside, hline, all, hwritten⟩
  | tooLong | cutShort | waits => cases hread

theorem skips_http {arrivals : List Bytes} {ended : Bool}
    (h : (http.handshake.run.attend arrivals ended).1.result? = some (.ok (.relay request))) :
    ∃ k, Skips http request arrivals.flatten (http.handshake.run.attend arrivals ended).2.unread k := by
  obtain ⟨⟨⟨method, version, target⟩, buffered, e⟩, hrequest, ends, inside, head, all, -⟩ := request_read h
  generalize (http.handshake.run.attend arrivals ended).2.unread = unread at all ⊢
  generalize arrivals.flatten = said at ends head all ⊢
  have hle : e ≤ said.length := ends.blank.1
  have hends (later : Bytes) : Http.HeadEnds (said ++ later) e := (Http.headEnds_append hle).2 ends
  have hhead (later : Bytes) :
      Http.parseHead ((said ++ later).take e) = .ok ⟨method, version, target⟩ := by
    rw [List.take_append_of_le_length hle]
    exact head
  cases target with
  | tunnel d =>
    cases hrequest
    refine ⟨e, hle, ?_, fun later due => ?_⟩
    · rw [← all, List.drop_append_of_le_length inside]
      rfl
    constructor
    · rintro ⟨⟩
      rename_i ends' _
      rw [ends'.unique (hends later)]
    · rintro rfl
      exact .tunnel (hends later) (hhead later)
  | forward d =>
    cases hrequest
    refine ⟨0, Nat.zero_le _, all, fun later due => ?_⟩
    constructor
    · rintro ⟨⟩
      rfl
    · rintro rfl
      exact .forward (hends later) (hhead later)
  | own => cases hrequest

/-- What the handshake leaves. -/
theorem handshake_skips {fe : FrontEnd} {arrivals : List Bytes} {ended : Bool}
    (h : (fe.handshake.run.attend arrivals ended).1.result? = some (.ok (.relay request))) :
    ∃ k, Skips fe request arrivals.flatten (fe.handshake.run.attend arrivals ended).2.unread k := by
  cases fe with
  | socks5 auth => exact skips_socks5 h
  | http => exact skips_http h

end FrontEnd

end SealedRelay.Proxy
