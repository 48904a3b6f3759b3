import SealedRelay.Proofs.Proxy.Handover
import SealedRelay.Proofs.Talk.Saying

/-!
# What a client is told that is not understood

A handshake can fail at many points, and at each of them the client is owed the failure reply of its
protocol before the connection goes away. An HTTP client is told `400 Bad Request`, once and for all. A
SOCKS5 client is told with the reply that fits how far it has come. The one point at which it is told
nothing is the version of the username and password exchange.

Results:
* `endsIn_accept`: how the exchange with a SOCKS5 client can end, and what has been said then.
* `endsIn_handshake_http`: the same for an HTTP client.
* `failures_are_answered`: what has been written when a handshake fails, and what never is.
-/
namespace SealedRelay.Proxy

open Talk

namespace Exchange

variable {heard data : Bytes} {said : List Bytes}

theorem endsIn_receive {P : Bytes → List Bytes → Except Error Bytes → Prop} {n : Nat}
    (fails : ∀ f b, P (heard ++ b) said (.error (.io f)))
    (gets : ∀ b, b.length = n → P (heard ++ b) said (.ok b)) :
    (receive n).run.EndsIn P heard said :=
  EndsIn.bind (endsIn_recvExactly n [] fails gets)

theorem endsIn_transmit {P : Bytes → List Bytes → Except Error Unit → Prop}
    (fails : ∀ f, P heard (said ++ [data]) (.error (.io f))) (writes : P heard (said ++ [data]) (.ok ())) :
    (transmit data).run.EndsIn P heard said
  | .error f => fails f
  | .ok () => writes

end Exchange

namespace Socks5

open Exchange

/-! ## Replies -/

/-- A reply that tells a client that its stream is open. -/
def Grants (m : Bytes) : Prop := m.length = (replyBytes succeeded).length ∧ m[1]? = some succeeded

instance (m : Bytes) : Decidable (Grants m) := inferInstanceAs (Decidable (_ ∧ _))

/-- A message that tells a client of a failure: no method will do, the credentials are wrong, or the
request is refused. -/
inductive FailureReply : Bytes → Prop
  | method : FailureReply [version, noneAcceptable]
  | login {status : UInt8} (failed : status ≠ 0) : FailureReply [authVersion, status]
  | request {code : UInt8} (failed : code ≠ succeeded) : FailureReply (replyBytes code)

theorem not_grants_pair (v b : UInt8) : ¬ Grants [v, b] :=
  nofun

theorem FailureReply.not_grants {m : Bytes} (h : FailureReply m) : ¬ Grants m := by
  cases h with
  | method => exact not_grants_pair _ _
  | login => exact not_grants_pair _ _
  | request failed => exact fun hgrants => failed (Option.some.inj hgrants.2)

/-! ## How a SOCKS5 exchange ends -/

/-- Credentials are asked for, and what comes in place of them has another version: the one failure that
is not answered. `heard` is what the client has said up to there. -/
inductive Misversioned : Option Credentials → (heard : Bytes) → Prop
  | intro {c : Credentials} {n v : UInt8} {methods : Bytes} (count : n.toNat = methods.length)
      (offers : userPass ∈ methods) (other : v ≠ authVersion) :
      Misversioned (some c) (version :: n :: methods ++ [v])

inductive Fails (auth : Option Credentials) (heard : Bytes) (said : List Bytes) : Error → Prop
  | fault (f : Fault) : Fails auth heard said (.io f)
  | stranger {v : UInt8} {rest : Bytes} (begins : heard = v :: rest) (other : v ≠ version) (e : Error) :
      Fails auth heard said e
  | told {m : Bytes} (last : said.getLast? = some m) (failure : FailureReply m) (e : Error) :
      Fails auth heard said e
  | untold (misversioned : Misversioned auth heard) (all : said = [[version, userPass]]) (e : Error) :
      Fails auth heard said e

/-- Nothing has been granted. -/
def Modest (said : List Bytes) : Prop := ∀ m ∈ said, ¬ Grants m

/-- An exchange has come to an end and granted nothing, and if it has failed, then in one of these ways. -/
structure Settled {α : Type} (auth : Option Credentials) (heard : Bytes) (said : List Bytes)
    (r : Except Error α) : Prop where
  modest : Modest said
  fails : ∀ e, r = .error e → Fails auth heard said e

variable {α β : Type} {auth : Option Credentials} {heard : Bytes} {said : List Bytes}

theorem modest_nil : Modest [] :=
  nofun

theorem Modest.concat {m : Bytes} (h : Modest said) (hm : ¬ Grants m) : Modest (said ++ [m]) :=
  List.forall_mem_append.2 ⟨h, List.forall_mem_singleton.2 hm⟩

theorem Modest.settled_ok (h : Modest said) (a : α) : Settled auth heard said (.ok a) :=
  ⟨h, fun _ he => by cases he⟩

theorem Modest.settled {e : Error} (h : Modest said) (he : Fails auth heard said e) :
    Settled auth heard said (.error e : Except Error α) := by
  refine ⟨h, ?_⟩
  rintro _ ⟨⟩
  exact he

theorem Modest.settled_fault (h : Modest said) (f : Fault) :
    Settled auth heard said (.error (.io f) : Except Error α) :=
  h.settled (.fault f)

theorem Settled.andThen {x : Exchange α} {f : α → Exchange β} (hx : x.run.EndsIn (Settled auth) heard said)
    (hf : ∀ a heard said, Modest said → (f a).run.EndsIn (Settled auth) heard said) :
    (x >>= f).run.EndsIn (Settled auth) heard said := by
  refine EndsIn.andThen (hx.mono fun heard said r hr => ?_)
  cases r with
  | ok a => exact hf a heard said hr.modest
  | error e => exact hr.modest.settled (hr.fails e rfl)

theorem Modest.receive (h : Modest said) (n : Nat) :
    (receive n).run.EndsIn (Settled auth) heard said :=
  endsIn_receive (fun f _ => h.settled_fault f) fun b _ => h.settled_ok b

theorem Modest.receiveShort (h : Modest said) :
    receiveShort.run.EndsIn (Settled auth) heard said :=
  Settled.andThen (h.receive 1) fun _ _ _ h => h.receive _

/-- A failure reply is written, and then the exchange fails. -/
theorem Modest.told {m : Bytes} (h : Modest said) (hm : FailureReply m) (e : Error) :
    (transmit m >>= fun _ => (throw e : Exchange α)).run.EndsIn (Settled auth) heard said := by
  have hsaid : Modest (said ++ [m]) := h.concat hm.not_grants
  exact EndsIn.andThen (endsIn_transmit (fun f => hsaid.settled_fault f)
    (hsaid.settled (.told List.getLast?_concat hm e)))

theorem Modest.refuse {code : UInt8} (h : Modest said) (hcode : code ≠ succeeded) (e : Error) :
    (refuse code e : Exchange α).run.EndsIn (Settled auth) heard said :=
  h.told (.request hcode) e

theorem endsIn_receiveDestination (h : Modest said) (type : UInt8) :
    (receiveDestination type).run.EndsIn (Settled auth) heard said := by
  unfold receiveDestination
  split
  · exact Settled.andThen (h.receive 6) fun _ _ _ h => h.settled_ok _
  split
  · exact Settled.andThen (h.receive 18) fun _ _ _ h => h.settled_ok _
  split
  · refine Settled.andThen h.receiveShort fun name _ _ h =>
      Settled.andThen (h.receive 2) fun port _ _ h => ?_
    split
    · exact h.refuse (by decide) _
    · split
      · exact h.refuse (by decide) _
      · exact h.settled_ok _
  · exact h.refuse (by decide) _

theorem endsIn_receiveRequest (h : Modest said) :
    receiveRequest.run.EndsIn (Settled auth) heard said := by
  refine Settled.andThen (h.receive 4) fun header _ _ h => ?_
  dsimp only
  split
  · exact h.refuse (by decide) _
  split
  · exact h.refuse (by decide) _
  · exact endsIn_receiveDestination h _

theorem endsIn_judge (h : Modest said) (c : Credentials) (username password : Bytes) :
    (judge c username password).run.EndsIn (Settled auth) heard said := by
  unfold judge
  by_cases hgenuine : username = Bytes.ofText c.username ∧ password = Bytes.ofText c.password
  · have hsaid : Modest (said ++ [[authVersion, 0]]) := h.concat (not_grants_pair _ _)
    simp only [hgenuine]
    exact EndsIn.andThen (endsIn_transmit (fun f => hsaid.settled_fault f) (hsaid.settled_ok ()))
  · simp only [hgenuine]
    exact h.told (.login (by decide)) _

/-- Authentication as it follows the choice of its method. -/
theorem endsIn_authenticate {c : Credentials} {n : UInt8} {methods : Bytes}
    (hn : n.toNat = methods.length) (hmem : userPass ∈ methods) :
    (authenticate c).run.EndsIn (Settled (some c)) (version :: n :: methods)
      [[version, userPass]] := by
  have hsaid : Modest [[version, userPass]] := modest_nil.concat (not_grants_pair _ _)
  refine EndsIn.andThen (endsIn_receive (fun f _ => hsaid.settled_fault f) fun b hb => ?_)
  obtain ⟨v, rfl⟩ := List.length_eq_one_iff.1 hb
  dsimp only
  split
  · rename_i hv
    have hother : v ≠ authVersion := fun h => hv (congrArg (fun v => [v]) h)
    exact hsaid.settled (.untold (.intro hn hmem hother) rfl _)
  · exact Settled.andThen hsaid.receiveShort fun username _ _ h =>
      Settled.andThen h.receiveShort fun password _ _ h => endsIn_judge h c username password

theorem endsIn_choose {n : UInt8} {methods : Bytes} (hn : n.toNat = methods.length) :
    (choose auth methods).run.EndsIn (Settled auth) (version :: n :: methods) [] := by
  have hsaid : Modest [[version, method auth]] := modest_nil.concat (not_grants_pair _ _)
  unfold choose
  dsimp only
  by_cases hmem : methods.contains (method auth)
  · rw [if_neg (not_not.2 hmem)]
    refine EndsIn.andThen (endsIn_transmit (fun f => hsaid.settled_fault f) ?_)
    cases auth with
    | none => exact hsaid.settled_ok ()
    | some c => exact endsIn_authenticate hn (List.contains_iff_mem.1 hmem)
  · rw [if_pos hmem]
    exact modest_nil.told .method .unsupportedAuth

theorem endsIn_negotiate : (negotiate auth).run.EndsIn (Settled auth) [] [] := by
  refine EndsIn.andThen (endsIn_receive (fun f _ => modest_nil.settled_fault f) fun header htwo => ?_)
  obtain ⟨v, n, rfl⟩ := List.length_eq_two.1 htwo
  dsimp only
  split
  · rename_i hv
    exact modest_nil.settled (.stranger rfl hv _)
  · rename_i hv
    obtain rfl : v = version := not_not.1 hv
    exact EndsIn.andThen (endsIn_receive (fun f _ => modest_nil.settled_fault f) fun methods hn =>
      endsIn_choose hn.symm)

/-- How the exchange with a SOCKS5 client can end. -/
theorem endsIn_accept : (accept auth).run.EndsIn (Settled auth) [] [] :=
  Settled.andThen endsIn_negotiate fun _ _ _ h => endsIn_receiveRequest h

end Socks5

namespace Http

/-! ## How an HTTP request ends -/

/-- What can go wrong when a request is read: its head is malformed, or the socket fails. -/
inductive Expected : Error → Prop
  | protocol (detail : String) : Expected (.protocol detail)
  | io (f : Fault) : Expected (.io f)

theorem target_error {method uri : List Char} {e : Error} (h : target method uri = .error e) :
    Expected e := by
  have hparse {s : List Char} {port : Option UInt16} {f : Destination → Target}
      (h : (Authority.parse s port).map f = .error e) : Expected e := by
    unfold Authority.parse at h
    dsimp only at h
    split at h
    · cases h
    · cases h
      exact .protocol _
  unfold target at h
  split at h
  · exact hparse h
  split at h
  · exact hparse h
  split at h
  · cases h
  · cases h
    exact .protocol _

theorem parseHead_error {head : Bytes} {e : Error} (h : parseHead head = .error e) : Expected e := by
  unfold parseHead at h
  split at h
  · cases h
    exact .protocol _
  unfold parseLine at h
  split at h
  · split at h
    · rename_i method uri version _ _
      cases htarget : target method uri with
      | ok => rw [htarget] at h; cases h
      | error e' =>
        rw [htarget] at h
        cases h
        exact target_error htarget
    · cases h
      exact .protocol _
  · cases h
    exact .protocol _

/-- Nothing has been written, and what has failed could be expected to. -/
def Unanswered {α : Type} (_ : Bytes) (said : List Bytes) (r : Except Error α) : Prop :=
  said = [] ∧ ∀ e, r = .error e → Expected e

theorem Expected.unanswered {α : Type} {e : Error} (h : Expected e) (heard : Bytes) :
    Unanswered heard [] (.error e : Except Error α) := by
  refine ⟨rfl, ?_⟩
  rintro _ ⟨⟩
  exact h

theorem endsIn_receiveHead (buffer heard : Bytes) : (receiveHead buffer).EndsIn Unanswered heard [] := by
  induction buffer using receiveHead.induct generalizing heard with
  | case1 buffer n hend =>
    rw [receiveHead_of_some hend]
    exact ⟨rfl, fun _ he => by cases he⟩
  | case2 buffer hend hfull =>
    rw [receiveHead_of_full hend hfull]
    exact (Expected.protocol _).unanswered heard
  | case3 buffer hend hroom ih =>
    rw [receiveHead_of_room hend (Nat.lt_of_not_le hroom)]
    refine ⟨fun f => (Expected.io f).unanswered heard, fun b _ => ?_⟩
    dsimp only
    split
    · exact (Expected.protocol _).unanswered _
    · rename_i hb
      exact ih b hb _

theorem endsIn_receiveRequest : receiveRequest.run.EndsIn Unanswered [] [] := by
  have hbind : receiveRequest.run = (receiveHead []).bind receiveParsed := rfl
  rw [hbind]
  refine EndsIn.bind ((endsIn_receiveHead [] []).mono fun heard said r h => ?_)
  rw [receiveParsed_eq]
  refine ⟨h.1, fun e he => ?_⟩
  rcases r with err | ⟨buffered, n⟩
  · cases he
    exact h.2 _ rfl
  · simp only [requested] at he
    cases hparse : parseHead (buffered.take n) with
    | ok => rw [hparse] at he; cases he
    | error err =>
      rw [hparse] at he
      cases he
      exact parseHead_error hparse

/-- The answer to a request that is malformed. -/
def badRequest : Bytes := Bytes.ofText (statusText "HTTP/1.1" 400 "Bad Request")

end Http

namespace FrontEnd

/-- How the handshake of an HTTP client can end: it fails because the socket does, or the client is told,
or it succeeds and the client is told nothing. -/
inductive Concluded {α : Type} (heard : Bytes) : List Bytes → Except Error α → Prop
  | fault (f : Fault) : Concluded heard [] (.error (.io f))
  | told (e : Error) : Concluded heard [Http.badRequest] (.error e)
  | request (a : α) : Concluded heard [] (.ok a)

theorem endsIn_handshake_http : http.handshake.run.EndsIn Concluded [] [] := by
  rw [handshake_http_eq]
  refine EndsIn.bind (EndsIn.bind (Http.endsIn_receiveRequest.mono fun heard said r h => ?_))
  obtain ⟨rfl, hexpected⟩ := h
  rcases r with e | request
  · cases hexpected e rfl with
    | protocol detail => exact fun r => by cases r <;> exact .told _
    | io f => exact .fault f
  · exact .request _

theorem Concluded.modest {α : Type} {heard : Bytes} {said : List Bytes} {r : Except Error α}
    (h : Concluded heard said r) : Socks5.Modest said := by
  cases h with
  | told => exact Socks5.modest_nil.concat (by decide +kernel)
  | _ => exact Socks5.modest_nil

theorem endsIn_handshake_socks5 (auth : Option Credentials) :
    (socks5 auth).handshake.run.EndsIn (Socks5.Settled auth) [] [] :=
  Socks5.Settled.andThen Socks5.endsIn_accept fun _ _ _ h => h.settled_ok _

/-! ## Both -/

/-- **Who is not understood is told so.** Whatever a client says, and in whatever pieces it arrives, no
handshake tells it that its stream is open; and a handshake that has failed, but not because its socket
did, has told the client. An HTTP client has been told just that its request is bad. The last thing that
a SOCKS5 client has been told is a failure, unless it has sent something of another version in place of
its credentials. Where nothing keeps the messages from being written, they are what has been written. -/
theorem failures_are_answered (fe : FrontEnd) (c : Channel) :
    let z := fe.handshake.run.run c
    let told := fe.handshake.run.told c
    (c.room = none → z.2.written = c.written ++ told.flatten) ∧
    (∀ m ∈ told, ¬ Socks5.Grants m) ∧
    ∀ e, z.1.result? = some (.error e) → (∀ f, e ≠ .io f) →
      match fe with
      | http => told = [Http.badRequest]
      | socks5 auth => c.unread.head? = some Socks5.version →
        (∃ m, told.getLast? = some m ∧ Socks5.FailureReply m) ∨
          ∃ heard, heard <+: c.unread ∧ Socks5.Misversioned auth heard ∧
            told = [[Socks5.version, Socks5.userPass]] := by
  intro z told
  refine ⟨written_told _, ?_, fun e he hio => ?_⟩
  · cases fe with
    | http => exact endsIn_handshake_http.forall_told (fun _ _ _ h => h.modest) c
    | socks5 auth => exact (endsIn_handshake_socks5 auth).forall_told (fun _ _ _ h => h.modest) c
  · cases fe with
    | http =>
      obtain ⟨heard, -, hend⟩ := endsIn_handshake_http.run he
      generalize hsaid : [] ++ http.handshake.run.told c = said at hend
      cases hend with
      | fault f => exact absurd rfl (hio f)
      | told => exact hsaid
    | socks5 auth =>
      intro hversion
      obtain ⟨heard, hunread, hend⟩ := (endsIn_handshake_socks5 auth).run he
      cases hend.fails e rfl with
      | fault f => exact absurd rfl (hio f)
      | stranger begins other =>
        rw [List.nil_append] at begins
        rw [hunread, begins] at hversion
        exact absurd (Option.some.inj hversion) other
      | told last failure => exact .inl ⟨_, last, failure⟩
      | untold misversioned all => exact .inr ⟨heard, ⟨_, hunread.symm⟩, misversioned, all⟩

/-- Credentials that clients must present. -/
def doorman : FrontEnd := socks5 (some ⟨"user", "pass"⟩)

/-- A client that has the wrong password. -/
def guesser : Channel :=
  { pieces := [.ok [5, 1], .ok (2 :: 1 :: 4 :: Bytes.ofText "user" ++ [1, 0x70, 9])], ended := false }

theorem guesser_is_answered :
    guesser.room = none ∧ guesser.unread.head? = some Socks5.version ∧
      (doorman.handshake.run.run guesser).1.result? = some (.error .authFailed) ∧
      (doorman.handshake.run.run guesser).2.written = [5, 2, 1, 1] ∧
      ∃ m, (doorman.handshake.run.told guesser).getLast? = some m ∧ Socks5.FailureReply m := by
  have hfails : (doorman.handshake.run.run guesser).1.result? = some (.error .authFailed) := by
    decide +kernel
  have htold : doorman.handshake.run.told guesser = [[5, 2], [1, 1]] := by decide +kernel
  obtain ⟨hwritten, -, hanswered⟩ := failures_are_answered doorman guesser
  have hlast := (hanswered .authFailed hfails nofun rfl).resolve_right fun ⟨_, _, _, hall⟩ =>
    absurd (htold.symm.trans hall) (by decide)
  rw [htold] at hwritten
  exact ⟨rfl, rfl, hfails, hwritten rfl, hlast⟩

/-- A client that sends its request in place of its credentials. -/
def skipper : Channel := { pieces := [.ok [5, 1, 2, 5, 1, 0, 1, 127, 0, 0, 1, 0, 80]], ended := true }

/-- It is not answered. -/
theorem skipper_is_not_answered :
    skipper.room = none ∧ skipper.unread.head? = some Socks5.version ∧
      (doorman.handshake.run.run skipper).1.result? =
        some (.error (.protocol "bad auth subnegotiation version 5")) ∧
      doorman.handshake.run.told skipper = [[5, 2]] ∧ ¬ Socks5.FailureReply [5, 2] :=
  ⟨rfl, rfl, by decide +kernel, by decide +kernel, nofun⟩

end FrontEnd

end SealedRelay.Proxy
