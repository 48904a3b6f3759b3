import SealedRelay.Handshake
import SealedRelay.Proofs.Talk.Hearing

/-!
# What a handshake accepts

Either side of the handshake is settled by the first bytes that it gets. It believes the other side if
they are a hello and the right proof, whatever pieces they arrive in and whatever comes behind them, and
it tells nothing that the other side has not yet earned.

Results:
* `parseHello_eq_ok_iff`: what a hello is.
* `server_heard`, `client_heard`: all that a side can come to, and what it writes.
* `acceptance_exact`: both in terms of bytes, for any arrival.
-/
namespace SealedRelay.Handshake

open Talk

variable {key : MasterKey} {own got rest : Bytes} {ended : Bool}

/-! ## Steps -/

/-- The failure of a handshake in which the peer leaves. -/
def left : LinkError := .handshakeFailed "connection closed during handshake"

theorem hears_receive {n : Nat} (hn : n ≤ got.length) (ended : Bool) :
    (receive n).run.Hears got ended (some (.ok (got.take n))) (got.drop n) [] := by
  have hread := hears_recvExactly n [] got ended
  rw [if_pos hn] at hread
  exact hread.bind (hears_done _ _ _)

theorem hears_receive_short {n : Nat} (hn : got.length < n) (ended : Bool) :
    (receive n).run.Hears got ended (if ended then some (.error left) else none) [] [] := by
  have hread := hears_recvExactly n [] got ended
  rw [if_neg (Nat.not_le_of_lt hn), List.drop_eq_nil_of_le (Nat.le_of_lt hn)] at hread
  cases ended with
  | false => exact hread.bind_none
  | true => exact hread.bind (hears_done _ _ _)

theorem hears_transmit (b got : Bytes) (ended : Bool) :
    (transmit b).run.Hears got ended (some (.ok ())) got b := by
  refine hears_send ?_ b got ended
  rfl

/-! ## Hellos -/

/-- The bytes begin with a hello with the random `r`, and `rest` comes behind it. -/
structure Greets (got r rest : Bytes) : Prop where
  bytes : got = hello r ++ rest
  random : r.length = randomSize

theorem hello_eq (r : Bytes) : hello r = 0x43 :: 0x52 :: 0x4c :: 0x59 :: version :: r := by
  have hmagic : magic = [0x43, 0x52, 0x4c, 0x59] := by decide +kernel
  rw [hello, hmagic]
  rfl

theorem length_hello {r : Bytes} (h : r.length = randomSize) : (hello r).length = helloSize := by
  rw [hello_eq]
  simp only [List.length_cons, h]
  rfl

theorem Greets.length (h : Greets got own rest) : got.length = helloSize + rest.length := by
  rw [h.bytes, List.length_append, length_hello h.random]

theorem Greets.take (h : Greets got own rest) : got.take helloSize = hello own :=
  h.bytes ▸ List.take_left' (length_hello h.random)

theorem Greets.drop (h : Greets got own rest) : got.drop helloSize = rest :=
  h.bytes ▸ List.drop_left' (length_hello h.random)

/-- As many bytes as a hello has are one exactly if the magic and the version are right. -/
theorem parseHello_eq_ok_iff {b r : Bytes} (hb : b.length = helloSize) :
    parseHello b = .ok r ↔ b = hello r := by
  constructor
  · intro h
    have hlt : 4 < b.length := hb ▸ (by decide)
    have hversion : b.getD 4 0 = b[4] := by simp [hlt]
    unfold parseHello at h
    split at h
    · cases h
    rename_i hm
    split at h
    · cases h
    rename_i hv
    obtain rfl := Except.ok.inj h
    rw [not_not] at hm hv
    calc b = b.take 4 ++ b.drop 4 := (List.take_append_drop 4 b).symm
      _ = b.take 4 ++ b[4] :: b.drop 5 := by rw [List.drop_eq_getElem_cons hlt]
      _ = hello (b.drop 5) := by rw [hm, ← hversion, hv, hello]
  · rintro rfl
    have hmagic : (hello r).take 4 = magic := List.take_left' (by decide +kernel)
    rw [hello_eq] at hmagic ⊢
    simp [parseHello, hmagic]

/-- Bytes that hold a hello begin with one, or it cannot be parsed. -/
theorem greets_or_error (hgot : helloSize ≤ got.length) :
    (∃ r rest, Greets got r rest) ∨ ∃ e, parseHello (got.take helloSize) = .error e := by
  have hlen : (got.take helloSize).length = helloSize := by
    rw [List.length_take]
    omega
  cases hp : parseHello (got.take helloSize) with
  | error e => exact .inr ⟨e, rfl⟩
  | ok r =>
    have htake := (parseHello_eq_ok_iff hlen).1 hp
    refine .inl ⟨r, got.drop helloSize, ?_, ?_⟩
    · rw [← htake, List.take_append_drop]
    · have hsize : helloSize = 5 + randomSize := rfl
      rw [htake, hello_eq] at hlen
      simp only [List.length_cons] at hlen
      omega

theorem Greets.parse (h : Greets got own rest) : parseHello (got.take helloSize) = .ok own := by
  rw [h.take]
  exact (parseHello_eq_ok_iff (length_hello h.random)).2 rfl

/-! ## Proofs -/

theorem hears_verify {label cr sr proof : Bytes} (h : proof = key.proof label cr sr) (got : Bytes)
    (ended : Bool) :
    (checkKey (key.verify label cr sr proof)).run.Hears got ended (some (.ok ())) got [] := by
  rw [MasterKey.verify, if_pos h]
  exact hears_done _ got ended

theorem hears_verify_error {label cr sr proof : Bytes} (h : proof ≠ key.proof label cr sr)
    (got : Bytes) (ended : Bool) :
    (checkKey (key.verify label cr sr proof)).run.Hears got ended
      (some (.error .authenticationFailure)) got [] := by
  rw [MasterKey.verify, if_neg h]
  exact hears_done _ got ended

theorem le_length_of_proof {label cr sr b : Bytes} (h : b.take proofSize = key.proof label cr sr) :
    proofSize ≤ b.length := by
  have hlen := congrArg List.length h
  rw [List.length_take, MasterKey.length_proof] at hlen
  omega

/-! ## The server -/

/-- All that the server can come to, with what it writes. It waits for as long as bytes are missing. -/
inductive ServerHeard (key : MasterKey) (own got : Bytes) (ended : Bool) : Prop where
  /-- There is no hello, or not yet. -/
  | ungreeted {r : Option (Except LinkError Session)} {rest : Bytes}
      (none : ∀ cr rest, ¬ Greets got cr rest) (hears : (server key own).run.Hears got ended r rest [])
      (fails : ∀ s, r ≠ some (.ok s))
      (waits : ended = false → got.length < helloSize → r = .none)
  /-- There is no right proof, or not yet. -/
  | unproved {r : Option (Except LinkError Session)} {cr more rest : Bytes} (greets : Greets got cr more)
      (wrong : more.take proofSize ≠ key.proof clientLabel cr own)
      (hears : (server key own).run.Hears got ended r rest
        (hello own ++ key.proof serverLabel cr own))
      (fails : ∀ s, r ≠ some (.ok s))
      (waits : ended = false → more.length < proofSize → r = .none)
  | proved {cr more : Bytes} (greets : Greets got cr more)
      (right : more.take proofSize = key.proof clientLabel cr own)
      (hears : (server key own).run.Hears got ended
        (some (.ok (Session.new (key.sessionKeys cr own) .server))) (more.drop proofSize)
        (hello own ++ key.proof serverLabel cr own))

/-- What the server still does when it has answered a hello. -/
def believe (key : MasterKey) (own cr : Bytes) : ExceptT LinkError Talk Session := do
  let proof ← receive proofSize
  checkKey (key.verify clientLabel cr own proof)
  return Session.new (key.sessionKeys cr own) .server

theorem server_greeted {cr more w : Bytes} {r : Option (Except LinkError Session)}
    (greets : Greets got cr more) (h : (believe key own cr).run.Hears more ended r rest w) :
    (server key own).run.Hears got ended r rest (hello own ++ key.proof serverLabel cr own ++ w) := by
  have hgot : helloSize ≤ got.length := by
    have := greets.length
    omega
  have hparse : (check (parseHello (got.take helloSize))).run.Hears (got.drop helloSize) ended
      (some (.ok cr)) more [] := by
    rw [greets.parse, greets.drop]
    exact hears_done _ more ended
  have hanswer := hears_transmit (hello own ++ key.proof serverLabel cr own) more ended
  have heq : server key own = (receive helloSize >>= fun b => check (parseHello b) >>= fun cr =>
      transmit (hello own ++ key.proof serverLabel cr own) >>= fun _ => believe key own cr) := rfl
  rw [heq]
  exact (hears_receive hgot ended).bind_ok (hparse.bind_ok (hanswer.bind_ok h))

theorem believe_right {cr more : Bytes} (h : more.take proofSize = key.proof clientLabel cr own)
    (ended : Bool) :
    (believe key own cr).run.Hears more ended
      (some (.ok (Session.new (key.sessionKeys cr own) .server))) (more.drop proofSize) [] := by
  have hmore : proofSize ≤ more.length := le_length_of_proof h
  exact (hears_receive hmore ended).bind_ok
    ((hears_verify h _ ended).bind_ok (hears_pure _ _ ended))

theorem believe_wrong {cr more : Bytes} (h : more.take proofSize ≠ key.proof clientLabel cr own)
    (ended : Bool) :
    ∃ r rest, (believe key own cr).run.Hears more ended r rest [] ∧ (∀ s, r ≠ some (.ok s)) ∧
      (ended = false → more.length < proofSize → r = none) := by
  by_cases hmore : more.length < proofSize
  · obtain ⟨r, hears, fails, waits⟩ :=
      (hears_receive_short hmore ended).bind_stops (by split <;> nofun)
    exact ⟨r, [], hears, fails, fun he _ => waits (by rw [he]; rfl)⟩
  · have hread := hears_receive (Nat.le_of_not_lt hmore) ended
    refine ⟨some (.error .authenticationFailure), more.drop proofSize, ?_, nofun,
      fun _ hlt => absurd hlt hmore⟩
    exact hread.bind_ok (hears_verify_error h _ ended).bind_error

theorem server_heard (key : MasterKey) (own got : Bytes) (ended : Bool) :
    ServerHeard key own got ended := by
  by_cases hgot : got.length < helloSize
  · obtain ⟨r, hears, fails, waits⟩ := (hears_receive_short hgot ended).bind_stops (by split <;> nofun)
    refine .ungreeted (fun cr rest h => ?_) hears fails fun he _ => waits (by rw [he]; rfl)
    have := h.length
    omega
  have hgot : helloSize ≤ got.length := Nat.le_of_not_lt hgot
  rcases greets_or_error hgot with ⟨cr, more, greets⟩ | ⟨e, he⟩
  · by_cases hright : more.take proofSize = key.proof clientLabel cr own
    · have hall := server_greeted greets (believe_right hright ended)
      rw [List.append_nil] at hall
      exact .proved greets hright hall
    · obtain ⟨r, rest, hears, fails, waits⟩ := believe_wrong hright ended
      have hall := server_greeted greets hears
      rw [List.append_nil] at hall
      exact .unproved greets hright hall fails waits
  · have hparse : (check (parseHello (got.take helloSize))).run.Hears (got.drop helloSize) ended
        (some (.error e)) (got.drop helloSize) [] := he ▸ hears_done _ _ ended
    refine .ungreeted (fun cr rest h => ?_) ((hears_receive hgot ended).bind_ok hparse.bind_error)
      nofun fun _ h => absurd h (Nat.not_lt_of_le hgot)
    cases he.symm.trans h.parse

/-! ## The client -/

/-- All that the client can come to, with what it writes. It waits for as long as bytes are missing. -/
inductive ClientHeard (key : MasterKey) (own got : Bytes) (ended : Bool) : Prop where
  /-- There is no hello with the right proof, or not yet. -/
  | unproved {r : Option (Except LinkError Session)} {rest : Bytes}
      (wrong : ∀ sr more, Greets got sr more → more.take proofSize ≠ key.proof serverLabel own sr)
      (hears : (client key own).run.Hears got ended r rest (hello own))
      (fails : ∀ s, r ≠ some (.ok s))
      (waits : ended = false → got.length < helloSize + proofSize → r = none)
  | proved {sr more : Bytes} (greets : Greets got sr more)
      (right : more.take proofSize = key.proof serverLabel own sr)
      (hears : (client key own).run.Hears got ended
        (some (.ok (Session.new (key.sessionKeys own sr) .client))) (more.drop proofSize)
        (hello own ++ key.proof clientLabel own sr))

/-- What the client does with an answer. -/
def consider (key : MasterKey) (own reply : Bytes) : ExceptT LinkError Talk Session := do
  let serverRandom ← check (parseHello (reply.take helloSize))
  checkKey (key.verify serverLabel own serverRandom (reply.drop helloSize))
  transmit (key.proof clientLabel own serverRandom)
  return Session.new (key.sessionKeys own serverRandom) .client

theorem client_answered {w : Bytes} {r : Option (Except LinkError Session)}
    (h : (receive (helloSize + proofSize) >>= consider key own).run.Hears got ended r rest w) :
    (client key own).run.Hears got ended r rest (hello own ++ w) := by
  have heq : client key own = (transmit (hello own) >>= fun _ =>
      receive (helloSize + proofSize) >>= consider key own) := rfl
  rw [heq]
  exact (hears_transmit (hello own) got ended).bind_ok h

theorem take_reply (got : Bytes) :
    (got.take (helloSize + proofSize)).take helloSize = got.take helloSize := by
  rw [List.take_take, Nat.min_eq_left (Nat.le_add_right _ _)]

theorem Greets.drop_reply {sr more : Bytes} (h : Greets got sr more) :
    (got.take (helloSize + proofSize)).drop helloSize = more.take proofSize := by
  rw [List.drop_take, Nat.add_sub_cancel_left, h.drop]

theorem Greets.hears_parse {sr more : Bytes} (h : Greets got sr more) (rest : Bytes) (ended : Bool) :
    (check (parseHello ((got.take (helloSize + proofSize)).take helloSize))).run.Hears rest ended
      (some (.ok sr)) rest [] := by
  rw [take_reply, h.parse]
  exact hears_done _ rest ended

theorem consider_right {sr more : Bytes} (greets : Greets got sr more)
    (h : more.take proofSize = key.proof serverLabel own sr) (rest : Bytes) (ended : Bool) :
    (consider key own (got.take (helloSize + proofSize))).run.Hears rest ended
      (some (.ok (Session.new (key.sessionKeys own sr) .client))) rest
      (key.proof clientLabel own sr) := by
  have hverify := hears_verify (greets.drop_reply.trans h) rest ended
  let s := Session.new (key.sessionKeys own sr) .client
  have hproof := (hears_transmit (key.proof clientLabel own sr) rest ended).bind_ok
    (f := fun _ => pure s) (hears_pure s rest ended)
  rw [List.append_nil] at hproof
  exact (greets.hears_parse rest ended).bind_ok (hverify.bind_ok hproof)

theorem consider_wrong (hgot : helloSize ≤ got.length)
    (h : ∀ sr more, Greets got sr more → more.take proofSize ≠ key.proof serverLabel own sr)
    (rest : Bytes) (ended : Bool) :
    ∃ e, (consider key own (got.take (helloSize + proofSize))).run.Hears rest ended
      (some (.error e)) rest [] := by
  rcases greets_or_error hgot with ⟨sr, more, greets⟩ | ⟨e, he⟩
  · have hwrong : (got.take (helloSize + proofSize)).drop helloSize ≠ key.proof serverLabel own sr :=
      greets.drop_reply ▸ h sr more greets
    exact ⟨_, (greets.hears_parse rest ended).bind_ok (hears_verify_error hwrong rest ended).bind_error⟩
  · have hparse : (check (parseHello ((got.take (helloSize + proofSize)).take helloSize))).run.Hears
        rest ended (some (.error e)) rest [] := by
      rw [take_reply, he]
      exact hears_done _ rest ended
    exact ⟨e, hparse.bind_error⟩

theorem client_heard (key : MasterKey) (own got : Bytes) (ended : Bool) :
    ClientHeard key own got ended := by
  by_cases hgot : got.length < helloSize + proofSize
  · obtain ⟨r, hears, fails, waits⟩ := (hears_receive_short hgot ended).bind_stops
      (f := consider key own) (by split <;> nofun)
    have hall := client_answered hears
    rw [List.append_nil] at hall
    refine .unproved (fun sr more greets h => ?_) hall fails fun he _ => waits (by rw [he]; rfl)
    have hmore := le_length_of_proof h
    have hlen := greets.length
    omega
  have hgot : helloSize + proofSize ≤ got.length := Nat.le_of_not_lt hgot
  have hread := hears_receive hgot ended
  by_cases hright : ∃ sr more, Greets got sr more ∧ more.take proofSize = key.proof serverLabel own sr
  · obtain ⟨sr, more, greets, right⟩ := hright
    have hall := client_answered (hread.bind_ok (consider_right greets right _ ended))
    rw [← List.drop_drop, greets.drop] at hall
    exact .proved greets right hall
  · have hwrong : ∀ sr more, Greets got sr more → more.take proofSize ≠ key.proof serverLabel own sr :=
      fun sr more greets right => hright ⟨sr, more, greets, right⟩
    obtain ⟨e, hconsider⟩ := consider_wrong (Nat.le_of_add_right_le hgot) hwrong _ ended
    have hall := client_answered (hread.bind_ok hconsider)
    rw [List.append_nil, List.append_nil] at hall
    exact .unproved hwrong hall nofun fun _ h => absurd h (Nat.not_lt_of_le hgot)

/-! ## In bytes -/

/-- What comes of a side's handshake if it has come this far when its time is over. -/
def outcome (config : Config) (t : Talk (Except LinkError Session)) : Except LinkError Session :=
  t.result?.getD (.error (timedOut config))

/-- What the server accepts, leaves unread and writes when it has got these bytes. -/
structure ServerExact (key : MasterKey) (own got : Bytes) (outcome : Except LinkError Session)
    (c : Channel) : Prop where
  accepts : ∀ s, outcome = .ok s ↔ ∃ cr rest, cr.length = 32 ∧
    got = Bytes.ofText "CRLY" ++ 1 :: cr ++
      Crypto.mac key.auth (Bytes.ofText "client" ++ cr ++ own) ++ rest ∧
    s = Session.new (key.sessionKeys cr own) .server
  consumes : ∀ s, outcome = .ok s → 69 ≤ got.length ∧ c.unread = got.drop 69
  answers : ∀ cr rest, cr.length = 32 → got = Bytes.ofText "CRLY" ++ 1 :: cr ++ rest →
    c.written = Bytes.ofText "CRLY" ++ 1 :: own ++
      Crypto.mac key.auth (Bytes.ofText "server" ++ cr ++ own)
  silent : (∀ cr rest, cr.length = 32 → got ≠ Bytes.ofText "CRLY" ++ 1 :: cr ++ rest) → c.written = []

/-- What the client accepts, leaves unread and writes when it has got these bytes. -/
structure ClientExact (key : MasterKey) (own got : Bytes) (outcome : Except LinkError Session)
    (c : Channel) : Prop where
  accepts : ∀ s, outcome = .ok s ↔ ∃ sr rest, sr.length = 32 ∧
    got = Bytes.ofText "CRLY" ++ 1 :: sr ++
      Crypto.mac key.auth (Bytes.ofText "server" ++ own ++ sr) ++ rest ∧
    s = Session.new (key.sessionKeys own sr) .client
  consumes : ∀ s, outcome = .ok s → 69 ≤ got.length ∧ c.unread = got.drop 69
  proves : ∀ sr rest, sr.length = 32 →
    got = Bytes.ofText "CRLY" ++ 1 :: sr ++
      Crypto.mac key.auth (Bytes.ofText "server" ++ own ++ sr) ++ rest →
    c.written = Bytes.ofText "CRLY" ++ 1 :: own ++
      Crypto.mac key.auth (Bytes.ofText "client" ++ own ++ sr)
  greets : (∀ sr rest, sr.length = 32 →
    got ≠ Bytes.ofText "CRLY" ++ 1 :: sr ++
      Crypto.mac key.auth (Bytes.ofText "server" ++ own ++ sr) ++ rest) →
    c.written = Bytes.ofText "CRLY" ++ 1 :: own

theorem Greets.unique {r r' more more' : Bytes} (h : Greets got r more) (h' : Greets got r' more') :
    r = r' ∧ more = more' := by
  have hr := Except.ok.inj (h.parse.symm.trans h'.parse)
  exact ⟨hr, h.drop.symm.trans h'.drop⟩

theorem Greets.exists_proof_iff {label cr sr r more : Bytes} (h : Greets got r more) :
    more.take proofSize = key.proof label cr sr ↔
      ∃ rest, got = hello r ++ key.proof label cr sr ++ rest := by
  constructor
  · intro hproof
    refine ⟨more.drop proofSize, ?_⟩
    rw [← hproof, List.append_assoc, List.take_append_drop]
    exact h.bytes
  · rintro ⟨rest, hgot⟩
    have hother : Greets got r (key.proof label cr sr ++ rest) :=
      ⟨hgot.trans (List.append_assoc ..), h.random⟩
    rw [(h.unique hother).2]
    exact List.take_left' (MasterKey.length_proof ..)

/-- What is left behind a hello and a proof is what is left behind so many bytes. -/
theorem Greets.drop_proof {r more : Bytes} (h : Greets got r more)
    (hproof : proofSize ≤ more.length) : 69 ≤ got.length ∧ more.drop proofSize = got.drop 69 := by
  have hsize : helloSize + proofSize = 69 := rfl
  have hlen := h.length
  refine ⟨by omega, ?_⟩
  rw [← hsize, ← List.drop_drop, h.drop]

theorem outcome_ne {t : Talk (Except LinkError Session)} {r : Option (Except LinkError Session)}
    (ht : t.result? = r) (hr : ∀ s, r ≠ some (.ok s)) (config : Config) (s : Session) :
    outcome config t ≠ .ok s := by
  rw [outcome, ht]
  rcases r with _ | ⟨e | s'⟩
  · nofun
  · nofun
  · exact absurd rfl (hr s')

theorem outcome_eq {t : Talk (Except LinkError Session)} {s : Session}
    (ht : t.result? = some (.ok s)) (config : Config) : outcome config t = .ok s := by
  rw [outcome, ht]
  rfl

theorem server_exact (key : MasterKey) (config : Config) (own : Bytes) (arrivals : List Bytes)
    (ended : Bool) :
    let z := (side .server key own).attend arrivals ended
    ServerExact key own arrivals.flatten (outcome config z.1) z.2 := by
  intro z
  have greets {cr rest : Bytes} (hcr : cr.length = 32)
      (hgot : arrivals.flatten = Bytes.ofText "CRLY" ++ 1 :: cr ++ rest) :
      Greets arrivals.flatten cr rest := ⟨hgot, hcr⟩
  cases server_heard key own arrivals.flatten ended with
  | ungreeted none hears fails =>
    obtain ⟨hr, hunread, hwritten⟩ := hears.attend
    have hne := outcome_ne hr fails config
    refine ⟨fun s => iff_of_false (hne s) ?_, fun s h => absurd h (hne s), ?_, fun _ => hwritten⟩
    · rintro ⟨cr, rest, hcr, hgot, -⟩
      exact none cr _ (greets hcr (hgot.trans (List.append_assoc ..)))
    · intro cr rest hcr hgot
      exact absurd (greets hcr hgot) (none cr rest)
  | @unproved r cr more rest hello wrong hears fails =>
    obtain ⟨hr, hunread, hwritten⟩ := hears.attend
    have hne := outcome_ne hr fails config
    refine ⟨fun s => iff_of_false (hne s) ?_, fun s h => absurd h (hne s), ?_, ?_⟩
    · rintro ⟨cr', rest, hcr, hgot, -⟩
      obtain ⟨rfl, -⟩ := hello.unique (greets hcr (hgot.trans (List.append_assoc ..)))
      exact wrong (hello.exists_proof_iff.2 ⟨rest, hgot⟩)
    · intro cr' rest hcr hgot
      obtain ⟨rfl, -⟩ := hello.unique (greets hcr hgot)
      exact hwritten
    · intro h
      exact absurd hello.bytes (h cr more hello.random)
  | @proved cr more hello right hears =>
    obtain ⟨hr, hunread, hwritten⟩ := hears.attend
    have hok := outcome_eq hr config
    refine ⟨fun s => ⟨fun hs => ?_, ?_⟩, fun s _ => ?_, ?_, ?_⟩
    · obtain rfl := Except.ok.inj (hok.symm.trans hs)
      obtain ⟨rest, hgot⟩ := hello.exists_proof_iff.1 right
      exact ⟨cr, rest, hello.random, hgot, rfl⟩
    · rintro ⟨cr', rest, hcr, hgot, rfl⟩
      obtain ⟨rfl, -⟩ := hello.unique (greets hcr (hgot.trans (List.append_assoc ..)))
      exact hok
    · obtain ⟨hlen, hdrop⟩ := hello.drop_proof (le_length_of_proof right)
      exact ⟨hlen, hunread.trans hdrop⟩
    · intro cr' rest hcr hgot
      obtain ⟨rfl, -⟩ := hello.unique (greets hcr hgot)
      exact hwritten
    · intro h
      exact absurd hello.bytes (h cr more hello.random)

theorem client_exact (key : MasterKey) (config : Config) (own : Bytes) (arrivals : List Bytes)
    (ended : Bool) :
    let z := (side .client key own).attend arrivals ended
    ClientExact key own arrivals.flatten (outcome config z.1) z.2 := by
  intro z
  have greets {sr rest : Bytes} (hsr : sr.length = 32)
      (hgot : arrivals.flatten = Bytes.ofText "CRLY" ++ 1 :: sr ++
        Crypto.mac key.auth (Bytes.ofText "server" ++ own ++ sr) ++ rest) :
      Greets arrivals.flatten sr (key.proof serverLabel own sr ++ rest) :=
    ⟨hgot.trans (List.append_assoc ..), hsr⟩
  cases client_heard key own arrivals.flatten ended with
  | unproved wrong hears fails =>
    obtain ⟨hr, hunread, hwritten⟩ := hears.attend
    have hne := outcome_ne hr fails config
    have hnone (sr rest : Bytes) (hsr : sr.length = 32) : arrivals.flatten ≠
        Bytes.ofText "CRLY" ++ 1 :: sr ++
          Crypto.mac key.auth (Bytes.ofText "server" ++ own ++ sr) ++ rest := fun hgot =>
      wrong sr _ (greets hsr hgot) ((greets hsr hgot).exists_proof_iff.2 ⟨rest, hgot⟩)
    refine ⟨fun s => iff_of_false (hne s) ?_, fun s h => absurd h (hne s), ?_, fun _ => hwritten⟩
    · rintro ⟨sr, rest, hsr, hgot, -⟩
      exact hnone sr rest hsr hgot
    · intro sr rest hsr hgot
      exact absurd hgot (hnone sr rest hsr)
  | @proved sr more hello right hears =>
    obtain ⟨hr, hunread, hwritten⟩ := hears.attend
    have hok := outcome_eq hr config
    obtain ⟨rest, hgot⟩ := hello.exists_proof_iff.1 right
    refine ⟨fun s => ⟨fun hs => ?_, ?_⟩, fun s _ => ?_, ?_, ?_⟩
    · obtain rfl := Except.ok.inj (hok.symm.trans hs)
      exact ⟨sr, rest, hello.random, hgot, rfl⟩
    · rintro ⟨sr', rest', hsr, hgot', rfl⟩
      obtain ⟨rfl, -⟩ := hello.unique (greets hsr hgot')
      exact hok
    · obtain ⟨hlen, hdrop⟩ := hello.drop_proof (le_length_of_proof right)
      exact ⟨hlen, hunread.trans hdrop⟩
    · intro sr' rest' hsr hgot'
      obtain ⟨rfl, -⟩ := hello.unique (greets hsr hgot')
      exact hwritten
    · intro h
      exact absurd hgot (h sr rest hello.random)

/-- **Acceptance is exact.** In whatever pieces the bytes arrive, the server succeeds in time if and only
if they begin with a hello and the proof of a client that knows the key and has seen the server's
random; likewise the client. The server writes nothing before it has got a whole hello, and the client
does not prove anything before the server's proof has been checked. Who succeeds has read 69 bytes, and
what comes behind them is still unread. -/
theorem acceptance_exact (key : MasterKey) (config : Config) (own : Bytes) (arrivals : List Bytes)
    (ended : Bool) :
    let server := (side .server key own).attend arrivals ended
    let client := (side .client key own).attend arrivals ended
    ServerExact key own arrivals.flatten (outcome config server.1) server.2 ∧
      ClientExact key own arrivals.flatten (outcome config client.1) client.2 :=
  ⟨server_exact key config own arrivals ended, client_exact key config own arrivals ended⟩

end SealedRelay.Handshake
