import SealedRelay.Handshake

/-!
# How a handshake fails

A talk has its results in itself: whatever the channel tells it, it can only end as one of its branches
does. So the errors of a handshake can be read off its steps.

Results:
* `Talk.Ends.run`: over any channel a talk ends as it can end.
* `client_failure`: the errors of the side that dials.
-/
namespace SealedRelay

/-- A talk that ends with a result in `P` only, whatever it is told on the way. -/
inductive Talk.Ends {α : Type} (P : α → Prop) : Talk α → Prop where
  | done {a : α} (result : P a) : Ends P (.done a)
  | recv {most : Nat} {patient : Bool} {next : Except Fault Bytes → Talk α}
      (branches : ∀ r, Ends P (next r)) : Ends P (.recv most patient next)
  | send {data : Bytes} {next : Except Fault Unit → Talk α} (branches : ∀ r, Ends P (next r)) :
      Ends P (.send data next)

namespace Talk

variable {α β : Type} {P : α → Prop} {Q : β → Prop} {t : Talk α}

theorem ends_somehow (t : Talk α) : t.Ends fun _ => True := by
  induction t with
  | done => exact .done trivial
  | recv _ _ _ ih => exact .recv ih
  | send _ _ ih => exact .send ih

theorem Ends.bind {f : α → Talk β} (h : t.Ends P) (hf : ∀ a, P a → (f a).Ends Q) :
    (t.bind f).Ends Q := by
  induction h with
  | done result => exact hf _ result
  | recv _ ih => exact .recv ih
  | send _ ih => exact .send ih

/-- Over any channel a talk ends as it can end. -/
theorem Ends.run (h : t.Ends P) (c : Channel) : (t.run c).1.Ends P := by
  induction h generalizing c with
  | done result => exact .done result
  | recv branches ih =>
    rw [Talk.run]
    split
    · exact .recv branches
    · exact ih _ _
  | send _ ih =>
    rw [Talk.run]
    exact ih _ _

theorem Ends.result {a : α} (h : t.Ends P) (ha : t.result? = some a) : P a := by
  cases h with
  | done result =>
    obtain rfl := Option.some.inj ha
    exact result
  | recv | send => cases ha

end Talk

namespace Handshake

/-- The errors of a handshake: the peer left, spoke another protocol or could not prove that it knows
the secret, or the socket failed. -/
def Failure : LinkError → Prop
  | .handshakeFailed _ | .authenticationFailure | .sealing _ | .io _ => True
  | _ => False

/-- A part of a handshake that fails with such errors only. -/
def Fails {α : Type} (x : ExceptT LinkError Talk α) : Prop :=
  x.run.Ends fun r => ∀ e, r = .error e → Failure e

variable {α β : Type}

theorem fails_ok (a : α) : Fails (pure a : ExceptT LinkError Talk α) := .done nofun

theorem Fails.bind {x : ExceptT LinkError Talk α} {f : α → ExceptT LinkError Talk β} (h : Fails x)
    (hf : ∀ a, Fails (f a)) : Fails (x >>= f) := by
  refine Talk.Ends.bind h fun r hr => ?_
  cases r with
  | ok a => exact hf a
  | error e => exact .done fun e' he => Except.error.inj he ▸ hr e rfl

theorem fails_transmit (b : Bytes) : Fails (transmit b) := by
  refine .send fun r => ?_
  cases r with
  | ok => exact .done nofun
  | error f => exact .done fun e he => Except.error.inj he ▸ trivial

theorem fails_receive (n : Nat) : Fails (receive n) := by
  refine (Talk.ends_somehow _).bind fun r _ => ?_
  cases r with
  | ok b => exact .done nofun
  | error f =>
    dsimp only
    split <;> exact .done fun e he => Except.error.inj he ▸ trivial

theorem fails_parseHello (b : Bytes) : Fails (check (parseHello b)) := by
  refine .done fun e he => ?_
  unfold parseHello at he
  split at he
  · exact Except.error.inj he ▸ trivial
  split at he
  · exact Except.error.inj he ▸ trivial
  · cases he

theorem fails_checkKey (r : Except SealError α) : Fails (checkKey r) := by
  refine .done fun e he => ?_
  cases r with
  | ok => cases he
  | error s =>
    obtain rfl := Except.error.inj he
    cases s <;> trivial

theorem fails_client (key : MasterKey) (random : Bytes) : Fails (client key random) :=
  (fails_transmit _).bind fun _ => (fails_receive _).bind fun _ => (fails_parseHello _).bind fun _ =>
    (fails_checkKey _).bind fun _ => (fails_transmit _).bind fun _ => fails_ok _

/-- The errors of the side that dials. -/
theorem client_failure {key : MasterKey} {random : Bytes} {c : Channel} {e : LinkError}
    (h : ((side .client key random).run c).1.result? = some (.error e)) : Failure e :=
  ((fails_client key random).run c).result h e rfl

end Handshake

end SealedRelay
