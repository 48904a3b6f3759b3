import SealedRelay.Mux.Inbound
/-!
# Calls that may wait

Writing all of a byte string waits whenever the window is used up, and reading waits until there
is something to read. A waiting call looks again each time its stream is woken.
-/
namespace SealedRelay.Mux

/-- How far a write has come. -/
inductive WriteProgress where
  | done (r : Except LinkError Unit)
  /-- The window is used up; `rest` has not been sent. -/
  | waiting (rest : Bytes)

/-- Sends what the window allows of the bytes still to be written. -/
def writeAll (m : Mux) (h : Handle) (data : Bytes) : WriteProgress × Mux :=
  if data = [] then (.done (.ok ()), m)
  else
    match m.send h data with
    | (.error (.windowExhausted _), m) => (.waiting data, m)
    | (.error e, m) => (.done (.error e), m)
    | (.ok n, m) =>
      let rest := data.drop n
      (if rest = [] then .done (.ok ()) else .waiting rest, m)

/-- How far a call that asked for a stream has come: `none` while it waits. -/
def pollOpen (m : Mux) (h : Handle) (expired : Bool) : Option (Except LinkError Unit) × Mux :=
  match m.openResult h with
  | some r => (some r, m)
  | none =>
    if expired then
      let (r, m) := m.expireOpen h
      (some r, m)
    else (none, m)

end SealedRelay.Mux
