import SealedRelay.Seal.Session
/-!
# The two sessions of a connection

Both ends seal and open, any number of times, and what was sealed can be kept under a label to be
opened later, by either end and in any order.
-/
namespace SealedRelay.Scenario

/-- Carries out a step `n` times, but at least once, and gives the last result. -/
def again {σ ρ : Type} (step : σ → ρ × σ) : Nat → σ → ρ × σ
  | 0, s | 1, s => step s
  | n + 2, s => again step (n + 1) (step s).2

/-- Both ends' sessions. -/
structure Sessions where
  client : Session
  server : Session
  /-- Sealed payloads by label, the newest first. -/
  kept : List (String × Bytes) := []

namespace Sessions

def new (keys : SessionKeys) : Sessions :=
  { client := Session.new keys .client, server := Session.new keys .server }

def of (s : Sessions) : End → Session
  | .client => s.client
  | .server => s.server

def set (s : Sessions) (e : End) (x : Session) : Sessions :=
  match e with
  | .client => { s with client := x }
  | .server => { s with server := x }

def keep (s : Sessions) (label : Option String) : Except SealError Bytes → Sessions
  | .ok c => { s with kept := (label.map fun l => (l, c)).toList ++ s.kept }
  | .error _ => s

/-- An end seals `n` times and keeps the last result. -/
def seals (s : Sessions) (e : End) (n : Nat) (aad data : Bytes) (label : Option String) :
    Except SealError Bytes × Sessions :=
  let (r, sealer) := again (·.next aad data) n (s.of e).sealer
  (r, (s.set e { s.of e with sealer }).keep label r)

/-- An end opens `n` times. -/
def opens (s : Sessions) (e : End) (n : Nat) (aad sealed : Bytes) :
    Except SealError Bytes × Sessions :=
  let (r, opener) := again (·.next aad sealed) n (s.of e).opener
  (r, s.set e { s.of e with opener })

end Sessions

end SealedRelay.Scenario
