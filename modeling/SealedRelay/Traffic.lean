/-!
# Traffic counts
-/
namespace SealedRelay

structure Traffic where
  /-- From the client towards the destination. -/
  upload : Nat := 0
  /-- From the destination back to the client. -/
  download : Nat := 0
  deriving DecidableEq

instance : Add Traffic where
  add a b := ⟨a.upload + b.upload, a.download + b.download⟩

def Traffic.total (ts : List Traffic) : Traffic := ts.foldl (· + ·) {}

/-- Bytes that went over sealed connections. -/
structure WireTraffic where
  sent : Nat := 0
  received : Nat := 0
  deriving DecidableEq

end SealedRelay
