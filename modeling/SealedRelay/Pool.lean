import SealedRelay.Link.Error
/-!
# The pool of connections to the remote relay

The pool hands out a connection that has room for a stream, the one with the fewest streams. When
none has room it dials a new one; callers that come while it is dialing wait for the same
connection. Connections are known by their numbers, and what state they are in is looked up.

Every operation is what happens at once, under the pool's lock. Waiting for a dial lies between
`request` and `arrive`, and anything may happen in between.
-/
namespace SealedRelay

/-- The state of a connection, as the pool sees it. -/
structure Vitals where
  closed : Bool
  /-- Another stream can be opened. -/
  capacity : Bool
  /-- Live streams. -/
  streams : Nat
  deriving DecidableEq

/-- Connections to one remote relay. -/
structure Pool where
  /-- The address of the remote relay. -/
  remote : String
  /-- Connections at a time. -/
  limit : Nat
  /-- The connections' numbers, in the order in which they joined. -/
  members : List Nat := []
  /-- The dial that is going on, by the number its connection will have. -/
  dialing : Option Nat := none
  closed : Bool := false
  /-- The number of the next dial. -/
  next : Nat := 1

namespace Pool

/-- How connections look that were never made. -/
def noConnections : Nat → Vitals := fun _ => ⟨true, false, 0⟩

/-- What a caller is told. -/
inductive Answer where
  /-- A connection that has room. -/
  | ready (connection : Nat)
  /-- A dial to wait for. -/
  | wait (attempt : Nat)
  | failed (e : LinkError)
  deriving DecidableEq

/-- The connections that are not closed. -/
def healthy (p : Pool) (look : Nat → Vitals) : List Nat :=
  p.members.filter fun c => !(look c).closed

/-- The first of the connections with the fewest streams. -/
def leastLoaded (look : Nat → Vitals) : List Nat → Option Nat
  | [] => none
  | c :: cs =>
    match leastLoaded look cs with
    | none => some c
    | some d => some (if (look c).streams ≤ (look d).streams then c else d)

def request (p : Pool) (look : Nat → Vitals) : Answer × Pool :=
  if p.closed then (.failed .connectionClosed, p)
  else
    let p := { p with members := p.healthy look }
    match leastLoaded look (p.members.filter fun c => (look c).capacity) with
    | some c => (.ready c, p)
    | none =>
      match p.dialing with
      | some attempt => (.wait attempt, p)
      | none =>
        if p.members.length ≥ p.limit then
          (.failed (.unavailable
            s!"all {p.members.length} connections are at their stream limit"), p)
        else (.wait p.next, { p with dialing := some p.next, next := p.next + 1 })

/-- What a caller is told that waited for a dial. -/
structure Arrival where
  result : Except LinkError Nat
  /-- The connection is to be closed, as the pool is. -/
  unwanted : Bool := false

/-- A caller that waited for a dial learns how it went; the first one to do so adds the connection
to the pool. -/
def arrive (p : Pool) (look : Nat → Vitals) (attempt : Nat) (dialed : Except LinkError Unit) :
    Arrival × Pool :=
  let p := if p.dialing = some attempt then { p with dialing := none } else p
  match dialed with
  | .error e => ({ result := .error e }, p)
  | .ok () =>
    if p.closed then ({ result := .error .connectionClosed, unwanted := true }, p)
    else if (look attempt).closed ∨ attempt ∈ p.members then ({ result := .ok attempt }, p)
    else ({ result := .ok attempt }, { p with members := p.members ++ [attempt] })

def remove (p : Pool) (connection : Nat) : Pool :=
  { p with members := p.members.filter (· ≠ connection) }

/-- Closes the pool for good; the connections that are given back are to be closed. -/
def closeAll (p : Pool) : List Nat × Pool :=
  (p.members, { p with closed := true, dialing := none, members := [] })

/-- How many connections are not closed. -/
def count (p : Pool) (look : Nat → Vitals) : Nat := (p.healthy look).length

def streams (p : Pool) (look : Nat → Vitals) : Nat :=
  p.members.foldl (fun n c => n + (look c).streams) 0

/-- A caller that nobody else gets in the way of, given how a dial would go. -/
def get (p : Pool) (look : Nat → Vitals) (dial : Except LinkError Unit) :
    Except LinkError Nat × Pool :=
  match p.request look with
  | (.ready c, p) => (.ok c, p)
  | (.failed e, p) => (.error e, p)
  | (.wait attempt, p) =>
    let (a, p) := p.arrive look attempt dial
    (a.result, p)

/-- A pool shows where it connects to and its limit. -/
def debug (p : Pool) : String :=
  "ConnectionManager \x7b remote_addr: " ++ Text.quoted p.remote ++
    s!", max_connections: {p.limit}, .. " ++ "\x7d"

end Pool

end SealedRelay
