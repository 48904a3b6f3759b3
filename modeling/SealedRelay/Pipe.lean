import SealedRelay.Bytes
import SealedRelay.Fault
/-!
# Pipes

A pipe holds a limited number of bytes on their way in one direction. Closing it lets the reader
see the end once it has read what is left, and breaks further writes. A pipe with a fault fails
its reader in place of the end, and its writer at once.
-/
namespace SealedRelay

/-- Bytes on their way. -/
structure Pipe where
  capacity : Nat
  buffer : Bytes := []
  closed : Bool := false
  fault : Option Fault := none

namespace Pipe

/-- Puts in as much of `data` as there is room for and gives the rest back, unless the pipe is
closed or has a fault. -/
def write (p : Pipe) (data : Bytes) : Except Fault (Bytes × Pipe) :=
  match p.fault with
  | some e => .error e
  | none =>
    if p.closed then .error ⟨.brokenPipe, none⟩
    else
      let room := p.capacity - p.buffer.length
      .ok (data.drop room, { p with buffer := p.buffer ++ data.take room })

def close (p : Pipe) : Pipe := { p with closed := true }

def drain (p : Pipe) : Bytes × Pipe := (p.buffer, { p with buffer := [] })

def atEnd (p : Pipe) : Bool := p.closed && p.buffer.isEmpty

end Pipe

end SealedRelay
