import SealedRelay.Connection
import SealedRelay.Proofs.Mux.Alone

/-!
# One connection against any other side

Any bytes may arrive, the socket may fail at any time, and the own program makes whatever calls it likes
on the streams. Two things can still be relied on.

Results:
* `closed_step`: a closed connection stays closed.
* `limited_step`: a connection never has more streams than its settings allow.
-/
namespace SealedRelay

/-- A multiplexer that keeps to its settings. -/
structure Mux.Limited (c : Mux.Config) (m : Mux) : Prop where
  sound : m.Sound
  config : m.config = c
  room : m.table.length ≤ c.maxStreams

namespace Mux.Limited

variable {c : Mux.Config} {m : Mux}

theorem step (h : m.Limited c) (e : Mux.Event) : (m.step e).Limited c := by
  let I (m : Mux) : Prop := m.table.length ≤ m.config.maxStreams
  have keep {m m' : Mux} (ch : m.Change m') (_ : m.Sound) (hi : I m) : I m' := ch.table_le hi
  have start : I m := le_of_le_of_eq h.room (congrArg Mux.Config.maxStreams h.config.symm)
  obtain ⟨hsound, hconfig, hroom⟩ := Mux.changes_keep keep h.sound start (Mux.step_chain h.sound e)
  have hc : (m.step e).config = c := hconfig.trans h.config
  exact ⟨hsound, hc, hc ▸ hroom⟩

/-- Taking frames off the queue, or sending no more, leaves the streams alone. -/
theorem requeued (h : m.Limited c) (outbound : List Frame) (sending : Bool) :
    Limited c { m with outbound, sending } where
  sound := { h.sound with }
  config := h.config
  room := h.room

end Mux.Limited

namespace Connection

inductive Event where
  /-- The own program makes a call on the streams. -/
  | call (c : Mux.Call)
  | bytes (now : Duration) (b : Bytes)
  | endOfInput
  | socketFailed (fault : Fault)
  /-- The next queued frame is taken for the socket. -/
  | write
  /-- A look at the clock. -/
  | tick (now : Duration)
  /-- This side closes the connection. -/
  | close

def step (x : Connection) : Event → Connection
  | .call c => { x with mux := (c.run x.mux).2 }
  | .bytes now b => x.receive now b
  | .endOfInput => x.endOfInput
  | .socketFailed fault => x.socketFailed fault
  | .write => x.nextWire.2
  | .tick now => x.tick now
  | .close => x.close

variable {c : Mux.Config} {x : Connection}

/-! ## Closed connections -/

theorem closed_teardown (x : Connection) (e : LinkError) : (x.teardown e).closed = true := by
  unfold teardown
  split
  · assumption
  · rfl

/-- A closed connection stays closed. -/
theorem closed_step (h : x.closed = true) (e : Event) : (x.step e).closed = true := by
  cases e with
  | call => exact h
  | bytes now b => rwa [step, receive, if_pos h]
  | endOfInput =>
    rw [step, endOfInput]
    split <;> exact closed_teardown _ _
  | socketFailed => exact closed_teardown _ _
  | write => rwa [step, nextWire, if_pos h]
  | tick now => rwa [step, tick, if_pos h]
  | close => exact closed_teardown _ _

/-! ## The limit on streams -/

theorem limited_teardown (h : x.mux.Limited c) (e : LinkError) : (x.teardown e).mux.Limited c := by
  unfold teardown
  split
  · exact h
  · exact (h.step (.call (.failAll (streamError e)))).requeued [] false

theorem limited_handle (h : x.mux.Limited c) (now : Duration) (f : Frame) :
    (x.handle now f).mux.Limited c := by
  unfold handle
  split
  · exact h
  dsimp only
  split
  · refine limited_teardown ?_ _
    exact h
  · rename_i payload _
    have hreceived := h.step (.frame { f with payload })
    split
    · exact limited_teardown hreceived _
    · exact hreceived

theorem limited_receive (h : x.mux.Limited c) (now : Duration) (b : Bytes) :
    (x.receive now b).mux.Limited c := by
  have handled (frames : List Frame) : (frames.foldl (handle now) x).mux.Limited c := by
    induction frames generalizing x with
    | nil => exact h
    | cons f frames ih => exact ih (limited_handle h now f)
  unfold receive
  split
  · exact h
  dsimp only
  split
  · exact handled _
  · exact limited_teardown (handled _) _

theorem limited_nextWire (h : x.mux.Limited c) : x.nextWire.2.mux.Limited c := by
  unfold nextWire
  split
  · exact h
  split
  · exact h
  rename_i f outbound _
  have htaken := h.requeued outbound x.mux.sending
  dsimp only
  split
  · exact limited_teardown htaken _
  split
  · exact limited_teardown htaken _
  · exact htaken

theorem limited_tick (h : x.mux.Limited c) (now : Duration) : (x.tick now).mux.Limited c := by
  unfold tick
  split
  · exact h
  dsimp only
  split
  · refine limited_teardown ?_ _
    exact h
  split
  · exact h.step (.call .ping)
  · exact h

/-- A connection never has more streams than its settings allow. -/
theorem limited_step (h : x.mux.Limited c) (e : Event) : (x.step e).mux.Limited c := by
  cases e with
  | call call => exact h.step (.call call)
  | bytes now b => exact limited_receive h now b
  | endOfInput =>
    rw [step, endOfInput]
    split <;> exact limited_teardown h _
  | socketFailed => exact limited_teardown h _
  | write => exact limited_nextWire h
  | tick now => exact limited_tick h now
  | close => exact limited_teardown h _

end Connection

end SealedRelay
