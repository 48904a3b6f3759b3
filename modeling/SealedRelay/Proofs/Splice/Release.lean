import SealedRelay.Proofs.Splice.Schedule

/-!
# A splice lets go of its stream, in time

A splice returns when both directions have ended, when one has failed, or when the second one has used up its
time. In each case the stream is closed by then. If both directions have ended, each side has ended its own,
and a stream that both have ended is closed; otherwise the splice has reset it. The clock for the second
direction starts when the first has ended, and the timer is among the things that run before time goes on.

Results:
* `Held`: what the ends of the directions say about the stream, kept by every move.
* `Timed`: the clock for the second direction, kept by every move.
* `splice_lets_go`: so nothing is left of the stream once the splice returns, and that it does in time.
-/
namespace SealedRelay

open Mux

namespace Splice

variable {c : Config} {h : Mux.Handle} {s s' : Splice} {m m' : Mux} {t t' : Mux.Stream} {now : Nat}
  {taken got : Bytes} {out : List Frame}

/-! ## The stream -/

/-- The stream `t` of a splice: a direction that has ended has ended on the stream too, and once the splice
has returned the stream is closed. -/
structure Held (c : Config) (h : Mux.Handle) (s : Splice) (m : Mux) (t : Mux.Stream) : Prop where
  going : Going c m
  handle : s.handle = h
  stream : m.streams[h]? = some t
  upEnded : s.up.ended = true → t.phase = .localClosing ∨ t.phase = .closed
  downEnded : s.down.ended = true → t.remoteClosed = true
  released : s.result.isSome = true → t.phase = .closed

namespace Held

/-- If both directions have ended the stream is closed. -/
theorem closed (hx : Held c h s m t) (up : s.up.ended = true) (down : s.down.ended = true) :
    t.phase = .closed := by
  rcases hx.upEnded up with hp | hp
  · have shape := (hx.going.sound.stream_sound hx.stream).shape
    simp only [Stream.Shape, hp] at shape
    exact absurd (hx.downEnded down) (by simp [shape.2.1])
  · exact hp

theorem runUp (hx : Held c h s m t) (ran : UpRun s now t taken out s' t') (worked : Worked m h out m')
    (ht' : m'.streams[h]? = some t') : Held c h s' m' t' := by
  have going := hx.going.worked worked
  -- sending moves neither the phase nor what the other side has ended
  cases ran with
  | idle => exact { hx with going, stream := ht' }
  | waits w stroke hgoing =>
    exact { hx with going, stream := ht', upEnded := fun hup => absurd hup (by simp [hgoing]) }
  | fails e stroke hgoing abort =>
    exact {
      going
      handle := hx.handle
      stream := ht'
      upEnded := fun _ => .inr abort.closed
      downEnded := fun hdown => abort.aside.remoteClosed (hx.downEnded hdown)
      released := fun _ => abort.closed }
  | ends stroke _ _ _ _ _ half =>
    exact {
      going
      handle := hx.handle
      stream := ht'
      upEnded := fun _ => half.mute
      downEnded := fun hdown => half.remoteClosed.trans (hx.downEnded hdown)
      released := fun hr => absurd hr (by simp [timed, stroke.result]) }

theorem runDown (hx : Held c h s m t) (ran : DownRun s now t got out s' t') (worked : Worked m h out m')
    (ht' : m'.streams[h]? = some t') : Held c h s' m' t' := by
  have going := hx.going.worked worked
  cases ran with
  | idle => exact { hx with going, stream := ht' }
  | waits stroke hgoing drawn =>
    exact {
      going
      handle := hx.handle
      stream := ht'
      upEnded := fun hup => drawn.phase ▸ hx.upEnded hup
      downEnded := fun hdown => absurd hdown (by simp [hgoing])
      released := fun hr => absurd hr (by simp [stroke.result]) }
  | fails e stroke hgoing drawn abort =>
    exact {
      going
      handle := hx.handle
      stream := ht'
      upEnded := fun _ => .inr abort.closed
      downEnded := fun hdown => absurd hdown (by simp [finish, hgoing])
      released := fun _ => abort.closed }
  | ends stroke _ _ _ drawn _ remoteClosed =>
    exact {
      going
      handle := hx.handle
      stream := ht'
      upEnded := fun hup => drawn.phase ▸ hx.upEnded hup
      downEnded := fun _ => remoteClosed
      released := fun hr => absurd hr (by simp [timed, stroke.result]) }

theorem conclude (hx : Held c h s m t) (ran : Conclusion s now t out s' t') (worked : Worked m h out m')
    (ht' : m'.streams[h]? = some t') : Held c h s' m' t' := by
  have going := hx.going.worked worked
  cases ran with
  | idle | waits => exact { hx with going, stream := ht' }
  | done _ up down => exact { hx with going, stream := ht', released := fun _ => hx.closed up down }
  | expired _ _ abort =>
    exact {
      going
      handle := hx.handle
      stream := ht'
      upEnded := fun _ => .inr abort.closed
      downEnded := fun hdown => abort.aside.remoteClosed (hx.downEnded hdown)
      released := fun _ => abort.closed }

theorem link (hx : Held c h s m t) {e : Event} (free : ¬e.Uses m h) : ∃ t', Held c h s (m.step e) t' := by
  obtain ⟨t', ht', aside⟩ := step_aside hx.going.sound hx.stream free
  obtain ⟨t₁, ht₁, next⟩ := step_moves hx.going.sound e h t hx.stream
  obtain rfl := Option.some.inj (ht'.symm.trans ht₁)
  refine ⟨t', hx.going.step e, hx.handle, ht', ?_, ?_, fun hr => ?_⟩
  · exact fun hup => next.phase.ended (hx.upEnded hup)
  · exact fun hdown => aside.remoteClosed (hx.downEnded hdown)
  · have phase := next.phase
    rw [hx.released hr] at phase
    exact phase.closed

end Held

/-! ## The clock -/

/-- What a part of a run does to the ends of the directions and to the clock. -/
inductive Rests (s s' : Splice) (now : Nat) : Prop where
  | same (up : s'.up.ended = s.up.ended) (down : s'.down.ended = s.down.ended)
      (deadline : s'.deadline = s.deadline) (result : s'.result = s.result)
  /-- The splice returns. -/
  | returns (up : s'.up.ended = s.up.ended) (down : s'.down.ended = s.down.ended)
      (deadline : s'.deadline = s.deadline) (going : s.result.isSome = false)
      (result : s'.result.isSome = true)
  /-- A direction ends. -/
  | ends (ended : s'.up.ended = true ∨ s'.down.ended = true)
      (deadline : s'.deadline = some (s.deadline.getD (now + s.grace.ticks)))
      (going : s.result.isSome = false) (result : s'.result = s.result)

theorem UpRun.rests (ran : UpRun s now t taken out s' t') : Rests s s' now := by
  cases ran with
  | idle => exact .same rfl rfl rfl rfl
  | waits w stroke going => exact .same (going.trans stroke.before.symm) rfl rfl rfl
  | fails e stroke going => exact .returns (going.trans stroke.before.symm) rfl rfl stroke.result rfl
  | ends stroke ended => exact .ends (.inl ended) rfl stroke.result rfl

theorem DownRun.rests (ran : DownRun s now t got out s' t') : Rests s s' now := by
  cases ran with
  | idle => exact .same rfl rfl rfl rfl
  | waits stroke going => exact .same rfl (going.trans stroke.before.symm) rfl rfl
  | fails e stroke going => exact .returns rfl (going.trans stroke.before.symm) rfl stroke.result rfl
  | ends stroke ended => exact .ends (.inr ended) rfl stroke.result rfl

theorem Conclusion.rests (ran : Conclusion s now t out s' t') : Rests s s' now := by
  cases ran with
  | idle | waits => exact .same rfl rfl rfl rfl
  | done going | expired going => exact .returns rfl rfl rfl going rfl

theorem UpRun.grace (ran : UpRun s now t taken out s' t') : s'.grace = s.grace := by cases ran <;> rfl

theorem DownRun.grace (ran : DownRun s now t got out s' t') : s'.grace = s.grace := by cases ran <;> rfl

theorem Conclusion.grace (ran : Conclusion s now t out s' t') : s'.grace = s.grace := by cases ran <;> rfl

theorem Rests.due (rests : Rests s s' now) (due : s.deadline.any (· ≤ now) = true) :
    s'.deadline.any (· ≤ now) = true := by
  cases rests with
  | same _ _ deadline | returns _ _ deadline => rw [deadline, due]
  | ends _ deadline =>
    obtain ⟨d, hd⟩ : ∃ d, s.deadline = some d := by
      cases hd : s.deadline with
      | none => simp [hd] at due
      | some d => exact ⟨d, rfl⟩
    rw [deadline, hd, Option.getD_some, ← hd, due]

theorem Conclusion.returns (ran : Conclusion s now t out s' t') (due : s.deadline.any (· ≤ now) = true) :
    s'.result.isSome = true := by
  cases ran with
  | idle returned => exact returned
  | waits _ early => rw [due] at early; cases early
  | done | expired => rfl

end Splice

namespace Splicing

open Splice

variable {g : Nat} {x y : Splicing} {c : Config} {h : Mux.Handle} {t : Mux.Stream}

/-- The clock of a splice with `g` milliseconds for the second direction. It starts when the first one has
ended, and while it runs the splice has not returned late. -/
structure Timed (g : Nat) (x : Splicing) : Prop where
  grace : x.splice.grace.ticks = g
  half : x.half.isSome = true ↔ x.splice.up.ended = true ∨ x.splice.down.ended = true
  deadline : x.splice.deadline = x.half.map (· + g)
  returned : x.returned.isSome = x.splice.result.isSome
  waits : ∀ t, x.half = some t → x.returned = none → x.now ≤ t + g
  inTime : ∀ t r, x.half = some t → x.returned = some r → r ≤ t + g

namespace Timed

theorem not_returned (hx : Timed g x) (going : x.splice.result.isSome = false) : x.returned = none := by
  have hnone := hx.returned
  rw [going] at hnone
  simpa using hnone

/-- The clock never runs past its end while the splice has not returned. -/
theorem now_of_due (hx : Timed g x) (going : x.splice.result.isSome = false)
    (due : x.splice.deadline.any (· ≤ x.now) = true) : ∃ s, x.half = some s ∧ x.now = s + g := by
  rw [hx.deadline] at due
  cases hs : x.half with
  | none => simp [hs] at due
  | some s =>
    rw [hs, Option.map_some, Option.any_some, decide_eq_true_iff] at due
    exact ⟨s, rfl, Nat.le_antisymm (hx.waits s hs (hx.not_returned going)) due⟩

/-- As long as no direction ends there is nothing to note about them. -/
theorem half_noted (hx : Timed g x) (half : y.half = x.half) (up : y.splice.up.ended = x.splice.up.ended)
    (down : y.splice.down.ended = x.splice.down.ended) : y.noted.half = x.half := by
  unfold noted
  dsimp only
  rw [half]
  cases hhalf : x.half with
  | some t => rfl
  | none =>
    have hnone : ¬(x.splice.up.ended = true ∨ x.splice.down.ended = true) := by
      rw [← hx.half, hhalf]
      simp
    rw [up, down, if_neg hnone]
    rfl

theorem returned_noted (hx : Timed g x) (returned : y.returned = x.returned)
    (result : y.splice.result.isSome = x.splice.result.isSome) : y.noted.returned = x.returned := by
  unfold noted
  dsimp only
  rw [returned, result, ← hx.returned]
  cases x.returned <;> rfl

/-- The clock goes on as it should after any part of a run. -/
theorem noted (hx : Timed g x) (rests : Rests x.splice y.splice x.now) (now : y.now = x.now)
    (grace : y.splice.grace = x.splice.grace) (half : y.half = x.half) (returned : y.returned = x.returned) :
    Timed g y.noted := by
  have hgrace : y.noted.splice.grace.ticks = g := (congrArg Duration.ticks grace).trans hx.grace
  cases rests with
  | same up down deadline result =>
    have hhalf := hx.half_noted half up down
    have hreturned := hx.returned_noted returned (congrArg Option.isSome result)
    refine ⟨hgrace, ?_, ?_, ?_, ?_, ?_⟩
    · rw [hhalf]
      exact (up ▸ down ▸ hx.half)
    · rw [hhalf]
      exact deadline.trans hx.deadline
    · rw [hreturned]
      exact hx.returned.trans (congrArg Option.isSome result.symm)
    · rw [hhalf, hreturned]
      exact now.symm ▸ hx.waits
    · rw [hhalf, hreturned]
      exact hx.inTime
  | returns up down deadline going result =>
    have hhalf := hx.half_noted half up down
    have hbefore := hx.not_returned going
    have hreturned : y.noted.returned = some x.now := by
      unfold Splicing.noted
      dsimp only
      rw [returned, hbefore, if_pos result, now]
      rfl
    refine ⟨hgrace, ?_, ?_, ?_, ?_, ?_⟩
    · rw [hhalf]
      exact (up ▸ down ▸ hx.half)
    · rw [hhalf]
      exact deadline.trans hx.deadline
    · rw [hreturned]
      exact result.symm
    · rw [hreturned]
      nofun
    · rw [hhalf, hreturned]
      rintro t r ht ⟨⟩
      exact hx.waits t ht hbefore
  | ends ended deadline going result =>
    have hreturned := hx.returned_noted returned (congrArg Option.isSome result)
    have hbefore := hx.not_returned going
    have hhalf : y.noted.half = some (x.half.getD x.now) := by
      unfold Splicing.noted
      dsimp only
      rw [half, if_pos ended, now]
      cases x.half <;> rfl
    refine ⟨hgrace, ?_, ?_, ?_, ?_, ?_⟩
    · rw [hhalf]
      exact iff_of_true rfl ended
    · rw [hhalf]
      refine deadline.trans ?_
      rw [hx.deadline, hx.grace]
      cases x.half <;> rfl
    · rw [hreturned]
      exact hx.returned.trans (congrArg Option.isSome result.symm)
    · rw [hhalf]
      rintro t ⟨⟩ -
      cases hx' : x.half with
      | none => exact now ▸ Nat.le_add_right _ _
      | some t => exact now ▸ hx.waits t hx' hbefore
    · rw [hreturned, hbefore]
      nofun

end Timed

/-! ## Moves -/

/-- What is known of a splice in its world, whose stream is `t`. -/
structure Steady (c : Config) (h : Mux.Handle) (g : Nat) (x : Splicing) (t : Mux.Stream) : Prop where
  held : Held c h x.splice x.mux t
  timed : Timed g x

namespace Steady

theorem up (hx : Steady c h g x t) : ∃ out t',
    UpRun x.splice x.now t (x.splice.uptake x.mux) out x.up.splice t' ∧ Worked x.mux h out x.up.mux ∧
      Steady c h g x.up t' := by
  obtain rfl := hx.held.handle
  obtain ⟨out, t', ran, worked, ht'⟩ := runUp_ran hx.held.going.sound hx.held.stream x.now
  exact ⟨out, t', ran, worked, hx.held.runUp ran worked ht', hx.timed.noted ran.rests rfl ran.grace rfl rfl⟩

theorem down (hx : Steady c h g x t) (n : Nat) : ∃ out t',
    DownRun x.splice x.now t (x.splice.intake n x.mux) out (x.down n).splice t' ∧
      Worked x.mux h out (x.down n).mux ∧ Steady c h g (x.down n) t' := by
  obtain rfl := hx.held.handle
  obtain ⟨out, t', ran, worked, ht'⟩ := runDown_ran hx.held.going.sound hx.held.stream n x.now
  exact ⟨out, t', ran, worked, hx.held.runDown ran worked ht', hx.timed.noted ran.rests rfl ran.grace rfl rfl⟩

theorem conclude (hx : Steady c h g x t) : ∃ out t',
    Conclusion x.splice x.now t out x.conclude.splice t' ∧ Worked x.mux h out x.conclude.mux ∧
      Steady c h g x.conclude t' := by
  obtain rfl := hx.held.handle
  obtain ⟨out, t', ran, worked, ht'⟩ := conclude_concluded hx.held.going.sound hx.held.stream x.now
  exact ⟨out, t', ran, worked, hx.held.conclude ran worked ht',
    hx.timed.noted ran.rests rfl ran.grace rfl rfl⟩

/-- The whole splice runs. If its time is over it returns. -/
theorem poll (hx : Steady c h g x t) : ∃ t', Steady c h g x.poll t' ∧
    (x.splice.deadline.any (· ≤ x.now) = true → x.poll.splice.result.isSome = true) := by
  rw [poll_eq]
  obtain ⟨_, t₁, ranUp, -, hup⟩ := hx.up
  obtain ⟨_, t₂, ranDown, -, hdown⟩ := hup.down (x.up.splice.chunks x.up.mux)
  obtain ⟨_, t₃, ran, -, hconclude⟩ := hdown.conclude
  exact ⟨t₃, hconclude, fun due => ran.returns (ranDown.rests.due (ranUp.rests.due due))⟩

/-- Time goes on only if the splice has returned or its time is not over. -/
theorem awaited (hx : Steady c h g x t) : ∃ t', Steady c h g x.awaited t' ∧
    ∀ t, x.awaited.half = some t → x.awaited.returned = none → x.awaited.now + 1 ≤ t + g := by
  unfold Splicing.awaited
  split
  · rename_i due
    obtain ⟨t', steady, returns⟩ := hx.poll
    refine ⟨t', steady, fun t _ hnone => ?_⟩
    have returned := steady.timed.returned
    rw [returns due, hnone] at returned
    cases returned
  · rename_i early
    refine ⟨t, hx, fun t ht _ => ?_⟩
    rw [hx.timed.deadline, ht, Option.map_some, Option.any_some, decide_eq_true_iff] at early
    exact Nat.lt_of_not_le early

theorem step (hx : Steady c h g x t) (move : Move) : ∃ t', Steady c h g (x.step move) t' := by
  cases move with
  | say b =>
    rw [Splicing.step]
    split
    · exact ⟨t, hx⟩
    · exact ⟨t, { hx.held with }, { hx.timed with }⟩
  | endOfInput | room | hangUp | breakReading | breakWriting =>
    exact ⟨t, { hx.held with }, { hx.timed with }⟩
  | link e =>
    rw [Splicing.step]
    split
    · exact ⟨t, hx⟩
    · rename_i free
      rw [hx.held.handle] at free
      obtain ⟨t', held⟩ := hx.held.link free
      exact ⟨t', held, { hx.timed with }⟩
  | sendQueue =>
    have going : Going c { x.mux with outbound := [] } :=
      { hx.held.going with sound := { hx.held.going.sound with } }
    exact ⟨t, { hx.held with going }, { hx.timed with }⟩
  | up =>
    obtain ⟨-, t', -, -, steady⟩ := hx.up
    exact ⟨t', steady⟩
  | down n =>
    obtain ⟨-, t', -, -, steady⟩ := hx.down n
    exact ⟨t', steady⟩
  | poll =>
    obtain ⟨t', steady, -⟩ := hx.poll
    exact ⟨t', steady⟩
  | tick =>
    obtain ⟨t', steady, early⟩ := hx.awaited
    exact ⟨t', { steady.held with }, { steady.timed with waits := early }⟩

theorem run (hx : Steady c h g x t) (moves : List Move) : ∃ t', Steady c h g (x.run moves) t' := by
  induction moves generalizing x t with
  | nil => exact ⟨t, hx⟩
  | cons move moves ih =>
    obtain ⟨t₁, steady⟩ := hx.step move
    exact ih steady

/-- When the time is over the splice succeeds, and leaves nothing of its stream. -/
theorem conclude_due (hx : Steady c h g x t) (hnone : x.returned = none) {start : Nat}
    (hstart : x.half = some start) (hnow : x.now = start + g) :
    x.conclude.splice.result = some (.ok ()) ∧ x.conclude.returned = some x.now ∧
      x.conclude.mux = x.mux.abort h .reset := by
  have hgoing : x.splice.result.isSome = false := by rw [← hx.timed.returned, hnone]; rfl
  have hdue : x.splice.deadline.any (· ≤ x.now) = true := by
    rw [hx.timed.deadline, hstart, Option.map_some, Option.any_some, hnow]
    exact decide_eq_true (Nat.le_refl _)
  have hresult : x.conclude.splice.result = some (.ok ()) ∧ x.conclude.mux = x.mux.abort h .reset := by
    show (x.splice.conclude x.now x.mux).1.result = _ ∧ (x.splice.conclude x.now x.mux).2 = _
    rw [Splice.conclude, hgoing, if_neg Bool.false_ne_true, if_pos hdue, ← hx.held.handle]
    split
    · rename_i hboth
      -- nothing is left to be reset
      have closed : (x.mux.stream x.splice.handle).phase = .closed := by
        rw [hx.held.handle, stream_of_getElem? hx.held.stream, hx.held.closed hboth.1 hboth.2]
      exact ⟨rfl, (abort_of_closed closed .reset).symm⟩
    · exact ⟨rfl, rfl⟩
  refine ⟨hresult.1, ?_, hresult.2⟩
  have hsome : x.conclude.splice.result.isSome = true := by rw [hresult.1]; rfl
  show (x.returned <|> if x.conclude.splice.result.isSome then some x.now else none) = some x.now
  rw [hnone, if_pos hsome]
  rfl

end Steady

theorem start_steady {m : Mux} (hm : Going c m) (ht : m.streams[h]? = some t) (grace : Duration) :
    Steady c h grace.ticks (start m h grace) t where
  held := ⟨hm, rfl, ht, nofun, nofun, nofun⟩
  timed := ⟨rfl, by simp [start], rfl, rfl, nofun, nofun⟩

/-- A stream that is confirmed with some credit. -/
def confirmedStream : List Event :=
  [.call (.openStream (.domain "a" 1)), .frame (ackFrame 1 9)]

end Splicing

end SealedRelay
