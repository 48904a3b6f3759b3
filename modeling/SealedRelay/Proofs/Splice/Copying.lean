import Mathlib.Control.Monad.Basic
import SealedRelay.Proofs.Splice.Release

/-!
# A splice copies exactly, and counts what it has copied

What the upload has read from the socket is on the stream or still held by the pump, and what the download has
read from the stream is in the socket or still held. The counters run behind by the piece that is held. So at
any time each side has got the front of what the other has given, and a direction that has ended has copied
everything. A stream that is closed without a failure has been ended by this side, which only the end of the
upload does.

Results:
* `Upward`, `Downward`: where the bytes of each direction are, kept by every move.
* `splice_copies`: what either side has got, and what it has got in the end.
-/
namespace SealedRelay.Splicing

open Mux Splice

variable {c : Config} {h : Mux.Handle} {g : Nat} {l : Bool} {x y : Splicing} {t t' : Mux.Stream} {out : List Frame}

/-- The splice has run: it has become `s'`, has taken `taken` from the socket, read `got` and queued `out`. -/
structure Grown (x y : Splicing) (s' : Splice) (taken got : Bytes) (out : List Frame) : Prop where
  splice : y.splice = s'
  said : y.said = x.said
  ended : y.ended = x.ended
  taken : y.taken = x.taken ++ taken
  queued : y.queued = x.queued ++ out
  arrived : y.arrived = x.arrived
  got : y.got = x.got ++ got

theorem queued_put {z : Splice × Mux} (going : Going c x.mux) (worked : Worked x.mux h out z.2) :
    (x.put z).queued = x.queued ++ out := by
  show x.queued ++ z.2.outbound.drop x.mux.outbound.length = _
  rw [worked.kept.outbound going.sending, List.drop_left]

theorem up_grown (going : Going c x.mux) (worked : Worked x.mux h out x.up.mux) :
    Grown x x.up x.up.splice (x.splice.uptake x.mux) [] out :=
  ⟨rfl, rfl, rfl, rfl, queued_put going worked, rfl, (List.append_nil _).symm⟩

theorem down_grown {n : Nat} (going : Going c x.mux) (worked : Worked x.mux h out (x.down n).mux) :
    Grown x (x.down n) (x.down n).splice [] (x.splice.intake n x.mux) out :=
  ⟨rfl, rfl, rfl, (List.append_nil _).symm, queued_put going worked, rfl, rfl⟩

theorem conclude_grown (going : Going c x.mux) (worked : Worked x.mux h out x.conclude.mux) :
    Grown x x.conclude x.conclude.splice [] [] out :=
  ⟨rfl, rfl, rfl, (List.append_nil _).symm, queued_put going worked, rfl, (List.append_nil _).symm⟩

/-! ## From the socket to the stream -/

/-- The frames of a splice that has ended this side's direction: the data comes first, and one close. -/
def Told (queued : List Frame) (id : StreamId) (said : Bytes) : Prop :=
  ∃ q₁ q₂, queued = q₁ ++ closeFrame id .normal :: q₂ ∧ Unended q₁ ∧ Unended q₂ ∧ bytesIn q₁ = said ∧
    bytesIn q₂ = []

/-- Where the bytes of the socket are. Before the splice, this side's direction of the stream had ended if `l`. -/
structure Upward (l : Bool) (x : Splicing) (t : Mux.Stream) : Prop where
  part : x.taken <+: x.said
  kept : bytesIn x.queued ++ x.splice.up.pending = x.taken
  count : x.splice.up.moved + x.splice.up.size = x.taken.length
  fits : x.splice.up.pending.length ≤ x.splice.up.size
  /-- What has not been taken waits. -/
  waits : x.splice.result.isSome = false →
    x.said = x.taken ++ x.splice.inbound.buffer ∧ x.splice.inbound.closed = x.ended
  going : x.splice.up.ended = false → Unended x.queued ∧ t.localClosed = l
  all : x.splice.up.ended = true →
    x.splice.up.pending = [] ∧ x.splice.up.size = 0 ∧ x.taken = x.said ∧ x.ended = true
  told : l = false → x.splice.up.ended = true → t.failure = none → Told x.queued t.id x.said

namespace Upward

theorem counted (hx : Upward l x t) : x.splice.up.moved ≤ (bytesIn x.queued).length := by
  have hkept := congrArg List.length hx.kept
  have hcount := hx.count
  have hfits := hx.fits
  rw [List.length_append] at hkept
  omega

/-- The splice runs, but takes nothing, queues no data and ends nothing of this direction. -/
theorem follow (hx : Upward l x t) {s' : Splice} {got : Bytes} (grown : Grown x y s' [] got out)
    (up : s'.up = x.splice.up) (unended : Unended out) (silent : bytesIn out = [])
    (waits : s'.result.isSome = false → x.splice.result.isSome = false ∧
      s'.inbound.buffer = x.splice.inbound.buffer ∧ s'.inbound.closed = x.splice.inbound.closed)
    (id : t'.id = t.id) (localClosed : t'.localClosed = t.localClosed)
    (failure : t'.failure = none → t.failure = none) : Upward l y t' := by
  obtain ⟨rfl, said, ended, taken, queued, -, -⟩ := grown
  rw [List.append_nil] at taken
  refine ⟨?_, ?_, ?_, ?_, fun hr => ?_, fun hup => ?_, fun hup => ?_, fun hl hup hf => ?_⟩
  · rw [taken, said]
    exact hx.part
  · rw [queued, bytesIn_append, silent, List.append_nil, up, taken]
    exact hx.kept
  · rw [up, taken]
    exact hx.count
  · rw [up]
    exact hx.fits
  · obtain ⟨hr', hbuffer, hclosed⟩ := waits hr
    rw [said, taken, ended, hbuffer, hclosed]
    exact hx.waits hr'
  · rw [up] at hup
    obtain ⟨hbefore, hopen⟩ := hx.going hup
    rw [queued, localClosed]
    exact ⟨hbefore.append unended, hopen⟩
  · rw [up] at hup ⊢
    rw [taken, said, ended]
    exact hx.all hup
  · rw [up] at hup
    obtain ⟨q₁, q₂, hq, h₁, h₂, hall, hnothing⟩ := hx.told hl hup (failure hf)
    rw [queued, id, said]
    refine ⟨q₁, q₂ ++ out, ?_, h₁, h₂.append unended, hall, ?_⟩
    · rw [hq, List.append_assoc, List.cons_append]
    · rw [bytesIn_append, hnothing, silent, List.append_nil]

/-- The upload has taken and sent, and perhaps ended or reset the stream. -/
theorem stroke (hx : Upward l x t) {s' : Splice} {taken got : Bytes} {p : Pump} {i : Pipe} {out' : List Frame}
    (s : UpStroke x.splice taken p i out) (grown : Grown x y s' taken got (out ++ out')) (up : s'.up = p)
    (silent : bytesIn out' = []) (inbound : s'.result.isSome = false → s'.inbound = i)
    (going : p.ended = false → Unended out' ∧ t'.localClosed = t.localClosed)
    (all : p.ended = true →
      p.pending = [] ∧ p.size = 0 ∧ i.buffer = [] ∧ x.splice.inbound.closed = true)
    (told : t.localClosed = false → p.ended = true → t'.failure = none → out' = [closeFrame t'.id .normal]) :
    Upward l y t' := by
  obtain ⟨hwaits, hclosed⟩ := hx.waits s.result
  obtain ⟨hbefore, hopen⟩ := hx.going s.before
  have hsaid : x.said = x.taken ++ taken ++ i.buffer := by
    rw [hwaits, s.buffer, List.append_assoc]
  have hkept : bytesIn (x.queued ++ out) ++ p.pending = x.taken ++ taken := by
    rw [bytesIn_append, List.append_assoc, s.carried.bytes, ← List.append_assoc, hx.kept]
  have hunended : Unended (x.queued ++ out) := hbefore.append s.unended
  obtain ⟨rfl, said, ended, htaken, queued, -, -⟩ := grown
  rw [← List.append_assoc] at queued
  refine ⟨?_, ?_, ?_, ?_, fun hr => ?_, fun hup => ?_, fun hup => ?_, fun hl hup hf => ?_⟩
  · rw [htaken, said]
    exact ⟨i.buffer, hsaid.symm⟩
  · rw [queued, bytesIn_append, silent, List.append_nil, up, htaken, hkept]
  · rw [up, htaken, s.carried.count, hx.count, List.length_append]
  · rw [up]
    exact s.carried.fits hx.fits
  · rw [said, htaken, ended, inbound hr]
    exact ⟨hsaid, s.closed.trans hclosed⟩
  · obtain ⟨hrest, hlocal⟩ := going (up ▸ hup)
    rw [queued]
    exact ⟨hunended.append hrest, hlocal.trans hopen⟩
  · obtain ⟨hpending, hsize, hempty, hover⟩ := all (up ▸ hup)
    rw [up, htaken, said, ended, hsaid, hempty, List.append_nil]
    exact ⟨hpending, hsize, rfl, hclosed ▸ hover⟩
  · -- the close is the last frame, after all the data
    obtain ⟨hpending, -, hempty, -⟩ := all (up ▸ hup)
    rw [hpending, List.append_nil] at hkept
    refine ⟨x.queued ++ out, [], ?_, hunended, unended_nil, ?_, rfl⟩
    · rw [queued, told (hopen.trans hl) (up ▸ hup) hf]
    · rw [hkept, said, hsaid, hempty, List.append_nil]

theorem runUp (hx : Upward l x t) {s' : Splice} {taken : Bytes} (grown : Grown x y s' taken [] out)
    (ran : UpRun x.splice x.now t taken out s' t') : Upward l y t' := by
  cases ran with
  | idle => exact hx.follow grown rfl unended_nil rfl (fun hr => ⟨hr, rfl, rfl⟩) rfl rfl fun hf => hf
  | waits w s going =>
    rw [← List.append_nil out] at grown
    exact hx.stroke s grown rfl rfl (fun _ => rfl) (fun _ => ⟨unended_nil, rfl⟩)
      (fun hp => absurd hp (by simp [going])) fun _ hp => absurd hp (by simp [going])
  | fails e s going abort =>
    exact hx.stroke s grown rfl abort.silent (fun hr => absurd hr (by simp [finish]))
      (fun _ => ⟨abort.unended, abort.aside.localClosed⟩) (fun hp => absurd hp (by simp [going]))
      fun _ hp => absurd hp (by simp [going])
  | ends s ended pending size empty closed half =>
    exact hx.stroke s grown rfl half.silent (fun _ => rfl) (fun hp => absurd hp (by simp [ended]))
      (fun _ => ⟨pending, size, empty, closed⟩) fun hopen _ hf => half.next.id ▸ half.told hf hopen

theorem runDown (hx : Upward l x t) {s' : Splice} {got : Bytes} (grown : Grown x y s' [] got out)
    (ran : DownRun x.splice x.now t got out s' t') : Upward l y t' := by
  cases ran with
  | idle => exact hx.follow grown rfl unended_nil rfl (fun hr => ⟨hr, rfl, rfl⟩) rfl rfl fun hf => hf
  | waits s going drawn | ends s _ _ _ drawn =>
    exact hx.follow grown rfl s.unended s.silent (fun hr => ⟨hr, rfl, rfl⟩) drawn.id drawn.localClosed
      fun hf => drawn.failure ▸ hf
  | @fails _ _ _ _ out out' _ _ e s going drawn abort =>
    have silent : bytesIn (out ++ out') = [] := by rw [bytesIn_append, s.silent, abort.silent]; rfl
    exact hx.follow grown rfl (s.unended.append abort.unended) silent (fun hr => absurd hr (by simp [finish]))
      (abort.next.id.trans drawn.id) (abort.aside.localClosed.trans drawn.localClosed)
      fun hf => drawn.failure ▸ abort.aside.failure hf

theorem conclude (hx : Upward l x t) {s' : Splice} (grown : Grown x y s' [] [] out)
    (ran : Conclusion x.splice x.now t out s' t') : Upward l y t' := by
  cases ran with
  | idle | waits =>
    exact hx.follow grown rfl unended_nil rfl (fun hr => ⟨hr, rfl, rfl⟩) rfl rfl fun hf => hf
  | done =>
    exact hx.follow grown rfl unended_nil rfl (fun hr => absurd hr (by simp [finish])) rfl rfl fun hf => hf
  | expired _ _ abort =>
    exact hx.follow grown rfl abort.unended abort.silent (fun hr => absurd hr (by simp [finish])) abort.next.id
      abort.aside.localClosed abort.aside.failure

theorem link (hx : Upward l x t) (held : Held c h x.splice x.mux t) {e : Event} (free : ¬e.Uses x.mux h)
    (ht' : (x.mux.step e).streams[h]? = some t') :
    Upward l { x with mux := x.mux.step e, arrived := x.arrived ++ x.mux.arrivals h e } t' := by
  obtain ⟨t₁, ht₁, aside⟩ := step_aside held.going.sound held.stream free
  obtain ⟨t₂, ht₂, next⟩ := step_moves held.going.sound e h t held.stream
  obtain rfl := Option.some.inj (ht₁.symm.trans ht')
  obtain rfl := Option.some.inj (ht₂.symm.trans ht₁)
  have grown : Grown x { x with mux := x.mux.step e } x.splice [] [] [] :=
    ⟨rfl, rfl, rfl, (List.append_nil _).symm, (List.append_nil _).symm, rfl, (List.append_nil _).symm⟩
  exact { hx.follow grown rfl unended_nil rfl (fun hr => ⟨hr, rfl, rfl⟩) next.id aside.localClosed
    aside.failure with }

theorem say (hx : Upward l x t) (more : x.ended = false) (b : Bytes) :
    Upward l { x with
      splice.inbound.buffer := x.splice.inbound.buffer ++ b
      said := x.said ++ b } t where
  part := hx.part.trans (List.prefix_append _ _)
  kept := hx.kept
  count := hx.count
  fits := hx.fits
  waits hr := by
    obtain ⟨hsaid, hclosed⟩ := hx.waits hr
    refine ⟨?_, hclosed⟩
    show x.said ++ b = x.taken ++ (x.splice.inbound.buffer ++ b)
    rw [hsaid, List.append_assoc]
  going := hx.going
  all hup := absurd (hx.all hup).2.2.2 (by simp [more])
  told _ hup := absurd (hx.all hup).2.2.2 (by simp [more])

theorem endOfInput (hx : Upward l x t) :
    Upward l { x with splice.inbound.closed := true, ended := true } t where
  part := hx.part
  kept := hx.kept
  count := hx.count
  fits := hx.fits
  waits hr := ⟨(hx.waits hr).1, rfl⟩
  going := hx.going
  all hup :=
    have ⟨hpending, hsize, htaken, _⟩ := hx.all hup
    ⟨hpending, hsize, htaken, rfl⟩
  told := hx.told

end Upward

/-! ## From the stream to the socket -/

/-- Where the bytes of the stream are. -/
structure Downward (x : Splicing) (t : Mux.Stream) : Prop where
  kept : x.written ++ x.splice.down.pending = x.got
  count : x.splice.down.moved + x.splice.down.size = x.got.length
  fits : x.splice.down.pending.length ≤ x.splice.down.size
  part : x.got ++ t.inbox.flatten <+: x.arrived
  /-- What has not been read waits, unless the stream has failed. -/
  whole : t.failure = none → x.got ++ t.inbox.flatten = x.arrived
  all : x.splice.down.ended = true → x.splice.down.pending = [] ∧ x.splice.down.size = 0 ∧
    (t.failure = none → t.inbox.flatten = [])

namespace Downward

/-- The counter is not ahead of what has been written. -/
theorem counted (hx : Downward x t) : x.splice.down.moved ≤ x.written.length := by
  have hkept := congrArg List.length hx.kept
  have hcount := hx.count
  have hfits := hx.fits
  rw [List.length_append] at hkept
  omega

/-- The splice runs, but takes nothing out of the stream. -/
theorem follow (hx : Downward x t) {s' : Splice} {taken : Bytes} (grown : Grown x y s' taken [] out)
    (down : s'.down = x.splice.down) (outbound : s'.outbound.buffer = x.splice.outbound.buffer)
    (failure : t'.failure = none → t.failure = none) (inbox : t'.inbox.flatten <+: t.inbox.flatten)
    (unread : t'.failure = none → t'.inbox.flatten = t.inbox.flatten) : Downward y t' := by
  obtain ⟨rfl, -, -, -, -, arrived, got⟩ := grown
  rw [List.append_nil] at got
  have written : y.written = x.written := outbound
  refine ⟨?_, ?_, ?_, ?_, fun hf => ?_, fun hdown => ?_⟩
  · rw [written, down, got]
    exact hx.kept
  · rw [down, got]
    exact hx.count
  · rw [down]
    exact hx.fits
  · rw [got, arrived]
    exact ((List.prefix_append_right_inj _).2 inbox).trans hx.part
  · rw [arrived, got, unread hf]
    exact hx.whole (failure hf)
  · rw [down] at hdown ⊢
    obtain ⟨hpending, hsize, hempty⟩ := hx.all hdown
    exact ⟨hpending, hsize, fun hf => (unread hf).trans (hempty (failure hf))⟩

theorem aside (hx : Downward x t) {s' : Splice} {taken : Bytes} (grown : Grown x y s' taken [] out)
    (down : s'.down = x.splice.down) (outbound : s'.outbound.buffer = x.splice.outbound.buffer)
    (aside : t.Aside t' []) : Downward y t' := by
  have inbox := aside.inbox
  rw [List.append_nil] at inbox
  exact hx.follow grown down outbound aside.failure inbox fun hf => (aside.kept hf).trans (List.append_nil _)

/-- The download has read and written, and perhaps reset the stream. -/
theorem stroke (hx : Downward x t) {s' : Splice} {got passed : Bytes} {p : Pump} {o : Pipe} {out' : List Frame}
    {t₁ : Mux.Stream} (s : DownStroke x.splice got passed p o out) (drawn : Drawn got t t₁)
    (aside : t₁.Aside t' []) (grown : Grown x y s' [] got out') (down : s'.down = p)
    (outbound : s'.outbound.buffer = o.buffer)
    (all : p.ended = true → p.pending = [] ∧ p.size = 0 ∧ t₁.inbox = []) : Downward y t' := by
  obtain ⟨rfl, -, -, -, -, harrived, hgot⟩ := grown
  have hread : y.got ++ t₁.inbox.flatten = x.got ++ t.inbox.flatten := by
    rw [hgot, drawn.inbox, List.append_assoc]
  have hwritten : y.written = x.written ++ passed := outbound.trans s.buffer
  have inbox := aside.inbox
  have unread := aside.kept
  rw [List.append_nil] at inbox unread
  refine ⟨?_, ?_, ?_, ?_, fun hf => ?_, fun hdown => ?_⟩
  · rw [hwritten, down, List.append_assoc, s.carried.bytes, ← List.append_assoc, hx.kept, hgot]
  · rw [down, s.carried.count, hx.count, hgot, List.length_append]
  · rw [down]
    exact s.carried.fits hx.fits
  · rw [harrived]
    exact ((List.prefix_append_right_inj _).2 inbox).trans (hread ▸ hx.part)
  · rw [unread hf, hread, harrived]
    exact hx.whole (drawn.failure ▸ aside.failure hf)
  · obtain ⟨hpending, hsize, hempty⟩ := all (down ▸ hdown)
    rw [down]
    refine ⟨hpending, hsize, fun hf => ?_⟩
    rw [unread hf, hempty]
    rfl

theorem runUp (hx : Downward x t) {s' : Splice} {taken : Bytes} (grown : Grown x y s' taken [] out)
    (ran : UpRun x.splice x.now t taken out s' t') : Downward y t' := by
  cases ran with
  | idle => exact hx.aside grown rfl rfl (.refl t)
  | waits w s going => exact hx.follow grown rfl rfl (fun hf => hf) List.prefix_rfl fun _ => rfl
  | @fails _ _ _ _ _ w _ e s going abort =>
    have paid : Downward x { t with sendWindow := w } := { hx with }
    exact paid.aside grown rfl rfl abort.aside
  | ends s ended pending size empty closed half =>
    exact hx.follow grown rfl rfl half.failure half.inbox fun hf => congrArg List.flatten (half.kept hf)

theorem runDown (hx : Downward x t) {s' : Splice} {got : Bytes} (grown : Grown x y s' [] got out)
    (ran : DownRun x.splice x.now t got out s' t') : Downward y t' := by
  cases ran with
  | idle => exact hx.aside grown rfl rfl (.refl t)
  | waits s going drawn => exact hx.stroke s drawn (.refl _) grown rfl rfl fun hp => absurd hp (by simp [going])
  | fails e s going drawn abort =>
    exact hx.stroke s drawn abort.aside grown rfl rfl fun hp => absurd hp (by simp [going])
  | ends s ended pending size drawn empty =>
    exact hx.stroke s drawn (.refl _) grown rfl rfl fun _ => ⟨pending, size, empty⟩

theorem conclude (hx : Downward x t) {s' : Splice} (grown : Grown x y s' [] [] out)
    (ran : Conclusion x.splice x.now t out s' t') : Downward y t' := by
  cases ran with
  | idle | waits | done => exact hx.aside grown rfl rfl (.refl t)
  | expired _ _ abort => exact hx.aside grown rfl rfl abort.aside

theorem link (hx : Downward x t) (held : Held c h x.splice x.mux t) {e : Event} (free : ¬e.Uses x.mux h)
    (ht' : (x.mux.step e).streams[h]? = some t') :
    Downward { x with mux := x.mux.step e, arrived := x.arrived ++ x.mux.arrivals h e } t' := by
  obtain ⟨t₁, ht₁, aside⟩ := step_aside held.going.sound held.stream free
  obtain rfl := Option.some.inj (ht₁.symm.trans ht')
  by_cases hf : t.failure = none
  · have whole : x.got ++ (t.inbox.flatten ++ x.mux.arrivals h e) = x.arrived ++ x.mux.arrivals h e := by
      rw [← List.append_assoc, hx.whole hf]
    refine { hx with part := ?_, whole := fun hf' => ?_, all := fun hdown => ?_ }
    · exact whole ▸ (List.prefix_append_right_inj _).2 aside.inbox
    · exact (congrArg (x.got ++ ·) (aside.kept hf')).trans whole
    · obtain ⟨hpending, hsize, hempty⟩ := hx.all hdown
      refine ⟨hpending, hsize, fun hf' => ?_⟩
      rw [aside.kept hf', hempty hf, aside.last (held.downEnded hdown) hf']
      rfl
  · -- a stream that has failed is over
    have closed : t.phase = .closed := by
      by_contra hp
      exact hf ((held.going.sound.stream_sound held.stream).shape.failure_eq_none hp)
    have nothing := arrivals_of_closed held.going.sound held.stream closed e
    rw [nothing] at aside ⊢
    have grown : Grown x { x with mux := x.mux.step e, arrived := x.arrived ++ [] } x.splice [] [] [] :=
      ⟨rfl, rfl, rfl, (List.append_nil _).symm, (List.append_nil _).symm, List.append_nil _,
        (List.append_nil _).symm⟩
    exact hx.aside grown rfl rfl aside

end Downward

/-! ## Moves -/

/-- The splice has returned because both directions have ended, or because the time of the second one was
over. -/
def Finished (g : Nat) (x : Splicing) : Prop :=
  (x.splice.up.ended = true ∧ x.splice.down.ended = true) ∨
    ∃ s, x.half = some s ∧ x.returned = some (s + g)

theorem Finished.noted (hx : Finished g x) (splice : y.splice = x.splice) (half : y.half = x.half)
    (returned : y.returned = x.returned) : Finished g y.noted := by
  rcases hx with hboth | ⟨s, hhalf, hreturned⟩
  · exact .inl (splice ▸ hboth)
  · refine .inr ⟨s, ?_, ?_⟩
    · show (y.half <|> _) = some s
      rw [half, hhalf]
      rfl
    · show (y.returned <|> _) = some (s + g)
      rw [returned, hreturned]
      rfl

/-- What is known of a splice in its world about the bytes. -/
structure Exact (c : Config) (h : Mux.Handle) (g : Nat) (l : Bool) (x : Splicing) (t : Mux.Stream) : Prop
    extends Steady c h g x t where
  upward : Upward l x t
  downward : Downward x t
  success : x.splice.result = some (.ok ()) → Finished g x

namespace Exact

theorem up (hx : Exact c h g l x t) : ∃ t', Exact c h g l x.up t' := by
  obtain ⟨out, t', ran, worked, steady⟩ := hx.toSteady.up
  have grown := up_grown hx.held.going worked
  refine ⟨t', steady, hx.upward.runUp grown ran, hx.downward.runUp grown ran, fun hr => ?_⟩
  have same := ran.same_of_ok hr
  exact (hx.success (same ▸ hr)).noted same rfl rfl

theorem down (hx : Exact c h g l x t) (n : Nat) : ∃ t', Exact c h g l (x.down n) t' := by
  obtain ⟨out, t', ran, worked, steady⟩ := hx.toSteady.down n
  have grown := down_grown hx.held.going worked
  refine ⟨t', steady, hx.upward.runDown grown ran, hx.downward.runDown grown ran, fun hr => ?_⟩
  have same := ran.same_of_ok hr
  exact (hx.success (same ▸ hr)).noted same rfl rfl

theorem finished (hx : Exact c h g l x t) {s' : Splice} (ran : Conclusion x.splice x.now t out s' t')
    (hr : s'.result = some (.ok ())) (splice : y.splice = s') (now : y.now = x.now) (half : y.half = x.half)
    (returned : y.returned = x.returned) : Finished g y.noted := by
  cases ran with
  | idle | waits => exact (hx.success hr).noted splice half returned
  | done _ up down =>
    refine .inl ?_
    show y.splice.up.ended = true ∧ y.splice.down.ended = true
    rw [splice]
    exact ⟨up, down⟩
  | expired going due =>
    obtain ⟨s, hs, hnow⟩ := hx.timed.now_of_due going due
    refine .inr ⟨s, ?_, ?_⟩
    · show (y.half <|> _) = some s
      rw [half, hs]
      rfl
    · show (y.returned <|> if y.splice.result.isSome then some y.now else none) = some (s + g)
      rw [returned, hx.timed.not_returned going, splice, hr, now, hnow]
      rfl

theorem conclude (hx : Exact c h g l x t) : ∃ t', Exact c h g l x.conclude t' := by
  obtain ⟨out, t', ran, worked, steady⟩ := hx.toSteady.conclude
  have grown := conclude_grown hx.held.going worked
  exact ⟨t', steady, hx.upward.conclude grown ran, hx.downward.conclude grown ran, fun hr =>
    hx.finished ran hr rfl rfl rfl rfl⟩

theorem poll (hx : Exact c h g l x t) : ∃ t', Exact c h g l x.poll t' := by
  rw [poll_eq]
  obtain ⟨t₁, hup⟩ := hx.up
  obtain ⟨t₂, hdown⟩ := hup.down (x.up.splice.chunks x.up.mux)
  exact hdown.conclude

theorem awaited (hx : Exact c h g l x t) : ∃ t', Exact c h g l x.awaited t' := by
  unfold Splicing.awaited
  split
  · exact hx.poll
  · exact ⟨t, hx⟩

theorem step (hx : Exact c h g l x t) (move : Move) : ∃ t', Exact c h g l (x.step move) t' := by
  obtain ⟨t', steady⟩ := hx.toSteady.step move
  cases move with
  | say b =>
    rw [Splicing.step] at steady ⊢
    split
    · exact ⟨t, hx⟩
    · rename_i more
      rw [if_neg more] at steady
      obtain rfl := Option.some.inj (hx.held.stream.symm.trans steady.held.stream)
      exact ⟨t, steady, hx.upward.say (Bool.not_eq_true _ ▸ more) b, { hx.downward with }, hx.success⟩
  | endOfInput =>
    obtain rfl := Option.some.inj (hx.held.stream.symm.trans steady.held.stream)
    exact ⟨t, steady, hx.upward.endOfInput, { hx.downward with }, hx.success⟩
  | room | hangUp | breakReading | breakWriting | sendQueue =>
    obtain rfl := Option.some.inj (hx.held.stream.symm.trans steady.held.stream)
    exact ⟨t, steady, { hx.upward with }, { hx.downward with }, hx.success⟩
  | link e =>
    rw [Splicing.step] at steady ⊢
    split
    · exact ⟨t, hx⟩
    · rename_i free
      rw [if_neg free] at steady
      rw [hx.held.handle] at free steady ⊢
      have ht' := steady.held.stream
      exact ⟨t', steady, hx.upward.link hx.held free ht', hx.downward.link hx.held free ht', hx.success⟩
  | up => exact hx.up
  | down n => exact hx.down n
  | poll => exact hx.poll
  | tick =>
    obtain ⟨t₁, exact⟩ := hx.awaited
    obtain rfl := Option.some.inj (exact.held.stream.symm.trans steady.held.stream)
    exact ⟨t₁, steady, { exact.upward with }, { exact.downward with }, exact.success⟩

theorem run (hx : Exact c h g l x t) (moves : List Move) : ∃ t', Exact c h g l (x.run moves) t' := by
  induction moves generalizing x t with
  | nil => exact ⟨t, hx⟩
  | cons move moves ih =>
    obtain ⟨t₁, hx₁⟩ := hx.step move
    exact ih hx₁

end Exact

theorem start_exact {m : Mux} (hm : Going c m) (ht : m.streams[h]? = some t) (grace : Duration) :
    Exact c h grace.ticks t.localClosed (start m h grace) t := by
  have unended (p : Prop) (hp : false = true) : p := absurd hp Bool.false_ne_true
  have arrived : (start m h grace).arrived = t.inbox.flatten := by
    rw [start, stream_of_getElem? ht]
  exact {
    toSteady := start_steady hm ht grace
    upward := ⟨List.prefix_rfl, rfl, rfl, Nat.le_refl 0, fun _ => ⟨rfl, rfl⟩, fun _ => ⟨unended_nil, rfl⟩,
      unended _, fun _ => unended _⟩
    downward := ⟨rfl, rfl, Nat.le_refl 0, arrived ▸ List.prefix_rfl, fun _ => arrived.symm, unended _⟩
    success := fun hr => absurd hr.symm (Option.some_ne_none _) }

namespace Exact

/-- If the stream is closed on both sides, and was not when the splice started, the splice has copied all that
the socket has given. -/
theorem upEnded (hx : Exact c h g false x t) (hr : x.splice.result = some (.ok ())) (hf : t.failure = none) :
    x.splice.up.ended = true := by
  by_contra hgoing
  rw [Bool.not_eq_true] at hgoing
  have hphase := hx.held.released (hr ▸ rfl)
  have shape := (hx.held.going.sound.stream_sound hx.held.stream).shape
  have hclosed := shape.localClosed_of_mute (.inr hphase) hf
  rw [(hx.upward.going hgoing).2] at hclosed
  cases hclosed

end Exact

/-- **A splice copies exactly, and counts what it has copied.** Let a splice run on any stream of a
multiplexer, with any schedule of what its socket gives and takes, of failures of the socket, of frames, credit
and other calls, and of its own two directions. At any time, what it has queued as data is the front of what it
has read from the socket, what it has written to the socket is the front of what it has read from the stream,
and neither counter is ahead of that. Suppose that it has returned with success and its stream has no failure.
Then, if this side's direction of the stream was open when the splice started, it has queued everything up to
the end of the socket, and one close with that; and unless its time, the grace rounded up to whole
milliseconds, was over while the other direction was still going on, it has written everything up to the end
of the stream. The counters are exact then. -/
theorem splice_copies (role : Role) (c : Config) (before : List Event) (h : Mux.Handle) (grace : Duration)
    (moves : List Move) (given : h < ((fresh role c).run before).streams.length) :
    let m := (fresh role c).run before
    let x := (start m h grace).run moves
    let t := x.mux.stream h
    (bytesIn x.queued <+: x.taken ∧ x.taken <+: x.said) ∧
    (x.written <+: x.got ∧ x.got <+: x.arrived) ∧
    (x.splice.up.moved ≤ (bytesIn x.queued).length ∧ x.splice.down.moved ≤ x.written.length) ∧
    ((m.stream h).localClosed = false → x.splice.result = some (.ok ()) → t.failure = none →
      (x.ended = true ∧ Told x.queued t.id x.said ∧ x.splice.up.moved = x.said.length) ∧
      ((t.remoteClosed = true ∧ x.written = x.arrived ∧ x.splice.down.moved = x.arrived.length) ∨
        (x.splice.down.ended = false ∧
          ∃ s, x.half = some s ∧ x.returned = some (s + grace.ticks)))) := by
  intro m x t
  have ht := List.getElem?_eq_getElem given
  obtain ⟨t', hx⟩ := (start_exact (going_run role c before) ht grace).run moves
  rw [← stream_of_getElem? ht] at hx
  obtain rfl : t = t' := stream_of_getElem? hx.held.stream
  have upward := hx.upward
  have downward := hx.downward
  refine ⟨⟨⟨_, upward.kept⟩, upward.part⟩, ⟨⟨_, downward.kept⟩, ?_⟩, ⟨upward.counted, downward.counted⟩,
    fun hopen hr hf => ⟨?_, ?_⟩⟩
  · exact (List.prefix_append _ _).trans downward.part
  · rw [hopen] at hx
    have hup := hx.upEnded hr hf
    obtain ⟨-, hsize, htaken, hended⟩ := upward.all hup
    refine ⟨hended, upward.told hopen hup hf, ?_⟩
    rw [← htaken, ← upward.count, hsize, Nat.add_zero]
  · cases hdown : x.splice.down.ended with
    | true =>
      obtain ⟨hpending, hsize, hempty⟩ := downward.all hdown
      have hgot : x.got = x.arrived := by
        rw [← downward.whole hf, hempty hf, List.append_nil]
      refine .inl ⟨hx.held.downEnded hdown, ?_, ?_⟩
      · rw [← hgot, ← downward.kept, hpending, List.append_nil]
      · rw [← hgot, ← downward.count, hsize, Nat.add_zero]
    | false =>
      rcases hx.success hr with ⟨-, hboth⟩ | hexpired
      · rw [hdown] at hboth
        cases hboth
      · exact .inr ⟨rfl, hexpired⟩

/-- Both directions run in pieces, and both end in time. -/
theorem both_directions_end :
    let m := (fresh .initiator {}).run confirmedStream
    let moves : List Move :=
      [.say [1, 2, 3], .link (.frame ⟨.data, 1, [4, 5]⟩), .room 1, .poll, .endOfInput, .up,
        .link (.frame ⟨.data, 1, [6]⟩), .tick, .room 4, .down 1, .link (.frame (closeFrame 1 .normal)), .poll]
    let x := (start m 0 (.ofMillis 10)).run moves
    let t := x.mux.stream 0
    0 < m.streams.length ∧ (m.stream 0).localClosed = false ∧ x.splice.result = some (.ok ()) ∧
      t.failure = none ∧ x.said = [1, 2, 3] ∧ Told x.queued t.id x.said ∧ x.splice.up.moved = x.said.length ∧
      t.remoteClosed = true ∧ x.written = [4, 5, 6] ∧ x.splice.down.moved = 3 := by
  intro m moves x t
  have given : 0 < m.streams.length := by decide +kernel
  have hopen : (m.stream 0).localClosed = false := by decide +kernel
  have hr : x.splice.result = some (.ok ()) := by decide +kernel
  have hf : t.failure = none := by decide +kernel
  have harrived : x.arrived = [4, 5, 6] := by decide +kernel
  obtain ⟨-, -, -, hsuccess⟩ := splice_copies .initiator {} confirmedStream 0 (.ofMillis 10) moves given
  obtain ⟨⟨-, told, hup⟩, ⟨hremote, hwritten, hdown⟩ | ⟨hgoing, -⟩⟩ := hsuccess hopen hr hf
  · exact ⟨given, hopen, hr, hf, by decide +kernel, told, hup, hremote, hwritten.trans harrived,
      hdown.trans (congrArg List.length harrived)⟩
  · have hended : x.splice.down.ended = true := by decide +kernel
    cases hended.symm.trans hgoing

/-- A stream that both sides have ended can hold bytes that a slow socket has not taken in time. There is
nothing left to be reset then, so the splice succeeds and the stream has no failure, but two bytes that had
arrived before its end are lost and none of the others is counted. -/
theorem slow_reader_is_cut_off :
    let m := (fresh .initiator {}).run confirmedStream
    let moves : List Move :=
      [.endOfInput, .poll, .room 2, .link (.frame ⟨.data, 1, [1, 2, 3, 4]⟩),
        .link (.frame (closeFrame 1 .normal)), .poll, .tick, .tick, .poll]
    let x := (start m 0 (.ofMillis 2)).run moves
    let t := x.mux.stream 0
    (m.stream 0).localClosed = false ∧ x.splice.result = some (.ok ()) ∧ t.failure = none ∧
      t.remoteClosed = true ∧ x.arrived = [1, 2, 3, 4] ∧ x.written = [1, 2] ∧ x.splice.down.moved = 0 := by
  decide +kernel

end SealedRelay.Splicing
