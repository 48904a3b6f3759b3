import SealedRelay.Proofs.Mux.Apart

/-!
# A stream with one user

One task has a stream to itself: nobody else writes to it, reads from it or ends this side's direction. All
other things may happen, to the stream and around it: frames arrive, it is reset from either side, its
connection fails. None of them ends this side's direction or takes away bytes that have arrived, unless the
stream fails.

Results:
* `Turn.aside`: what a turn that is not the user's does to the stream.
* `frame_aside`, `call_aside`: what frames do to it, and calls of everybody else.
* `step_aside`: what any event that is not the user's does to it.
-/
namespace SealedRelay.Mux

variable {role : Role} {c : Config} {m m' : Mux} {h : Handle} {s s' s'' : Stream} {d : Deed} {e : Event}
  {out : List Frame} {bytes : Bytes}

/-- A call that writes to the stream behind `h`, reads from it or ends this side's direction. -/
def Event.Uses (m : Mux) (h : Handle) : Event → Prop
  | .call (.send k _) | .call (.read k) | .call (.halfClose k) => k = h
  | .call (.sendTo id _) => m.lookup id = some h
  | .call (.closeStream id reason) => m.lookup id = some h ∧ reason = .normal
  | _ => False

instance (m : Mux) (h : Handle) (e : Event) : Decidable (e.Uses m h) := by
  unfold Event.Uses
  split <;> infer_instance

/-- The bytes that an event brings for the stream behind `h`. -/
def arrivals (m : Mux) (h : Handle) : Event → Bytes
  | .frame f => if m.lookup f.stream = some h then f.bytes else []
  | .call _ => []

/-- `s'` is `s` after something that its user has not done, and that brought `bytes`. -/
structure Stream.Aside (s s' : Stream) (bytes : Bytes) : Prop where
  localClosed : s'.localClosed = s.localClosed
  remoteClosed : s.remoteClosed = true → s'.remoteClosed = true
  failure : s'.failure = none → s.failure = none
  kept : s'.failure = none → s'.inbox.flatten = s.inbox.flatten ++ bytes
  inbox : s'.inbox.flatten <+: s.inbox.flatten ++ bytes
  /-- Bytes that come after the end are an error. -/
  last : s.remoteClosed = true → s'.failure = none → bytes = []

namespace Stream.Aside

theorem refl (s : Stream) : Aside s s [] where
  localClosed := rfl
  remoteClosed hr := hr
  failure hf := hf
  kept _ := (List.append_nil _).symm
  inbox := List.prefix_append _ _
  last _ _ := rfl

theorem trans (a : Aside s s' []) (b : Aside s' s'' []) : Aside s s'' [] where
  localClosed := b.localClosed.trans a.localClosed
  remoteClosed := b.remoteClosed ∘ a.remoteClosed
  failure := a.failure ∘ b.failure
  kept hf := by rw [b.kept hf, List.append_nil, a.kept (b.failure hf)]
  inbox := by
    have hb := b.inbox
    rw [List.append_nil] at hb
    exact hb.trans a.inbox
  last _ _ := rfl

theorem terminated (s : Stream) (e : LinkError) (bytes : Bytes) : Aside s (s.terminated e) bytes where
  localClosed := s.localClosed_terminated e
  remoteClosed hr := (s.remoteClosed_terminated e).trans hr
  failure hf := absurd hf (s.failure_terminated_ne_none e)
  kept hf := absurd hf (s.failure_terminated_ne_none e)
  inbox := by
    rw [inbox_terminated]
    exact List.nil_prefix
  last _ hf := absurd hf (s.failure_terminated_ne_none e)

end Stream.Aside

/-- What the user of a stream does. -/
def Deed.IsUse : Deed → Prop
  | .sent _ | .took _ | .halfClosed => True
  | _ => False

theorem Turn.aside (t : Turn role c s d out s') (other : ¬d.IsUse) : s.Aside s' (bytesIn d.frames) where
  localClosed := by
    cases t with
    | send | take | takeAndGrant | halfClose => exact (other trivial).elim
    | _ => simp [Stream.credited]
  remoteClosed hr := by
    cases t with
    | finish => rfl
    | _ => simpa [Stream.credited] using hr
  failure hf := (t.inbox_eq hf).1
  kept hf := by
    have htaken : d.bytesTaken = [] := by cases d <;> first | rfl | exact (other trivial).elim
    rw [(t.inbox_eq hf).2, htaken, List.nil_append]
  inbox := by
    have htaken : d.bytesTaken = [] := by cases d <;> first | rfl | exact (other trivial).elim
    have hprefix := t.inbox_isPrefix
    rwa [htaken] at hprefix
  last hr hf := by
    cases t with
    | data _ _ going => exact absurd going (by simp [hr])
    | excess | refusal | tear => exact absurd hf (Stream.failure_terminated_ne_none _ _)
    | finish kind | confirm kind | early kind | credit kind => simp [Deed.frames, Frame.bytes, kind]
    | _ => rfl

/-- What anybody may do: confirm a stream, give up waiting for it or tear it down. -/
def Deed.IsControl : Deed → Prop
  | .accepted | .expired | .aborted _ => True
  | _ => False

/-- An operation that changes nothing or is a turn with such a deed. -/
theorem aside_of_cases (hs : m.streams[h]? = some s) (hc : m' = m ∨ Turned m m' h d)
    (control : d.IsControl) : ∃ s', m'.streams[h]? = some s' ∧ s.Aside s' [] := by
  rcases hc with rfl | ⟨stream, turn, moved, -⟩
  · exact ⟨s, hs, .refl s⟩
  · obtain rfl := Option.some.inj (hs.symm.trans stream)
    refine ⟨_, moved.getElem?_self hs, ?_⟩
    cases d with
    | accepted | expired | aborted => exact turn.aside fun use => use
    | sent | took | halfClosed | failed | arrived => exact control.elim

theorem resets_aside (hs : m.streams[h]? = some s) (resets : Relation.ReflTransGen Reset m m') :
    ∃ s', m'.streams[h]? = some s' ∧ s.Aside s' [] := by
  induction resets with
  | refl => exact ⟨s, hs, .refl s⟩
  | @tail m₁ m₂ _ reset ih =>
    obtain ⟨s₁, hs₁, aside⟩ := ih
    obtain ⟨k, turned⟩ := reset
    by_cases hk : h = k
    · subst hk
      obtain ⟨s', hs', aside'⟩ := aside_of_cases hs₁ (.inr turned) trivial
      exact ⟨s', hs', aside.trans aside'⟩
    · obtain ⟨-, -, moved, -⟩ := turned
      exact ⟨s₁, (moved.getElem?_other hk).trans hs₁, aside⟩

/-! ## Frames -/

theorem arrivals_of_bytes {f : Frame} (hf : f.bytes = []) : m.arrivals h (.frame f) = [] := by
  rw [arrivals, hf, ite_self]

theorem arrivals_of_kind {f : Frame} (hk : f.kind ≠ .data) : m.arrivals h (.frame f) = [] :=
  arrivals_of_bytes (if_neg hk)

theorem arrivals_of_closed (hm : m.Sound) (hs : m.streams[h]? = some s) (closed : s.phase = .closed) (e : Event) :
    m.arrivals h e = [] := by
  cases e with
  | call => rfl
  | frame f =>
    refine if_neg fun hl => ?_
    obtain ⟨t, ht, -, live⟩ := hm.lookup_eq_some_iff.1 hl
    obtain rfl := Option.some.inj (hs.symm.trans ht)
    exact live closed

theorem opening_aside (hm : m.Sound) (hs : m.streams[h]? = some s) {f : Frame} (hk : f.kind = .opening) :
    (m.receive f).2.streams[h]? = some s := by
  have hlt := (List.getElem?_eq_some_iff.1 hs).1
  rcases receive_opening hm hk with ⟨hsame, -⟩ | ⟨queued, -⟩ | ⟨-, -, -, -, d, m₁, inserted, hend⟩
  · rw [hsame, hs]
  · rw [queued.streams, hs]
  · have hold : m₁.streams[h]? = some s := by
      rw [inserted.streams, List.getElem?_append_left hlt, hs]
    rcases hend with hsame | ⟨-, -, moved, -⟩
    · rw [hsame, hold]
    · exact (moved.getElem?_other (Nat.ne_of_lt hlt)).trans hold

theorem frame_aside (hm : m.Sound) (hs : m.streams[h]? = some s) (f : Frame) :
    ∃ s', (m.receive f).2.streams[h]? = some s' ∧ s.Aside s' (m.arrivals h (.frame f)) := by
  by_cases hping : f.kind = .ping
  · obtain ⟨_, -, queued⟩ := receive_ping m hping
    rw [arrivals_of_kind (by simp [hping])]
    exact ⟨s, queued.streams ▸ hs, .refl s⟩
  by_cases hopen : f.kind = .opening
  · rw [arrivals_of_kind (by simp [hopen])]
    exact ⟨s, opening_aside hm hs hopen, .refl s⟩
  rcases receive_cases hm hopen hping with ⟨hsame, hdropped⟩ | ⟨k, hl, stream, turn, moved, -⟩
  · have hnothing : m.arrivals h (.frame f) = [] := by
      rcases hdropped with hgarbled | hnone
      · exact arrivals_of_bytes hgarbled.bytes
      · simp [arrivals, hnone]
    rw [hnothing, hsame]
    exact ⟨s, hs, .refl s⟩
  by_cases hk : h = k
  · subst hk
    obtain rfl := Option.some.inj (hs.symm.trans stream)
    have aside := turn.aside fun use => use
    rw [Deed.frames, bytesIn_cons, bytesIn_nil, List.append_nil] at aside
    rw [arrivals, if_pos hl]
    exact ⟨_, moved.getElem?_self hs, aside⟩
  · have hother : m.lookup f.stream ≠ some h := fun hl' => hk (Option.some.inj (hl'.symm.trans hl))
    rw [arrivals, if_neg hother]
    exact ⟨s, (moved.getElem?_other hk).trans hs, .refl s⟩

/-! ## Calls -/

theorem aside_of_apart {k : Handle} {id : StreamId} (hs : m.streams[h]? = some s) (hk : h ≠ k)
    (apart : Apart k id m m') : ∃ s', m'.streams[h]? = some s' ∧ s.Aside s' [] :=
  ⟨s, (apart.streams h hk).trans hs, .refl s⟩

theorem abort_aside (hm : m.Sound) (hs : m.streams[h]? = some s) (k : Handle) (reason : CloseReason) :
    ∃ s', (m.abort k reason).streams[h]? = some s' ∧ s.Aside s' [] := by
  by_cases hk : h = k
  · subst hk
    exact aside_of_cases hs (abort_cases hm h reason) trivial
  · exact aside_of_apart hs hk (.abort m k reason)

theorem call_aside (hm : m.Sound) (hs : m.streams[h]? = some s) {c : Call}
    (free : ¬(Event.call c).Uses m h) : ∃ s', (c.run m).2.streams[h]? = some s' ∧ s.Aside s' [] := by
  have hlt := (List.getElem?_eq_some_iff.1 hs).1
  cases c with
  | openStream d => exact aside_of_apart hs (Nat.ne_of_lt hlt) (.openStream m d)
  | send k data =>
    rw [Call.run, noteSent_snd]
    exact aside_of_apart hs (Ne.symm free) (.send m k data)
  | read k =>
    rw [Call.run, noteRead_snd]
    exact aside_of_apart hs (Ne.symm free) (.read m k)
  | halfClose k => exact aside_of_apart hs (Ne.symm free) (.halfClose m k)
  | sendTo id data =>
    rw [Call.run, noteSent_snd, sendTo]
    split
    · exact ⟨s, hs, .refl s⟩
    · rename_i k hl
      have hk : h ≠ k := fun hk => free (hk ▸ hl)
      exact aside_of_apart hs hk (.send m k data)
  | closeStream id reason =>
    simp only [Call.run, closeStream]
    split
    · exact ⟨s, hs, .refl s⟩
    rename_i k hl
    split
    · exact abort_aside hm hs k reason
    · rename_i hmild
      have hnormal : reason = .normal := by simpa [CloseReason.isAbort] using hmild
      have hk : h ≠ k := fun hk => free ⟨hk ▸ hl, hnormal⟩
      exact aside_of_apart hs hk (.halfClose m k)
  | abort k reason => exact abort_aside hm hs k reason
  | dropHandle k => exact abort_aside hm hs k .reset
  | accept k =>
    simp only [Call.run]
    split
    · rename_i hr
      by_cases hk : h = k
      · subst hk
        exact aside_of_cases hs (accept_cases h hr) trivial
      · exact aside_of_apart hs hk (.accept m k)
    · exact ⟨s, hs, .refl s⟩
  | expireOpen k =>
    simp only [Call.run]
    split
    · rename_i hr
      by_cases hk : h = k
      · subst hk
        exact aside_of_cases hs (expireOpen_cases hm h hr) trivial
      · exact aside_of_apart hs hk (.expireOpen m k)
    · exact ⟨s, hs, .refl s⟩
  | nextIncoming =>
    simp only [Call.run, nextIncoming]
    split <;> exact ⟨s, hs, .refl s⟩
  | dropIncoming =>
    obtain ⟨m₀, queued, resets⟩ := dropIncoming_resets hm
    exact resets_aside (queued.streams ▸ hs) resets
  | ping => exact ⟨s, (streams_emitAll m _).symm ▸ hs, .refl s⟩
  | failAll cause =>
    refine ⟨s.failing cause, ?_, ?_⟩
    · show (m.failAll cause).streams[h]? = _
      rw [(failAll_failed hm cause).streams, List.getElem?_map, hs]
      rfl
    · unfold Stream.failing
      split
      · exact .refl s
      · exact .terminated s cause []

/-- Whatever happens that is not the user's doing. -/
theorem step_aside (hm : m.Sound) (hs : m.streams[h]? = some s) (free : ¬e.Uses m h) :
    ∃ s', (m.step e).streams[h]? = some s' ∧ s.Aside s' (m.arrivals h e) := by
  cases e with
  | call c => exact call_aside hm hs free
  | frame f => exact frame_aside hm hs f

end SealedRelay.Mux
