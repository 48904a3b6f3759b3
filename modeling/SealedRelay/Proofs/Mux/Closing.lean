import SealedRelay.Proofs.Mux.Apart
import SealedRelay.Proofs.Mux.OpenCall

/-!
# Closing twice is closing once

The own program can close a stream in several ways: by its number, by its handle in one direction or in both,
by letting go of the handle, and by letting go of the queue in which the handle still waits. What a close does
depends on the phase: it ends one direction, or both, or nothing is left to end. So this side says once at
most that its direction has ended, and once at most, after that, that the whole stream is over.

Results:
* `abort_of_closed`, `halfClose_of_mute`: closes that find nothing to do.
* `closed_of_closeStream`: after an abort no stream with the number is live.
* `Parted`, `closes_parted`: what one close queues for its stream, and the phase in which it leaves it.
* `Phase.partings`, `closedOn_sublist`: the closes that are still to come from a phase.
* `closing_idempotent`: all of it, for any state and any run.
-/
namespace SealedRelay.Mux

variable {c : Config} {m m' : Mux} {h k : Handle} {s s' : Stream} {id : StreamId} {e : Event} {out : List Frame}
  {reason : CloseReason}

/-! ## Closes that find nothing to do -/

theorem abort_of_closed (hp : (m.stream h).phase = .closed) (reason : CloseReason) :
    m.abort h reason = m := by
  unfold abort
  dsimp only
  rw [if_pos hp]

theorem halfClose_of_mute (hp : (m.stream h).phase = .localClosing ∨ (m.stream h).phase = .closed) :
    m.halfClose h = m := by
  unfold halfClose
  rcases hp with hp | hp <;> simp only [hp]

theorem phase_abort (hm : m.Sound) (h : Handle) (reason : CloseReason) :
    ((m.abort h reason).stream h).phase = .closed := by
  rcases abort_cases hm h reason with hsame | ⟨stream, turn, moved, -⟩
  · by_contra hp
    -- a live stream is not left as it is
    have hkill : m.abort h reason = m.kill h (.streamClosed (m.stream h).id)
        (if m.isFailed then none else some reason) := if_neg (hsame ▸ hp)
    rcases stream_cases m h with habsent | ⟨s, hs, -⟩
    · rw [hsame, habsent] at hp
      exact hp rfl
    · have moved := kill_moved hm hs (.streamClosed (m.stream h).id)
        (if m.isFailed then none else some reason)
      rw [← hkill] at moved
      rw [moved.stream_self hs, Stream.phase_terminated] at hp
      exact hp rfl
  · rw [moved.stream_self stream]
    cases turn with
    | abort => exact Stream.phase_terminated _ _

theorem phase_halfClose (hm : m.Sound) (h : Handle) :
    ((m.halfClose h).stream h).phase = .localClosing ∨ ((m.halfClose h).stream h).phase = .closed := by
  rcases stream_cases m h with habsent | ⟨s, hs, hstream⟩
  · rw [halfClose_of_mute (.inr (by rw [habsent]; rfl)), habsent]
    exact .inr rfl
  cases hp : s.phase with
  | closed | localClosing =>
    rw [halfClose_of_mute (by simp [hstream, hp]), hstream, hp]
    simp
  | pendingOpen =>
    have habort : m.halfClose h = m.abort h .reset := by simp only [halfClose, hstream, hp]
    exact .inr (habort ▸ phase_abort hm h .reset)
  | open_ | remoteClosing =>
    obtain ⟨stream, turn, moved, -⟩ := halfClose_turned hm hs (by simp [hp])
    rw [moved.stream_self stream]
    cases turn with
    | halfClose => exact (ite_eq_or_eq _ _ _).symm

/-! ## Closes by number -/

theorem lookup_eq_none_of_closed (hm : m.Sound)
    (closed : ∀ h, (m.stream h).id = id → (m.stream h).phase = .closed) : m.lookup id = none := by
  refine Option.eq_none_iff_forall_ne_some.2 fun h hl => ?_
  obtain ⟨s, hs, hid, hlive⟩ := hm.lookup_eq_some_iff.1 hl
  rw [← stream_of_getElem? hs] at hid hlive
  exact hlive (closed h hid)

theorem closed_of_lookup (hm : m.Sound) (hl : m.lookup id = none) (hid : (m.stream h).id = id) :
    (m.stream h).phase = .closed := by
  rcases stream_cases m h with habsent | ⟨s, hs, hstream⟩
  · rw [habsent]
    rfl
  · by_contra hlive
    rw [hstream] at hid hlive
    cases hl.symm.trans (hm.lookup_eq_some_iff.2 ⟨s, hs, hid, hlive⟩)

/-- After an abort no stream with the number is live. -/
theorem closed_of_closeStream (hm : m.Sound) (harsh : reason.isAbort = true) (h : Handle)
    (hid : ((m.closeStream id reason).stream h).id = id) :
    ((m.closeStream id reason).stream h).phase = .closed := by
  cases hl : m.lookup id with
  | none =>
    have hsame : m.closeStream id reason = m := by simp only [closeStream, hl]
    rw [hsame] at hid ⊢
    exact closed_of_lookup hm hl hid
  | some k =>
    have habort : m.closeStream id reason = m.abort k reason := by
      simp only [closeStream, hl, if_pos harsh]
    rw [habort] at hid ⊢
    by_cases hk : h = k
    · rw [hk]
      exact phase_abort hm k reason
    · have hstream : (m.abort k reason).stream h = m.stream h := by
        rw [stream, stream, List.getD_eq_getElem?_getD, List.getD_eq_getElem?_getD,
          (Apart.abort m k reason).streams h hk]
      rw [hstream] at hid ⊢
      rcases stream_cases m h with habsent | ⟨s, hs, hs'⟩
      · rw [habsent]
        rfl
      · by_contra hlive
        rw [hs'] at hid hlive
        -- two live streams do not have the same number
        have hself := hm.lookup_eq_some_iff.2 ⟨s, hs, hid, hlive⟩
        exact hk (Option.some.inj (hself.symm.trans hl))

theorem sound_closeStream (hm : m.Sound) (id : StreamId) (reason : CloseReason) :
    (m.closeStream id reason).Sound :=
  (change_closeStream hm id reason).sound hm

/-- Ending this side's direction twice is ending it once. -/
theorem closeStream_normal_twice (hm : m.Sound) (id : StreamId) :
    (m.closeStream id .normal).closeStream id .normal = m.closeStream id .normal := by
  cases hl : m.lookup id with
  | none =>
    have hsame : m.closeStream id .normal = m := by simp only [closeStream, hl]
    rw [hsame, hsame]
  | some h =>
    have hclose : m.closeStream id .normal = m.halfClose h := by
      simp only [closeStream, hl]
      rfl
    have hsound : (m.halfClose h).Sound := hclose ▸ sound_closeStream hm id .normal
    rw [hclose]
    cases hl' : (m.halfClose h).lookup id with
    | none => simp only [closeStream, hl']
    | some k =>
      have hmute := phase_halfClose hm h
      have hself : k = h := by
        by_contra hk
        -- another stream was there before, with the same number
        have hin := ((Apart.halfClose m h).table id k hk).1 (mem_of_lookup hl')
        rw [lookup, lookup_of_mem hm.nodup hin] at hl
        exact hk (Option.some.inj hl)
      rw [hself] at hl'
      simp only [closeStream, hl']
      exact halfClose_of_mute hmute

/-! ## What one close queues -/

/-- What a call that ends the stream `s` from this side may do to it: it becomes `s'`, and the frames are
queued for it. -/
inductive Parted (s : Stream) : List Frame → Stream → Prop where
  | still (s' : Stream) : Parted s [] s'
  | mild {s' : Stream} (phase : s.phase = .open_ ∨ s.phase = .remoteClosing)
      (mute : s'.phase = .localClosing ∨ s'.phase = .closed) : Parted s [closeFrame s.id .normal] s'
  | harsh {s' : Stream} {reason : CloseReason} (abort : reason.isAbort = true) (live : s.phase ≠ .closed)
      (closed : s'.phase = .closed) : Parted s [closeFrame s.id reason] s'

def Deed.Parts : Deed → Prop
  | .halfClosed | .expired => True
  | .aborted reason => reason.isAbort = true
  | _ => False

theorem Turn.parted {role : Role} {d : Deed} (t : Turn role c s d out s') (own : d.Parts) :
    Parted s out s' := by
  cases t with
  | send | take | takeAndGrant | accept | fail | data | excess | refusal | tear | finish | confirm
  | early | credit => exact own.elim
  | halfClose phase => exact .mild phase (ite_eq_or_eq _ _ _).symm
  | abort live => exact .harsh own live (Stream.phase_terminated _ _)
  | expire _ pending => exact .harsh rfl (by simp [pending]) rfl

theorem queued_of_same (hsame : m.step e = m) : m.queued [e] = [] := by
  unfold queued run
  rw [List.foldl_cons, List.foldl_nil, hsame, List.drop_length]

theorem Moved.queued (moved : Moved m (m.step e) h out s') (hs : m.sending = true) :
    m.queued [e] = out := by
  unfold Mux.queued run
  rw [List.foldl_cons, List.foldl_nil, moved.outbound hs, List.drop_left]

theorem Parted.filter (p : Parted s out s') : out.filter (·.stream = s.id) = out := by
  cases p <;> simp [closeFrame]

/-- The event ends the stream `s` behind `h` from this side, or leaves it alone. -/
def EndsOnce (m : Mux) (h : Handle) (s : Stream) (e : Event) : Prop :=
  ∃ s', (m.step e).streams[h]? = some s' ∧ Parted s ((m.queued [e]).filter (·.stream = s.id)) s'

theorem endsOnce_of_same (hs : m.streams[h]? = some s) (hsame : m.step e = m) : m.EndsOnce h s e := by
  unfold EndsOnce
  rw [queued_of_same hsame, hsame]
  exact ⟨s, hs, .still s⟩

theorem endsOnce_of_turned (sending : m.sending = true) (hs : m.streams[h]? = some s) {d : Deed}
    (t : Turned m (m.step e) h d) (own : d.Parts) : m.EndsOnce h s e := by
  obtain ⟨stream, turn, moved, -⟩ := t
  obtain rfl := Option.some.inj (hs.symm.trans stream)
  have parted := turn.parted own
  refine ⟨_, moved.getElem?_self hs, ?_⟩
  rw [moved.queued sending, parted.filter]
  exact parted

theorem endsOnce_abort (hm : m.Sound) (sending : m.sending = true) (hs : m.streams[h]? = some s)
    (harsh : reason.isAbort = true) (hrun : m.step e = m.abort h reason) : m.EndsOnce h s e := by
  rcases abort_cases hm h reason with hsame | turn
  · exact endsOnce_of_same hs (hrun.trans hsame)
  · rw [← hrun] at turn
    exact endsOnce_of_turned sending hs turn harsh

theorem endsOnce_halfClose (hm : m.Sound) (sending : m.sending = true) (hs : m.streams[h]? = some s)
    (hrun : m.step e = m.halfClose h) : m.EndsOnce h s e := by
  rcases halfClose_cases hm h with hsame | turn | turn
  · exact endsOnce_of_same hs (hrun.trans hsame)
  · rw [← hrun] at turn
    exact endsOnce_of_turned sending hs turn trivial
  · rw [← hrun] at turn
    exact endsOnce_of_turned sending hs turn rfl

/-! ### Letting go of the queue -/

/-- `m'` is `m` with some streams torn down from this side. The stream `s` behind `h` is what it was, or it is
one of them. -/
structure Swept (h : Handle) (s : Stream) (m m' : Mux) (out : List Frame) : Prop where
  sound : m'.Sound
  sending : m'.sending = true
  outbound : m'.outbound = m.outbound ++ out
  live : ∀ (k : Handle) t, m'.streams[k]? = some t → t.phase ≠ .closed → m.streams[k]? = some t
  own : (m'.streams[h]? = some s ∧ out.filter (·.stream = s.id) = []) ∨
    ∃ s', m'.streams[h]? = some s' ∧ s'.phase = .closed ∧
      out.filter (·.stream = s.id) = [closeFrame s.id .reset]

/-- As no two live streams have the same number, only the frame of the stream itself has its number. -/
theorem Swept.reset (sw : Swept h s m m' out) (hm : m.Sound) (hs : m.streams[h]? = some s)
    (live : s.phase ≠ .closed) {m'' : Mux} (r : Reset m' m'') : ∃ out', Swept h s m m'' out' := by
  obtain ⟨k, turned⟩ := r
  have sound := sw.sound.turned turned
  obtain @⟨t, t', fs, stream, turn, moved, -⟩ := turned
  cases turn with
  | abort hlive =>
  have hold : m.streams[k]? = some t := sw.live k t stream hlive
  have hlives (i : Handle) (u : Stream) (hu : m''.streams[i]? = some u) (hp : u.phase ≠ .closed) :
      m.streams[i]? = some u := by
    by_cases hi : i = k
    · rw [hi, moved.getElem?_self stream] at hu
      cases hu
      exact absurd (Stream.phase_terminated _ _) hp
    · exact sw.live i u ((moved.getElem?_other hi).symm.trans hu) hp
  refine ⟨out ++ [closeFrame t.id .reset], sound, moved.sending.trans sw.sending, ?_, hlives, ?_⟩
  · rw [moved.outbound sw.sending, sw.outbound, List.append_assoc]
  by_cases hk : k = h
  · subst hk
    obtain rfl := Option.some.inj (hold.symm.trans hs)
    rcases sw.own with ⟨-, hnone⟩ | ⟨s', hs', closed, -⟩
    · refine .inr ⟨_, moved.getElem?_self stream, Stream.phase_terminated _ _, ?_⟩
      rw [List.filter_append, hnone, List.nil_append]
      simp [closeFrame]
    · cases stream.symm.trans hs'
      exact absurd closed hlive
  · have hid : t.id ≠ s.id := fun hid => hk (hm.handle_unique hold hs hlive live hid.symm)
    have hother : [closeFrame t.id .reset].filter (·.stream = s.id) = [] := by
      simp [closeFrame, hid]
    rw [List.filter_append, hother, List.append_nil, moved.getElem?_other (Ne.symm hk)]
    exact sw.own

theorem foldl_dropHandle_swept (hm : m.Sound) (sending : m.sending = true) (hs : m.streams[h]? = some s)
    (live : s.phase ≠ .closed) (handles : List Handle) :
    ∃ out, Swept h s m (handles.foldl dropHandle m) out := by
  have resets := foldl_dropHandle hm handles
  generalize handles.foldl dropHandle m = m' at resets ⊢
  induction resets with
  | refl =>
    exact ⟨[], hm, sending, (List.append_nil _).symm, fun _ _ ht _ => ht, .inl ⟨hs, rfl⟩⟩
  | tail _ reset ih =>
    obtain ⟨_, swept⟩ := ih
    exact swept.reset hm hs live reset

/-- Letting go of the queue ends the stream once at most. -/
theorem endsOnce_dropIncoming (hm : m.Sound) (sending : m.sending = true) (hs : m.streams[h]? = some s)
    (live : s.phase ≠ .closed) : m.EndsOnce h s (.call .dropIncoming) := by
  let m₀ : Mux := { m with incoming := [], listening := false }
  have hm₀ : m₀.Sound := hm.queued { Queued.refl m with }
  obtain ⟨out, swept⟩ := foldl_dropHandle_swept hm₀ sending hs live m.incoming
  have hout : m.queued [.call .dropIncoming] = out := by
    have houtbound : m.dropIncoming.outbound = m.outbound ++ out := swept.outbound
    show m.dropIncoming.outbound.drop m.outbound.length = out
    rw [houtbound, List.drop_left]
  unfold EndsOnce
  rw [hout]
  rcases swept.own with ⟨hsame, hnone⟩ | ⟨s', hs', closed, hone⟩
  · exact ⟨s, hsame, hnone ▸ .still s⟩
  · exact ⟨s', hs', hone ▸ .harsh rfl live closed⟩

/-! ## What closes queue over time -/

/-- A call of the own program closes the stream behind `h`. -/
def Call.Closes (m : Mux) (h : Handle) : Call → Prop
  | .halfClose k | .abort k _ | .dropHandle k | .expireOpen k => k = h
  | .closeStream id _ => m.lookup id = some h
  | .dropIncoming => h ∈ m.incoming ∧ m.lookup (m.stream h).id = some h
  | _ => False

instance (m : Mux) (h : Handle) (c : Call) : Decidable (c.Closes m h) := by
  unfold Call.Closes
  split <;> infer_instance

/-- The frames that an event queues for the stream behind `h`, if it is a call that closes the stream. -/
def closes (m : Mux) (h : Handle) : Event → List Frame
  | .call c =>
    if c.Closes m h then (m.queued [.call c]).filter (·.stream = (m.stream h).id) else []
  | .frame _ => []

/-- The frames that calls which close the stream behind `h` queue for it, event after event. -/
def closedOn (m : Mux) (h : Handle) : List Event → List Frame
  | [] => []
  | e :: events => m.closes h e ++ (m.step e).closedOn h events

theorem endsOnce_call (hm : m.Sound) (sending : m.sending = true) (hs : m.streams[h]? = some s)
    {c : Call} (hc : c.Closes m h) (mild : c ≠ .abort h .normal) : m.EndsOnce h s (.call c) := by
  cases c with
  | openStream | accept | send | sendTo | read | nextIncoming | ping | failAll => exact hc.elim
  | halfClose k =>
    obtain rfl : k = h := hc
    exact endsOnce_halfClose hm sending hs rfl
  | abort k reason =>
    obtain rfl : k = h := hc
    refine endsOnce_abort hm sending hs ?_ rfl
    simpa [CloseReason.isAbort] using mild
  | dropHandle k =>
    obtain rfl : k = h := hc
    have harsh : CloseReason.reset.isAbort = true := rfl
    exact endsOnce_abort hm sending hs harsh rfl
  | expireOpen k =>
    obtain rfl : k = h := hc
    by_cases hr : m.role = .initiator
    · have hrun : m.step (.call (.expireOpen k)) = (m.expireOpen k).2 := by
        simp only [step, Call.run, if_pos hr]
      rcases expireOpen_cases hm k hr with hsame | turn
      · exact endsOnce_of_same hs (hrun.trans hsame)
      · rw [← hrun] at turn
        exact endsOnce_of_turned sending hs turn trivial
    · refine endsOnce_of_same hs ?_
      simp only [step, Call.run, if_neg hr]
  | closeStream id reason =>
    have hl : m.lookup id = some h := hc
    by_cases harsh : reason.isAbort = true
    · refine endsOnce_abort hm sending hs harsh ?_
      simp only [step, Call.run, closeStream, hl, if_pos harsh]
    · refine endsOnce_halfClose hm sending hs ?_
      simp only [step, Call.run, closeStream, hl, if_neg harsh]
  | dropIncoming =>
    obtain ⟨u, hu, -, live⟩ := hm.lookup_eq_some_iff.1 hc.2
    obtain rfl := Option.some.inj (hs.symm.trans hu)
    exact endsOnce_dropIncoming hm sending hs live

/-- What one event queues to close a stream. -/
theorem closes_parted (hm : m.Sound) (sending : m.sending = true) (hs : m.streams[h]? = some s)
    (mild : e ≠ .call (.abort h .normal)) :
    ∃ s', (m.step e).streams[h]? = some s' ∧ s.Next s' ∧ Parted s (m.closes h e) s' := by
  obtain ⟨s', hs', next⟩ := step_moves hm e h s hs
  refine ⟨s', hs', next, ?_⟩
  cases e with
  | frame f => exact .still s'
  | call c =>
    rw [closes]
    split
    · rename_i hc
      obtain ⟨s₁, hs₁, parted⟩ := endsOnce_call hm sending hs hc fun he => mild (congrArg _ he)
      obtain rfl := Option.some.inj (hs'.symm.trans hs₁)
      rwa [stream_of_getElem? hs]
    · exact .still s'

/-- A handle that has not been given out cannot be closed. -/
theorem step_of_absent (hm : m.Sound) (hs : m.streams[h]? = none) {c : Call} (hc : c.Closes m h) :
    m.step (.call c) = m := by
  have unknown (id : StreamId) : m.lookup id ≠ some h := by
    intro hl
    obtain ⟨s, hs', -⟩ := hm.lookup_eq_some_iff.1 hl
    cases hs.symm.trans hs'
  have hclosed : (m.stream h).phase = .closed := by
    rw [stream_of_length_le hs]
    rfl
  cases c with
  | openStream | accept | send | sendTo | read | nextIncoming | ping | failAll => exact hc.elim
  | closeStream id reason => exact absurd hc (unknown id)
  | dropIncoming => exact absurd hc.2 (unknown _)
  | halfClose k =>
    obtain rfl : k = h := hc
    exact halfClose_of_mute (.inr hclosed)
  | abort k reason =>
    obtain rfl : k = h := hc
    exact abort_of_closed hclosed reason
  | dropHandle k =>
    obtain rfl : k = h := hc
    exact abort_of_closed hclosed .reset
  | expireOpen k =>
    obtain rfl : k = h := hc
    simp only [step, Call.run, expireOpen, stream_of_length_le hs]
    simp [Stream.absent]

theorem closes_absent (hm : m.Sound) (hs : m.streams[h]? = none) (e : Event) : m.closes h e = [] := by
  cases e with
  | frame f => rfl
  | call c =>
    rw [closes]
    split
    · rename_i hc
      rw [queued_of_same (step_of_absent hm hs hc), List.filter_nil]
    · rfl

/-- The closes that are still to come from a phase, if the stream is torn down for `reason`. -/
def Phase.partings (reason : CloseReason) : Phase → List CloseReason
  | .closed => []
  | .localClosing => [reason]
  | .pendingOpen | .open_ | .remoteClosing => [.normal, reason]

theorem Phase.Next.partings {p p' : Phase} (n : Phase.Next p p') (reason : CloseReason) :
    (p'.partings reason).Sublist (p.partings reason) := by
  cases n with
  | stay | confirm | endThere => exact List.Sublist.refl _
  | endHere => exact List.sublist_cons_self _ _
  | close => exact List.nil_sublist _

theorem closedOn_sublist (hm : Going c m) (hs : m.streams[h]? = some s) (events : List Event)
    (mild : .call (.abort h .normal) ∉ events) :
    ∃ reason : CloseReason, reason.isAbort = true ∧
      (m.closedOn h events).Sublist ((s.phase.partings reason).map (closeFrame s.id)) := by
  induction events generalizing m s with
  | nil => exact ⟨.reset, rfl, List.nil_sublist _⟩
  | cons e events ih =>
    obtain ⟨s', hs', next, parted⟩ :=
      closes_parted hm.sound hm.sending hs fun he => mild (he ▸ List.mem_cons_self)
    obtain ⟨reason, harsh, later⟩ := ih (hm.step e) hs' fun hin => mild (List.mem_cons_of_mem _ hin)
    rw [next.id] at later
    unfold closedOn
    generalize m.closes h e = out at parted ⊢
    cases parted with
    | still => exact ⟨reason, harsh, later.trans ((next.phase.partings reason).map _)⟩
    | mild phase mute =>
      refine ⟨reason, harsh, ?_⟩
      have hrest : (s'.phase.partings reason).Sublist [reason] := by
        rcases mute with hp | hp <;> rw [hp] <;> simp [Phase.partings]
      have hall : s.phase.partings reason = [.normal, reason] := by
        rcases phase with hp | hp <;> rw [hp] <;> rfl
      rw [hall]
      exact .cons_cons _ (later.trans (hrest.map _))
    | @harsh _ last abort live closed =>
      refine ⟨last, abort, ?_⟩
      -- nothing comes after it
      rw [closed] at later
      rw [List.sublist_nil.1 later, List.append_nil]
      have hlast : [last].Sublist (s.phase.partings last) := by
        cases hp : s.phase <;> simp_all [Phase.partings]
      exact hlast.map (closeFrame s.id)

/-- From any state on, the closes of a stream are at most one of its direction and one of the whole. -/
theorem closedOn_cases (hm : Going c m) (h : Handle) (events : List Event)
    (mild : .call (.abort h .normal) ∉ events) :
    ∃ reason : CloseReason, reason.isAbort = true ∧
      (m.closedOn h events).Sublist
        [closeFrame ((m.run events).stream h).id .normal, closeFrame ((m.run events).stream h).id reason] := by
  induction events generalizing m with
  | nil => exact ⟨.reset, rfl, List.nil_sublist _⟩
  | cons e events ih =>
    cases hs : m.streams[h]? with
    | none =>
      obtain ⟨reason, harsh, later⟩ := ih (hm.step e) fun hin => mild (List.mem_cons_of_mem _ hin)
      refine ⟨reason, harsh, ?_⟩
      rw [closedOn, closes_absent hm.sound hs e, List.nil_append]
      exact later
    | some s =>
      obtain ⟨reason, harsh, all⟩ := closedOn_sublist hm hs (e :: events) mild
      obtain ⟨s', hs', hid⟩ := run_stream (P := (·.id = s.id)) (fun next hp => next.id.trans hp) hm hs rfl
        (e :: events)
      refine ⟨reason, harsh, ?_⟩
      rw [stream_of_getElem? hs', hid]
      have hmost : (s.phase.partings reason).Sublist [.normal, reason] := by
        cases s.phase <;> simp [Phase.partings]
      exact all.trans (hmost.map _)

/-- A stream that is closed stays so, and closing it by its handle does nothing any more. -/
theorem closes_nothing (hm : Going c m) (hlt : h < m.streams.length) (hp : (m.stream h).phase = .closed)
    (later : List Event) (reason : CloseReason) :
    (m.run later).halfClose h = m.run later ∧ (m.run later).abort h reason = m.run later ∧
      (m.run later).dropHandle h = m.run later := by
  have hs : m.streams[h]? = some (m.stream h) := by
    rw [stream, List.getD_eq_getElem?_getD, List.getElem?_eq_getElem hlt, Option.getD_some]
  obtain ⟨s', hs', hclosed⟩ :=
    run_stream (P := (·.phase = .closed)) (fun next hp => (hp ▸ next.phase).closed) hm hs hp later
  have hover : ((m.run later).stream h).phase = .closed := by rw [stream_of_getElem? hs', hclosed]
  exact ⟨halfClose_of_mute (.inr hover), abort_of_closed hover reason, abort_of_closed hover .reset⟩

/-- **Closing is idempotent.** Take any state that a multiplexer can reach, and any number. After an abort
by the number, closing by it again changes nothing, whatever the reason; nor does, then or at any time later,
closing or dropping the handle of any stream with the number. Ending this side's direction by the number
twice comes to the same as once, in every phase. And as long as no handle is aborted for the normal reason,
all calls that close one stream together queue at most one close that ends this side's direction, and at
most one after it that ends the whole. -/
theorem closing_idempotent (role : Role) (c : Config) (events : List Event) :
    let m := (fresh role c).run events
    (∀ (id : StreamId) (reason reason' : CloseReason), reason.isAbort = true →
      let m' := m.closeStream id reason
      m'.closeStream id reason' = m' ∧
      ∀ h < m'.streams.length, (m'.stream h).id = id → ∀ later : List Event,
        (m'.run later).halfClose h = m'.run later ∧ (m'.run later).abort h reason' = m'.run later ∧
          (m'.run later).dropHandle h = m'.run later) ∧
    (∀ id, (m.closeStream id .normal).closeStream id .normal = m.closeStream id .normal) ∧
    ∀ h, .call (.abort h .normal) ∉ events → ∃ reason : CloseReason, reason.isAbort = true ∧
      ((fresh role c).closedOn h events).Sublist
        [closeFrame (m.stream h).id .normal, closeFrame (m.stream h).id reason] := by
  intro m
  have going : Going c m := going_run role c events
  refine ⟨fun id reason reason' harsh => ?_, closeStream_normal_twice going.sound, fun h mild => ?_⟩
  · have closed (h : Handle) (hid : ((m.closeStream id reason).stream h).id = id) :
        ((m.closeStream id reason).stream h).phase = .closed :=
      closed_of_closeStream going.sound harsh h hid
    have going' : Going c (m.closeStream id reason) := going.step (.call (.closeStream id reason))
    refine ⟨?_, fun h hlt hid later => closes_nothing going' hlt (closed h hid) later reason'⟩
    have hnone := lookup_eq_none_of_closed going'.sound closed
    generalize m.closeStream id reason = m' at hnone
    simp only [closeStream, hnone]
  · exact closedOn_cases (going_run role c []) h events mild

/-- Two streams, of which the first is closed over and over again. -/
def manyCloses : List Event :=
  let d : Bytes := [1, 127, 0, 0, 1, 0, 80]
  [.frame ⟨.opening, 1, d⟩, .frame ⟨.opening, 3, d⟩, .call (.accept 0), .call (.accept 1),
    .call (.halfClose 0), .call (.halfClose 0), .call (.closeStream 1 .normal), .call (.abort 0 .reset),
    .call (.dropHandle 0)]

/-- The first stream is closed twice, for its direction and as a whole, and nothing closes the second a
second time. -/
theorem many_closes_are_two :
    let m := (fresh .responder {}).run manyCloses
    let m' := m.closeStream 3 .timeout
    (m'.stream 1).id = 3 ∧ m'.outbound = m.outbound ++ [closeFrame 3 .timeout] ∧
      m'.closeStream 3 .normal = m' ∧ (m'.run []).dropHandle 1 = m' ∧
      (fresh .responder {}).closedOn 0 manyCloses = [closeFrame 1 .normal, closeFrame 1 .reset] ∧
      ∃ reason : CloseReason, reason.isAbort = true ∧
        ((fresh .responder {}).closedOn 0 manyCloses).Sublist
          [closeFrame (m.stream 0).id .normal, closeFrame (m.stream 0).id reason] := by
  intro m m'
  obtain ⟨habort, -, hcloses⟩ := closing_idempotent .responder {} manyCloses
  obtain ⟨hagain, hhandles⟩ := habort 3 .timeout .normal rfl
  have hid : (m'.stream 1).id = 3 := by decide +kernel
  refine ⟨hid, by decide +kernel, hagain, (hhandles 1 (by decide +kernel) hid []).2.2, by decide +kernel,
    hcloses 0 (by simp [manyCloses])⟩

end SealedRelay.Mux
