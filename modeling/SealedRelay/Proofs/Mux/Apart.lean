import SealedRelay.Mux.Call
import SealedRelay.Proofs.Mux.Emission

/-!
# Streams do not disturb each other

All streams of a connection share one table, one queue of frames and one choice of numbers. Still an event
that is addressed to one stream, a frame with its number or a call on its handle, touches no other. The
operations are put together from few parts: a stream is changed behind its handle, its frames are queued, its
waiting calls are woken, it enters the table and leaves it. Each part keeps to one stream, so all of them do.

Results:
* `Apart.kill`, `Apart.insert`: what ends a stream and what makes one touches no other.
* `step_apart`: neither does any event that is addressed to one stream.
* `other_streams_untouched`: so nobody who uses another stream can tell.
-/
namespace SealedRelay.Mux

variable {m m' m'' : Mux} {h k : Handle} {id : StreamId} {e : Event} {s : Stream} {data : Bytes}

/-! ## Addressees -/

/-- The handle of the live stream with a number. A new stream with it would get the next one. -/
def handleOf (m : Mux) (id : StreamId) : Handle := (m.lookup id).getD m.streams.length

/-- The stream that an event is addressed to, by its handle and its number. Pings, and calls about all
streams at once, are addressed to none. -/
def Event.addressee (m : Mux) : Event → Option (Handle × StreamId)
  | .frame f => if f.kind = .ping then none else some (m.handleOf f.stream, f.stream)
  | .call (.openStream d) =>
    some (m.streams.length, ((m.openStream d).2.stream m.streams.length).id)
  | .call (.sendTo id _) | .call (.closeStream id _) => some (m.handleOf id, id)
  | .call (.expireOpen h) | .call (.accept h) | .call (.send h _) | .call (.read h)
  | .call (.halfClose h) | .call (.abort h _) | .call (.dropHandle h) => some (h, (m.stream h).id)
  | .call .nextIncoming | .call .dropIncoming | .call .ping | .call (.failAll _) => none

/-! ## Operations -/

/-- `m'` is `m` after something that was done to the stream behind `h`, whose number is `id`: no other stream
is changed, enters the table or leaves it, or has its waiting calls woken, and all frames that are queued are
those of the number. -/
structure Apart (h : Handle) (id : StreamId) (m m' : Mux) : Prop where
  streams : ∀ k ≠ h, m'.streams[k]? = m.streams[k]?
  table : ∀ j k, k ≠ h → ((j, k) ∈ m'.table ↔ (j, k) ∈ m.table)
  woken : ∃ woken, m'.woken = m.woken ++ woken ∧ ∀ k ∈ woken, k = h
  outbound : ∃ out, m'.outbound = m.outbound ++ out ∧ ∀ f ∈ out, f.stream = id

namespace Apart

theorem refl (h : Handle) (id : StreamId) (m : Mux) : Apart h id m m where
  streams _ _ := rfl
  table _ _ _ := Iff.rfl
  woken := ⟨[], (List.append_nil _).symm, nofun⟩
  outbound := ⟨[], (List.append_nil _).symm, nofun⟩

theorem trans (a : Apart h id m m') (b : Apart h id m' m'') : Apart h id m m'' where
  streams k hk := (b.streams k hk).trans (a.streams k hk)
  table j k hk := (b.table j k hk).trans (a.table j k hk)
  woken := by
    obtain ⟨woken, hw, hown⟩ := a.woken
    obtain ⟨woken', hw', hown'⟩ := b.woken
    exact ⟨woken ++ woken', by rw [hw', hw, List.append_assoc], List.forall_mem_append.2 ⟨hown, hown'⟩⟩
  outbound := by
    obtain ⟨out, ho, hown⟩ := a.outbound
    obtain ⟨out', ho', hown'⟩ := b.outbound
    exact ⟨out ++ out', by rw [ho', ho, List.append_assoc], List.forall_mem_append.2 ⟨hown, hown'⟩⟩

/-! ### Parts -/

theorem modify (a : Apart h id m m') (f : Stream → Stream) : Apart h id m (m'.modify h f) :=
  a.trans { refl h id m' with
    streams := fun _ hk => List.getElem?_modify_ne f _ hk.symm }

theorem emitAll (a : Apart h id m m') {fs : List Frame} (hfs : ∀ f ∈ fs, f.stream = id) :
    Apart h id m (m'.emitAll fs) := by
  refine a.trans ?_
  unfold Mux.emitAll
  split
  · exact { refl h id m' with outbound := ⟨fs, rfl, hfs⟩ }
  · exact refl h id m'

theorem emit (a : Apart h id m m') {f : Frame} (hf : f.stream = id) : Apart h id m (m'.emit f) :=
  a.emitAll fun g hg => by rw [List.mem_singleton.1 hg, hf]

theorem emitClose (a : Apart h id m m') (reason : CloseReason) : Apart h id m (m'.emitClose id reason) :=
  a.emit rfl

theorem emitAck (a : Apart h id m m') (credit : Nat) : Apart h id m (m'.emitAck id credit) := a.emit rfl

theorem wake (a : Apart h id m m') : Apart h id m (m'.wake h) :=
  a.trans { refl h id m' with woken := ⟨[h], rfl, fun _ => List.mem_singleton.1⟩ }

theorem remove (a : Apart h id m m') : Apart h id m (m'.remove h) := by
  refine a.trans { refl h id m' with table := fun j k hk => ?_ }
  rw [Mux.remove, List.mem_filter]
  refine and_iff_left ?_
  simp only [ne_eq, Prod.mk.injEq, not_and, decide_eq_true_eq]
  exact fun _ => hk

/-- A new stream gets the next handle. -/
theorem insert (m : Mux) (s : Stream) (id : StreamId) : Apart m.streams.length id m (m.insert s) := by
  refine { refl _ id m with streams := fun k hk => ?_, table := fun j k hk => ?_ }
  · rw [Mux.insert, List.getElem?_append]
    split
    · rfl
    · rename_i hge
      have hlt : m.streams.length < k := Nat.lt_of_le_of_ne (Nat.le_of_not_lt hge) hk.symm
      rw [List.getElem?_eq_none (Nat.le_of_lt hlt), List.getElem?_eq_none]
      exact Nat.sub_pos_of_lt hlt
  · rw [Mux.insert, List.mem_append, List.mem_singleton]
    refine or_iff_left fun he => hk ?_
    exact congrArg Prod.snd he

/-! ### Calls on a handle -/

theorem kill (m : Mux) (h : Handle) (e : LinkError) (tell : Option CloseReason) :
    Apart h (m.stream h).id m (m.kill h e tell) := by
  have ended := (refl h (m.stream h).id m).modify (·.terminated e)
  cases tell with
  | none => exact ended.wake.remove
  | some reason =>
    exact (ended.emitClose reason).wake.remove

theorem abort (m : Mux) (h : Handle) (reason : CloseReason) :
    Apart h (m.stream h).id m (m.abort h reason) := by
  unfold Mux.abort
  dsimp only
  split
  · exact refl h _ m
  · exact kill m h _ _

theorem halfClose (m : Mux) (h : Handle) : Apart h (m.stream h).id m (m.halfClose h) := by
  have ended (f : Stream → Stream) : Apart h (m.stream h).id m
      (((m.modify h f).emitClose (m.stream h).id .normal).wake h) :=
    (((refl h _ m).modify f).emitClose .normal).wake
  unfold Mux.halfClose
  dsimp only
  split
  · exact refl h _ m
  · exact refl h _ m
  · exact abort m h .reset
  all_goals
    split
    · exact (ended _).remove
    · exact ended _

theorem expireOpen (m : Mux) (h : Handle) : Apart h (m.stream h).id m (m.expireOpen h).2 := by
  unfold Mux.expireOpen
  dsimp only
  split
  · exact refl h _ m
  split
  · exact ((refl h _ m).modify _).remove.emitClose .timeout
  · exact refl h _ m

theorem send (m : Mux) (h : Handle) (data : Bytes) :
    Apart h (m.stream h).id m (m.send h data).2 := by
  unfold Mux.send
  dsimp only
  split
  · exact refl h _ m
  split
  · exact refl h _ m
  split
  · exact refl h _ m
  split
  · exact refl h _ m
  · refine ((refl h _ m).emitAll fun f hf => ?_).modify _
    obtain ⟨piece, -, rfl⟩ := List.mem_map.1 hf
    rfl

theorem read (m : Mux) (h : Handle) : Apart h (m.stream h).id m (m.read h).2 := by
  unfold Mux.read
  dsimp only
  split
  · split
    · exact ((refl h _ m).modify _).emitAck _
    · exact (refl h _ m).modify _
  split
  · exact refl h _ m
  split
  · exact refl h _ m
  split <;> exact refl h _ m

theorem accept (m : Mux) (h : Handle) : Apart h (m.stream h).id m (m.accept h).2 := by
  unfold Mux.accept
  dsimp only
  split
  · exact (((refl h _ m).modify _).emitAck _).wake
  · exact refl h _ m

/-! ### Frames of a live stream -/

theorem onData (m : Mux) (h : Handle) (payload : Bytes) :
    Apart h (m.stream h).id m (m.onData h payload) := by
  unfold Mux.onData
  dsimp only
  split
  · exact kill m h _ _
  · exact ((refl h _ m).modify _).wake

theorem onClose (m : Mux) (h : Handle) (reason : CloseReason) :
    Apart h (m.stream h).id m (m.onClose h reason) := by
  unfold Mux.onClose
  dsimp only
  split
  · exact kill m h _ _
  split
  · exact kill m h _ _
  split
  · exact kill m h _ _
  split
  · exact (refl h _ m).wake
  split
  · exact ((refl h _ m).modify _).wake.remove
  · exact ((refl h _ m).modify _).wake

theorem onAck (m : Mux) (h : Handle) (credit : Nat) :
    Apart h (m.stream h).id m (m.onAck h credit) := by
  unfold Mux.onAck
  dsimp only
  split
  · split
    · exact refl h _ m
    · exact (((refl h _ m).modify _).emitAck _).wake
  · exact ((refl h _ m).modify _).wake
  · exact ((refl h _ m).modify _).wake
  · exact ((refl h _ m).modify _).wake
  · exact refl h _ m

/-! ### New streams -/

theorem openStream (m : Mux) (d : Destination) :
    Apart m.streams.length ((m.openStream d).2.stream m.streams.length).id m (m.openStream d).2 := by
  rcases openStream_eq m d with ⟨-, e, he⟩ | ⟨-, -, -, payload, -, ⟨-, he⟩ | ⟨id, -, he⟩⟩
  all_goals rw [he]
  · exact refl _ _ m
  · exact { refl _ _ m with }
  · -- choosing the number changes nothing else
    have numbered : Apart m.streams.length id m (m.allocateId.2.insert (.asked m.config id d)) :=
      { insert m (.asked m.config id d) id with }
    have hid : (((m.allocateId.2.insert (.asked m.config id d)).emit ⟨.opening, id, payload⟩).stream
        m.streams.length).id = id := by
      rw [stream_of_getElem? (s := .asked m.config id d)]
      · rfl
      · exact (congrArg (·[m.streams.length]?) (streams_emitAll _ _)).trans List.getElem?_concat_length
    dsimp only
    rw [hid]
    exact numbered.emit rfl

/-- A question that is refused may have the number of a live stream, which it does not touch either. -/
theorem onOpening (m : Mux) (id : StreamId) (payload : Bytes) :
    Apart (m.handleOf id) id m (m.onOpening id payload).2 := by
  unfold Mux.onOpening
  split
  · exact (refl _ id m).emitClose .refused
  split
  · exact (refl _ id m).emitClose .refused
  rename_i d _
  split
  · exact refl _ id m
  split
  · exact refl _ id m
  rename_i hfree
  split
  · exact (refl _ id m).emitClose .refused
  · have hnext : m.handleOf id = m.streams.length := by
      rw [handleOf, Option.not_isSome_iff_eq_none.1 hfree, Option.getD_none]
    rw [hnext]
    dsimp only
    split
    · exact { insert m _ id with }
    · have hnew := abort (m.insert (.offered id d)) m.streams.length .refused
      have hself : ((m.insert (.offered id d)).stream m.streams.length).id = id := by
        rw [stream_of_getElem? (s := .offered id d) List.getElem?_concat_length]
        rfl
      rw [hself] at hnew
      exact (insert m (.offered id d) id).trans hnew

end Apart

/-! ## Events -/

theorem Sound.id_of_lookup (hm : m.Sound) (hl : m.lookup id = some h) : (m.stream h).id = id := by
  obtain ⟨s, hs, hid, -⟩ := hm.lookup_eq_some_iff.1 hl
  rw [stream_of_getElem? hs, hid]

theorem Apart.numbered (hm : m.Sound) (hl : m.lookup id = some h) (a : Apart h (m.stream h).id m m') :
    Apart (m.handleOf id) id m m' := by
  rwa [hm.id_of_lookup hl, show h = m.handleOf id by rw [handleOf, hl, Option.getD_some]] at a

theorem receive_apart (hm : m.Sound) {f : Frame} (hk : f.kind ≠ .ping) :
    Apart (m.handleOf f.stream) f.stream m (m.receive f).2 := by
  unfold receive
  cases hkind : f.kind with
  | ping => exact absurd hkind hk
  | opening => exact .onOpening m f.stream f.payload
  | data =>
    dsimp only
    split
    · exact .refl _ _ m
    · rename_i hl
      exact (Apart.onData m _ _).numbered hm hl
  | close =>
    dsimp only
    split
    · exact .refl _ _ m
    split
    · exact .refl _ _ m
    · rename_i hl
      exact (Apart.onClose m _ _).numbered hm hl
  | ack =>
    dsimp only
    split
    · exact .refl _ _ m
    split
    · exact .refl _ _ m
    · rename_i hl
      exact (Apart.onAck m _ _).numbered hm hl

theorem call_apart (hm : m.Sound) {c : Call} (addressed : (Event.call c).addressee m = some (h, id)) :
    Apart h id m (c.run m).2 := by
  cases c with
  | nextIncoming | dropIncoming | ping | failAll => cases addressed
  | openStream d =>
    cases addressed
    exact .openStream m d
  | expireOpen k =>
    cases addressed
    simp only [Call.run]
    split
    · exact .expireOpen m h
    · exact .refl h _ m
  | accept k =>
    cases addressed
    simp only [Call.run]
    split
    · exact .accept m h
    · exact .refl h _ m
  | send k data =>
    cases addressed
    rw [Call.run, noteSent_snd]
    exact .send m h data
  | sendTo i data =>
    cases addressed
    rw [Call.run, noteSent_snd, sendTo]
    split
    · exact .refl _ _ m
    · rename_i hl
      exact (Apart.send m _ data).numbered hm hl
  | read k =>
    cases addressed
    rw [Call.run, noteRead_snd]
    exact .read m h
  | halfClose k =>
    cases addressed
    exact .halfClose m h
  | abort k reason =>
    cases addressed
    exact .abort m h reason
  | closeStream i reason =>
    cases addressed
    simp only [Call.run, closeStream]
    split
    · exact .refl _ _ m
    rename_i hl
    split
    · exact (Apart.abort m _ reason).numbered hm hl
    · exact (Apart.halfClose m _).numbered hm hl
  | dropHandle k =>
    cases addressed
    exact .abort m h .reset

/-- An event that is addressed to one stream touches no other. -/
theorem step_apart (hm : m.Sound) (addressed : e.addressee m = some (h, id)) :
    Apart h id m (m.step e) := by
  cases e with
  | call c => exact call_apart hm addressed
  | frame f =>
    rw [Event.addressee] at addressed
    split at addressed
    · cases addressed
    · rename_i hk
      cases addressed
      exact receive_apart hm hk

/-! ## Outcomes -/

theorem read_congr (hs : m'.stream h = m.stream h) : (m'.read h).1 = (m.read h).1 := by
  unfold read
  rw [hs]
  dsimp only
  split
  · split <;> split <;> rfl
  split
  · rfl
  split
  · rfl
  split <;> rfl

theorem send_congr (hs : m'.stream h = m.stream h) (data : Bytes) :
    (m'.send h data).1 = (m.send h data).1 := by
  unfold send
  rw [hs]
  dsimp only
  split
  · rfl
  split
  · rfl
  split
  · rfl
  split <;> rfl

theorem writeAll_congr (hs : m'.stream h = m.stream h) (data : Bytes) :
    (m'.writeAll h data).1 = (m.writeAll h data).1 := by
  have hsend := send_congr hs data
  unfold writeAll
  split
  · rfl
  rcases hr : m.send h data with ⟨r, m₁⟩
  rcases hr' : m'.send h data with ⟨r', m₁'⟩
  rw [hr, hr'] at hsend
  obtain rfl : r' = r := hsend
  cases r' with
  | ok n => rfl
  | error e => cases e <;> rfl

/-- **Streams do not disturb each other.** In any state that a multiplexer can reach, let an event be
addressed to the stream behind `h`, whose number is `id`: a question for it, its bytes, its close or credit for
it, or a call that asks for it, gives up waiting for it, confirms, writes, reads, ends or drops it. Then every
other stream is what it was, with its phase, windows, flags, failure and what waits to be read, and is in the
table if it was. Reading it and writing to it come to the same as before, and nobody who waits for it is
woken. All frames that are queued are those of the number. -/
theorem other_streams_untouched (role : Role) (c : Config) (events : List Event) (e : Event) (h : Handle)
    (id : StreamId) (addressed : e.addressee ((fresh role c).run events) = some (h, id)) :
    let m := (fresh role c).run events
    (∀ k ≠ h, (m.step e).streams[k]? = m.streams[k]? ∧
      (∀ j, (j, k) ∈ (m.step e).table ↔ (j, k) ∈ m.table) ∧
      ((m.step e).read k).1 = (m.read k).1 ∧
      ∀ data, ((m.step e).send k data).1 = (m.send k data).1 ∧
        ((m.step e).writeAll k data).1 = (m.writeAll k data).1) ∧
    (∃ woken, (m.step e).woken = m.woken ++ woken ∧ ∀ k ∈ woken, k = h) ∧
    (m.step e).outbound = m.outbound ++ m.queued [e] ∧ ∀ f ∈ m.queued [e], f.stream = id := by
  intro m
  have going : Going c m := going_run role c events
  have apart : Apart h id m (m.step e) := step_apart going.sound addressed
  have houtbound : (m.step e).outbound = m.outbound ++ m.queued [e] :=
    outbound_run going.sound going.sending [e]
  refine ⟨fun k hk => ?_, apart.woken, houtbound, ?_⟩
  · have hsame := apart.streams k hk
    have hstream : (m.step e).stream k = m.stream k := by
      rw [stream, stream, List.getD_eq_getElem?_getD, List.getD_eq_getElem?_getD, hsame]
    exact ⟨hsame, fun j => apart.table j k hk, read_congr hstream,
      fun data => ⟨send_congr hstream data, writeAll_congr hstream data⟩⟩
  · obtain ⟨out, hout, hown⟩ := apart.outbound
    rw [houtbound, List.append_right_inj] at hout
    exact hout ▸ hown

/-- Two streams, of which the second has a byte to read and one byte of credit. -/
def twoStreams : List Event :=
  let d : Bytes := [1, 127, 0, 0, 1, 0, 80]
  [.frame ⟨.opening, 1, d⟩, .frame ⟨.opening, 3, d⟩, .call (.accept 0), .call (.accept 1),
    .frame ⟨.data, 3, [7]⟩, .frame (ackFrame 3 1)]

/-- More arrives on the first stream than was granted, and it is reset. -/
theorem flood_stays_in_its_stream :
    let m := (fresh .responder { initialWindow := 4 }).run twoStreams
    let e : Event := .frame ⟨.data, 1, [1, 2, 3, 4, 5]⟩
    e.addressee m = some (0, 1) ∧ m.queued [e] = [closeFrame 1 .reset] ∧
      (m.step e).streams[1]? = m.streams[1]? ∧ (3, 1) ∈ (m.step e).table ∧
      ((m.step e).read 1).1.toOption = some (.chunk [7]) ∧
      ((m.step e).send 1 [8, 9]).1.toOption = some 1 ∧
      ∀ f ∈ m.queued [e], f.stream = 1 := by
  intro m e
  have addressed : e.addressee m = some (0, 1) := by decide +kernel
  obtain ⟨hothers, -, -, hframes⟩ :=
    other_streams_untouched .responder { initialWindow := 4 } twoStreams e 0 1 addressed
  obtain ⟨hsame, htable, hread, hwrite⟩ := hothers 1 (by decide)
  have hlive : (3, 1) ∈ m.table := by decide +kernel
  have hbyte : (m.read 1).1.toOption = some (.chunk [7]) := by decide +kernel
  have hcredit : (m.send 1 [8, 9]).1.toOption = some 1 := by decide +kernel
  exact ⟨addressed, by decide +kernel, hsame, (htable 3).2 hlive,
    (congrArg Except.toOption hread).trans hbyte,
    (congrArg Except.toOption (hwrite [8, 9]).1).trans hcredit, hframes⟩

end SealedRelay.Mux
