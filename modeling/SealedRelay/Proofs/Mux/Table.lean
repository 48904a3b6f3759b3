import SealedRelay.Proofs.Mux.Sound

/-!
# The table of live streams

The table and the list of all streams say the same: a stream is in the table, under its own number,
exactly while it is not closed. An operation on one stream is a turn of that stream, with the table
brought up to date; it leaves all other streams alone.

Results:
* `Sound.lookup_eq_some_iff`: looking up a number gives the live stream with that number.
* `Sound.turned`: a turn of one stream keeps a multiplexer sound.
* `Sound.queued`, `Sound.inserted`: so do frames that are queued and a new stream.
-/
namespace SealedRelay.Mux

/-- Table and streams agree, no number is taken twice, and a failed connection has no streams. -/
structure Sound (m : Mux) : Prop where
  mem_table : ∀ {id : StreamId} {h : Handle}, (id, h) ∈ m.table ↔
    ∃ s, m.streams[h]? = some s ∧ s.id = id ∧ s.phase ≠ .closed
  nodup : (m.table.map Prod.fst).Nodup
  failed : m.failed.isSome = true → m.table = []
  streams : ∀ s ∈ m.streams, s.Sound m.role m.config

theorem sound_fresh (role : Role) (c : Config) : Sound { role, config := c } where
  mem_table := by simp
  nodup := List.nodup_nil
  failed _ := rfl
  streams := by simp

theorem stream_of_getElem? {m : Mux} {h : Handle} {s : Stream} (hs : m.streams[h]? = some s) :
    m.stream h = s := by
  rw [stream, List.getD_eq_getElem?_getD, hs, Option.getD_some]

theorem stream_of_length_le {m : Mux} {h : Handle} (hs : m.streams[h]? = none) :
    m.stream h = Stream.absent := by
  rw [stream, List.getD_eq_getElem?_getD, hs, Option.getD_none]

theorem stream_cases (m : Mux) (h : Handle) :
    m.stream h = Stream.absent ∨ ∃ s, m.streams[h]? = some s ∧ m.stream h = s := by
  cases hs : m.streams[h]? with
  | none => exact .inl (stream_of_length_le hs)
  | some s => exact .inr ⟨s, rfl, stream_of_getElem? hs⟩

theorem mem_of_lookup {t : List (StreamId × Handle)} {id : StreamId} {h : Handle}
    (hl : t.lookup id = some h) : (id, h) ∈ t := by
  obtain ⟨l, r, rfl, -⟩ := List.lookup_eq_some_iff.1 hl
  simp

theorem lookup_of_mem {t : List (StreamId × Handle)} {id : StreamId} {h : Handle}
    (hn : (t.map Prod.fst).Nodup) (hm : (id, h) ∈ t) : t.lookup id = some h := by
  obtain ⟨l, r, rfl⟩ := List.append_of_mem hm
  refine List.lookup_eq_some_iff.2 ⟨l, r, rfl, fun p hp => ?_⟩
  simp only [List.map_append, List.map_cons, List.nodup_append] at hn
  simpa [bne_iff_ne] using (hn.2.2 p.1 (List.mem_map_of_mem hp) id List.mem_cons_self).symm

namespace Sound

variable {m : Mux}

theorem lookup_eq_some_iff (hm : m.Sound) {id : StreamId} {h : Handle} :
    m.lookup id = some h ↔ ∃ s, m.streams[h]? = some s ∧ s.id = id ∧ s.phase ≠ .closed := by
  rw [← hm.mem_table]
  exact ⟨mem_of_lookup, lookup_of_mem hm.nodup⟩

theorem stream_sound (hm : m.Sound) {h : Handle} {s : Stream} (hs : m.streams[h]? = some s) :
    s.Sound m.role m.config :=
  hm.streams s (List.mem_of_getElem? hs)

/-- After the connection has failed every stream is closed. -/
theorem phase_of_failed (hm : m.Sound) (hf : m.failed.isSome = true) {h : Handle} {s : Stream}
    (hs : m.streams[h]? = some s) : s.phase = .closed := by
  refine Decidable.byContradiction fun hp => ?_
  have hin := hm.mem_table.2 ⟨s, hs, rfl, hp⟩
  simp [hm.failed hf] at hin

end Sound

/-! ## Operations on one stream -/

/-- `m` with `out` queued, and the same connection; streams and table may differ. -/
structure Kept (m m' : Mux) (out : List Frame) : Prop where
  outbound : m.sending = true → m'.outbound = m.outbound ++ out
  role : m'.role = m.role
  config : m'.config = m.config
  failed : m'.failed = m.failed
  sending : m'.sending = m.sending

/-- `m` with `out` queued and no stream changed. The number to try next only changes when it is in
use. -/
structure Queued (m m' : Mux) (out : List Frame) : Prop extends Kept m m' out where
  streams : m'.streams = m.streams
  table : m'.table = m.table
  nextId : m.lookup m.nextId = none → m'.nextId = m.nextId

/-- `m` with the stream behind `h` put to `s` and `out` queued; the table has yet to follow. -/
structure Edited (m m' : Mux) (h : Handle) (out : List Frame) (s : Stream) : Prop
    extends Kept m m' out where
  streams : m'.streams = m.streams.set h s
  table : m'.table = m.table
  nextId : m'.nextId = m.nextId

/-- `m` with the stream behind `h` put to `s`, out of the table if it is closed, and `out` queued. -/
structure Moved (m m' : Mux) (h : Handle) (out : List Frame) (s : Stream) : Prop
    extends Kept m m' out where
  streams : m'.streams = m.streams.set h s
  sublist : m'.table.Sublist m.table
  mem_table : ∀ e, e ∈ m'.table ↔ e ∈ m.table ∧ (s.phase = .closed → e.2 ≠ h)
  nextId : m'.nextId = m.nextId

/-- The stream behind `h` takes one turn, on a connection that goes on. -/
inductive Turned (m m' : Mux) (h : Handle) (d : Deed) : Prop where
  | intro {s s' : Stream} {out : List Frame} (stream : m.streams[h]? = some s)
      (turn : Turn m.role m.config s d out s') (moved : Moved m m' h out s')
      (lasting : d ≠ .failed)

namespace Kept

variable {m m' : Mux} {out : List Frame}

theorem refl (m : Mux) : Kept m m [] where
  outbound _ := (List.append_nil _).symm
  role := rfl
  config := rfl
  failed := rfl
  sending := rfl

theorem emitAll (k : Kept m m' out) (fs : List Frame) : Kept m (m'.emitAll fs) (out ++ fs) := by
  unfold Mux.emitAll
  split
  · exact { k with outbound := fun hs => by simp [k.outbound hs] }
  · rename_i hn
    exact { k with outbound := fun hs => absurd (k.sending.trans hs) hn }

end Kept

@[simp] theorem streams_emitAll (m : Mux) (fs : List Frame) :
    (m.emitAll fs).streams = m.streams := by unfold emitAll; split <;> rfl

@[simp] theorem table_emitAll (m : Mux) (fs : List Frame) : (m.emitAll fs).table = m.table := by
  unfold emitAll; split <;> rfl

@[simp] theorem config_emitAll (m : Mux) (fs : List Frame) : (m.emitAll fs).config = m.config := by
  unfold emitAll; split <;> rfl

@[simp] theorem nextId_emitAll (m : Mux) (fs : List Frame) : (m.emitAll fs).nextId = m.nextId := by
  unfold emitAll; split <;> rfl

@[simp] theorem woken_emitAll (m : Mux) (fs : List Frame) : (m.emitAll fs).woken = m.woken := by
  unfold emitAll; split <;> rfl

namespace Queued

theorem refl (m : Mux) : Queued m m [] where
  toKept := .refl m
  streams := rfl
  table := rfl
  nextId _ := rfl

theorem emit (m : Mux) (f : Frame) : Queued m (m.emit f) [f] where
  toKept := (Kept.refl m).emitAll [f]
  streams := streams_emitAll m [f]
  table := table_emitAll m [f]
  nextId _ := nextId_emitAll m [f]

end Queued

namespace Edited

variable {m m' : Mux} {h : Handle} {out : List Frame} {s t : Stream}

theorem refl (hs : m.streams[h]? = some s) : Edited m m h [] s where
  toKept := .refl m
  streams := by
    obtain ⟨hl, rfl⟩ := List.getElem?_eq_some_iff.1 hs
    rw [List.set_getElem_self]
  table := rfl
  nextId := rfl

theorem modify (e : Edited m m' h out s) {f : Stream → Stream} (hf : f s = t) :
    Edited m (m'.modify h f) h out t :=
  { e with
    streams := by
      rw [Mux.modify, e.streams]
      apply List.ext_getElem?
      intro i
      simp only [List.getElem?_modify, List.getElem?_set]
      by_cases hi : h = i
      · subst hi
        by_cases hl : h < m.streams.length <;> simp [hl, hf]
      · simp [hi] }

theorem emitAll (e : Edited m m' h out s) (fs : List Frame) :
    Edited m (m'.emitAll fs) h (out ++ fs) s where
  toKept := e.toKept.emitAll fs
  streams := (streams_emitAll m' fs).trans e.streams
  table := (table_emitAll m' fs).trans e.table
  nextId := (nextId_emitAll m' fs).trans e.nextId

theorem wake (e : Edited m m' h out s) : Edited m (m'.wake h) h out s := { e with }

theorem keep (e : Edited m m' h out s) (hp : s.phase ≠ .closed) : Moved m m' h out s :=
  { e with
    sublist := e.table ▸ List.Sublist.refl _
    mem_table := fun _ => by simp [e.table, hp] }

/-- A stream that was closed before was not in the table. -/
theorem stay (e : Edited m m' h out s) (hm : m.Sound) {s₀ : Stream} (hs : m.streams[h]? = some s₀)
    (hp : s₀.phase = .closed) : Moved m m' h out s :=
  { e with
    sublist := e.table ▸ List.Sublist.refl _
    mem_table := fun (id, k) => by
      rw [e.table]
      refine ⟨fun hin => ⟨hin, fun _ hk => ?_⟩, And.left⟩
      obtain ⟨t, ht, -, hl⟩ := hm.mem_table.1 hin
      rw [show k = h from hk, hs] at ht
      cases ht
      exact hl hp }

theorem remove (e : Edited m m' h out s) (hm : m.Sound) {s₀ : Stream}
    (hs : m.streams[h]? = some s₀) (hid : s.id = s₀.id) (hp : s.phase = .closed) :
    Moved m (m'.remove h) h out s :=
  have hh : m'.stream h = s := stream_of_getElem? (by
    rw [e.streams, List.getElem?_set_self (List.getElem?_eq_some_iff.1 hs).1])
  { e with
    sublist := by
      rw [Mux.remove, e.table]
      exact List.filter_sublist
    mem_table := fun (id, k) => by
      simp only [Mux.remove, e.table, List.mem_filter, hh, hid, decide_eq_true_eq]
      refine and_congr_right fun hin => ⟨fun hne _ hk => hne ?_, fun hk he => ?_⟩
      · obtain ⟨t, ht, rfl, -⟩ := hm.mem_table.1 hin
        rw [show k = h from hk, hs] at ht
        cases ht
        rw [show k = h from hk]
      · cases he
        exact hk hp rfl }

end Edited

/-! ## What a turn leaves alone -/

namespace Moved

variable {m m' : Mux} {h : Handle} {out : List Frame} {s s' : Stream}

theorem getElem?_self (mv : Moved m m' h out s') (hs : m.streams[h]? = some s) :
    m'.streams[h]? = some s' := by
  rw [mv.streams, List.getElem?_set_self (List.getElem?_eq_some_iff.1 hs).1]

theorem getElem?_other (mv : Moved m m' h out s') {k : Handle} (hk : k ≠ h) :
    m'.streams[k]? = m.streams[k]? := by
  rw [mv.streams, List.getElem?_set_ne hk.symm]

theorem stream_self (mv : Moved m m' h out s') (hs : m.streams[h]? = some s) :
    m'.stream h = s' :=
  stream_of_getElem? (mv.getElem?_self hs)

theorem stream_other (mv : Moved m m' h out s') {k : Handle} (hk : k ≠ h) :
    m'.stream k = m.stream k := by
  rw [stream, stream, List.getD_eq_getElem?_getD, List.getD_eq_getElem?_getD, mv.getElem?_other hk]

theorem emitAll (mv : Moved m m' h out s) (fs : List Frame) :
    Moved m (m'.emitAll fs) h (out ++ fs) s where
  toKept := mv.toKept.emitAll fs
  streams := (streams_emitAll m' fs).trans mv.streams
  sublist := (table_emitAll m' fs).symm ▸ mv.sublist
  mem_table := fun e => by rw [table_emitAll, mv.mem_table]
  nextId := (nextId_emitAll m' fs).trans mv.nextId

theorem length_streams (mv : Moved m m' h out s') : m'.streams.length = m.streams.length := by
  rw [mv.streams, List.length_set]

end Moved

namespace Turned

variable {m m' : Mux} {h : Handle} {d : Deed}

theorem kept (t : Turned m m' h d) : ∃ out, Kept m m' out := by
  obtain ⟨-, -, mv⟩ := t
  exact ⟨_, mv.toKept⟩

theorem length_streams (t : Turned m m' h d) : m'.streams.length = m.streams.length := by
  obtain ⟨-, -, mv⟩ := t
  exact mv.length_streams

end Turned

namespace Sound

variable {m m' : Mux} {h : Handle} {d : Deed}

/-- A turn of one stream keeps a multiplexer sound. -/
theorem turned (hm : m.Sound) (ht : Turned m m' h d) : m'.Sound := by
  obtain @⟨s, s', out, hs, t, mv⟩ := ht
  refine ⟨?_, ?_, ?_, ?_⟩
  · intro id k
    rw [mv.mem_table, hm.mem_table]
    by_cases hk : k = h
    · subst hk
      rw [mv.getElem?_self hs, hs]
      simp only [Option.some.injEq, exists_eq_left']
      constructor
      · rintro ⟨⟨hid, -⟩, hp⟩
        exact ⟨t.id_eq.trans hid, fun hc => hp hc rfl⟩
      · rintro ⟨hid, hp⟩
        exact ⟨⟨t.id_eq.symm.trans hid, fun hc => hp (t.closed hc)⟩, fun hc => absurd hc hp⟩
    · rw [mv.getElem?_other hk]
      exact and_iff_left fun _ => hk
  · exact (mv.sublist.map Prod.fst).nodup hm.nodup
  · intro hf
    rw [mv.failed] at hf
    exact List.sublist_nil.1 (hm.failed hf ▸ mv.sublist)
  · intro u hu
    rw [mv.role, mv.config]
    rw [mv.streams] at hu
    rcases List.mem_or_eq_of_mem_set hu with hu | rfl
    · exact hm.streams u hu
    · exact t.sound (hm.stream_sound hs)

end Sound

/-- So does queueing frames. -/
theorem Sound.queued {m m' : Mux} {out : List Frame} (hm : m.Sound) (q : Queued m m' out) :
    m'.Sound := by
  refine ⟨?_, ?_, ?_, ?_⟩
  · rw [q.table, q.streams]
    exact hm.mem_table
  · rw [q.table]
    exact hm.nodup
  · rw [q.table, q.failed]
    exact hm.failed
  · rw [q.streams, q.role, q.config]
    exact hm.streams

/-! ## New streams -/

/-- `m` with a new stream `s` and `out` queued. -/
structure Inserted (m m' : Mux) (s : Stream) (out : List Frame) : Prop
    extends Kept m m' out where
  streams : m'.streams = m.streams ++ [s]
  table : m'.table = m.table ++ [(s.id, m.streams.length)]

namespace Inserted

theorem insert (m : Mux) (s : Stream) : Inserted m (m.insert s) s [] where
  toKept := { Kept.refl m with }
  streams := rfl
  table := rfl

theorem emit {m m' : Mux} {s : Stream} {out : List Frame} (i : Inserted m m' s out) (f : Frame) :
    Inserted m (m'.emit f) s (out ++ [f]) where
  toKept := i.toKept.emitAll [f]
  streams := (streams_emitAll m' [f]).trans i.streams
  table := (table_emitAll m' [f]).trans i.table

theorem lookup_self {m m' : Mux} {s : Stream} {out : List Frame} (i : Inserted m m' s out)
    (hn : m.lookup s.id = none) : m'.lookup s.id = some m.streams.length := by
  rw [lookup] at hn ⊢
  rw [i.table, List.lookup_append, hn, Option.none_or]
  exact List.lookup_cons_self

end Inserted

theorem Sound.inserted {m m' : Mux} {s : Stream} {out : List Frame} (hm : m.Sound)
    (hi : Inserted m m' s out) (hs : s.Sound m.role m.config) (hp : s.phase ≠ .closed)
    (hf : m.failed = none) (hn : m.lookup s.id = none) : m'.Sound := by
  refine ⟨?_, ?_, ?_, ?_⟩
  · intro id k
    rw [hi.table, List.mem_append, hm.mem_table, hi.streams, List.mem_singleton]
    rcases Nat.lt_trichotomy k m.streams.length with hk | rfl | hk
    · rw [List.getElem?_append_left hk]
      refine or_iff_left fun he => ?_
      cases he
      exact Nat.lt_irrefl _ hk
    · rw [List.getElem?_concat_length, List.getElem?_eq_none (Nat.le_refl _)]
      simpa [eq_comm] using fun _ : id = s.id => Ne.symm hp
    · have hl : (m.streams ++ [s]).length ≤ k := by simpa using Nat.succ_le_of_lt hk
      rw [List.getElem?_eq_none (Nat.le_of_lt hk), List.getElem?_eq_none hl]
      simp [Nat.ne_of_gt hk]
  · rw [hi.table, List.map_append, List.nodup_append]
    refine ⟨hm.nodup, by simp, ?_⟩
    intro a ha b hb
    simp only [List.map_cons, List.map_nil, List.mem_singleton] at hb
    obtain ⟨⟨i, k⟩, hik, rfl⟩ := List.mem_map.1 ha
    rintro rfl
    rw [show i = s.id from hb] at hik
    simp [Mux.lookup, lookup_of_mem hm.nodup hik] at hn
  · intro h
    simp [hi.failed, hf] at h
  · intro u hu
    rw [hi.role, hi.config]
    rw [hi.streams, List.mem_append, List.mem_singleton] at hu
    rcases hu with hu | rfl
    · exact hm.streams u hu
    · exact hs

end SealedRelay.Mux
