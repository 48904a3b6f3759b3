import SealedRelay.Proofs.Mux.Effect

/-!
# Streams by number

The asking side numbers its streams in order, so until the numbers run out no two of them have the
same. The asked side takes the numbers as they come; that they come once is shown elsewhere.

Results:
* `Unique.find_eq_some_iff`: without doubles, a number finds every stream that has it.
* `Unique.find_set`, `find_append`, `Failed.find`: what is found after a change.
* `Numbered.find_nextId`: the next number is new.
-/
namespace SealedRelay.Mux

def find (m : Mux) (id : StreamId) : Option Stream := m.streams.find? (·.id = id)

def Unique (m : Mux) : Prop :=
  ∀ (h k : Nat) (s t : Stream), m.streams[h]? = some s → m.streams[k]? = some t → s.id = t.id → h = k

/-- Streams are numbered from one on, in the order in which they were asked for. -/
structure Numbered (m : Mux) : Prop where
  id : ∀ (h : Nat) (s : Stream), m.streams[h]? = some s → s.id = UInt32.ofNat (h + 1)
  nextId : m.nextId = UInt32.ofNat (m.streams.length + 1)

variable {m m' : Mux} {h : Handle} {s s' : Stream} {id : StreamId} {out : List Frame}

theorem id_of_find (hf : m.find id = some s) : s.id = id := by
  simpa using List.find?_some hf

theorem Unique.find_eq_some_iff (hu : m.Unique) :
    m.find id = some s ↔ ∃ h : Handle, m.streams[h]? = some s ∧ s.id = id := by
  constructor
  · intro hf
    obtain ⟨h, hs⟩ := List.mem_iff_getElem?.1 (List.mem_of_find?_eq_some hf)
    exact ⟨h, hs, id_of_find hf⟩
  · rintro ⟨h, hs, hid⟩
    cases hf : m.find id with
    | none => simpa [hid] using List.find?_eq_none.1 hf s (List.mem_of_getElem? hs)
    | some t =>
      obtain ⟨k, ht⟩ := List.mem_iff_getElem?.1 (List.mem_of_find?_eq_some hf)
      obtain rfl := hu h k s t hs ht (hid.trans (id_of_find hf).symm)
      exact ht.symm.trans hs

theorem find_eq_none_iff : m.find id = none ↔ ∀ (h : Handle) s, m.streams[h]? = some s → s.id ≠ id := by
  rw [find, List.find?_eq_none]
  constructor
  · exact fun hn h s hs => by simpa using hn s (List.mem_of_getElem? hs)
  · intro hn s hs
    obtain ⟨h, hs⟩ := List.mem_iff_getElem?.1 hs
    simpa using hn h s hs

theorem Unique.congr (hu : m.Unique) (hm : m'.streams = m.streams) : m'.Unique := by
  intro h k s t hs ht
  rw [hm] at hs ht
  exact hu h k s t hs ht

theorem Unique.set (hu : m.Unique) (hs : m.streams[h]? = some s) (hid : s'.id = s.id)
    (hm : m'.streams = m.streams.set h s') : m'.Unique := by
  have back (k : Handle) (t : Stream) (ht : m'.streams[k]? = some t) :
      ∃ u, m.streams[k]? = some u ∧ u.id = t.id := by
    rw [hm, List.getElem?_set] at ht
    split at ht
    · rename_i hk
      subst hk
      split at ht
      · exact ⟨s, hs, hid.symm.trans (congrArg Stream.id (Option.some.inj ht))⟩
      · simp at ht
    · exact ⟨t, ht, rfl⟩
  intro k l t u ht hu' he
  obtain ⟨t₀, ht₀, hti⟩ := back k t ht
  obtain ⟨u₀, hu₀, hui⟩ := back l u hu'
  exact hu k l t₀ u₀ ht₀ hu₀ (hti.trans (he.trans hui.symm))

theorem Unique.find_set (hu : m.Unique) (hs : m.streams[h]? = some s) (hid : s'.id = s.id)
    (hm : m'.streams = m.streams.set h s') (id : StreamId) :
    m'.find id = if s.id = id then some s' else m.find id := by
  have hu' := hu.set hs hid hm
  have hlt := (List.getElem?_eq_some_iff.1 hs).1
  split
  · rename_i he
    exact hu'.find_eq_some_iff.2 ⟨h, by rw [hm, List.getElem?_set_self hlt], hid.trans he⟩
  · rename_i hne
    apply Option.ext
    intro t
    rw [hu'.find_eq_some_iff, hu.find_eq_some_iff]
    refine exists_congr fun k => and_congr_left fun ht => ?_
    rw [hm]
    by_cases hk : h = k
    · subst hk
      rw [List.getElem?_set_self hlt, hs]
      constructor
      · intro he
        cases he
        exact absurd (hid.symm.trans ht) hne
      · intro he
        cases he
        exact absurd ht hne
    · rw [List.getElem?_set_ne hk]

theorem find_append (hm : m'.streams = m.streams ++ [s]) (hn : m.find s.id = none) (id : StreamId) :
    m'.find id = if s.id = id then some s else m.find id := by
  rw [find, hm, List.find?_append]
  split
  · rename_i he
    subst he
    rw [show m.streams.find? (·.id = s.id) = none from hn]
    simp
  · rename_i hne
    simp [find, hne]

theorem Unique.append (hu : m.Unique) (hm : m'.streams = m.streams ++ [s])
    (hn : m.find s.id = none) : m'.Unique := by
  have old (k : Nat) (t : Stream) (ht : m'.streams[k]? = some t) :
      m.streams[k]? = some t ∨ k = m.streams.length ∧ t = s := by
    rw [hm, List.getElem?_append] at ht
    split at ht
    · exact .inl ht
    · rename_i hk
      have hlt := (List.getElem?_eq_some_iff.1 ht).1
      rw [List.length_singleton] at hlt
      have hz : k - m.streams.length = 0 := by omega
      rw [hz] at ht
      exact .inr ⟨by omega, (Option.some.inj ht).symm⟩
  have fresh := find_eq_none_iff.1 hn
  intro k l t u ht hu' he
  rcases old k t ht with ht | ⟨hk, rfl⟩ <;> rcases old l u hu' with hl | ⟨hl, rfl⟩
  · exact hu k l t u ht hl he
  · exact absurd he (fresh k t ht)
  · exact absurd he.symm (fresh l u hl)
  · exact hk.trans hl.symm

theorem Numbered.unique (hn : m.Numbered) (hl : m.streams.length < idLimit) : m.Unique := by
  intro h k s t hs ht he
  rw [hn.id h s hs, hn.id k t ht] at he
  have hh := (List.getElem?_eq_some_iff.1 hs).1
  have hk := (List.getElem?_eq_some_iff.1 ht).1
  have hnat := congrArg UInt32.toNat he
  simp only [UInt32.toNat_ofNat', idLimit, UInt32.size] at hnat hl
  omega

theorem Failed.find {e : LinkError} (f : Failed m m' e) (id : StreamId) :
    m'.find id = (m.find id).map (·.failing e) := by
  have hsame : (fun s : Stream => decide ((s.failing e).id = id)) = fun s => decide (s.id = id) :=
    funext fun s => by rw [Stream.id_failing]
  rw [Mux.find, Mux.find, f.streams, List.find?_map, Function.comp_def, hsame]

theorem Failed.unique {e : LinkError} (f : Failed m m' e) (hu : m.Unique) : m'.Unique := by
  intro h k s t hs ht he
  rw [f.streams, List.getElem?_map] at hs ht
  obtain ⟨s₀, hs₀, rfl⟩ := Option.map_eq_some_iff.1 hs
  obtain ⟨t₀, ht₀, rfl⟩ := Option.map_eq_some_iff.1 ht
  rw [Stream.id_failing, Stream.id_failing] at he
  exact hu h k s₀ t₀ hs₀ ht₀ he

theorem Numbered.congr (hn : m.Numbered) (hm : m'.streams = m.streams) (hi : m'.nextId = m.nextId) :
    m'.Numbered where
  id h s hs := hn.id h s (hm ▸ hs)
  nextId := by rw [hm, hi, hn.nextId]

theorem Numbered.set (hn : m.Numbered) (hs : m.streams[h]? = some s) (hid : s'.id = s.id)
    (hm : m'.streams = m.streams.set h s') (hi : m'.nextId = m.nextId) : m'.Numbered where
  id k t ht := by
    rw [hm, List.getElem?_set] at ht
    split at ht
    · rename_i hk
      subst hk
      split at ht
      · obtain rfl := Option.some.inj ht
        rw [hid, hn.id _ s hs]
      · simp at ht
    · exact hn.id k t ht
  nextId := by rw [hm, hi, hn.nextId, List.length_set]

theorem Failed.numbered {e : LinkError} (f : Failed m m' e) (hn : m.Numbered) : m'.Numbered where
  id h s hs := by
    rw [f.streams, List.getElem?_map] at hs
    obtain ⟨s₀, hs₀, rfl⟩ := Option.map_eq_some_iff.1 hs
    rw [Stream.id_failing, hn.id h s₀ hs₀]
  nextId := by rw [f.nextId, f.streams, List.length_map, hn.nextId]

theorem Numbered.append (hn : m.Numbered) (hm : m'.streams = m.streams ++ [s])
    (hid : s.id = m.nextId) (hi : m'.nextId = succId m.nextId) (hl : m'.streams.length < idLimit) :
    m'.Numbered where
  id k t ht := by
    rw [hm, List.getElem?_append] at ht
    split at ht
    · exact hn.id k t ht
    · rename_i hk
      have hlt := (List.getElem?_eq_some_iff.1 ht).1
      rw [List.length_singleton] at hlt
      have hz : k = m.streams.length := by omega
      subst hz
      rw [Nat.sub_self] at ht
      obtain rfl := Option.some.inj ht
      rw [hid, hn.nextId]
  nextId := by
    rw [hm, List.length_append, List.length_singleton] at hl ⊢
    have hne : UInt32.ofNat (m.streams.length + 1) ≠ 0xffffffff := by
      intro he
      have hnat := congrArg UInt32.toNat he
      simp only [UInt32.toNat_ofNat', idLimit, UInt32.size, UInt32.reduceToNat] at hnat hl
      omega
    rw [hi, hn.nextId, succId, if_neg hne]
    exact (UInt32.ofNat_add _ 1).symm

/-- The next number is new. -/
theorem Numbered.find_nextId (hn : m.Numbered) (hl : m.streams.length < idLimit) :
    m.find m.nextId = none := by
  refine find_eq_none_iff.2 fun (h : Nat) s hs he => ?_
  rw [hn.id h s hs, hn.nextId] at he
  have hh := (List.getElem?_eq_some_iff.1 hs).1
  have hnat := congrArg UInt32.toNat he
  simp only [UInt32.toNat_ofNat', idLimit, UInt32.size] at hnat hl
  omega

end SealedRelay.Mux
