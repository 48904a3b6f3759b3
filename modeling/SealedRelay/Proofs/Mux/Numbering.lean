import Mathlib.Data.List.Perm.Subperm
import Mathlib.Logic.Function.Iterate
import SealedRelay.Proofs.Mux.Table

/-!
# Choosing a number

The numbers go round: one follows the last, and zero is none of them. For a new stream they are tried in this
order, from where the search stopped the last time, and the first that no live stream has is chosen. The
search gives up after one more try than there are live streams. It never has to while a number is left: so
many numbers in a row are all different, and each live stream has only one.

Results:
* `iterate_stepsTo`, `stepsTo_iterate`: going round from a number comes to every other one, after as many
  steps as they are apart.
* `freeId_cases`: what a search comes to.
* `length_le_of_inUse`: numbers in a row that are in use take up as many places in the table.
* `allocateId_none`: there is a number for a new stream until all of them are in use.
* `allocateId_eq_some_iff`, `allocateId_eq_none_iff`: what is chosen, and when nothing is.
-/
namespace SealedRelay.Mux

variable {m : Mux} {start id : StreamId}

/-! ## Going round -/

/-- More streams than this use up the numbers. -/
def idLimit : Nat := UInt32.size - 1

/-- How far a number is from another, going round from one to the last and on from one again. -/
def stepsTo (start id : StreamId) : Nat := (id.toNat + idLimit - start.toNat) % idLimit

theorem stepsTo_lt : stepsTo start id < idLimit := Nat.mod_lt _ (by decide)

theorem toNat_pos_of_ne_zero (h : id ≠ 0) : 0 < id.toNat :=
  Nat.pos_of_ne_zero fun hz => h (UInt32.toNat_inj.1 hz)

/-- Going round, the numbers after one that is not zero. -/
theorem toNat_succId_iterate (h : id ≠ 0) (k : Nat) :
    (succId^[k] id).toNat = (id.toNat - 1 + k) % idLimit + 1 := by
  have hpos := toNat_pos_of_ne_zero h
  have hlt := id.toNat_lt
  simp only [idLimit, UInt32.size]
  induction k with
  | zero =>
    rw [Function.iterate_zero, id_eq]
    omega
  | succ k ih =>
    rw [Function.iterate_succ_apply', succId]
    split
    · rename_i hlast
      rw [hlast] at ih
      have hlast : (0xffffffff : UInt32).toNat = 4294967295 := rfl
      have hone : (1 : UInt32).toNat = 1 := rfl
      omega
    · rename_i hlast
      have hne : (succId^[k] id).toNat ≠ 4294967295 := fun he =>
        hlast (UInt32.toNat_inj.1 he)
      have hone : (1 : UInt32).toNat = 1 := rfl
      rw [UInt32.toNat_add, hone]
      omega

theorem succId_iterate_ne_zero (h : id ≠ 0) (k : Nat) : succId^[k] id ≠ 0 := by
  intro hz
  have hn := toNat_succId_iterate h k
  rw [hz, UInt32.toNat_zero] at hn
  omega

/-- Every number comes up, after as many steps as it is away. -/
theorem iterate_stepsTo (hs : start ≠ 0) (hi : id ≠ 0) : succId^[stepsTo start id] start = id := by
  have hspos := toNat_pos_of_ne_zero hs
  have hipos := toNat_pos_of_ne_zero hi
  have hslt := start.toNat_lt
  have hilt := id.toNat_lt
  apply UInt32.toNat_inj.1
  rw [toNat_succId_iterate hs]
  simp only [stepsTo, idLimit, UInt32.size]
  omega

/-- What comes up after some steps is as far away, less the times that they go round. -/
theorem stepsTo_iterate (hs : start ≠ 0) (k : Nat) :
    stepsTo start (succId^[k] start) = k % idLimit := by
  have hspos := toNat_pos_of_ne_zero hs
  have hslt := start.toNat_lt
  rw [stepsTo, toNat_succId_iterate hs]
  simp only [idLimit, UInt32.size]
  omega

/-- The numbers tried are different, as long as they do not go round all of them. -/
theorem succId_iterate_ne (id : StreamId) {i j : Nat} (hij : i < j) (hj : j < idLimit) :
    succId^[i] id ≠ succId^[j] id := by
  intro he
  have hn := congrArg UInt32.toNat he
  by_cases h : id = 0
  · -- zero is the number of no stream, and never comes again
    obtain ⟨j, rfl⟩ : ∃ k, j = k + 1 := ⟨j - 1, by omega⟩
    subst h
    have hone : (1 : UInt32) ≠ 0 := by decide
    have hfirst : succId 0 = 1 := rfl
    rw [Function.iterate_succ_apply succId j, hfirst, toNat_succId_iterate hone] at hn
    cases i with
    | zero => simp at hn
    | succ i =>
      rw [Function.iterate_succ_apply, hfirst, toNat_succId_iterate hone] at hn
      simp only [idLimit, UInt32.size] at hn hj
      omega
  · rw [toNat_succId_iterate h, toNat_succId_iterate h] at hn
    simp only [idLimit, UInt32.size] at hn hj
    omega

/-! ## The search -/

/-- What a search comes to: it finds the first of its tries that is not used, or all its tries are used. The
next search starts where it stopped. -/
theorem freeId_cases (used : StreamId → Bool) (tries : Nat) (start : StreamId) :
    (∃ k, freeId used tries start = (some (succId^[k] start), succId^[k + 1] start) ∧
      used (succId^[k] start) = false ∧ ∀ j < k, used (succId^[j] start) = true) ∨
    freeId used tries start = (none, succId^[tries] start) ∧
      ∀ k < tries, used (succId^[k] start) = true := by
  induction tries generalizing start with
  | zero => exact .inr ⟨rfl, fun k hk => absurd hk (Nat.not_lt_zero k)⟩
  | succ tries ih =>
    rw [freeId]
    split
    · rename_i hused
      -- the first try is used, and the others are those of a search from the next number on
      have from_first {n : Nat} (hrest : ∀ j < n, used (succId^[j] (succId start)) = true) :
          ∀ j < n + 1, used (succId^[j] start) = true := by
        intro j hj
        cases j with
        | zero => exact hused
        | succ j => exact hrest j (Nat.lt_of_succ_lt_succ hj)
      rcases ih (succId start) with ⟨k, hfound, hfree, hbefore⟩ | ⟨hnone, hall⟩
      · exact .inl ⟨k + 1, hfound, hfree, from_first hbefore⟩
      · exact .inr ⟨hnone, from_first hall⟩
    · rename_i hfree
      exact .inl ⟨0, rfl, by simpa using hfree, fun j hj => absurd hj (Nat.not_lt_zero j)⟩

/-- Choosing a number is a search of the table, which changes nothing but where the next one starts. -/
theorem allocateId_cases (m : Mux) :
    (∃ k, m.allocateId =
        (some (succId^[k] m.nextId), { m with nextId := succId^[k + 1] m.nextId }) ∧
      m.lookup (succId^[k] m.nextId) = none ∧ ∀ j < k, m.lookup (succId^[j] m.nextId) ≠ none) ∨
    m.allocateId = (none, { m with nextId := succId^[m.table.length + 1] m.nextId }) ∧
      ∀ k < m.table.length + 1, m.lookup (succId^[k] m.nextId) ≠ none := by
  rcases freeId_cases (fun id => (m.lookup id).isSome) (m.table.length + 1) m.nextId with
    ⟨k, hfound, hfree, hbefore⟩ | ⟨hnone, hall⟩
  · refine .inl ⟨k, by rw [allocateId, hfound], by simpa using hfree, fun j hj => ?_⟩
    exact Option.isSome_iff_ne_none.1 (hbefore j hj)
  · refine .inr ⟨by rw [allocateId, hnone], fun k hk => ?_⟩
    exact Option.isSome_iff_ne_none.1 (hall k hk)

theorem allocateId_snd (m : Mux) : m.allocateId.2 = { m with nextId := m.allocateId.2.nextId } := rfl

theorem allocateId_free (h : m.allocateId.1 = some id) : m.lookup id = none := by
  rcases allocateId_cases m with ⟨k, hchosen, hfree, -⟩ | ⟨hnone, -⟩
  · rw [hchosen] at h
    exact Option.some.inj h ▸ hfree
  · rw [hnone] at h
    cases h

theorem allocateId_of_free (h : m.lookup m.nextId = none) :
    m.allocateId = (some m.nextId, { m with nextId := succId m.nextId }) := by
  rcases allocateId_cases m with ⟨k, hchosen, -, hbefore⟩ | ⟨-, hall⟩
  · cases k with
    | zero => exact hchosen
    | succ k => exact absurd h (hbefore 0 (Nat.succ_pos k))
  · exact absurd h (hall 0 (Nat.succ_pos _))

theorem allocateId_ne_zero (h : m.nextId ≠ 0) :
    m.allocateId.2.nextId ≠ 0 ∧ ∀ id, m.allocateId.1 = some id → id ≠ 0 := by
  rcases allocateId_cases m with ⟨k, hchosen, -⟩ | ⟨hnone, -⟩
  · rw [hchosen]
    refine ⟨succId_iterate_ne_zero h (k + 1), fun id hid => ?_⟩
    exact Option.some.inj hid ▸ succId_iterate_ne_zero h k
  · rw [hnone]
    exact ⟨succId_iterate_ne_zero h _, nofun⟩

/-! ## The table -/

/-- Numbers in a row that are all in use take up as many places in the table. -/
theorem length_le_of_inUse {n : Nat} (hn : n ≤ idLimit)
    (hused : ∀ k < n, m.lookup (succId^[k] start) ≠ none) : n ≤ m.table.length := by
  let row := (List.range n).map (succId^[·] start)
  have hnodup : row.Nodup := List.pairwise_map.2 <|
    List.pairwise_lt_range.imp_of_mem fun _ hj hij =>
      succId_iterate_ne start hij (Nat.lt_of_lt_of_le (List.mem_range.1 hj) hn)
  have hsub : row ⊆ m.table.map Prod.fst := by
    intro id hid
    obtain ⟨k, hk, rfl⟩ := List.mem_map.1 hid
    obtain ⟨h, hl⟩ := Option.ne_none_iff_exists'.1 (hused k (List.mem_range.1 hk))
    exact List.mem_map_of_mem (mem_of_lookup hl)
  have hlen := (List.subperm_of_subset hnodup hsub).length_le
  simpa only [row, List.length_map, List.length_range] using hlen

/-- There is a number for a new stream until all of them are in use. -/
theorem allocateId_none (h : m.allocateId.1 = none) : idLimit ≤ m.table.length := by
  rcases allocateId_cases m with ⟨k, hchosen, -⟩ | ⟨-, hall⟩
  · rw [hchosen] at h
    cases h
  · by_contra hfew
    have hmore := length_le_of_inUse (by omega) hall
    omega

/-! ## The first free number -/

/-- Going round from the number to try next, this is the first that no live stream has. -/
structure FirstFree (m : Mux) (id : StreamId) : Prop where
  ne_zero : id ≠ 0
  free : m.lookup id = none
  first : ∀ other, other ≠ 0 → stepsTo m.nextId other < stepsTo m.nextId id → m.lookup other ≠ none

theorem FirstFree.unique {id' : StreamId} (hn : m.nextId ≠ 0) (h : m.FirstFree id)
    (h' : m.FirstFree id') : id = id' := by
  have hle : stepsTo m.nextId id' ≤ stepsTo m.nextId id :=
    Nat.le_of_not_lt fun hlt => h'.first id h.ne_zero hlt h.free
  have hge : stepsTo m.nextId id ≤ stepsTo m.nextId id' :=
    Nat.le_of_not_lt fun hlt => h.first id' h'.ne_zero hlt h'.free
  rw [← iterate_stepsTo hn h.ne_zero, Nat.le_antisymm hge hle, iterate_stepsTo hn h'.ne_zero]

/-- What a search finds is the first free number: all that is nearer has been tried. -/
theorem firstFree_of_tried (hn : m.nextId ≠ 0) {k : Nat} (hfree : m.lookup (succId^[k] m.nextId) = none)
    (hbefore : ∀ j < k, m.lookup (succId^[j] m.nextId) ≠ none) : m.FirstFree (succId^[k] m.nextId) where
  ne_zero := succId_iterate_ne_zero hn k
  free := hfree
  first other ho hnearer := by
    rw [stepsTo_iterate hn] at hnearer
    have htried := hbefore _ (Nat.lt_of_lt_of_le hnearer (Nat.mod_le k idLimit))
    rwa [iterate_stepsTo hn ho] at htried

/-- A search that gives up has been all the way round. -/
theorem inUse_of_allocateId (hn : m.nextId ≠ 0) (h : m.allocateId.1 = none) (hid : id ≠ 0) :
    m.lookup id ≠ none := by
  have hround := allocateId_none h
  rcases allocateId_cases m with ⟨k, hchosen, -⟩ | ⟨-, hall⟩
  · rw [hchosen] at h
    cases h
  · have htried := hall (stepsTo m.nextId id) (Nat.lt_succ_of_lt (Nat.lt_of_lt_of_le stepsTo_lt hround))
    rwa [iterate_stepsTo hn hid] at htried

/-- While there are fewer streams than numbers, the first free one is chosen and the next search starts
behind it. -/
theorem exists_firstFree (hn : m.nextId ≠ 0) (hroom : m.activeStreams < idLimit) :
    ∃ id, m.FirstFree id ∧ m.allocateId = (some id, { m with nextId := succId id }) := by
  rcases allocateId_cases m with ⟨k, hchosen, hfree, hbefore⟩ | ⟨hnone, -⟩
  · rw [Function.iterate_succ_apply'] at hchosen
    exact ⟨_, firstFree_of_tried hn hfree hbefore, hchosen⟩
  · exact absurd (allocateId_none (congrArg Prod.fst hnone)) (Nat.not_le_of_lt hroom)

/-- The first free number is chosen, and no other. -/
theorem allocateId_eq_some_iff (hn : m.nextId ≠ 0) :
    m.allocateId.1 = some id ↔ m.FirstFree id := by
  rcases allocateId_cases m with ⟨k, hchosen, hfree, hbefore⟩ | ⟨hnone, -⟩
  · have hfirst := firstFree_of_tried hn hfree hbefore
    rw [hchosen, Option.some.injEq]
    constructor
    · rintro rfl
      exact hfirst
    · exact hfirst.unique hn
  · have hgiven : m.allocateId.1 = none := congrArg Prod.fst hnone
    rw [hgiven]
    constructor
    · nofun
    · exact fun h => absurd h.free (inUse_of_allocateId hn hgiven h.ne_zero)

/-- No number is chosen exactly if none is left. -/
theorem allocateId_eq_none_iff (hn : m.nextId ≠ 0) :
    m.allocateId.1 = none ↔ ∀ id, id ≠ 0 → m.lookup id ≠ none := by
  constructor
  · exact fun h id hid => inUse_of_allocateId hn h hid
  · intro hall
    rcases allocateId_cases m with ⟨k, -, hfree, -⟩ | ⟨hnone, -⟩
    · exact absurd hfree (hall _ (succId_iterate_ne_zero hn k))
    · exact congrArg Prod.fst hnone

/-- **There is a number for every stream.** Take any table, and let the search start at any number but zero,
also at the last. While there are fewer streams than numbers, a number is chosen. It is the first that no
live stream has, going round from that start. None is chosen only if none is left. Either way nothing
changes but where the next search starts, and that is not at zero. -/
theorem first_free_number_chosen (m : Mux) (hn : m.nextId ≠ 0) :
    (m.activeStreams < idLimit → ∃ id, m.allocateId.1 = some id) ∧
    (∀ id, m.allocateId.1 = some id ↔ m.FirstFree id) ∧
    (m.allocateId.1 = none ↔ ∀ id, id ≠ 0 → m.lookup id ≠ none) ∧
    ∃ next, next ≠ 0 ∧ m.allocateId.2 = { m with nextId := next } := by
  refine ⟨fun hroom => ?_, fun _ => allocateId_eq_some_iff hn, allocateId_eq_none_iff hn,
    m.allocateId.2.nextId, (allocateId_ne_zero hn).1, allocateId_snd m⟩
  obtain ⟨id, hfirst, -⟩ := exists_firstFree hn hroom
  exact ⟨id, (allocateId_eq_some_iff hn).2 hfirst⟩

/-- The search starts at the last number. A stream has it, and another one has the first. -/
def wrapping : Mux where
  role := .initiator
  config := {}
  streams := [.asked {} 0xffffffff (.domain "a.test" 80), .asked {} 1 (.domain "b.test" 80)]
  table := [(0xffffffff, 0), (1, 1)]
  nextId := 0xffffffff

/-- It goes on from the first, and comes to the second. -/
theorem second_number_chosen :
    wrapping.nextId ≠ 0 ∧ wrapping.activeStreams < idLimit ∧ wrapping.allocateId.1 = some 2 ∧
      wrapping.FirstFree 2 ∧ wrapping.allocateId.2.nextId = 3 := by
  obtain ⟨hfound, hfirst, -⟩ := first_free_number_chosen wrapping (by decide)
  obtain ⟨id, hid⟩ := hfound (by decide)
  have hsecond : wrapping.allocateId.1 = some 2 := by decide
  obtain rfl : id = 2 := Option.some.inj (hid.symm.trans hsecond)
  exact ⟨by decide, by decide, hid, (hfirst 2).1 hid, by decide⟩

end SealedRelay.Mux
