import Mathlib.Data.List.Basic
import Mathlib.Data.List.TakeWhile
import Mathlib.Tactic.IntervalCases
import SealedRelay.Address.Parser

/-!
# Addresses are read as they are written

A reader of addresses takes digits as long as there are any, tries an IPv4 address wherever one may stand
for the last two groups of an IPv6 address, and fills the one gap in the groups with zeros. What it makes
of the text of an address is that address: no digit is taken too many, no group is taken for an octet, and
the gap is where the first longest run of zeros was.

Results:
* `digitsIn_toDigits`: a number in front of anything but a digit is read as it was written.
* `ipv4_text`: an IPv4 address is read as it was written, in front of anything but a digit.
* `groups_groupsWith`: so are groups, in front of nothing or of a gap.
* `longestZeroRun_spec`: what is left out of the text of an IPv6 address is zeros.
* `written_text`: the three forms that this text can have.
* `ofText?_text`: an address is read as it was written.
-/
namespace SealedRelay

namespace Address

open Text

variable {base n most : Nat} {c : Char} {s rest : List Char}

/-! ## Digits -/

def digitIn (base : Nat) (c : Char) : Option Nat := (hexDigit? c).filter (· < base)

def digitsOf (base n : Nat) : List Nat := (Nat.toDigits base n).filterMap (digitIn base)

/-- What follows does not begin with a digit. -/
def Stops (base : Nat) (rest : List Char) : Prop := ∀ c ∈ rest.head?, digitIn base c = none

theorem hexDigit?_digitChar {d : Nat} (h : d < 16) : hexDigit? d.digitChar = some d := by
  interval_cases d <;> rfl

theorem digitIn_digitChar {d : Nat} (hbase : base ≤ 16) (h : d < base) :
    digitIn base d.digitChar = some d := by
  rw [digitIn, hexDigit?_digitChar (Nat.lt_of_lt_of_le h hbase)]
  simp [h]

theorem exists_digit_of_mem_toDigits (hbase : 1 < base) (h : c ∈ Nat.toDigits base n) :
    ∃ d < base, c = d.digitChar := by
  induction n using Nat.strongRecOn with
  | ind n ih =>
    rw [Nat.toDigits_eq_if hbase] at h
    split at h
    · rename_i hlt
      exact ⟨n, hlt, List.mem_singleton.1 h⟩
    · rename_i hle
      rcases List.mem_append.1 h with h | h
      · exact ih (n / base) (Nat.div_lt_self (by omega) hbase) h
      · exact ⟨n % base, Nat.mod_lt _ (by omega), List.mem_singleton.1 h⟩

theorem ofDigits_digitsOf (hbase : 1 < base) (hmost : base ≤ 16) : ofDigits base (digitsOf base n) = n := by
  induction n using Nat.strongRecOn with
  | ind n ih =>
    rw [digitsOf, Nat.toDigits_eq_if hbase]
    split
    · rename_i hlt
      simp [ofDigits, digitIn_digitChar hmost hlt]
    · rename_i hle
      have hmod : n % base < base := Nat.mod_lt _ (by omega)
      have hdiv := ih (n / base) (Nat.div_lt_self (by omega) hbase)
      simp only [ofDigits, digitsOf] at hdiv
      simp only [ofDigits, List.filterMap_append, List.foldl_append, hdiv, List.filterMap_cons,
        digitIn_digitChar hmost hmod, List.filterMap_nil, List.foldl_cons, List.foldl_nil]
      rw [Nat.mul_comm]
      exact Nat.div_add_mod n base

theorem isSome_digitIn (hbase : 1 < base) (hmost : base ≤ 16) (h : c ∈ Nat.toDigits base n) :
    (digitIn base c).isSome := by
  obtain ⟨d, hd, rfl⟩ := exists_digit_of_mem_toDigits hbase h
  rw [digitIn_digitChar hmost hd]
  rfl

theorem Stops.takeWhile_eq (h : Stops base rest) :
    (rest.takeWhile fun c => (digitIn base c).isSome) = [] := by
  cases rest with
  | nil => rfl
  | cons c rest => simp [h c rfl]

theorem Stops.dropWhile_eq (h : Stops base rest) :
    (rest.dropWhile fun c => (digitIn base c).isSome) = rest := by
  cases rest with
  | nil => rfl
  | cons c rest => simp [h c rfl]

theorem stops_nil : Stops base [] :=
  nofun

theorem stops_cons (h : digitIn base c = none) : Stops base (c :: rest) := by
  rintro _ ⟨⟩
  exact h

theorem digitsIn_eq (base most : Nat) (s : List Char) :
    digitsIn base most s =
      if (s.takeWhile fun c => (digitIn base c).isSome) = [] ∨
        (s.takeWhile fun c => (digitIn base c).isSome).length > most then none
      else some ((s.takeWhile fun c => (digitIn base c).isSome).filterMap (digitIn base),
        s.dropWhile fun c => (digitIn base c).isSome) :=
  rfl

/-- A number is read as it was written, if no digit comes behind it. -/
theorem digitsIn_toDigits (hbase : 1 < base) (hmost : base ≤ 16)
    (hlen : (Nat.toDigits base n).length ≤ most) (hrest : Stops base rest) :
    digitsIn base most (Nat.toDigits base n ++ rest) = some (digitsOf base n, rest) := by
  have hdigits : ∀ c ∈ Nat.toDigits base n, (digitIn base c).isSome = true :=
    fun c => isSome_digitIn hbase hmost
  rw [digitsIn_eq, List.takeWhile_append_of_pos hdigits, List.dropWhile_append_of_pos hdigits,
    hrest.takeWhile_eq, hrest.dropWhile_eq, List.append_nil, if_neg]
  · rfl
  · rintro (h | h)
    · exact Nat.toDigits_ne_nil h
    · omega

theorem digitsIn_of_stops (h : Stops base s) : digitsIn base most s = none :=
  if_pos (.inl h.takeWhile_eq)

/-! ## IPv4 -/

theorem length_toDigits_octet (o : UInt8) : (Nat.toDigits 10 o.toNat).length ≤ 3 :=
  (Nat.length_toDigits_le_iff (by decide) (by decide)).2 (Nat.lt_trans o.toNat_lt (by decide))

/-- No number that fits into an octet is written with a zero in front. -/
theorem no_leading_zero :
    ∀ n < 256, ¬ ((digitsOf 10 n).head? = some 0 ∧ (digitsOf 10 n).length > 1) := by
  decide +kernel

theorem octet_toDigits (o : UInt8) (hrest : Stops 10 rest) :
    octet (Nat.toDigits 10 o.toNat ++ rest) = some (o, rest) := by
  have hlt : o.toNat < 256 := o.toNat_lt
  have hread := digitsIn_toDigits (by decide) (by decide) (length_toDigits_octet o) hrest
  rw [octet, hread, Option.bind_eq_bind, Option.bind_some]
  dsimp only
  rw [ofDigits_digitsOf (by decide) (by decide), if_neg, UInt8.ofNat_toNat]
  rintro (h | h)
  · omega
  · exact no_leading_zero _ hlt h

theorem toList_ipv4_text (a : Ipv4) :
    ∃ w x y z : UInt8, a.octets = [w, x, y, z] ∧ a.text.toList =
      Nat.toDigits 10 w.toNat ++ '.' :: (Nat.toDigits 10 x.toNat ++ '.' ::
        (Nat.toDigits 10 y.toNat ++ '.' :: Nat.toDigits 10 z.toNat)) := by
  obtain ⟨octets, size⟩ := a
  match octets, size with
  | [w, x, y, z], _ =>
    refine ⟨w, x, y, z, rfl, ?_⟩
    rw [Ipv4.text, String.toList_intercalate]
    simp [List.intercalate, Nat.toList_repr]

/-- An IPv4 address is read as it was written, if no digit comes behind it. -/
theorem ipv4_text (a : Ipv4) (hrest : Stops 10 rest) : ipv4 (a.text.toList ++ rest) = some (a, rest) := by
  obtain ⟨w, x, y, z, hoctets, htext⟩ := toList_ipv4_text a
  have hdot (s : List Char) : Stops 10 ('.' :: s) := stops_cons rfl
  obtain ⟨octets, size⟩ := a
  obtain rfl : octets = _ := hoctets
  rw [htext]
  simp [ipv4, octet_toDigits _ (hdot _), octet_toDigits z hrest, expect]

/-! ## Groups -/

/-- What may follow a group: nothing, or a colon. -/
def Bounded (rest : List Char) : Prop := ∀ c ∈ rest.head?, c = ':'

theorem bounded_cons (rest : List Char) : Bounded (':' :: rest) := by
  rintro _ ⟨⟩
  rfl

theorem Bounded.stops (h : Bounded rest) (base : Nat) : Stops base rest := by
  intro c hc
  rw [h c hc]
  rfl

theorem expect_of_ne (h : c ∉ s.head?) : expect c s = none := by
  cases s with
  | nil => rfl
  | cons d s =>
    have hne : d ≠ c := by simpa using h
    exact if_neg hne

theorem octet_rest {o : UInt8} (h : octet s = some (o, rest)) :
    rest = s.dropWhile fun c => (digitIn 10 c).isSome := by
  rw [octet, digitsIn_eq] at h
  split at h
  · cases h
  · simp only [Option.bind_eq_bind, Option.bind_some] at h
    split at h
    · cases h
    · cases h
      rfl

/-- What stands in front of a colon is no IPv4 address if there is no dot in it. -/
theorem ipv4_of_bounded (hdot : '.' ∉ s) (hrest : Bounded rest) : ipv4 (s ++ rest) = none := by
  rw [ipv4]
  cases hoctet : octet (s ++ rest) with
  | none => rfl
  | some first =>
    obtain ⟨o, left⟩ := first
    -- an octet takes the decimal digits; what stops it is another digit of the group, or the colon
    have hleft : expect '.' left = none := by
      refine expect_of_ne fun hhead => ?_
      rw [octet_rest hoctet, List.dropWhile_append] at hhead
      split at hhead
      · rw [(hrest.stops 10).dropWhile_eq] at hhead
        exact absurd (hrest '.' hhead) (by decide)
      · rename_i hsome
        rw [List.head?_append_of_ne_nil _ (by simpa using hsome)] at hhead
        exact hdot (List.dropWhile_subset _ (List.mem_of_mem_head? hhead))
    simp [hleft]

theorem dot_not_mem_toDigits (n : Nat) : '.' ∉ Nat.toDigits 16 n := fun h => by
  have hdigit := isSome_digitIn (by decide) (by decide) h
  exact absurd hdigit (by decide)

theorem length_toDigits_group {g : Nat} (h : g < 65536) : (Nat.toDigits 16 g).length ≤ 4 :=
  (Nat.length_toDigits_le_iff (by decide) (by decide)).2 h

/-- A group is read as it was written, if nothing but a colon comes behind it. -/
theorem group_toDigits {g : Nat} (h : g < 65536) (hrest : Bounded rest) :
    group (Nat.toDigits 16 g ++ rest) = some (g, rest) := by
  have hread := digitsIn_toDigits (by decide) (by decide) (length_toDigits_group h) (hrest.stops 16)
  rw [group, hread, Option.bind_eq_bind, Option.bind_some]
  dsimp only
  rw [ofDigits_digitsOf (by decide) (by decide)]

/-- A colon stands before each group but the first. -/
def lead (first : Bool) (s : List Char) : List Char := if first then s else ':' :: s

def groupsWith (first : Bool) : List Nat → List Char
  | [] => []
  | g :: gs => lead first (Nat.toDigits 16 g ++ groupsWith false gs)

/-- What is left when no group follows: nothing, or a gap. -/
inductive Gap : List Char → Prop
  | none : Gap []
  | some (rest : List Char) : Gap (':' :: ':' :: rest)

theorem Gap.bounded (h : Gap rest) : Bounded rest := by
  cases h with
  | none => exact nofun
  | some rest => exact bounded_cons _

theorem bounded_groupsWith {gs : List Nat} (h : Gap rest) : Bounded (groupsWith false gs ++ rest) := by
  cases gs with
  | nil => exact h.bounded
  | cons g gs => exact bounded_cons _

theorem group_of_bounded (h : Bounded s) : group s = none := by
  rw [group, digitsIn_of_stops (h.stops 16)]
  rfl

/-- Behind a colon or not, nothing but a gap is read as no group. -/
theorem groups_gap (h : Gap rest) (first : Bool) (room : Nat) :
    groups first room rest = ([], false, rest) := by
  cases room with
  | zero => rfl
  | succ room =>
    have hafter : ∀ s ∈ if first then some rest else expect ':' rest, Bounded s := by
      cases h with
      | none =>
        cases first with
        | false => exact nofun
        | true => rintro _ ⟨⟩; exact nofun
      | some rest => cases first <;> (rintro _ ⟨⟩; exact bounded_cons _)
    rw [groups]
    generalize (if first then some rest else expect ':' rest) = after at hafter
    cases after with
    | none => cases room <;> rfl
    | some s =>
      have hs : Bounded s := hafter s rfl
      have hipv4 : ipv4 s = none := ipv4_of_bounded List.not_mem_nil hs
      simp [hipv4, group_of_bounded hs]

/-- The first of some groups is read, and then the others. -/
theorem groups_cons {g : Nat} (h : g < 65536) (hrest : Bounded rest) (first : Bool) (room : Nat) :
    groups first (room + 1) (lead first (Nat.toDigits 16 g ++ rest)) =
      (g :: (groups false room rest).1, (groups false room rest).2) := by
  have hafter : (if first then some (lead first (Nat.toDigits 16 g ++ rest))
      else expect ':' (lead first (Nat.toDigits 16 g ++ rest))) = some (Nat.toDigits 16 g ++ rest) := by
    cases first <;> rfl
  have hipv4 := ipv4_of_bounded (dot_not_mem_toDigits g) hrest
  rw [groups, hafter]
  simp [hipv4, group_toDigits h hrest]

/-- Groups are read as they were written, if there is room for them. -/
theorem groups_groupsWith {gs : List Nat} (hgs : ∀ g ∈ gs, g < 65536) (hrest : Gap rest) (first : Bool)
    {room : Nat} (hroom : gs.length ≤ room) :
    groups first room (groupsWith first gs ++ rest) = (gs, false, rest) := by
  induction gs generalizing first room with
  | nil => exact groups_gap hrest first room
  | cons g gs ih =>
    obtain ⟨hg, hgs⟩ := List.forall_mem_cons.1 hgs
    obtain ⟨room, rfl⟩ : ∃ k, room = k + 1 :=
      Nat.exists_eq_succ_of_ne_zero (Nat.ne_of_gt (Nat.lt_of_lt_of_le (Nat.succ_pos _) hroom))
    have hothers := ih hgs false (Nat.le_of_succ_le_succ hroom)
    have hlead : groupsWith first (g :: gs) ++ rest =
        lead first (Nat.toDigits 16 g ++ (groupsWith false gs ++ rest)) := by
      cases first <;> simp [groupsWith, lead]
    rw [hlead, groups_cons hg (bounded_groupsWith hrest), hothers]

theorem toList_groupsText (gs : List Nat) : (Ipv6.groupsText gs).toList = groupsWith true gs := by
  rw [Ipv6.groupsText, String.toList_intercalate]
  induction gs with
  | nil => rfl
  | cons g gs ih =>
    cases gs with
    | nil => simp [groupsWith, lead, hex]
    | cons h gs =>
      rw [List.map_cons, List.map_cons, List.map_cons, List.map_cons, List.intercalate_cons_cons]
      rw [List.map_cons, List.map_cons] at ih
      rw [ih]
      simp [groupsWith, lead, hex]

/-! ## IPv6 -/

variable {a : Ipv6} {front back : List Nat}

/-- The longest run stands inside, and consists of zeros. -/
theorem longestZeroRun_spec (gs : List Nat) (k : Nat) :
    ∃ start, (Ipv6.longestZeroRun k gs).1 = k + start ∧
      gs = gs.take start ++ List.replicate (Ipv6.longestZeroRun k gs).2 0 ++
        gs.drop (start + (Ipv6.longestZeroRun k gs).2) := by
  induction gs generalizing k with
  | nil => exact ⟨0, rfl, rfl⟩
  | cons g gs ih =>
    rw [Ipv6.longestZeroRun]
    split
    · obtain ⟨start, hstart, hgs⟩ := ih (k + 1)
      refine ⟨start + 1, by omega, ?_⟩
      rw [Nat.add_right_comm, List.take_succ_cons, List.drop_succ_cons, List.cons_append, List.cons_append,
        ← hgs]
    · refine ⟨0, rfl, ?_⟩
      have hzeros : (g :: gs).takeWhile (· == 0) = List.replicate (Ipv6.zeroRun (g :: gs)) 0 := by
        refine List.eq_replicate_iff.2 ⟨rfl, fun x hx => ?_⟩
        have hzero : (x == 0) = true := List.mem_takeWhile_imp (p := (· == 0)) hx
        exact eq_of_beq hzero
      have hsplit : List.replicate (Ipv6.zeroRun (g :: gs)) 0 ++ (g :: gs).dropWhile (· == 0) = g :: gs :=
        hzeros ▸ List.takeWhile_append_dropWhile
      have hrest : (g :: gs).drop (Ipv6.zeroRun (g :: gs)) = (g :: gs).dropWhile (· == 0) := by
        have hlen : (List.replicate (Ipv6.zeroRun (g :: gs)) 0).length = Ipv6.zeroRun (g :: gs) :=
          List.length_replicate
        have hleft : (List.replicate (Ipv6.zeroRun (g :: gs)) 0 ++ (g :: gs).dropWhile (· == 0)).drop
            (Ipv6.zeroRun (g :: gs)) = (g :: gs).dropWhile (· == 0) := List.drop_left' hlen
        rwa [hsplit] at hleft
      rw [List.take_zero, List.nil_append, Nat.zero_add, hrest, hsplit]

theorem length_groups (a : Ipv6) : a.groups.length = 8 := by
  simp [Ipv6.groups]

theorem groups_lt (a : Ipv6) : ∀ g ∈ a.groups, g < 65536 := by
  intro g hg
  obtain ⟨i, hi, rfl⟩ := List.mem_map.1 hg
  have hlen : ((a.octets.drop (2 * i)).take 2).length = 2 := by
    have hi : i < 8 := List.mem_range.1 hi
    rw [List.length_take, List.length_drop, a.size]
    omega
  have hlt := Bytes.toNat_lt ((a.octets.drop (2 * i)).take 2)
  rwa [hlen] at hlt

theorem flatMap_groups (a : Ipv6) : a.groups.flatMap (Bytes.ofNat 2) = a.octets := by
  obtain ⟨octets, size⟩ := a
  have hpair (x y : UInt8) : Bytes.ofNat 2 (Bytes.toNat [x, y]) = [x, y] := Bytes.ofNat_toNat [x, y]
  match octets, size with
  | [_, _, _, _, _, _, _, _, _, _, _, _, _, _, _, _], _ =>
    simp only [Ipv6.groups, List.range_succ, List.range_zero, List.nil_append, List.cons_append,
      List.map_cons, List.map_nil, List.flatMap_cons, List.flatMap_nil, List.drop, List.take, hpair]

theorem ofGroups?_eq_some {gs : List Nat} (h : gs.flatMap (Bytes.ofNat 2) = a.octets) :
    Ipv6.ofGroups? gs = some a := by
  have hsize : (gs.flatMap (Bytes.ofNat 2)).length = 16 := by rw [h, a.size]
  rw [Ipv6.ofGroups?, dif_pos hsize]
  simp only [h]

theorem ipv6_of_groups {gs : List Nat} (hlen : gs.length = 8) (hgs : ∀ g ∈ gs, g < 65536)
    (ha : Ipv6.ofGroups? gs = some a) : ipv6 (groupsWith true gs) = some (a, []) := by
  have hread := groups_groupsWith hgs .none true (Nat.le_of_eq hlen)
  rw [List.append_nil] at hread
  rw [ipv6, hread]
  simp [hlen, ha]

/-- Groups before and behind a gap are an address, with zeros in the gap. -/
theorem ipv6_of_gap {dotted : Bool} (hlen : front.length + back.length < 8)
    (hfront : ∀ g ∈ front, g < 65536)
    (hback : groups true (7 - front.length) s = (back, dotted, []))
    (ha : Ipv6.ofGroups? (front ++ List.replicate (8 - front.length - back.length) 0 ++ back) = some a) :
    ipv6 (groupsWith true front ++ ':' :: ':' :: s) = some (a, []) := by
  have hread := groups_groupsWith hfront (.some s) true (show front.length ≤ 8 by omega)
  have hfew : ¬ front.length = 8 := by omega
  rw [ipv6, hread]
  simp only [hfew, if_false, Bool.false_eq_true, expect, if_true, Option.bind_eq_bind, Option.bind_some,
    hback, ha]

theorem groups_dotted (b : Ipv4) (room : Nat) :
    groups false (room + 2) (':' :: b.text.toList) =
      ([Bytes.toNat (b.octets.take 2), Bytes.toNat (b.octets.drop 2)], true, []) := by
  have hread : ipv4 (b.text.toList ++ []) = some (b, []) := ipv4_text b stops_nil
  rw [List.append_nil] at hread
  simp [groups, expect, hread]

theorem octets_of_mapped {b : Ipv4} (h : a.mapped? = some b) :
    a.octets = List.replicate 10 0 ++ [0xff, 0xff] ++ b.octets := by
  rw [Ipv6.mapped?] at h
  split at h
  · rename_i hfront
    cases h
    rw [← hfront, List.take_append_drop]
  · cases h

/-- The last two groups of an address that maps an IPv4 address. -/
theorem flatMap_mapped (b : Ipv4) :
    (List.replicate 5 0 ++ [65535, Bytes.toNat (b.octets.take 2), Bytes.toNat (b.octets.drop 2)]).flatMap
      (Bytes.ofNat 2) = List.replicate 10 0 ++ [0xff, 0xff] ++ b.octets := by
  obtain ⟨octets, size⟩ := b
  have hpair (x y : UInt8) : Bytes.ofNat 2 (Bytes.toNat [x, y]) = [x, y] := Bytes.ofNat_toNat [x, y]
  have hzeros : (List.replicate 5 0).flatMap (Bytes.ofNat 2) = List.replicate 10 0 := by decide
  have hones : Bytes.ofNat 2 65535 = [0xff, 0xff] := by decide
  match octets, size with
  | [_, _, _, _], _ =>
    simp only [List.flatMap_append, hzeros, List.flatMap_cons, List.flatMap_nil, hones, List.take, List.drop,
      hpair, List.append_assoc, List.cons_append, List.nil_append]

/-- The three forms that the text of an address can have: with the IPv4 address that it maps, with a gap
where there are zeros, or with all of its groups. -/
inductive Written (a : Ipv6) : List Char → Prop
  | mapped {b : Ipv4} (maps : a.mapped? = some b) :
      Written a (':' :: ':' :: (Nat.toDigits 16 65535 ++ ':' :: b.text.toList))
  | gap {start length : Nat} (long : 1 < length)
      (zeros : a.groups =
        a.groups.take start ++ List.replicate length 0 ++ a.groups.drop (start + length)) :
      Written a (groupsWith true (a.groups.take start) ++ ':' :: ':' ::
        groupsWith true (a.groups.drop (start + length)))
  | all : Written a (groupsWith true a.groups)

theorem written_text (a : Ipv6) : Written a a.text.toList := by
  rw [Ipv6.text]
  split
  · rename_i hmapped
    have hlead : "::ffff:".toList = ':' :: ':' :: (Nat.toDigits 16 65535 ++ [':']) := by decide
    rw [String.toList_append, hlead, List.cons_append, List.cons_append, List.append_assoc]
    exact .mapped hmapped
  · obtain ⟨start, hstart, hgs⟩ := longestZeroRun_spec a.groups 0
    rw [Nat.zero_add] at hstart
    dsimp only
    split
    · rename_i hlong
      have hcolons : "::".toList = [':', ':'] := rfl
      rw [hstart, String.toList_append, String.toList_append, toList_groupsText, toList_groupsText,
        List.append_assoc, hcolons, List.cons_append, List.cons_append, List.nil_append]
      exact .gap hlong hgs
    · rw [toList_groupsText]
      exact .all

/-- An IPv6 address that maps an IPv4 address is read as it was written. -/
theorem ipv6_mapped {b : Ipv4} (h : a.mapped? = some b) :
    ipv6 (':' :: ':' :: (Nat.toDigits 16 65535 ++ ':' :: b.text.toList)) = some (a, []) := by
  have hback := groups_cons (by decide : 65535 < 65536) (bounded_cons b.text.toList) true 6
  rw [groups_dotted b 4] at hback
  have hfront : ∀ g ∈ ([] : List Nat), g < 65536 := nofun
  have hgroups := flatMap_mapped b
  rw [← octets_of_mapped h] at hgroups
  have hread := ipv6_of_gap (by simp) hfront hback (ofGroups?_eq_some hgroups)
  rwa [groupsWith, List.nil_append, lead, if_pos rfl] at hread

theorem ipv6_gap {start length : Nat} (long : 1 < length)
    (zeros : a.groups = a.groups.take start ++ List.replicate length 0 ++ a.groups.drop (start + length)) :
    ipv6 (groupsWith true (a.groups.take start) ++ ':' :: ':' ::
      groupsWith true (a.groups.drop (start + length))) = some (a, []) := by
  have hlength := congrArg List.length zeros
  simp only [List.length_append, List.length_take, List.length_replicate, List.length_drop,
    length_groups] at hlength
  have hfront : (a.groups.take start).length = start := by
    rw [List.length_take, length_groups]
    omega
  have hback : (a.groups.drop (start + length)).length = 8 - (start + length) := by
    rw [List.length_drop, length_groups]
  have hread := groups_groupsWith (fun g hg => groups_lt a g (List.mem_of_mem_drop hg)) .none true
    (show (a.groups.drop (start + length)).length ≤ 7 - (a.groups.take start).length by omega)
  rw [List.append_nil] at hread
  refine ipv6_of_gap (by omega) (fun g hg => groups_lt a g (List.mem_of_mem_take hg)) hread ?_
  have hgap : 8 - (a.groups.take start).length - (a.groups.drop (start + length)).length = length := by
    omega
  rw [hgap, ← zeros]
  exact ofGroups?_eq_some (flatMap_groups a)

/-- In each of its forms an IPv6 address is read as it was written. -/
theorem Written.ipv6_eq (h : Written a s) : ipv6 s = some (a, []) := by
  cases h with
  | mapped maps => exact ipv6_mapped maps
  | gap long zeros => exact ipv6_gap long zeros
  | all => exact ipv6_of_groups (length_groups a) (groups_lt a) (ofGroups?_eq_some (flatMap_groups a))

theorem ipv4_groupsWith (gs : List Nat) (hrest : Gap rest) : ipv4 (groupsWith true gs ++ rest) = none := by
  cases gs with
  | nil => exact ipv4_of_bounded List.not_mem_nil hrest.bounded
  | cons g gs =>
    rw [groupsWith, lead, if_pos rfl, List.append_assoc]
    exact ipv4_of_bounded (dot_not_mem_toDigits g) (bounded_groupsWith hrest)

theorem Written.ipv4_eq (h : Written a s) : ipv4 s = none := by
  cases h with
  | mapped => exact ipv4_of_bounded List.not_mem_nil (bounded_cons _)
  | gap => exact ipv4_groupsWith _ (.some _)
  | all =>
    have hread := ipv4_groupsWith a.groups .none
    rwa [List.append_nil] at hread

/-! ## The characters of an address -/

def alphabet : List Char := ".:0123456789abcdef".toList

theorem mem_alphabet_of_mem_toDigits (hbase : 1 < base) (hmost : base ≤ 16)
    (h : c ∈ Nat.toDigits base n) : c ∈ alphabet := by
  have hall : ∀ d < 16, d.digitChar ∈ alphabet := by decide
  obtain ⟨d, hd, rfl⟩ := exists_digit_of_mem_toDigits hbase h
  exact hall d (Nat.lt_of_lt_of_le hd hmost)

theorem ipv4_subset (a : Ipv4) : a.text.toList ⊆ alphabet := by
  obtain ⟨w, x, y, z, -, htext⟩ := toList_ipv4_text a
  have hdigits (o : UInt8) : Nat.toDigits 10 o.toNat ⊆ alphabet := fun c =>
    mem_alphabet_of_mem_toDigits (by decide) (by decide)
  have hdot : '.' ∈ alphabet := by decide
  rw [htext]
  simp [List.append_subset, hdigits, hdot]

theorem groupsWith_subset (first : Bool) (gs : List Nat) : groupsWith first gs ⊆ alphabet := by
  have hcolon : ':' ∈ alphabet := by decide
  induction gs generalizing first with
  | nil => exact List.nil_subset _
  | cons g gs ih =>
    have hdigits : Nat.toDigits 16 g ⊆ alphabet := fun c =>
      mem_alphabet_of_mem_toDigits (by decide) (by decide)
    cases first <;> simp [groupsWith, lead, List.append_subset, hdigits, hcolon, ih]

theorem Written.subset (h : Written a s) : s ⊆ alphabet := by
  have hcolon : ':' ∈ alphabet := by decide
  cases h with
  | @mapped b =>
    have hones : Nat.toDigits 16 65535 ⊆ alphabet := by decide
    simp [List.append_subset, hcolon, hones, ipv4_subset b]
  | gap => simp [List.append_subset, hcolon, groupsWith_subset]
  | all => exact groupsWith_subset _ _

end Address

namespace Ip

open Address

theorem text_subset (ip : Ip) : ip.text.toList ⊆ alphabet := by
  cases ip with
  | v4 a => exact ipv4_subset a
  | v6 a => exact (written_text a).subset

/-- An address is read as it was written. -/
theorem ofText?_text (ip : Ip) : ofText? ip.text.toList = some ip := by
  cases ip with
  | v4 a =>
    have hread : ipv4 (a.text.toList ++ []) = some (a, []) := ipv4_text a stops_nil
    rw [List.append_nil] at hread
    rw [ofText?, text, hread]
    rfl
  | v6 a =>
    rw [ofText?, text, (written_text a).ipv4_eq, (written_text a).ipv6_eq]
    rfl

example :
    (Ip.v6 ⟨[0x20, 1, 0xd, 0xb8, 0, 0, 0, 0, 0, 1, 0, 0, 0, 0, 0, 2], rfl⟩).text = "2001:db8::1:0:0:2" := by
  decide +kernel

end Ip

end SealedRelay
