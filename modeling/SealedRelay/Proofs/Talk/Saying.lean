import SealedRelay.Proofs.Talk.Hearing

/-!
# What has been said when a talk ends

A talk writes messages, one after the other, and at some point comes to an end. What holds at all of its
ends is found by going through the talk: at every read any bytes may come, as many as were asked for at
most, or a fault.

Results:
* `written_told`: what a talk writes is its messages, one behind the other.
* `EndsIn.run`: what holds at all ends of a talk holds when it has run over a channel.
* `EndsIn.forall_told`: what holds of all messages at every end holds of them at any time.
* `EndsIn.bind`, `EndsIn.andThen`: one talk, or exchange, after the other.
-/
namespace SealedRelay

namespace Channel

variable {c c' : Channel} {most : Nat} {b : Bytes}

@[simp] theorem room_front (c : Channel) (patient : Bool) : (c.front patient).room = c.room := by
  unfold front
  split <;> rfl

theorem unread_calm (c : Channel) : c.calm.unread = c.unread := by
  obtain ⟨pieces, ended, room, written⟩ := c
  simp only [calm, unread]
  induction pieces with
  | nil => rfl
  | cons p pieces ih =>
    cases p with
    | ok => rfl
    | error f =>
      by_cases h : f.kind = .interrupted
      · simp only [List.dropWhile_cons, h, decide_true, if_true]
        exact ih
      · simp only [List.dropWhile_cons, h, decide_false, Bool.false_eq_true, if_false]

@[simp] theorem unread_front (c : Channel) (patient : Bool) : (c.front patient).unread = c.unread := by
  cases patient with
  | false => rfl
  | true => exact c.unread_calm

theorem room_read (c : Channel) (most : Nat) : (c.read most).2.room = c.room := by
  unfold read
  split
  · rfl
  · rfl
  · split <;> rfl

/-- What a read is told comes off the bytes that are still to be read. -/
theorem read_ok (h : c.read most = (some (.ok b), c')) : b.length ≤ most ∧ c.unread = b ++ c'.unread := by
  obtain ⟨pieces, ended, room, written⟩ := c
  unfold read at h
  split at h
  · rename_i hnil
    obtain rfl : pieces = [] := hnil
    cases ended <;> cases h
    exact ⟨Nat.zero_le _, rfl⟩
  · cases h
  · rename_i piece rest hpieces
    obtain rfl : pieces = .ok piece :: rest := hpieces
    split at h
    · rename_i hle
      cases h
      exact ⟨hle, rfl⟩
    · cases h
      refine ⟨List.length_take_le _ _, ?_⟩
      simp [unread, ← List.append_assoc]

theorem read_error {f : Fault} (h : c.read most = (some (.error f), c')) : c.unread = c'.unread := by
  obtain ⟨pieces, ended, room, written⟩ := c
  unfold read at h
  split at h
  · cases ended <;> cases h
  · rename_i rest hpieces
    obtain rfl : pieces = _ :: rest := hpieces
    cases h
    rfl
  · split at h <;> cases h

theorem unread_write (c : Channel) (data : Bytes) : (c.write data).2.unread = c.unread := by
  unfold write
  split
  · rfl
  · split <;> rfl

theorem write_of_room (h : c.room = none) (data : Bytes) :
    c.write data = (.ok (), { c with written := c.written ++ data }) := by
  simp only [write, h]

end Channel

namespace Talk

variable {α β ε : Type} {t : Talk α} {c : Channel} {heard : Bytes} {said : List Bytes}

/-- The messages that a talk writes, or tries to write, when it runs over a channel. -/
def told (t : Talk α) (c : Channel) : List Bytes :=
  match t with
  | done _ => []
  | recv most patient next =>
    match (c.front patient).read most with
    | (none, _) => []
    | (some r, c) => (next r).told c
  | send data next => data :: (next (c.write data).1).told (c.write data).2

theorem run_send (h : c.room = none) (data : Bytes) (next : Except Fault Unit → Talk α) :
    (send data next).run c = (next (.ok ())).run { c with written := c.written ++ data } := by
  rw [run, c.write_of_room h]

theorem told_send (h : c.room = none) (data : Bytes) (next : Except Fault Unit → Talk α) :
    (send data next).told c =
      data :: (next (.ok ())).told { c with written := c.written ++ data } := by
  rw [told, c.write_of_room h]

theorem written_told (t : Talk α) (hc : c.room = none) :
    (t.run c).2.written = c.written ++ (t.told c).flatten := by
  induction t generalizing c with
  | done => simp [run, told]
  | send data next ih =>
    have hwritten := ih (.ok ()) (c := { c with written := c.written ++ data }) hc
    rw [run_send hc, told_send hc, List.flatten_cons, ← List.append_assoc]
    exact hwritten
  | recv most patient next ih =>
    have hwritten := ((c.front patient).written_read most).trans (c.written_front patient)
    have hroom := ((c.front patient).room_read most).trans (c.room_front patient)
    rw [run_recv, told]
    rcases hread : (c.front patient).read most with ⟨_ | r, c'⟩
    · rw [hread] at hwritten
      rw [hwritten]
      exact (List.append_nil _).symm
    · rw [hread] at hwritten hroom
      rw [← hwritten]
      exact ih r (hroom.trans hc)

/-! ## What holds at every end -/

/-- `P` holds of what has been heard and said, and of what the talk comes to, wherever it ends after
`heard` and `said`. What could not be written counts as said. -/
def EndsIn (P : Bytes → List Bytes → α → Prop) : Talk α → Bytes → List Bytes → Prop
  | done a, heard, said => P heard said a
  | recv most _ next, heard, said =>
    (∀ f, (next (.error f)).EndsIn P heard said) ∧
      ∀ b, b.length ≤ most → (next (.ok b)).EndsIn P (heard ++ b) said
  | send data next, heard, said => ∀ r, (next r).EndsIn P heard (said ++ [data])

variable {P Q : Bytes → List Bytes → α → Prop} {R : Bytes → List Bytes → β → Prop}

theorem EndsIn.run {a : α} (h : t.EndsIn P heard said) (hresult : (t.run c).1.result? = some a) :
    ∃ got, c.unread = got ++ (t.run c).2.unread ∧ P (heard ++ got) (said ++ t.told c) a := by
  induction t generalizing c heard said with
  | done b =>
    obtain rfl := Option.some.inj hresult
    refine ⟨[], rfl, ?_⟩
    rw [List.append_nil, told, List.append_nil]
    exact h
  | send data next ih =>
    rw [run] at hresult ⊢
    rw [told, List.append_cons, ← c.unread_write data]
    exact ih _ (h _) hresult
  | recv most patient next ih =>
    rw [run_recv] at hresult ⊢
    rw [told, ← c.unread_front patient]
    rcases hread : (c.front patient).read most with ⟨_ | r, c'⟩
    · rw [hread] at hresult
      cases hresult
    · rw [hread] at hresult
      cases r with
      | error f =>
        rw [Channel.read_error hread]
        exact ih _ (h.1 f) hresult
      | ok b =>
        obtain ⟨hle, hunread⟩ := Channel.read_ok hread
        obtain ⟨got, hgot, hP⟩ := ih _ (h.2 b hle) hresult
        refine ⟨b ++ got, ?_, ?_⟩
        · rw [hunread, List.append_assoc]
          exact congrArg (b ++ ·) hgot
        · rwa [← List.append_assoc]

/-- From everywhere there is a way to an end, on which nothing of what has been said is taken back. -/
theorem EndsIn.exists_end (h : t.EndsIn P heard said) : ∃ heard' more a, P heard' (said ++ more) a := by
  induction t generalizing heard said with
  | done a => exact ⟨heard, [], a, by rwa [List.append_nil]⟩
  | send data next ih =>
    obtain ⟨heard', more, a, hP⟩ := ih _ (h (.ok ()))
    exact ⟨heard', [data] ++ more, a, by rwa [← List.append_assoc]⟩
  | recv most patient next ih => exact ih _ (h.2 [] (Nat.zero_le _))

/-- What holds at every end of all that has been said holds of it at any time. -/
theorem EndsIn.forall_told {p : Bytes → Prop} (h : t.EndsIn P heard said)
    (hp : ∀ heard said a, P heard said a → ∀ m ∈ said, p m) (c : Channel) : ∀ m ∈ t.told c, p m := by
  induction t generalizing c heard said with
  | done => exact nofun
  | send data next ih =>
    have hrest := h (c.write data).1
    obtain ⟨heard', more, a, hP⟩ := hrest.exists_end
    refine List.forall_mem_cons.2 ⟨hp _ _ _ hP data ?_, ih _ hrest _⟩
    simp
  | recv most patient next ih =>
    rw [told]
    rcases hread : (c.front patient).read most with ⟨_ | r, c'⟩
    · exact nofun
    · cases r with
      | error f => exact ih _ (h.1 f) c'
      | ok b => exact ih _ (h.2 b (Channel.read_ok hread).1) c'

theorem EndsIn.mono (h : t.EndsIn P heard said) (hPQ : ∀ heard said a, P heard said a → Q heard said a) :
    t.EndsIn Q heard said := by
  induction t generalizing heard said with
  | done a => exact hPQ _ _ _ h
  | send data next ih => exact fun r => ih r (h r)
  | recv most patient next ih => exact ⟨fun f => ih _ (h.1 f), fun b hb => ih _ (h.2 b hb)⟩

theorem EndsIn.bind {f : α → Talk β}
    (h : t.EndsIn (fun heard said a => (f a).EndsIn R heard said) heard said) :
    (t.bind f).EndsIn R heard said := by
  induction t generalizing heard said with
  | done a => exact h
  | send data next ih => exact fun r => ih r (h r)
  | recv most patient next ih => exact ⟨fun f => ih _ (h.1 f), fun b hb => ih _ (h.2 b hb)⟩

/-- An exchange that goes on only if it has not failed. -/
theorem EndsIn.andThen {x : ExceptT ε Talk α} {f : α → ExceptT ε Talk β}
    {R : Bytes → List Bytes → Except ε β → Prop}
    (h : x.run.EndsIn (fun heard said r =>
      match r with
      | .ok a => (f a).run.EndsIn R heard said
      | .error e => R heard said (.error e)) heard said) :
    (x >>= f).run.EndsIn R heard said := by
  refine EndsIn.bind (h.mono fun heard said r hr => ?_)
  cases r with
  | ok a => exact hr
  | error e => exact hr

/-- An exact read gets as many bytes as it was asked for, or meets with a fault. -/
theorem endsIn_recvExactly {P : Bytes → List Bytes → Except Fault Bytes → Prop} (n : Nat) (acc : Bytes)
    (fails : ∀ f b, P (heard ++ b) said (.error f))
    (gets : ∀ b, b.length = n → P (heard ++ b) said (.ok (acc ++ b))) :
    (recvExactly n acc).EndsIn P heard said := by
  induction n using Nat.strongRecOn generalizing acc heard with
  | ind n ih =>
    cases Nat.eq_zero_or_pos n with
    | inl hzero =>
      subst hzero
      have hnil := gets [] rfl
      rw [List.append_nil, List.append_nil] at hnil
      rw [recvExactly_zero]
      exact hnil
    | inr hpos =>
      rw [recvExactly_of_pos hpos]
      refine ⟨fun f => ?_, fun b hle => ?_⟩
      · have hfault := fails f []
        rwa [List.append_nil] at hfault
      · dsimp only
        split
        · exact fails .earlyEnd b
        · rename_i hb
          have hlen : 0 < b.length := List.length_pos_iff.2 hb
          rw [List.take_of_length_le hle]
          refine ih (n - b.length) (by omega) _ (fun f b' => ?_) fun b' hb' => ?_
          · rw [List.append_assoc]
            exact fails f _
          · rw [List.append_assoc, List.append_assoc]
            refine gets (b ++ b') ?_
            rw [List.length_append]
            omega

end Talk

end SealedRelay
