import SealedRelay.Proofs.Talk.Hearing

/-!
# What an exchange accepts, exactly

An exchange accepts a set of dialogues: what may be said to it for it to succeed, what it comes to then
and what it answers. It succeeds if what it gets begins with what is said in one of them, reads no further
than that, and does not succeed on anything else.

Results:
* `Accepts.bind`: the dialogues of one exchange after another.
* `Accepts.ite`: an exchange that goes on under a condition.
* `Accepts.result?_attend`, `Accepts.attend`: how an exchange ends when bytes arrive in pieces.
-/
namespace SealedRelay.Talk

variable {α β ε : Type}

/-- What may be said to an exchange that then comes to an `α`, and what it answers. -/
abbrev Dialogue (α : Type) := α → (said answer : Bytes) → Prop

namespace Dialogue

def done (a : α) : Dialogue α := fun b said answer => b = a ∧ said = [] ∧ answer = []

/-- Nothing will do. -/
def never : Dialogue α := fun _ _ _ => False

/-- As many bytes, whatever they are. -/
def bytes (n : Nat) : Dialogue Bytes := fun b said answer => b.length = n ∧ said = b ∧ answer = []

/-- Nothing is to be said, and some bytes are answered. -/
def answered (b : Bytes) : Dialogue Unit := fun _ said answer => said = [] ∧ answer = b

def andThen (D : Dialogue α) (E : α → Dialogue β) : Dialogue β := fun b said answer =>
  ∃ a s s' w w', D a s w ∧ E a b s' w' ∧ said = s ++ s' ∧ answer = w ++ w'

variable {b : β} {said answer : Bytes}

theorem bytes_andThen {n : Nat} {E : Bytes → Dialogue β} :
    (bytes n).andThen E b said answer ↔ ∃ a s, a.length = n ∧ said = a ++ s ∧ E a b s answer := by
  constructor
  · rintro ⟨a, _, s, _, w, ⟨hlen, rfl, rfl⟩, hrest, rfl, rfl⟩
    exact ⟨_, s, hlen, rfl, hrest⟩
  · rintro ⟨a, s, hlen, rfl, hrest⟩
    exact ⟨a, a, s, [], answer, ⟨hlen, rfl, rfl⟩, hrest, rfl, rfl⟩

theorem answered_andThen {data : Bytes} {E : Unit → Dialogue β} :
    (answered data).andThen E b said answer ↔ ∃ w, answer = data ++ w ∧ E () b said w := by
  constructor
  · rintro ⟨_, _, s, _, w, ⟨rfl, rfl⟩, hrest, rfl, rfl⟩
    exact ⟨w, rfl, hrest⟩
  · rintro ⟨w, rfl, hrest⟩
    exact ⟨(), [], said, data, w, ⟨rfl, rfl⟩, hrest, rfl, rfl⟩

end Dialogue

/-- `x` succeeds exactly on what begins with what is said in `D`, and reads no further. -/
structure Accepts (x : ExceptT ε Talk α) (D : Dialogue α) : Prop where
  takes : ∀ {a said answer}, D a said answer → ∀ rest ended,
    x.run.Hears (said ++ rest) ended (some (.ok a)) rest answer
  refuses : ∀ got ended, (∀ a said answer, D a said answer → ¬ said <+: got) →
    ∃ r rest w, x.run.Hears got ended r rest w ∧ ∀ a, r ≠ some (.ok a)

variable {x y : ExceptT ε Talk α} {f : α → ExceptT ε Talk β} {D D' : Dialogue α} {E : α → Dialogue β}

theorem Accepts.congr (h : Accepts x D) (hD : ∀ a said answer, D a said answer ↔ D' a said answer) :
    Accepts x D' where
  takes ha := h.takes ((hD ..).2 ha)
  refuses got ended hnone := h.refuses got ended fun a said answer ha => hnone a said answer ((hD ..).1 ha)

theorem accepts_pure (a : α) : Accepts (pure a : ExceptT ε Talk α) (Dialogue.done a) where
  takes := by
    rintro _ _ _ ⟨rfl, rfl, rfl⟩ rest ended
    exact hears_pure _ rest ended
  refuses got ended hnone := absurd List.nil_prefix (hnone a [] [] ⟨rfl, rfl, rfl⟩)

theorem accepts_throw (e : ε) : Accepts (throw e : ExceptT ε Talk α) Dialogue.never where
  takes h := h.elim
  refuses got ended _ := ⟨some (.error e), got, [], hears_done _ got ended, nofun⟩

theorem Accepts.bind (hx : Accepts x D) (hf : ∀ a, Accepts (f a) (E a)) :
    Accepts (x >>= f) (D.andThen E) where
  takes := by
    rintro b _ _ ⟨a, s, s', w, w', ha, hb, rfl, rfl⟩ rest ended
    have hfirst := hx.takes ha (s' ++ rest) ended
    rw [← List.append_assoc] at hfirst
    exact hfirst.bind_ok ((hf a).takes hb rest ended)
  refuses got ended hnone := by
    by_cases hstart : ∃ a s w, D a s w ∧ s <+: got
    · obtain ⟨a, s, w, ha, rest, rfl⟩ := hstart
      have hrest : ∀ b s' w', E a b s' w' → ¬ s' <+: rest := fun b s' w' hb hprefix =>
        hnone b (s ++ s') (w ++ w') ⟨a, s, s', w, w', ha, hb, rfl, rfl⟩
          ((List.prefix_append_right_inj s).2 hprefix)
      obtain ⟨r, rest', w', hears, fails⟩ := (hf a).refuses rest ended hrest
      exact ⟨r, rest', w ++ w', (hx.takes ha rest ended).bind_ok hears, fails⟩
    · obtain ⟨r, rest, w, hears, fails⟩ := hx.refuses got ended fun a s w ha hprefix =>
        hstart ⟨a, s, w, ha, hprefix⟩
      obtain ⟨r', hears', fails', -⟩ := hears.bind_stops fails
      exact ⟨r', rest, w, hears', fails'⟩

theorem Accepts.never_bind (hx : Accepts x Dialogue.never) :
    Accepts (x >>= f) Dialogue.never where
  takes h := h.elim
  refuses got ended _ := by
    obtain ⟨r, rest, w, hears, fails⟩ := hx.refuses got ended fun _ _ _ h => h.elim
    obtain ⟨r', hears', fails', -⟩ := hears.bind_stops fails
    exact ⟨r', rest, w, hears', fails'⟩

theorem Accepts.bind_never (hx : Accepts x D) (hf : ∀ a, Accepts (f a) Dialogue.never) :
    Accepts (x >>= f) Dialogue.never :=
  (hx.bind hf).congr fun _ _ _ => ⟨fun ⟨_, _, _, _, _, _, h, _⟩ => h, False.elim⟩

/-- Under the condition nothing succeeds. -/
theorem Accepts.ite {p : Prop} [Decidable p] (hx : Accepts x Dialogue.never) (hy : ¬ p → Accepts y D) :
    Accepts (if p then x else y) fun a said answer => ¬ p ∧ D a said answer := by
  split
  · rename_i hp
    exact hx.congr fun _ _ _ => ⟨False.elim, fun h => h.1 hp⟩
  · rename_i hp
    exact (hy hp).congr fun _ _ _ => ⟨fun h => ⟨hp, h⟩, And.right⟩

variable {a : α} {said answer : Bytes} {arrivals : List Bytes} {ended : Bool}

/-- The end of an exchange to which the right things are said. -/
theorem Accepts.attend (hx : Accepts x D) (ha : D a said answer) {rest : Bytes}
    (hgot : arrivals.flatten = said ++ rest) (ended : Bool) :
    (x.run.attend arrivals ended).1.result? = some (.ok a) ∧
      (x.run.attend arrivals ended).2.unread = rest ∧
      (x.run.attend arrivals ended).2.written = answer :=
  Hears.attend (hgot ▸ hx.takes ha rest ended)

/-- An exchange succeeds exactly if the right things are said to it first. -/
theorem Accepts.result?_attend (hx : Accepts x D) :
    (x.run.attend arrivals ended).1.result? = some (.ok a) ↔
      ∃ said answer, D a said answer ∧ said <+: arrivals.flatten := by
  constructor
  · intro h
    by_cases hstart : ∃ b said answer, D b said answer ∧ said <+: arrivals.flatten
    · obtain ⟨b, said, answer, hb, rest, hgot⟩ := hstart
      have hresult := (hx.attend hb hgot.symm ended).1
      obtain rfl := Except.ok.inj (Option.some.inj (hresult.symm.trans h))
      exact ⟨said, answer, hb, rest, hgot⟩
    · obtain ⟨r, rest, w, hears, fails⟩ := hx.refuses arrivals.flatten ended
        fun b said answer hb hprefix => hstart ⟨b, said, answer, hb, hprefix⟩
      exact absurd (hears.attend.1.symm.trans h) (fails a)
  · rintro ⟨said, answer, ha, rest, hgot⟩
    exact (hx.attend ha hgot.symm ended).1

end SealedRelay.Talk
