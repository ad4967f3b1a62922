import HopWhy.Library.Prog

/-!
# Two runs in step

A relational triple follows two programs at once: from related states they both
return, with related values, or both fail, with the same error, and the states
they reach are related again. The rules build the couplings of compound programs
from those of their parts.
-/

/-- Two outcomes that differ at most in related values. -/
def Except.Alike {ε α α' : Type} (A : α → α' → Prop) : Except ε α → Except ε α' → Prop
  | .ok a, .ok a' => A a a'
  | .error e, .error e' => e = e'
  | _, _ => False

/-- Two outcomes with related values, or with related errors. -/
def Except.Either {ε ε' α α' : Type} (E : ε → ε' → Prop) (A : α → α' → Prop) :
    Except ε α → Except ε' α' → Prop
  | .ok a, .ok a' => A a a'
  | .error e, .error e' => E e e'
  | _, _ => False

theorem Except.Alike.mono {ε α α' : Type} {A A' : α → α' → Prop} {r : Except ε α}
    {r' : Except ε α'} (h : r.Alike A r') (hA : ∀ a a', A a a' → A' a a') : r.Alike A' r' := by
  rcases r with e | a <;> rcases r' with e' | a'
  · exact h
  · exact h
  · exact h
  · exact hA a a' h

theorem Except.Alike.eq {ε α : Type} {r r' : Except ε α} (h : r.Alike Eq r') : r = r' := by
  rcases r with e | a <;> rcases r' with e' | a'
  · exact congrArg Except.error h
  · cases h
  · cases h
  · exact congrArg Except.ok h

namespace Prog

variable {σ σ' ε ε' δ α α' β β' γ : Type}

/-- From related states the programs end alike, in related states. -/
def Coupled (R : σ → σ' → Prop) (A : α → α' → Prop) (m : Prog σ ε α) (m' : Prog σ' ε α') : Prop :=
  ∀ s s', R s s' → (m s).1.Alike A (m' s').1 ∧ R (m s).2 (m' s').2

section Rules

variable {R : σ → σ' → Prop} {A : α → α' → Prop} {B : β → β' → Prop}

theorem Coupled.mono {A' : α → α' → Prop} {m : Prog σ ε α} {m' : Prog σ' ε α'}
    (h : Coupled R A m m') (hA : ∀ a a', A a a' → A' a a') : Coupled R A' m m' := by
  intro s s' hs
  obtain ⟨hr, ht⟩ := h s s' hs
  exact ⟨hr.mono hA, ht⟩

theorem Coupled.pure {a : α} {a' : α'} (h : A a a') :
    Coupled R A (Pure.pure a : Prog σ ε α) (Pure.pure a') := fun _ _ hs => ⟨h, hs⟩

/-- A program is in step with itself. -/
theorem Coupled.refl (m : Prog σ ε α) : Coupled Eq Eq m m := by
  rintro s _ rfl
  refine ⟨?_, rfl⟩
  rcases (m s).1 with e | a
  · rfl
  · rfl

theorem Coupled.fail (e : ε) : Coupled R A (Prog.fail e) (Prog.fail e) := fun _ _ hs => ⟨rfl, hs⟩

theorem Coupled.ofExcept {r : Except ε α} {r' : Except ε α'} (h : r.Alike A r') :
    Coupled R A (Prog.ofExcept r) (Prog.ofExcept r') := fun _ _ hs => ⟨h, hs⟩

theorem Coupled.modify {f : σ → σ} {f' : σ' → σ'} (h : ∀ s s', R s s' → R (f s) (f' s')) :
    Coupled R Eq (Prog.modify f : Prog σ ε Unit) (Prog.modify f') :=
  fun s s' hs => ⟨rfl, h s s' hs⟩

theorem Coupled.bind {m : Prog σ ε α} {m' : Prog σ' ε α'} {f : α → Prog σ ε β}
    {f' : α' → Prog σ' ε β'} (h : Coupled R A m m')
    (h' : ∀ a a', A a a' → Coupled R B (f a) (f' a')) : Coupled R B (m >>= f) (m' >>= f') := by
  intro s s' hs
  obtain ⟨hr, ht⟩ := h s s' hs
  rw [bind_apply, bind_apply]
  rcases hm : m s with ⟨e | a, t⟩ <;> rcases hm' : m' s' with ⟨e' | a', t'⟩ <;>
    rw [hm, hm'] at hr ht
  · exact ⟨hr, ht⟩
  · cases hr
  · cases hr
  · exact h' a a' hr t t' ht

/-- A value that both programs return is carried on as one. -/
theorem Coupled.bindEq {m : Prog σ ε α} {m' : Prog σ' ε α} {f : α → Prog σ ε β}
    {f' : α → Prog σ' ε β'} (h : Coupled R Eq m m') (h' : ∀ a, Coupled R B (f a) (f' a)) :
    Coupled R B (m >>= f) (m' >>= f') := by
  apply h.bind
  rintro a _ rfl
  exact h' a

/-- Branching on the outcomes keeps them alike. -/
theorem Coupled.attempt {m : Prog σ ε α} {m' : Prog σ' ε α'} (h : Coupled R A m m') :
    Coupled R (Except.Alike A) (Prog.attempt m : Prog σ δ (Except ε α)) (Prog.attempt m') :=
  fun s s' hs => h s s' hs

/-- A branch on the outcomes of two programs that end alike. -/
theorem Coupled.attemptBind {m : Prog σ ε α} {m' : Prog σ' ε α'} {f : Except ε α → Prog σ δ β}
    {f' : Except ε α' → Prog σ' δ β'} (h : Coupled R A m m')
    (hok : ∀ a a', A a a' → Coupled R B (f (.ok a)) (f' (.ok a')))
    (herror : ∀ e, Coupled R B (f (.error e)) (f' (.error e))) :
    Coupled R B (Prog.attempt m >>= f) (Prog.attempt m' >>= f') := by
  apply h.attempt.bind
  intro r r' hr
  rcases r with e | a <;> rcases r' with e' | a'
  · cases hr
    exact herror e
  · cases hr
  · cases hr
  · exact hok a a' hr

theorem Coupled.ite {c c' : Prop} [Decidable c] [Decidable c'] {m n : Prog σ ε α}
    {m' n' : Prog σ' ε α'} (hc : c ↔ c') (h : Coupled R A m m') (k : Coupled R A n n') :
    Coupled R A (if c then m else n) (if c' then m' else n') := by
  by_cases hb : c
  · rw [if_pos hb, if_pos (hc.mp hb)]
    exact h
  · rw [if_neg hb, if_neg fun hb' => hb (hc.mpr hb')]
    exact k

/-- Two loops of as many rounds: what related values keep in a round they keep to the end. -/
theorem Coupled.loop {round : ℕ → β → Prog σ ε (β ⊕ α)} {round' : ℕ → β' → Prog σ' ε (β' ⊕ α')}
    {exhausted : β → Prog σ ε α} {exhausted' : β' → Prog σ' ε α'} (I : ℕ → β → β' → Prop)
    (hround : ∀ i b b', I i b b' →
      Coupled R (Sum.LiftRel (I (i + 1)) A) (round i b) (round' i b'))
    (hend : ∀ i b b', I i b b' → Coupled R A (exhausted b) (exhausted' b')) :
    ∀ n i b b', I i b b' →
      Coupled R A (Prog.loop round exhausted n i b) (Prog.loop round' exhausted' n i b') := by
  intro n
  induction n with
  | zero => exact hend
  | succ n ih =>
    intro i b b' hb
    apply (hround i b b' hb).bind
    intro r r' hr
    cases hr with
    | inl hnext => exact ih (i + 1) _ _ hnext
    | inr hleft => exact Coupled.pure hleft

theorem Coupled.firstOf {round : γ → Prog σ ε (Option α)} {round' : γ → Prog σ' ε (Option α)}
    {exhausted : Prog σ ε α} {exhausted' : Prog σ' ε α}
    (hround : ∀ c, Coupled R Eq (round c) (round' c)) (hend : Coupled R Eq exhausted exhausted')
    (cs : List γ) :
    Coupled R Eq (Prog.firstOf round exhausted cs) (Prog.firstOf round' exhausted' cs) := by
  induction cs with
  | nil => exact hend
  | cons c cs ih =>
    apply (hround c).bindEq
    rintro (_ | a)
    · exact ih
    · exact Coupled.pure rfl

end Rules

/-- From related states the programs end in related states, and their values are related, or
their errors are. -/
def Matched (R : σ → σ' → Prop) (E : ε → ε' → Prop) (A : α → α' → Prop) (m : Prog σ ε α)
    (m' : Prog σ' ε' α') : Prop :=
  ∀ s s', R s s' → (m s).1.Either E A (m' s').1 ∧ R (m s).2 (m' s').2

section Rules

variable {R : σ → σ' → Prop} {E : ε → ε' → Prop} {A : α → α' → Prop} {B : β → β' → Prop}

theorem Matched.pure {a : α} {a' : α'} (h : A a a') :
    Matched R E A (Pure.pure a : Prog σ ε α) (Pure.pure a' : Prog σ' ε' α') :=
  fun _ _ hs => ⟨h, hs⟩

theorem Matched.fail {e : ε} {e' : ε'} (h : E e e') :
    Matched R E A (Prog.fail e) (Prog.fail e') := fun _ _ hs => ⟨h, hs⟩

/-- Equal errors are related where the relation is reflexive. -/
theorem Coupled.matched {E : ε → ε → Prop} {m : Prog σ ε α} {m' : Prog σ' ε α'}
    (h : Coupled R A m m') (hE : ∀ e, E e e) : Matched R E A m m' := by
  intro s s' hs
  obtain ⟨hr, ht⟩ := h s s' hs
  refine ⟨?_, ht⟩
  rcases hm : (m s).1 with e | a <;> rcases hm' : (m' s').1 with e' | a' <;> rw [hm, hm'] at hr
  · cases hr
    exact hE e
  · cases hr
  · cases hr
  · exact hr

theorem Matched.bind {m : Prog σ ε α} {m' : Prog σ' ε' α'} {f : α → Prog σ ε β}
    {f' : α' → Prog σ' ε' β'} (h : Matched R E A m m')
    (h' : ∀ a a', A a a' → Matched R E B (f a) (f' a')) :
    Matched R E B (m >>= f) (m' >>= f') := by
  intro s s' hs
  obtain ⟨hr, ht⟩ := h s s' hs
  rw [bind_apply, bind_apply]
  rcases hm : m s with ⟨e | a, t⟩ <;> rcases hm' : m' s' with ⟨e' | a', t'⟩ <;>
    rw [hm, hm'] at hr ht
  · exact ⟨hr, ht⟩
  · cases hr
  · cases hr
  · exact h' a a' hr t t' ht

theorem Matched.attempt {m : Prog σ ε α} {m' : Prog σ' ε' α'} (h : Matched R E A m m') :
    Coupled R (Except.Either E A) (Prog.attempt m : Prog σ δ (Except ε α)) (Prog.attempt m') :=
  fun s s' hs => h s s' hs

/-- A branch on the outcomes of two programs that end alike. -/
theorem Coupled.bindMatched {m : Prog σ δ α} {m' : Prog σ' δ α'} {g : Except δ α → Prog σ ε β}
    {g' : Except δ α' → Prog σ' ε' β'} (h : Coupled R A m m')
    (hok : ∀ a a', A a a' → Matched R E B (g (.ok a)) (g' (.ok a')))
    (herror : ∀ e, Matched R E B (g (.error e)) (g' (.error e))) :
    Matched R E B (Prog.attempt m >>= g) (Prog.attempt m' >>= g') := by
  intro s s' hs
  obtain ⟨hr, ht⟩ := h s s' hs
  rw [bind_apply, bind_apply, attempt_apply, attempt_apply]
  rcases hm : m s with ⟨e | a, t⟩ <;> rcases hm' : m' s' with ⟨e' | a', t'⟩ <;>
    rw [hm, hm'] at hr ht
  · cases hr
    exact herror e t t' ht
  · cases hr
  · cases hr
  · exact hok a a' hr t t' ht

end Rules

/-- The program does not mend the guard: where it holds afterwards it held before. Two programs
that differ only once it is broken did the same where it still holds in the end. -/
def Remembers (G : σ → Prop) (m : Prog σ ε α) : Prop := ∀ s, G (m s).2 → G s

/-- Where the guard holds in the end, the programs reach one state, and their values are
related, or their errors are. -/
def MatchedIf (G : σ → Prop) (E : ε → ε' → Prop) (A : α → α' → Prop) (m : Prog σ ε α)
    (m' : Prog σ ε' α') : Prop :=
  ∀ s, G (m s).2 → (m s).1.Either E A (m' s).1 ∧ (m' s).2 = (m s).2

section Rules

variable {G : σ → Prop} {E : ε → ε' → Prop} {A : α → α' → Prop} {B : β → β' → Prop}

theorem Remembers.pure (a : α) : Remembers G (Pure.pure a : Prog σ ε α) := fun _ h => h

theorem Remembers.fail (e : ε) : Remembers G (Prog.fail e : Prog σ ε α) := fun _ h => h

theorem Remembers.bind {m : Prog σ ε α} {f : α → Prog σ ε β} (h : Remembers G m)
    (h' : ∀ a, Remembers G (f a)) : Remembers G (m >>= f) := by
  intro s hs
  rw [bind_apply] at hs
  apply h s
  rcases hm : m s with ⟨e | a, t⟩ <;> rw [hm] at hs
  · exact hs
  · exact h' a t hs

theorem Remembers.attempt {m : Prog σ ε α} (h : Remembers G m) :
    Remembers G (Prog.attempt m : Prog σ δ (Except ε α)) := h

/-- A branch on the outcome of a program. -/
theorem Remembers.branch {m : Prog σ ε α} {g : Except ε α → Prog σ δ β} (h : Remembers G m)
    (hok : ∀ a, Remembers G (g (.ok a))) (herror : ∀ e, Remembers G (g (.error e))) :
    Remembers G (Prog.attempt m >>= g) := by
  apply h.attempt.bind
  rintro (e | a)
  · exact herror e
  · exact hok a

theorem Remembers.ite {c : Prop} [Decidable c] {m n : Prog σ ε α} (h : Remembers G m)
    (k : Remembers G n) : Remembers G (if c then m else n) := by
  split_ifs
  · exact h
  · exact k

/-- Programs that end alike from any state do so under a guard. -/
theorem Matched.matchedIf {m : Prog σ ε α} {m' : Prog σ ε' α'} (h : Matched Eq E A m m') :
    MatchedIf G E A m m' := by
  intro s _
  obtain ⟨hr, ht⟩ := h s s rfl
  exact ⟨hr, ht.symm⟩

theorem MatchedIf.refl (m : Prog σ ε α) : MatchedIf G Eq Eq m m :=
  ((Coupled.refl m).matched fun _ => rfl).matchedIf

theorem MatchedIf.bind {m : Prog σ ε α} {m' : Prog σ ε' α'} {f : α → Prog σ ε β}
    {f' : α' → Prog σ ε' β'} (h : MatchedIf G E A m m') (hf : ∀ a, Remembers G (f a))
    (h' : ∀ a a', A a a' → MatchedIf G E B (f a) (f' a')) :
    MatchedIf G E B (m >>= f) (m' >>= f') := by
  intro s hs
  rw [bind_apply, bind_apply]
  rw [bind_apply] at hs
  have hm := h s
  rcases hr : m s with ⟨e | a, t⟩ <;> rcases hr' : m' s with ⟨e' | a', t'⟩ <;>
    rw [hr] at hs hm <;> rw [hr'] at hm
  · exact hm hs
  · cases (hm hs).1
  · cases (hm (hf a t hs)).1
  · obtain ⟨hvalues, hstates⟩ := hm (hf a t hs)
    obtain rfl : t' = t := hstates
    exact h' a a' hvalues t' hs

/-- A branch on the outcomes of two programs that fail alike. -/
theorem MatchedIf.branch {A : α → α' → Prop} {m : Prog σ δ α} {m' : Prog σ δ α'}
    {g : Except δ α → Prog σ ε β} {g' : Except δ α' → Prog σ ε' β'} (h : MatchedIf G Eq A m m')
    (hg : ∀ r, Remembers G (g r))
    (hok : ∀ a a', A a a' → MatchedIf G E B (g (.ok a)) (g' (.ok a')))
    (herror : ∀ e, MatchedIf G E B (g (.error e)) (g' (.error e))) :
    MatchedIf G E B (Prog.attempt m >>= g) (Prog.attempt m' >>= g') := by
  intro s hs
  have hm := h s (hg (m s).1 (m s).2 hs)
  rw [bind_apply, bind_apply, attempt_apply, attempt_apply] at *
  rcases hr : m s with ⟨e | a, t⟩ <;> rcases hr' : m' s with ⟨e' | a', t'⟩ <;>
    rw [hr] at hs hm <;> rw [hr'] at hm
  · obtain ⟨hvalues, hstates⟩ := hm
    obtain rfl : t' = t := hstates
    cases hvalues
    exact herror e t' hs
  · cases hm.1
  · cases hm.1
  · obtain ⟨hvalues, hstates⟩ := hm
    obtain rfl : t' = t := hstates
    exact hok a a' hvalues t' hs

/-- Two loops whose rounds do the same while the guard holds. -/
theorem MatchedIf.loop {G : σ → Prop} {round round' : ℕ → β → Prog σ ε (β ⊕ α)}
    {exhausted : β → Prog σ ε α} (hround : ∀ i b, MatchedIf G Eq Eq (round i b) (round' i b))
    (hG : ∀ i b, Remembers G (round i b)) (hend : ∀ b, Remembers G (exhausted b)) :
    ∀ n i b, Remembers G (Prog.loop round exhausted n i b) ∧
      MatchedIf G Eq Eq (Prog.loop round exhausted n i b) (Prog.loop round' exhausted n i b) := by
  intro n
  induction n with
  | zero => exact fun i b => ⟨hend b, MatchedIf.refl _⟩
  | succ n ih =>
    intro i b
    constructor
    · apply (hG i b).bind
      rintro (b' | a)
      · exact (ih (i + 1) b').1
      · exact Remembers.pure a
    · apply (hround i b).bind
      · rintro (b' | a)
        · exact (ih (i + 1) b').1
        · exact Remembers.pure a
      · rintro (b' | a) _ rfl
        · exact (ih (i + 1) b').2
        · exact MatchedIf.refl _

end Rules

end Prog
