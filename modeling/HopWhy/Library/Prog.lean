import Mathlib.Data.Nat.Notation
import Mathlib.Tactic.SplitIfs

/-!
# Programs with state and failure

A program reads and changes a state and either returns a value or fails. The
state it reached survives a failure, so what was recorded on the way to an
error can be spoken of afterwards. Triples carry one postcondition for a
returned value and one for a failure, and the two loop forms come with the
invariant rules their early exits need.
-/

/-- A program over the state `σ` that fails with an `ε` or returns an `α`. -/
def Prog (σ ε α : Type) : Type := σ → Except ε α × σ

namespace Prog

variable {σ ε δ α β γ : Type}

instance : Monad (Prog σ ε) where
  pure a := fun s => (.ok a, s)
  bind m f := fun s =>
    match m s with
    | (.ok a, t) => f a t
    | (.error e, t) => (.error e, t)

def fail (e : ε) : Prog σ ε α := fun s => (.error e, s)

def state : Prog σ ε σ := fun s => (.ok s, s)

def modify (f : σ → σ) : Prog σ ε Unit := fun s => (.ok (), f s)

def ofExcept (r : Except ε α) : Prog σ ε α := fun s => (r, s)

/-- The outcome of `m` as a value, for a caller that branches on a failure. -/
def attempt (m : Prog σ ε α) : Prog σ δ (Except ε α) := fun s => (.ok (m s).1, (m s).2)

@[simp] theorem pure_apply (a : α) (s : σ) : (pure a : Prog σ ε α) s = (.ok a, s) := rfl

@[simp] theorem fail_apply (e : ε) (s : σ) : (fail e : Prog σ ε α) s = (.error e, s) := rfl

@[simp] theorem state_apply (s : σ) : (state : Prog σ ε σ) s = (.ok s, s) := rfl

@[simp] theorem modify_apply (f : σ → σ) (s : σ) :
    (modify f : Prog σ ε Unit) s = (.ok (), f s) := rfl

@[simp] theorem ofExcept_apply (r : Except ε α) (s : σ) : ofExcept r s = (r, s) := rfl

@[simp] theorem attempt_apply (m : Prog σ ε α) (s : σ) :
    (attempt m : Prog σ δ (Except ε α)) s = (.ok (m s).1, (m s).2) := rfl

theorem bind_apply (m : Prog σ ε α) (f : α → Prog σ ε β) (s : σ) :
    (m >>= f) s = match m s with
      | (.ok a, t) => f a t
      | (.error e, t) => (.error e, t) := rfl

theorem ite_apply (c : Prop) [Decidable c] (m n : Prog σ ε α) (s : σ) :
    (if c then m else n) s = if c then m s else n s := by
  split_ifs <;> rfl

theorem bind_ok {m : Prog σ ε α} {f : α → Prog σ ε β} {s t : σ} {a : α}
    (h : m s = (.ok a, t)) : (m >>= f) s = f a t := by
  rw [bind_apply, h]

theorem bind_error {m : Prog σ ε α} {f : α → Prog σ ε β} {s t : σ} {e : ε}
    (h : m s = (.error e, t)) : (m >>= f) s = (.error e, t) := by
  rw [bind_apply, h]

theorem bind_assoc (m : Prog σ ε α) (f : α → Prog σ ε β) (g : β → Prog σ ε γ) :
    m >>= f >>= g = m >>= fun a => f a >>= g := by
  funext s
  simp only [bind_apply]
  rcases m s with ⟨_ | a, t⟩ <;> rfl

theorem snd_bind_pure (m : Prog σ ε α) (f : α → β) (s : σ) :
    ((m >>= fun a => pure (f a)) s).2 = (m s).2 := by
  rw [bind_apply]
  rcases m s with ⟨_ | a, t⟩ <;> rfl

/-- A sequence that returns passed through a state in which its first half had
returned. -/
theorem bind_eq_ok_iff {m : Prog σ ε α} {f : α → Prog σ ε β} {s t : σ} {b : β} :
    (m >>= f) s = (.ok b, t) ↔ ∃ a u, m s = (.ok a, u) ∧ f a u = (.ok b, t) := by
  rw [bind_apply]
  rcases hm : m s with ⟨_ | a, u⟩
  · simp
  · constructor
    · intro h
      exact ⟨a, u, rfl, h⟩
    · rintro ⟨a', u', heq, h⟩
      cases heq
      exact h

/-- Postconditions for the two ways a program ends. -/
def Post (Q : α → σ → Prop) (E : ε → σ → Prop) : Except ε α × σ → Prop
  | (.ok a, t) => Q a t
  | (.error e, t) => E e t

@[simp] theorem post_ok (Q : α → σ → Prop) (E : ε → σ → Prop) (a : α) (t : σ) :
    Post Q E (.ok a, t) ↔ Q a t := Iff.rfl

@[simp] theorem post_error (Q : α → σ → Prop) (E : ε → σ → Prop) (e : ε) (t : σ) :
    Post Q E (.error e, t) ↔ E e t := Iff.rfl

theorem Post.of_ok {Q : α → σ → Prop} {E : ε → σ → Prop} {r : Except ε α × σ} {a : α}
    (h : r.1 = .ok a) (hQ : Q a r.2) : Post Q E r := by
  obtain ⟨result, t⟩ := r
  cases h
  exact hQ

theorem Post.of_error {Q : α → σ → Prop} {E : ε → σ → Prop} {r : Except ε α × σ} {e : ε}
    (h : r.1 = .error e) (hE : E e r.2) : Post Q E r := by
  obtain ⟨result, t⟩ := r
  cases h
  exact hE

theorem Post.mono {Q Q' : α → σ → Prop} {E E' : ε → σ → Prop} {r : Except ε α × σ}
    (h : Post Q E r) (hQ : ∀ a t, Q a t → Q' a t) (hE : ∀ e t, E e t → E' e t) :
    Post Q' E' r := by
  rcases r with ⟨_ | a, t⟩
  · exact hE _ t h
  · exact hQ _ t h

/-- From every state that meets `P`, the program returns in `Q` or fails in `E`. -/
def Triple (P : σ → Prop) (m : Prog σ ε α) (Q : α → σ → Prop) (E : ε → σ → Prop) : Prop :=
  ∀ s, P s → Post Q E (m s)

section Rules

variable {P P' : σ → Prop} {Q Q' : α → σ → Prop} {E E' : ε → σ → Prop}

theorem Triple.conseq {m : Prog σ ε α} (h : Triple P m Q E) (hP : ∀ s, P' s → P s)
    (hQ : ∀ a t, Q a t → Q' a t) (hE : ∀ e t, E e t → E' e t) : Triple P' m Q' E' :=
  fun s hs => (h s (hP s hs)).mono hQ hE

/-- Two triples of a program, of which only the second tells about its failures. -/
theorem Triple.along {m : Prog σ ε α} (h : Triple P m Q E) (h' : Triple P' m Q' E') :
    Triple (fun s => P s ∧ P' s) m (fun a t => Q a t ∧ Q' a t) E' := by
  rintro s ⟨hs, hs'⟩
  have hm := h s hs
  have hm' := h' s hs'
  rcases hr : m s with ⟨e | a, t⟩ <;> rw [hr] at hm hm'
  · exact hm'
  · exact ⟨hm, hm'⟩

theorem Triple.bind {m : Prog σ ε α} {f : α → Prog σ ε β} {R : β → σ → Prop}
    (hm : Triple P m Q E) (hf : ∀ a, Triple (Q a) (f a) R E) : Triple P (m >>= f) R E := by
  intro s hs
  have h := hm s hs
  rw [bind_apply]
  rcases hr : m s with ⟨_ | a, t⟩
  · rw [hr] at h
    exact h
  · rw [hr] at h
    exact hf a t h

/-- Both halves of a sequence relate the value they were given to the one they leave. -/
theorem Triple.bind_related {τ : Type} {R : τ → τ → Prop} {F : τ → ε → Prop} {d : τ}
    {m : Prog σ ε α} {f : α → Prog σ ε β} {result : α → τ} {result' : β → τ}
    (hR : ∀ {a b c}, R a b → R b c → R a c) (hF : ∀ {a b e}, R a b → F b e → F a e)
    (h : Triple (fun _ => True) m (fun a _ => R d (result a)) (fun e _ => F d e))
    (h' : ∀ a, Triple (fun _ => True) (f a) (fun b _ => R (result a) (result' b))
      (fun e _ => F (result a) e)) :
    Triple (fun _ => True) (m >>= f) (fun b _ => R d (result' b)) (fun e _ => F d e) := by
  apply h.bind
  intro a s hfirst
  apply (h' a s trivial).mono
  · intro b t hsecond
    exact hR hfirst hsecond
  · intro e t hsecond
    exact hF hfirst hsecond

theorem Triple.pure {a : α} : Triple (Q a) (Pure.pure a : Prog σ ε α) Q E :=
  fun _ h => h

theorem Triple.fail {e : ε} : Triple (E e) (Prog.fail e : Prog σ ε α) Q E :=
  fun _ h => h

theorem Triple.ofExcept {r : Except ε α} (hok : ∀ a, r = .ok a → ∀ s, P s → Q a s)
    (herror : ∀ e, r = .error e → ∀ s, P s → E e s) : Triple P (Prog.ofExcept r) Q E := by
  intro s hs
  rcases r with e | a
  · exact herror e rfl s hs
  · exact hok a rfl s hs

/-- Branching on the outcome moves both postconditions into one. -/
theorem Triple.attempt {m : Prog σ ε α} {D : δ → σ → Prop} (h : Triple P m Q E) :
    Triple P (Prog.attempt m)
      (fun r t => match r with | .ok a => Q a t | .error e => E e t) D := by
  intro s hs
  have h := h s hs
  rcases hr : m s with ⟨_ | a, t⟩
  · rw [hr] at h
    simpa [hr] using h
  · rw [hr] at h
    simpa [hr] using h

end Rules

/-- A loop of at most `n` rounds, numbered from `i`. A round goes on with a new
value or leaves the loop with a result; `exhausted` follows the last round. -/
def loop (round : ℕ → β → Prog σ ε (β ⊕ α)) (exhausted : β → Prog σ ε α) :
    ℕ → ℕ → β → Prog σ ε α
  | 0, _, b => exhausted b
  | n + 1, i, b => round i b >>= fun
      | .inl b' => loop round exhausted n (i + 1) b'
      | .inr a => pure a

/-- The invariant rule: what a round that goes on re-establishes for the next
number holds whenever a round begins, so each exit may rely on it. -/
theorem Triple.loop {round : ℕ → β → Prog σ ε (β ⊕ α)} {exhausted : β → Prog σ ε α}
    {Q : α → σ → Prop} {E : ε → σ → Prop} (I : ℕ → β → σ → Prop) (stop : ℕ)
    (hround : ∀ i b, i < stop → Triple (I i b) (round i b)
      (fun r t => match r with | .inl b' => I (i + 1) b' t | .inr a => Q a t) E)
    (hend : ∀ b, Triple (I stop b) (exhausted b) Q E) :
    ∀ n i b, i + n = stop → Triple (I i b) (Prog.loop round exhausted n i b) Q E := by
  intro n
  induction n with
  | zero =>
    intro i b hi
    have : i = stop := by omega
    subst this
    exact hend b
  | succ n ih =>
    intro i b hi
    refine (hround i b (by omega)).bind ?_
    rintro (b' | a)
    · exact ih (i + 1) b' (by omega)
    · exact Triple.pure

/-- A loop whose invariant excludes the end of the rounds does not depend on what follows them. -/
theorem loop_eq_of_invariant {round : ℕ → β → Prog σ ε (β ⊕ α)} (exhausted other : β → Prog σ ε α)
    (I : ℕ → β → σ → Prop) (stop : ℕ)
    (hround : ∀ i b s b' t, I i b s → round i b s = (.ok (.inl b'), t) → I (i + 1) b' t)
    (hend : ∀ b s, ¬ I stop b s) :
    ∀ n i b s, i + n = stop → I i b s →
      loop round exhausted n i b s = loop round other n i b s := by
  intro n
  induction n with
  | zero =>
    intro i b s hi hinv
    rw [Nat.add_zero] at hi
    subst hi
    exact absurd hinv (hend b s)
  | succ n ih =>
    intro i b s hi hinv
    rw [loop, loop]
    rcases hr : round i b s with ⟨error | b' | a, t⟩
    · rw [bind_error hr, bind_error hr]
    · rw [bind_ok hr, bind_ok hr]
      exact ih (i + 1) b' t (by omega) (hround i b s b' t hinv hr)
    · rw [bind_ok hr, bind_ok hr]

/-- Two loops whose rounds agree before the last round of the shorter one. There the shorter
one ends, and the longer one may go on. -/
theorem loop_cut {round round' : ℕ → β → Prog σ ε (β ⊕ α)} {exhausted exhausted' : β → Prog σ ε α}
    {last : ℕ} {Cut : α → β → Prop} (hsame : ∀ i b, i < last → round i b = round' i b)
    (hlast : ∀ b s, (∃ r t, round last b s = (r, t) ∧ round' last b s = (r, t) ∧
        ∀ b', r ≠ .ok (.inl b')) ∨
      ∃ a b' t, round last b s = (.ok (.inr a), t) ∧ round' last b s = (.ok (.inl b'), t) ∧
        Cut a b') (more : ℕ) :
    ∀ n i b s, i + n = last →
      loop round exhausted (n + 1) i b s = loop round' exhausted' (n + 1 + more) i b s ∨
      ∃ a b' t, loop round exhausted (n + 1) i b s = (.ok a, t) ∧
        loop round' exhausted' (n + 1 + more) i b s =
          loop round' exhausted' more (last + 1) b' t ∧ Cut a b' := by
  intro n
  induction n with
  | zero =>
    intro i b s hi
    rw [Nat.add_zero] at hi
    subst hi
    rw [Nat.zero_add, Nat.add_comm 1 more, loop, loop]
    rcases hlast b s with ⟨r, t, hr, hr', hends⟩ | ⟨a, b', t, hr, hr', hcut⟩
    · rcases r with error | b' | a
      · rw [bind_error hr, bind_error hr']
        exact Or.inl rfl
      · exact absurd rfl (hends b')
      · rw [bind_ok hr, bind_ok hr']
        exact Or.inl rfl
    · rw [bind_ok hr, bind_ok hr']
      exact Or.inr ⟨a, b', t, rfl, rfl, hcut⟩
  | succ n ih =>
    intro i b s hi
    rw [Nat.add_right_comm (n + 1) 1 more, loop, loop, hsame i b (by omega)]
    rcases hr : round' i b s with ⟨error | b' | a, t⟩
    · rw [bind_error hr, bind_error hr]
      exact Or.inl rfl
    · rw [bind_ok hr, bind_ok hr]
      exact ih (i + 1) b' t (by omega)
    · rw [bind_ok hr, bind_ok hr]
      exact Or.inl rfl

/-- The rounds a loop comes to, with their values and states. -/
inductive Reaches (round : ℕ → β → Prog σ ε (β ⊕ α)) (b₀ : β) (s₀ : σ) : ℕ → β → σ → Prop
  | start : Reaches round b₀ s₀ 0 b₀ s₀
  | next {i : ℕ} {b b' : β} {s t : σ} (h : Reaches round b₀ s₀ i b s)
      (goesOn : round i b s = (.ok (.inl b'), t)) : Reaches round b₀ s₀ (i + 1) b' t

section Reaches

variable {round : ℕ → β → Prog σ ε (β ⊕ α)} {exhausted : β → Prog σ ε α} {b₀ : β} {s₀ : σ}

/-- From a round it comes to, the loop does what is left of it. -/
theorem loop_eq_of_reaches {i : ℕ} {b : β} {s : σ} (h : Reaches round b₀ s₀ i b s) :
    ∀ n, loop round exhausted (i + n) 0 b₀ s₀ = loop round exhausted n i b s := by
  induction h with
  | start =>
    intro n
    rw [Nat.zero_add]
  | next h goesOn ih =>
    intro n
    rw [Nat.add_assoc, Nat.add_comm 1 n, ih, loop, bind_ok goesOn]

/-- A loop that comes to a later round went on from its first. -/
theorem Reaches.first_goesOn {i : ℕ} {b : β} {s : σ} (h : Reaches round b₀ s₀ i b s) :
    i = 0 ∨ ∃ b' t, round 0 b₀ s₀ = (.ok (.inl b'), t) := by
  induction h with
  | start => exact Or.inl rfl
  | next h goesOn ih =>
    rcases ih with rfl | hfirst
    · cases h
      exact Or.inr ⟨_, _, goesOn⟩
    · exact Or.inr hfirst

theorem Reaches.unique {i : ℕ} {b b' : β} {s s' : σ} (h : Reaches round b₀ s₀ i b s)
    (h' : Reaches round b₀ s₀ i b' s') : b = b' ∧ s = s' := by
  induction h generalizing b' s' with
  | start =>
    cases h'
    exact ⟨rfl, rfl⟩
  | next h goesOn ih =>
    cases h' with
    | next k goesOn' =>
      obtain ⟨rfl, rfl⟩ := ih k
      rw [goesOn] at goesOn'
      cases goesOn'
      exact ⟨rfl, rfl⟩

/-- The rounds before one that a loop comes to go on. -/
theorem Reaches.goesOn_of_lt {i j : ℕ} {b b' : β} {s s' : σ} (h : Reaches round b₀ s₀ i b s)
    (h' : Reaches round b₀ s₀ j b' s') (hlt : i < j) :
    ∃ c t, round i b s = (.ok (.inl c), t) := by
  induction h' with
  | start => exact absurd hlt (Nat.not_lt_zero i)
  | @next j _ c _ t k goesOn ih =>
    rcases Nat.lt_succ_iff_lt_or_eq.mp hlt with hlt | rfl
    · exact ih hlt
    · obtain ⟨rfl, rfl⟩ := h.unique k
      exact ⟨c, t, goesOn⟩

/-- A loop is left in one round at most. -/
theorem Reaches.ends_unique {i j : ℕ} {b b' : β} {s s' : σ} {a a' : α} {t t' : σ}
    (h : Reaches round b₀ s₀ i b s) (hend : round i b s = (.ok (.inr a), t))
    (h' : Reaches round b₀ s₀ j b' s') (hend' : round j b' s' = (.ok (.inr a'), t')) :
    i = j ∧ b = b' ∧ s = s' := by
  rcases Nat.lt_trichotomy i j with hlt | rfl | hlt
  · obtain ⟨c, u, hgoes⟩ := h.goesOn_of_lt h' hlt
    rw [hend] at hgoes
    cases hgoes
  · exact ⟨rfl, h.unique h'⟩
  · obtain ⟨c, u, hgoes⟩ := h'.goesOn_of_lt h hlt
    rw [hend'] at hgoes
    cases hgoes

/-- The exits of a loop: a round that fails, a round that returns, or the end of the rounds. -/
theorem loop_cases (n : ℕ) {i : ℕ} {b : β} {s : σ} (hreach : Reaches round b₀ s₀ i b s) :
    (∃ j b' s' e t, Reaches round b₀ s₀ j b' s' ∧ round j b' s' = (.error e, t) ∧
      loop round exhausted n i b s = (.error e, t)) ∨
    (∃ j b' s' a t, Reaches round b₀ s₀ j b' s' ∧ round j b' s' = (.ok (.inr a), t) ∧
      loop round exhausted n i b s = (.ok a, t)) ∨
    ∃ b' s', Reaches round b₀ s₀ (i + n) b' s' ∧
      loop round exhausted n i b s = exhausted b' s' := by
  induction n generalizing i b s with
  | zero => exact Or.inr (Or.inr ⟨b, s, hreach, rfl⟩)
  | succ n ih =>
    rw [loop]
    rcases hround : round i b s with ⟨error | b' | a, t⟩
    · rw [bind_error hround]
      exact Or.inl ⟨i, b, s, error, t, hreach, hround, rfl⟩
    · rw [bind_ok hround, ← Nat.add_assoc, Nat.add_right_comm]
      exact ih (hreach.next hround)
    · rw [bind_ok hround]
      exact Or.inr (Or.inl ⟨i, b, s, a, t, hreach, hround, rfl⟩)

/-- A loop that fails does so in a round it comes to, or after its last one. -/
theorem exists_reaches_of_loop_error {e : ε} (n : ℕ) {i : ℕ} {b : β} {s t : σ}
    (hreach : Reaches round b₀ s₀ i b s) (h : loop round exhausted n i b s = (.error e, t)) :
    (∃ j b' s', Reaches round b₀ s₀ j b' s' ∧ round j b' s' = (.error e, t)) ∨
      ∃ b' s', exhausted b' s' = (.error e, t) := by
  rcases loop_cases n hreach with
    ⟨j, b', s', e', t', hlast, hround, hloop⟩ | ⟨j, b', s', a, t', -, -, hloop⟩ |
      ⟨b', s', -, hloop⟩
  · cases hloop.symm.trans h
    exact Or.inl ⟨j, b', s', hlast, hround⟩
  · cases hloop.symm.trans h
  · exact Or.inr ⟨b', s', hloop.symm.trans h⟩

/-- A loop that returns does so in a round it comes to, or after its last one. -/
theorem exists_reaches_of_loop_ok {a : α} (n : ℕ) {i : ℕ} {b : β} {s t : σ}
    (hreach : Reaches round b₀ s₀ i b s) (h : loop round exhausted n i b s = (.ok a, t)) :
    (∃ j b' s', Reaches round b₀ s₀ j b' s' ∧ round j b' s' = (.ok (.inr a), t)) ∨
      ∃ b' s', Reaches round b₀ s₀ (i + n) b' s' := by
  rcases loop_cases n hreach with
    ⟨j, b', s', e, t', -, -, hloop⟩ | ⟨j, b', s', a', t', hlast, hround, hloop⟩ |
      ⟨b', s', hlast, -⟩
  · cases hloop.symm.trans h
  · cases hloop.symm.trans h
    exact Or.inl ⟨j, b', s', hlast, hround⟩
  · exact Or.inr ⟨b', s', hlast⟩

end Reaches

/-- A pass over a list that stops at the first element giving a result. -/
def firstOf (round : γ → Prog σ ε (Option α)) (exhausted : Prog σ ε α) :
    List γ → Prog σ ε α
  | [] => exhausted
  | c :: cs => round c >>= fun
      | some a => pure a
      | none => firstOf round exhausted cs

/-- The invariant rule of `firstOf`, indexed by the elements already passed. -/
theorem Triple.firstOf {round : γ → Prog σ ε (Option α)} {exhausted : Prog σ ε α}
    {Q : α → σ → Prop} {E : ε → σ → Prop} (I : List γ → σ → Prop) (all : List γ)
    (hround : ∀ done c rest, all = done ++ c :: rest → Triple (I done) (round c)
      (fun r t => match r with | some a => Q a t | none => I (done ++ [c]) t) E)
    (hend : Triple (I all) exhausted Q E) :
    ∀ done rest, all = done ++ rest → Triple (I done) (Prog.firstOf round exhausted rest) Q E := by
  intro done rest
  induction rest generalizing done with
  | nil =>
    intro hall
    rw [List.append_nil] at hall
    subst hall
    exact hend
  | cons c rest ih =>
    intro hall
    refine (hround done c rest hall).bind ?_
    rintro (_ | a)
    · exact ih (done ++ [c]) (by simpa using hall)
    · exact Triple.pure

section Mirrors

variable {τ : Type} {f : τ → σ}

/-- Seen through `f`, the program `n` does what `m` does. -/
def Mirrors (f : τ → σ) (n : Prog τ ε α) (m : Prog σ ε α) : Prop :=
  ∀ s, m (f s) = ((n s).1, f (n s).2)

theorem Mirrors.pure (a : α) : Mirrors f (Pure.pure a : Prog τ ε α) (Pure.pure a) := fun _ => rfl

theorem Mirrors.fail (e : ε) : Mirrors f (Prog.fail e : Prog τ ε α) (Prog.fail e) := fun _ => rfl

theorem Mirrors.ofExcept (r : Except ε α) : Mirrors f (Prog.ofExcept r) (Prog.ofExcept r) :=
  fun _ => rfl

theorem Mirrors.bind {n : Prog τ ε α} {m : Prog σ ε α} {n' : α → Prog τ ε β}
    {m' : α → Prog σ ε β} (h : Mirrors f n m) (h' : ∀ a, Mirrors f (n' a) (m' a)) :
    Mirrors f (n >>= n') (m >>= m') := by
  intro s
  rw [bind_apply, bind_apply, h s]
  rcases hn : n s with ⟨_ | a, t⟩
  · rfl
  · exact h' a t

theorem Mirrors.attempt {n : Prog τ ε α} {m : Prog σ ε α} (h : Mirrors f n m) :
    Mirrors f (Prog.attempt n : Prog τ δ (Except ε α)) (Prog.attempt m) := by
  intro s
  rw [attempt_apply, attempt_apply, h s]

end Mirrors

end Prog
