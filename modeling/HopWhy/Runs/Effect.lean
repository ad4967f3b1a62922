import HopWhy.Engine.Stages

/-!
# Effects of live programs

What a live program adds to its session: the network calls it begins, the probes
it records, the hops it finishes and the body octets it counts. Clock readings
move the time on and leave no effect. Effects add up along a run.
-/

namespace HopWhy

structure Effect where
  calls : List Interaction
  probes : List ProbeRecord
  hops : List HttpHop
  read : ℕ

namespace Effect

def none : Effect := ⟨[], [], [], 0⟩

instance : Append Effect :=
  ⟨fun a b => ⟨a.calls ++ b.calls, a.probes ++ b.probes, a.hops ++ b.hops, a.read + b.read⟩⟩

/-- A call that the list of probes does not show. -/
def ofCalls (calls : List Interaction) : Effect := ⟨calls, [], [], 0⟩

def ofProbe (record : ProbeRecord) : Effect := ⟨[], [record], [], 0⟩

def ofHop (hop : HttpHop) : Effect := ⟨[], [], [hop], 0⟩

/-- Calls under one probe. -/
def probed (calls : List Interaction) (record : ProbeRecord) : Effect := ⟨calls, [record], [], 0⟩

@[simp] theorem calls_append (a b : Effect) : (a ++ b).calls = a.calls ++ b.calls := rfl

@[simp] theorem probes_append (a b : Effect) : (a ++ b).probes = a.probes ++ b.probes := rfl

@[simp] theorem hops_append (a b : Effect) : (a ++ b).hops = a.hops ++ b.hops := rfl

@[simp] theorem read_append (a b : Effect) : (a ++ b).read = a.read + b.read := rfl

@[simp] theorem calls_none : none.calls = [] := rfl

@[simp] theorem probes_none : none.probes = [] := rfl

@[simp] theorem hops_none : none.hops = [] := rfl

@[simp] theorem read_none : none.read = 0 := rfl

@[simp] theorem none_append (a : Effect) : none ++ a = a := by
  change Effect.mk _ _ _ (0 + a.read) = a
  rw [Nat.zero_add]
  rfl

@[simp] theorem append_none (a : Effect) : a ++ none = a := by
  change Effect.mk (a.calls ++ []) (a.probes ++ []) (a.hops ++ []) a.read = a
  simp only [List.append_nil]

theorem ofCalls_append_ofProbe (calls : List Interaction) (record : ProbeRecord) :
    ofCalls calls ++ ofProbe record = probed calls record := by
  change Effect.mk (calls ++ []) [record] [] 0 = _
  rw [List.append_nil, probed]

theorem ofCalls_append_read (calls more : List Interaction) (n : ℕ) :
    ofCalls calls ++ ⟨more, [], [], n⟩ = ⟨calls ++ more, [], [], n⟩ := by
  change Effect.mk _ _ _ (0 + n) = _
  rw [Nat.zero_add]
  rfl

theorem probed_append_read (calls more : List Interaction) (record : ProbeRecord) (n : ℕ) :
    probed calls record ++ ⟨more, [], [], n⟩ = ⟨calls ++ more, [record], [], n⟩ := by
  change Effect.mk _ _ _ (0 + n) = _
  rw [Nat.zero_add]
  rfl

end Effect

variable {env : Environment}

/-- The network calls of a history. -/
def World.calls (w : World env) : List Interaction := w.interactions.filter (· ≠ .clock)

theorem World.calls_interact (w : World env) (i : Interaction) :
    (w.interact i).calls = w.calls ++ if i = .clock then [] else [i] := by
  by_cases h : i = .clock
  · simp [World.calls, h]
  · simp [World.calls, h]

/-- The session `t` is `s` after the effect `e`. The new records continue the
numbering and stay within the probe limit. -/
structure Leads (s : Session (World env)) (e : Effect) (t : Session (World env)) : Prop where
  calls : t.world.calls = s.world.calls ++ e.calls
  completed : t.world.completed = s.world.completed ++ e.hops
  probes : t.tracker.probes = s.tracker.probes ++ e.probes
  read : t.tracker.responseBytesRead.toNat =
    min (s.tracker.responseBytesRead.toNat + e.read) (2 ^ 64 - 1)
  started : t.tracker.started = s.tracker.started
  deadline : t.tracker.deadline = s.tracker.deadline
  maxProbes : t.tracker.maxProbes = s.tracker.maxProbes
  numbered : ∀ i p, e.probes[i]? = some p →
    p.sequence.toNat = s.tracker.probes.length + i + 1
  limit : e.probes ≠ [] → t.tracker.probes.length ≤ s.tracker.maxProbes.toNat
  steps : s.world.step ≤ t.world.step

namespace Leads

variable {s t u : Session (World env)} {a b : Effect}

theorem refl (s : Session (World env)) : Leads s .none s where
  calls := by simp
  completed := by simp
  probes := by simp
  read := by
    have := s.tracker.responseBytesRead.toNat_lt
    simp only [Effect.read_none]
    omega
  started := rfl
  deadline := rfl
  maxProbes := rfl
  numbered := by simp
  limit := by simp
  steps := le_refl _

/-- Effects add up. -/
theorem trans (h : Leads s a t) (k : Leads t b u) : Leads s (a ++ b) u where
  calls := by rw [k.calls, h.calls, Effect.calls_append, List.append_assoc]
  completed := by rw [k.completed, h.completed, Effect.hops_append, List.append_assoc]
  probes := by rw [k.probes, h.probes, Effect.probes_append, List.append_assoc]
  read := by
    rw [k.read, h.read, Effect.read_append]
    omega
  started := k.started.trans h.started
  deadline := k.deadline.trans h.deadline
  maxProbes := k.maxProbes.trans h.maxProbes
  numbered := by
    intro i p hp
    rw [Effect.probes_append] at hp
    by_cases hi : i < a.probes.length
    · rw [List.getElem?_append_left hi] at hp
      exact h.numbered i p hp
    · rw [List.getElem?_append_right (Nat.le_of_not_lt hi)] at hp
      have hp := k.numbered _ p hp
      have hlen : t.tracker.probes.length = s.tracker.probes.length + a.probes.length := by
        rw [h.probes, List.length_append]
      omega
  limit := by
    intro hne
    rcases hb : b.probes with _ | ⟨p, ps⟩
    · have ha : a.probes ≠ [] := by simpa [hb] using hne
      rw [k.probes, hb, List.append_nil]
      exact h.limit ha
    · rw [← h.maxProbes]
      exact k.limit (by simp [hb])
  steps := h.steps.trans k.steps

end Leads

@[simp] theorem reading_world (s : Session (World env)) : s.reading = env.time s.world.step := rfl

@[simp] theorem step_tick (s : Session (World env)) : s.tick.world.step = s.world.step + 1 :=
  World.step_interact _ _

@[simp] theorem interactions_tick (s : Session (World env)) :
    s.tick.world.interactions = s.world.interactions ++ [.clock] := rfl

@[simp] theorem completed_tick (s : Session (World env)) :
    s.tick.world.completed = s.world.completed := rfl

theorem leads_tick (s : Session (World env)) : Leads s .none s.tick where
  calls := by exact (World.calls_interact _ _).trans (by simp)
  completed := by simp
  probes := by simp
  read := (Leads.refl s).read
  started := rfl
  deadline := rfl
  maxProbes := rfl
  numbered := by simp
  limit := by simp
  steps := by simp

variable {ε : Type}

theorem remaining_apply (s : Session (World env)) :
    Tracker.remaining s =
      if env.time s.world.step < s.tracker.deadline then
        (.ok (s.tracker.deadline - env.time s.world.step), s.tick)
      else (.error budgetExhausted, s.tick) := by
  simp only [Tracker.remaining, Prog.bind_apply, instant_apply, Prog.state_apply,
    Prog.ite_apply]
  rfl

/-- Reading the remaining time has no effect and fails only at the deadline. -/
theorem remaining_cases (s : Session (World env)) :
    (env.time s.world.step < s.tracker.deadline ∧
      Tracker.remaining s = (.ok (s.tracker.deadline - env.time s.world.step), s.tick)) ∨
    (s.tracker.deadline ≤ env.time s.world.step ∧
      Tracker.remaining s = (.error budgetExhausted, s.tick)) := by
  rw [remaining_apply]
  by_cases h : env.time s.world.step < s.tracker.deadline
  · exact Or.inl ⟨h, if_pos h⟩
  · exact Or.inr ⟨Nat.le_of_not_lt h, if_neg h⟩

def Session.interact (s : Session (World env)) (i : Interaction) : Session (World env) :=
  { s with world := s.world.interact i }

@[simp] theorem interact_apply {α : Type} (answer : ℕ → α × Interaction)
    (s : Session (World env)) :
    (HopWhy.interact answer : Prog (Session (World env)) ε α) s =
      (.ok (answer s.world.step).1, s.interact (answer s.world.step).2) := rfl

@[simp] theorem interact_bind {α β : Type} (answer : ℕ → α × Interaction)
    (f : α → Prog (Session (World env)) ε β) (s : Session (World env)) :
    (HopWhy.interact answer >>= f) s =
      f (answer s.world.step).1 (s.interact (answer s.world.step).2) := rfl

@[simp] theorem tracker_interact (s : Session (World env)) (i : Interaction) :
    (s.interact i).tracker = s.tracker := rfl

@[simp] theorem step_interact (s : Session (World env)) (i : Interaction) :
    (s.interact i).world.step = s.world.step + 1 := World.step_interact _ _

@[simp] theorem interactions_interact (s : Session (World env)) (i : Interaction) :
    (s.interact i).world.interactions = s.world.interactions ++ [i] := rfl

@[simp] theorem completed_interact (s : Session (World env)) (i : Interaction) :
    (s.interact i).world.completed = s.world.completed := rfl

theorem leads_interact (s : Session (World env)) {i : Interaction} (h : i ≠ .clock) :
    Leads s (.ofCalls [i]) (s.interact i) where
  calls := by simp [Session.interact, World.calls_interact, h, Effect.ofCalls]
  completed := by simp [Effect.ofCalls]
  probes := by simp [Effect.ofCalls]
  read := (Leads.refl s).read
  started := rfl
  deadline := rfl
  maxProbes := rfl
  numbered := by simp [Effect.ofCalls]
  limit := by simp [Effect.ofCalls]
  steps := by simp

/-- A probe slot is free. -/
def SlotFree (s : Session (World env)) : Prop :=
  ¬ s.tracker.maxProbes ≤ saturatingU32 s.tracker.probes.length

theorem SlotFree.length_lt {s : Session (World env)} (h : SlotFree s) :
    s.tracker.probes.length < s.tracker.maxProbes.toNat := by
  have hmax := s.tracker.maxProbes.toNat_lt
  have h : (saturatingU32 s.tracker.probes.length).toNat < s.tracker.maxProbes.toNat :=
    Nat.lt_of_not_le h
  by_cases hlen : s.tracker.probes.length < 2 ^ 32
  · rwa [toNat_saturatingU32 hlen] at h
  · have hsat : (saturatingU32 s.tracker.probes.length).toNat = 2 ^ 32 - 1 := by
      rw [saturatingU32, if_neg hlen, UInt32.toNat_ofNat_of_lt' (by decide)]
    omega

/-- There is time for a probe, and a slot for its record. -/
def Openable (s : Session (World env)) : Prop :=
  env.time s.world.step < s.tracker.deadline ∧ SlotFree s

/-- The probe fits as the next record of the session. -/
structure Opened (s : Session (World env)) (kind : ProbeKind) (destination : String)
    (probe : ActiveProbe) : Prop where
  kind : probe.kind = kind
  destination : probe.destination = destination
  sequence : probe.sequence.toNat = s.tracker.probes.length + 1
  limit : s.tracker.probes.length < s.tracker.maxProbes.toNat

theorem Opened.along {s t : Session (World env)} {kind : ProbeKind} {destination : String}
    {probe : ActiveProbe} {e : Effect} (h : Opened s kind destination probe) (k : Leads s e t)
    (he : e.probes = []) : Opened t kind destination probe where
  kind := h.kind
  destination := h.destination
  sequence := by rw [k.probes, he, List.append_nil, h.sequence]
  limit := by
    rw [k.probes, he, List.append_nil, k.maxProbes]
    exact h.limit

theorem Opened.of_tick {s : Session (World env)} {kind : ProbeKind} {destination : String}
    {probe : ActiveProbe} (h : Opened s.tick kind destination probe) :
    Opened s kind destination probe :=
  ⟨h.kind, h.destination, h.sequence, h.limit⟩

theorem startProbe_apply (kind : ProbeKind) (destination : String) (s : Session (World env)) :
    Tracker.startProbe kind destination s =
      if env.time s.world.step < s.tracker.deadline then
        if s.tracker.maxProbes ≤ saturatingU32 s.tracker.probes.length then
          (.error budgetExhausted, s.tick)
        else
          (.ok {
            sequence := saturatingU32 s.tracker.probes.length + 1
            kind
            destination
            startedMs := saturatingU64
              ((env.time (s.world.step + 1) - s.tracker.started) / 1000000) }, s.tick.tick)
      else (.error budgetExhausted, s.tick) := by
  simp only [Tracker.startProbe, Prog.bind_apply, remaining_apply]
  split_ifs with hdeadline hslot
  · simp [hslot]
  · simp [hslot, Prog.bind_apply]
  · rfl

/-- Opening a probe has no effect and needs time and a free slot. -/
theorem startProbe_cases (kind : ProbeKind) (destination : String) (s : Session (World env)) :
    (env.time s.world.step < s.tracker.deadline ∧ SlotFree s ∧ ∃ probe,
      Tracker.startProbe kind destination s = (.ok probe, s.tick.tick) ∧
      Opened s kind destination probe) ∨
    (¬ (env.time s.world.step < s.tracker.deadline ∧ SlotFree s) ∧
      Tracker.startProbe kind destination s = (.error budgetExhausted, s.tick)) := by
  rw [startProbe_apply]
  by_cases hdeadline : env.time s.world.step < s.tracker.deadline
  · by_cases hslot : SlotFree s
    · rw [if_pos hdeadline, if_neg hslot]
      refine Or.inl ⟨hdeadline, hslot, _, rfl, ?_⟩
      · have hlimit := hslot.length_lt
        have hmax := s.tracker.maxProbes.toNat_lt
        refine ⟨rfl, rfl, ?_, hlimit⟩
        rw [UInt32.toNat_add, toNat_saturatingU32 (by omega)]
        change (s.tracker.probes.length + 1) % 2 ^ 32 = _
        exact Nat.mod_eq_of_lt (by omega)
    · refine Or.inr ⟨fun h => hslot h.2, ?_⟩
      rw [if_pos hdeadline, if_pos (not_not.mp hslot)]
  · exact Or.inr ⟨fun h => hdeadline h.1, if_neg hdeadline⟩

/-- The record of a probe that is closed at that time. -/
def recordOf (probe : ActiveProbe) (outcome : String) (durationMs : UInt64) : ProbeRecord where
  sequence := probe.sequence
  kind := probe.kind
  destination := probe.destination
  startedMs := probe.startedMs
  durationMs
  outcome

def Session.close (s : Session (World env)) (record : ProbeRecord) : Session (World env) :=
  { s with tracker := { s.tracker with probes := s.tracker.probes ++ [record] } }

@[simp] theorem interactions_close (s : Session (World env)) (record : ProbeRecord) :
    (s.close record).world.interactions = s.world.interactions := rfl

@[simp] theorem finishProbe_apply (probe : ActiveProbe) (started : ℕ) (outcome : String)
    (s : Session (World env)) :
    (Tracker.finishProbe probe started outcome : Prog (Session (World env)) ε Unit) s =
      (.ok (), s.tick.close (recordOf probe outcome
        (saturatingU64 ((env.time s.world.step - started) / 1000000)))) := rfl

@[simp] theorem finishProbe_bind {β : Type} (probe : ActiveProbe) (started : ℕ)
    (outcome : String) (f : Unit → Prog (Session (World env)) ε β) (s : Session (World env)) :
    (Tracker.finishProbe probe started outcome >>= f) s =
      f () (s.tick.close (recordOf probe outcome
        (saturatingU64 ((env.time s.world.step - started) / 1000000)))) := rfl

/-- Closing an opened probe records it. -/
theorem leads_close {s : Session (World env)} {kind : ProbeKind} {destination : String}
    {probe : ActiveProbe} (h : Opened s kind destination probe) (outcome : String)
    (durationMs : UInt64) :
    Leads s (.ofProbe (recordOf probe outcome durationMs))
      (s.tick.close (recordOf probe outcome durationMs)) where
  calls := by
    have := (leads_tick s).calls
    simpa [Effect.ofProbe, Session.close] using this
  completed := by simp [Effect.ofProbe, Session.close]
  probes := rfl
  read := (Leads.refl s).read
  started := rfl
  deadline := rfl
  maxProbes := rfl
  numbered := by
    intro i p hp
    rcases i with _ | i
    · simp only [Effect.ofProbe, List.getElem?_cons_zero, Option.some.injEq] at hp
      rw [← hp, Nat.add_zero]
      exact h.sequence
    · simp [Effect.ofProbe] at hp
  limit := by
    intro _
    have := h.limit
    simp only [Session.close, tracker_tick, List.length_append, List.length_singleton]
    omega
  steps := by simp [Session.close]

end HopWhy
