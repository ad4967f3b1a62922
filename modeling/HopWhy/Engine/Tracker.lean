import HopWhy.Engine.Environment
import HopWhy.Model.Error

/-!
# The budget tracker

One deadline and one probe limit for a whole run. A probe is opened by
`startProbe`, and it is recorded only when `finishProbe` is reached.
-/

namespace HopWhy

/-- Instants are nanoseconds of the monotonic clock. -/
structure Tracker where
  started : ℕ
  deadline : ℕ
  maxProbes : UInt32
  probes : List ProbeRecord
  responseBytesRead : UInt64

structure Session (σ : Type) where
  tracker : Tracker
  world : σ

structure ActiveProbe where
  sequence : UInt32
  kind : ProbeKind
  destination : String
  startedMs : UInt64

def budgetExhausted : AppError :=
  (AppError.new .budget "budget_exhausted"
    "the global diagnostic duration or probe budget was exhausted").withRetryable true

def Tracker.new (options : InspectionOptions) (started : ℕ) : Tracker where
  started
  deadline := started + options.budgetMs.toNat * 1000000
  maxProbes := options.maxProbes
  probes := []
  responseBytesRead := 0

section

variable {σ ε : Type} [Clock σ]

/-- `Instant::now`. -/
def instant : Prog (Session σ) ε ℕ := fun s =>
  (.ok (Clock.now s.world).1, { s with world := (Clock.now s.world).2 })

def elapsedMs (started : ℕ) : Prog (Session σ) ε UInt64 := do
  let now ← instant
  pure (saturatingU64 ((now - started) / 1000000))

/-- What the clock shows now. -/
def Session.reading (s : Session σ) : ℕ := (Clock.now s.world).1

/-- The session after one more reading of the clock. -/
def Session.tick (s : Session σ) : Session σ := { s with world := (Clock.now s.world).2 }

@[simp] theorem tracker_tick (s : Session σ) : s.tick.tracker = s.tracker := rfl

@[simp] theorem instant_apply (s : Session σ) :
    (instant : Prog (Session σ) ε ℕ) s = (.ok s.reading, s.tick) := rfl

@[simp] theorem instant_bind {α : Type} (f : ℕ → Prog (Session σ) ε α) (s : Session σ) :
    (instant >>= f) s = f s.reading s.tick := rfl

@[simp] theorem elapsedMs_apply (started : ℕ) (s : Session σ) :
    (elapsedMs started : Prog (Session σ) ε UInt64) s =
      (.ok (saturatingU64 ((s.reading - started) / 1000000)), s.tick) := rfl

@[simp] theorem elapsedMs_bind {α : Type} (started : ℕ) (f : UInt64 → Prog (Session σ) ε α)
    (s : Session σ) : (elapsedMs started >>= f) s =
      f (saturatingU64 ((s.reading - started) / 1000000)) s.tick := rfl

def modifyTracker (f : Tracker → Tracker) : Prog (Session σ) ε Unit :=
  Prog.modify fun s => { s with tracker := f s.tracker }

namespace Tracker

/-- A deadline that is reached leaves no time. -/
def remaining : Prog (Session σ) AppError ℕ := do
  let now ← instant
  let s ← Prog.state
  if now < s.tracker.deadline then pure (s.tracker.deadline - now)
  else Prog.fail budgetExhausted

def startProbe (kind : ProbeKind) (destination : String) :
    Prog (Session σ) AppError ActiveProbe := do
  let _ ← remaining
  let s ← Prog.state
  let used := saturatingU32 s.tracker.probes.length
  if s.tracker.maxProbes ≤ used then Prog.fail budgetExhausted
  else do
    let startedMs ← elapsedMs s.tracker.started
    pure { sequence := used + 1, kind, destination, startedMs }

def finishProbe (probe : ActiveProbe) (started : ℕ) (outcome : String) :
    Prog (Session σ) ε Unit := do
  let durationMs ← elapsedMs started
  modifyTracker fun t => { t with
    probes := t.probes ++ [{
      sequence := probe.sequence
      kind := probe.kind
      destination := probe.destination
      startedMs := probe.startedMs
      durationMs
      outcome }] }

end Tracker

end

end HopWhy
