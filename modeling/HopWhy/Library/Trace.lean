import Mathlib.Data.Nat.Notation

/-!
# Traces

Lists of events in which every event is justified by the events before it. A
justification often speaks of the latest event of some kind.
-/

namespace Trace

variable {α β : Type}

/-- Every event of the trace meets `P` with all that came before it. -/
def Guarded (P : List α → α → Prop) (history trace : List α) : Prop :=
  ∀ before a after, trace = before ++ a :: after → P (history ++ before) a

section Guarded

variable {P : List α → α → Prop} {history : List α}

theorem guarded_nil : Guarded P history [] := by
  intro before a after h
  simp at h

theorem guarded_cons {a : α} {trace : List α} (ha : P history a)
    (h : Guarded P (history ++ [a]) trace) : Guarded P history (a :: trace) := by
  intro before c after heq
  rcases before with _ | ⟨b, before⟩
  · cases heq
    rwa [List.append_nil]
  · cases heq
    have := h before c after rfl
    rwa [List.append_assoc] at this

theorem Guarded.append {a b : List α} (ha : Guarded P history a)
    (hb : Guarded P (history ++ a) b) : Guarded P history (a ++ b) := by
  induction a generalizing history with
  | nil => rwa [List.append_nil] at hb
  | cons x a ih =>
    have hx : P (history ++ []) x := ha [] x a rfl
    rw [List.append_nil] at hx
    refine guarded_cons hx (ih ?_ ?_)
    · intro before c after heq
      have := ha (x :: before) c after (by rw [heq]; rfl)
      rwa [List.append_assoc]
    · rwa [List.append_assoc]

/-- Events that need no justification. -/
theorem guarded_of_free {trace : List α} (h : ∀ a ∈ trace, ∀ before, P before a) :
    Guarded P history trace := by
  intro before a after heq
  exact h a (heq ▸ List.mem_append_right _ List.mem_cons_self) _

end Guarded

/-- What the latest event has to say that has something to say. -/
def latest (f : α → Option β) (history : List α) : Option β := history.reverse.findSome? f

theorem latest_append_of_silent {f : α → Option β} {more : List α} (h : ∀ a ∈ more, f a = none)
    (history : List α) : latest f (history ++ more) = latest f history := by
  have hmore : more.reverse.findSome? f = none :=
    List.findSome?_eq_none_iff.mpr fun a ha => h a (List.mem_reverse.mp ha)
  rw [latest, List.reverse_append, List.findSome?_append, hmore, Option.none_or]
  rfl

theorem latest_concat {f : α → Option β} {a : α} {b : β} (h : f a = some b) (history : List α) :
    latest f (history ++ [a]) = some b := by
  rw [latest, List.reverse_append]
  exact List.findSome?_cons_of_isSome (by simp [h]) |>.trans h

/-- Until the next event that has something to say, the latest one justifies the events. -/
theorem Guarded.of_mem_takeWhile {P : List α → α → Prop} {f : α → Option β}
    {trace before after : List α} {a c : α} {b : β} (h : Guarded P [] trace)
    (htrace : trace = before ++ a :: after) (ha : f a = some b)
    (hc : c ∈ after.takeWhile fun x => (f x).isNone) :
    ∃ history, latest f history = some b ∧ P history c := by
  obtain ⟨middle, rest, hsplit⟩ := List.append_of_mem hc
  have hafter : after = middle ++ c :: (rest ++ after.dropWhile fun x => (f x).isNone) := by
    rw [← List.cons_append, ← List.append_assoc, ← hsplit, List.takeWhile_append_dropWhile]
  refine ⟨before ++ [a] ++ middle, ?_, ?_⟩
  · rw [latest_append_of_silent, latest_concat ha]
    intro x hx
    have hx : x ∈ after.takeWhile fun x => (f x).isNone :=
      hsplit ▸ List.mem_append_left _ hx
    simpa using List.all_eq_true.mp List.all_takeWhile x hx
  · refine h (before ++ [a] ++ middle) c (rest ++ after.dropWhile fun x => (f x).isNone) ?_
    rw [htrace, List.append_assoc, List.append_assoc, List.singleton_append, ← hafter]

end Trace
