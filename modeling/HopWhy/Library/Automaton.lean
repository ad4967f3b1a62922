import Mathlib.Computability.DFA

/-!
# Letters and states of an automaton

Which letters a word has can be told from the state it leads to, where some states are
entered by one letter only or never left again.
-/

namespace DFA

variable {α σ : Type} (M : DFA α σ)

/-- A letter that always leads into states that are not left again. -/
theorem eval_mem_of_mem {T : Set σ} {a : α} (hinto : ∀ q, M.step q a ∈ T)
    (hstay : ∀ q ∈ T, ∀ b, M.step q b ∈ T) {word : List α} (h : a ∈ word) : M.eval word ∈ T := by
  induction word using List.reverseRecOn with
  | nil => cases h
  | append_singleton word b ih =>
    rw [eval_append_singleton]
    rcases List.mem_append.mp h with hword | hlast
    · exact hstay _ (ih hword) b
    · rw [← List.mem_singleton.mp hlast]
      exact hinto _

end DFA
