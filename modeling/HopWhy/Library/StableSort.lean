import Mathlib.Data.List.Sort

/-!
# Stable sorting by a key

Insertion sort by a key keeps the order of the elements of each key. A sorted
list is determined by its sublists of one key, so two lists are sorted alike
exactly when these agree.
-/

namespace StableSort

variable {α β : Type} [LinearOrder β] (key : α → β)

/-- The elements of the key, in list order. -/
def fibre (k : β) (l : List α) : List α := l.filter fun a => key a = k

/-- The list in the order of its keys. -/
def sortBy (l : List α) : List α := l.insertionSort fun a b => key a ≤ key b

theorem pairwise_fibre (k : β) (l : List α) :
    (fibre key k l).Pairwise fun a b => key a ≤ key b := by
  apply List.pairwise_of_forall_mem_list
  intro a ha b hb
  have hka : key a = k := by simpa using (List.mem_filter.mp ha).2
  have hkb : key b = k := by simpa using (List.mem_filter.mp hb).2
  rw [hka, hkb]

/-- Sorting keeps the order within a key. -/
theorem fibre_sortBy (k : β) (l : List α) : fibre key k (sortBy key l) = fibre key k l := by
  have hsub : (fibre key k l).Sublist (sortBy key l) :=
    List.sublist_insertionSort (pairwise_fibre key k l) List.filter_sublist
  have hfibre := hsub.filter fun a => key a = k
  rw [fibre, List.filter_filter] at hfibre
  simp only [Bool.and_self] at hfibre
  have hlength := ((List.perm_insertionSort (fun a b => key a ≤ key b) l).filter
    fun a => key a = k).length_eq
  exact (hfibre.eq_of_length hlength.symm).symm

theorem fibre_cons_self (a : α) (l : List α) :
    fibre key (key a) (a :: l) = a :: fibre key (key a) l := by
  simp [fibre]

theorem le_of_mem_sorted {a b : α} {l : List α}
    (h : (a :: l).Pairwise fun a b => key a ≤ key b) (hb : b ∈ a :: l) : key a ≤ key b := by
  rcases List.mem_cons.mp hb with rfl | hb
  · exact le_refl _
  · exact List.rel_of_pairwise_cons h hb

theorem mem_of_fibre_eq {a : α} {l l' : List α} (h : ∀ k, fibre key k l = fibre key k l')
    (ha : a ∈ l) : a ∈ l' := by
  have hmem : a ∈ fibre key (key a) l := List.mem_filter.mpr ⟨ha, by simp⟩
  rw [h] at hmem
  exact (List.mem_filter.mp hmem).1

theorem eq_of_fibre_eq {l l' : List α} (hl : l.Pairwise fun a b => key a ≤ key b)
    (hl' : l'.Pairwise fun a b => key a ≤ key b)
    (h : ∀ k, fibre key k l = fibre key k l') : l = l' := by
  induction l generalizing l' with
  | nil =>
    rcases l' with _ | ⟨b, bs⟩
    · rfl
    · exact absurd (mem_of_fibre_eq key (fun k => (h k).symm) List.mem_cons_self) List.not_mem_nil
  | cons a as ih =>
    rcases l' with _ | ⟨b, bs⟩
    · exact absurd (mem_of_fibre_eq key h List.mem_cons_self) List.not_mem_nil
    · -- Both heads have the least key, and they are the first elements of it.
      have hkey : key a = key b := le_antisymm
        (le_of_mem_sorted key hl (mem_of_fibre_eq key (fun k => (h k).symm) List.mem_cons_self))
        (le_of_mem_sorted key hl' (mem_of_fibre_eq key h List.mem_cons_self))
      have hheads := h (key a)
      rw [fibre_cons_self, hkey, fibre_cons_self] at hheads
      obtain rfl : a = b := (List.cons.inj hheads).1
      rw [ih hl.of_cons hl'.of_cons]
      intro k
      have hk := h k
      by_cases hak : key a = k
      · subst hak
        rw [fibre_cons_self, fibre_cons_self] at hk
        exact (List.cons.inj hk).2
      · simpa [fibre, hak] using hk

/-- Two lists are sorted alike exactly when they have the same elements of each key in the
same order. -/
theorem sortBy_eq_iff {l l' : List α} :
    sortBy key l = sortBy key l' ↔ ∀ k, fibre key k l = fibre key k l' := by
  constructor
  · intro h k
    rw [← fibre_sortBy, h, fibre_sortBy]
  · intro h
    have hsorted : ∀ l, (sortBy key l).Pairwise fun a b => key a ≤ key b := fun l =>
      List.pairwise_insertionSort (fun a b => key a ≤ key b) l
    apply eq_of_fibre_eq key (hsorted l) (hsorted l')
    intro k
    rw [fibre_sortBy, fibre_sortBy, h]

end StableSort
