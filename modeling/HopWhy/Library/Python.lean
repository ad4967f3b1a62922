import HopWhy.Library.StableSort
import HopWhy.Library.Text
import Mathlib.Data.List.Dedup
import Mathlib.Data.String.Basic

/-!
# Python values

What a Python program over a parsed JSON document computes with: the values of
the reader, dictionaries as lists of their items in insertion order, and the
strings and sets it makes of them. A raised exception is the error of an
`Except`.
-/

theorem Except.bind_eq_ok {ε α β : Type} {x : Except ε α} {f : α → Except ε β} {b : β} :
    (x >>= f) = .ok b ↔ ∃ a, x = .ok a ∧ f a = .ok b := by
  cases x with
  | error e =>
    constructor
    · intro h
      cases h
    · rintro ⟨_, h, _⟩
      cases h
  | ok a =>
    constructor
    · intro h
      exact ⟨a, rfl, h⟩
    · rintro ⟨_, h, hf⟩
      cases h
      exact hf

/-- The results of a loop without an exception. -/
theorem Except.mem_of_mapM {ε α β : Type} {f : α → Except ε β} {l : List α} {results : List β}
    (h : l.mapM f = .ok results) (b : β) : b ∈ results ↔ ∃ a ∈ l, f a = .ok b := by
  induction l generalizing results with
  | nil =>
    cases h
    simp
  | cons a l ih =>
    simp only [List.mapM_cons, Except.bind_eq_ok] at h
    obtain ⟨first, hfirst, others, hothers, h⟩ := h
    cases h
    rw [List.mem_cons, ih hothers, List.exists_mem_cons_iff, hfirst, Except.ok.injEq, eq_comm]

/-- A loop whose steps all have results. -/
theorem Except.exists_mapM {ε α β : Type} {f : α → Except ε β} {l : List α}
    (h : ∀ a ∈ l, ∃ b, f a = .ok b) : ∃ results, l.mapM f = .ok results := by
  induction l with
  | nil => exact ⟨[], rfl⟩
  | cons a l ih =>
    obtain ⟨b, hb⟩ := h a List.mem_cons_self
    obtain ⟨results, hresults⟩ := ih fun a ha => h a (List.mem_cons_of_mem _ ha)
    refine ⟨b :: results, ?_⟩
    rw [List.mapM_cons, hb, hresults]
    rfl

namespace Python

/-- A value as the JSON reader builds it. -/
inductive PyValue where
  | none
  | bool (b : Bool)
  | int (n : ℤ)
  | float (bits : UInt64)
  | str (text : String)
  | list (items : List PyValue)
  | dict (entries : List (String × PyValue))

def PyValue.get? (name : String) : PyValue → Option PyValue
  | .dict entries => entries.lookup name
  | _ => Option.none

/-- The value under a row of keys. -/
def PyValue.field? (value : PyValue) : List String → Option PyValue
  | [] => some value
  | name :: path => (value.get? name).bind fun child => child.field? path

/-- The value under the keys exists and has the property. -/
def PyValue.At (value : PyValue) (path : List String) (P : PyValue → Prop) : Prop :=
  ∃ child, value.field? path = some child ∧ P child

theorem PyValue.At.cons {entries : List (String × PyValue)} {name : String} {child : PyValue}
    {path : List String} {P : PyValue → Prop} (hchild : entries.lookup name = some child)
    (h : child.At path P) : (PyValue.dict entries).At (name :: path) P := by
  obtain ⟨last, hlast, hP⟩ := h
  refine ⟨last, ?_, hP⟩
  rw [field?, get?, hchild, Option.bind_some, hlast]

theorem PyValue.At.nil {value : PyValue} {P : PyValue → Prop} (h : P value) : value.At [] P :=
  ⟨value, rfl, h⟩

theorem PyValue.At.mono {value : PyValue} {path : List String} {P Q : PyValue → Prop}
    (h : value.At path P) (hPQ : ∀ child, P child → Q child) : value.At path Q := by
  obtain ⟨child, hchild, hP⟩ := h
  exact ⟨child, hchild, hPQ child hP⟩

/-- What holds further down the path. -/
theorem PyValue.At.trans {value : PyValue} {path rest : List String} {P : PyValue → Prop}
    (h : value.At path fun child => child.At rest P) : value.At (path ++ rest) P := by
  obtain ⟨child, hchild, last, hlast, hP⟩ := h
  refine ⟨last, ?_, hP⟩
  induction path generalizing value with
  | nil =>
    cases hchild
    exact hlast
  | cons name path ih =>
    obtain ⟨next, hnext, hrest⟩ := Option.bind_eq_some_iff.mp hchild
    rw [List.cons_append, field?, hnext, Option.bind_some, ih hrest]

/-- `str.isspace` for one character. -/
def isSpace (c : Char) : Bool :=
  Text.isWhitespace c || (0x1c ≤ c.toNat && c.toNat ≤ 0x1f)

def strip (text : String) : String :=
  String.ofList (((text.toList.dropWhile isSpace).reverse.dropWhile isSpace).reverse)

/-- `str.rstrip` of one character. -/
def rstrip (c : Char) (text : String) : String :=
  String.ofList ((text.toList.reverse.dropWhile (· = c)).reverse)

def endsWith (suffix text : String) : Bool := suffix.toList.isSuffixOf text.toList

/-- The elements of a set, sorted. -/
def sortedSet {α : Type} [LinearOrder α] (l : List α) : List α := StableSort.sortBy id l.dedup

theorem sortedSet_eq_nil {α : Type} [LinearOrder α] {l : List α} (h : sortedSet l = []) :
    l = [] := by
  have hperm := List.perm_insertionSort (fun a b : α => id a ≤ id b) l.dedup
  have hnil : l.dedup = [] := List.perm_nil.mp (h ▸ hperm.symm)
  exact (List.dedup_eq_nil l).mp hnil

/-- A set whose difference to another one is empty is a part of it. -/
theorem subset_of_sortedSet {α : Type} [LinearOrder α] [DecidableEq α] {l others : List α}
    (h : sortedSet (l.filter (· ∉ others)) = []) : l ⊆ others := by
  intro a ha
  have hnone := List.filter_eq_nil_iff.mp (sortedSet_eq_nil h) a ha
  simpa using hnone

section

variable {κ ν : Type} [DecidableEq κ]

/-- `d[key] = value`: a key that is there keeps its position. -/
def setItem (key : κ) (value : ν) : List (κ × ν) → List (κ × ν)
  | [] => [(key, value)]
  | entry :: rest =>
    if entry.1 = key then (key, value) :: rest else entry :: setItem key value rest

/-- The dictionary of the pairs, where the last value of a key stays. -/
def dictOf (pairs : List (κ × ν)) : List (κ × ν) :=
  pairs.foldl (fun d pair => setItem pair.1 pair.2 d) []

theorem setItem_of_not_mem {key : κ} {d : List (κ × ν)} (h : key ∉ d.map Prod.fst) (value : ν) :
    setItem key value d = d ++ [(key, value)] := by
  induction d with
  | nil => rfl
  | cons entry rest ih =>
    rw [List.map_cons, List.mem_cons, not_or] at h
    rw [setItem, if_neg (Ne.symm h.1), ih h.2, List.cons_append]

/-- Pairs of different keys are the items of their dictionary. -/
theorem dictOf_of_nodup {pairs : List (κ × ν)} (h : (pairs.map Prod.fst).Nodup) :
    dictOf pairs = pairs := by
  have hfold : ∀ rest d : List (κ × ν), ((d ++ rest).map Prod.fst).Nodup →
      rest.foldl (fun d pair => setItem pair.1 pair.2 d) d = d ++ rest := by
    intro rest
    induction rest with
    | nil =>
      intro d _
      rw [List.foldl_nil, List.append_nil]
    | cons pair rest ih =>
      intro d hd
      have hsplit : d ++ pair :: rest = (d ++ [(pair.1, pair.2)]) ++ rest := by simp
      have hfresh : pair.1 ∉ d.map Prod.fst := by
        rw [List.map_append, List.map_cons] at hd
        intro hmem
        exact (List.disjoint_of_nodup_append hd) hmem List.mem_cons_self
      rw [List.foldl_cons, setItem_of_not_mem hfresh, ih _ (hsplit ▸ hd), hsplit]
  exact hfold pairs [] h

theorem mem_of_lookup {key : κ} {value : ν} {d : List (κ × ν)} (h : d.lookup key = some value) :
    (key, value) ∈ d := by
  obtain ⟨before, after, hsplit, _⟩ := List.lookup_eq_some_iff.mp h
  rw [hsplit]
  exact List.mem_append_right before List.mem_cons_self

end

end Python
