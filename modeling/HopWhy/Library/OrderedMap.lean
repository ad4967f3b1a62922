import Mathlib.Data.List.Lookmap
import Mathlib.Data.Prod.Lex
import Mathlib.Order.Basic

/-!
# Ordered maps

Association lists with strictly increasing keys. Inserting an existing key
replaces its value, so collecting a list of pairs keeps the last pair of every
key and forgets the order in which the keys arrived. A list that is already
strictly increasing is collected unchanged.
-/

/-- Keys strictly increase along the list. -/
def KeysIncrease {κ ν : Type} [LinearOrder κ] (l : List (κ × ν)) : Prop :=
  l.Pairwise fun a b => a.1 < b.1

/-- The sorted insertion of a pair; the value of an existing key is replaced. -/
def insertEntry {κ ν : Type} [LinearOrder κ] (k : κ) (v : ν) : List (κ × ν) → List (κ × ν)
  | [] => [(k, v)]
  | e :: rest =>
    if k < e.1 then (k, v) :: e :: rest
    else if k = e.1 then (k, v) :: rest
    else e :: insertEntry k v rest

/-- Collects pairs one after the other into `acc`. -/
def collectInto {κ ν : Type} [LinearOrder κ] (acc l : List (κ × ν)) : List (κ × ν) :=
  l.foldl (fun m e => insertEntry e.1 e.2 m) acc

/-- Keys that all have one value. -/
theorem lookup_map_of_mem {κ ν : Type} [BEq κ] [LawfulBEq κ] {keys : List κ} {k : κ} (v : ν)
    (h : k ∈ keys) : (keys.map fun k => (k, v)).lookup k = some v := by
  induction keys with
  | nil => cases h
  | cons k' keys ih =>
    rw [List.map_cons, List.lookup_cons]
    rcases hk : k == k' with _ | _
    · have hne := ne_of_beq_false hk
      exact ih ((List.mem_cons.mp h).resolve_left hne)
    · rfl

/-- A value for each key of a list. -/
theorem lookup_map_key {κ ν : Type} [BEq κ] [LawfulBEq κ] [DecidableEq κ] (keys : List κ)
    (f : κ → ν) (k : κ) :
    (keys.map fun key => (key, f key)).lookup k = if k ∈ keys then some (f k) else none := by
  induction keys with
  | nil => rfl
  | cons k' keys ih =>
    rw [List.map_cons, List.lookup_cons]
    rcases hk : k == k' with _ | _
    · have hne := ne_of_beq_false hk
      dsimp only
      rw [ih]
      simp [hne]
    · obtain rfl := eq_of_beq hk
      simp

/-- A value for some keys of a list. -/
theorem lookup_filterMap_key {κ ν : Type} [BEq κ] [LawfulBEq κ] [DecidableEq κ] (keys : List κ)
    (f : κ → Option ν) (k : κ) :
    (keys.filterMap fun key => (f key).map fun v => (key, v)).lookup k =
      if k ∈ keys then f k else none := by
  induction keys with
  | nil => rfl
  | cons k' keys ih =>
    rcases hf : f k' with _ | v
    · rw [List.filterMap_cons_none (by rw [hf]; rfl), ih]
      by_cases h : k = k'
      · subst h
        simp [hf]
      · simp [h]
    · rw [List.filterMap_cons_some (by rw [hf]; rfl), List.lookup_cons]
      rcases hk : k == k' with _ | _
      · have hne := ne_of_beq_false hk
        dsimp only
        rw [ih]
        simp [hne]
      · obtain rfl := eq_of_beq hk
        simp [hf]

theorem keys_filterMap_sublist {κ ν : Type} (keys : List κ) (f : κ → Option ν) :
    ((keys.filterMap fun key => (f key).map fun v => (key, v)).map Prod.fst).Sublist keys := by
  induction keys with
  | nil => exact List.Sublist.slnil
  | cons k keys ih =>
    rcases hf : f k with _ | v
    · rw [List.filterMap_cons_none (by rw [hf]; rfl)]
      exact ih.cons k
    · rw [List.filterMap_cons_some (by rw [hf]; rfl)]
      exact ih.cons_cons k

/-- New values for the same keys. -/
theorem lookup_map_value {κ ν μ : Type} [BEq κ] [LawfulBEq κ] (l : List (κ × ν)) (f : κ → ν → μ)
    (k : κ) : (l.map fun e => (e.1, f e.1 e.2)).lookup k = (l.lookup k).map (f k) := by
  induction l with
  | nil => rfl
  | cons e l ih =>
    rw [List.map_cons, List.lookup_cons, List.lookup_cons]
    rcases hk : k == e.1 with _ | _
    · exact ih
    · rw [eq_of_beq hk]
      rfl

section

variable {κ ν : Type} [LinearOrder κ]

theorem mem_insertEntry {k : κ} {v : ν} {l : List (κ × ν)} {e : κ × ν}
    (h : e ∈ insertEntry k v l) : e = (k, v) ∨ e ∈ l := by
  induction l with
  | nil => simpa [insertEntry] using h
  | cons f rest ih =>
    simp only [insertEntry] at h
    split_ifs at h with hlt heq
    · simpa using h
    · rcases List.mem_cons.mp h with h | h
      · exact Or.inl h
      · exact Or.inr (List.mem_cons_of_mem _ h)
    · rcases List.mem_cons.mp h with h | h
      · exact Or.inr (h ▸ List.mem_cons_self)
      · rcases ih h with h | h
        · exact Or.inl h
        · exact Or.inr (List.mem_cons_of_mem _ h)

theorem keysIncrease_insertEntry (k : κ) (v : ν) {l : List (κ × ν)} (h : KeysIncrease l) :
    KeysIncrease (insertEntry k v l) := by
  induction l with
  | nil => simp [insertEntry, KeysIncrease]
  | cons e rest ih =>
    have hrest := List.pairwise_cons.mp h
    simp only [insertEntry]
    split_ifs with hlt heq
    · refine List.pairwise_cons.mpr ⟨?_, h⟩
      intro f hf
      rcases List.mem_cons.mp hf with rfl | hf
      · exact hlt
      · exact hlt.trans (hrest.1 f hf)
    · refine List.pairwise_cons.mpr ⟨?_, hrest.2⟩
      intro f hf
      exact heq ▸ hrest.1 f hf
    · refine List.pairwise_cons.mpr ⟨?_, ih hrest.2⟩
      intro f hf
      rcases mem_insertEntry hf with rfl | hf
      · exact lt_of_le_of_ne (not_lt.mp hlt) (Ne.symm heq)
      · exact hrest.1 f hf

theorem lookup_cons_ite (k : κ) (e : κ × ν) (l : List (κ × ν)) :
    (e :: l).lookup k = if k = e.1 then some e.2 else l.lookup k := by
  rw [List.lookup_cons]
  by_cases h : k = e.1
  · rw [if_pos h, beq_iff_eq.mpr h]
  · rw [if_neg h, beq_false_of_ne h]

theorem lookup_insertEntry (k k' : κ) (v : ν) (l : List (κ × ν)) :
    (insertEntry k v l).lookup k' = if k' = k then some v else l.lookup k' := by
  induction l with
  | nil => rw [insertEntry, lookup_cons_ite]
  | cons e rest ih =>
    rw [insertEntry]
    by_cases hlt : k < e.1
    · rw [if_pos hlt, lookup_cons_ite]
    · rw [if_neg hlt]
      by_cases heq : k = e.1
      · subst heq
        rw [if_pos rfl]
        by_cases hk : k' = e.1 <;> simp [lookup_cons_ite, hk]
      · rw [if_neg heq, lookup_cons_ite, lookup_cons_ite, ih]
        by_cases hk : k' = k
        · subst hk
          simp [heq]
        · rw [if_neg hk, if_neg hk]

theorem keysIncrease_collectInto {acc : List (κ × ν)} (h : KeysIncrease acc)
    (l : List (κ × ν)) : KeysIncrease (collectInto acc l) := by
  induction l generalizing acc with
  | nil => exact h
  | cons e rest ih => exact ih (keysIncrease_insertEntry e.1 e.2 h)

theorem mem_collectInto {acc l : List (κ × ν)} {e : κ × ν} (h : e ∈ collectInto acc l) :
    e ∈ acc ∨ e ∈ l := by
  induction l generalizing acc with
  | nil => exact Or.inl h
  | cons f rest ih =>
    rcases ih h with h | h
    · rcases mem_insertEntry h with rfl | h
      · exact Or.inr List.mem_cons_self
      · exact Or.inl h
    · exact Or.inr (List.mem_cons_of_mem _ h)

/-- Without repeated keys nothing is replaced. -/
theorem lookup_collectInto {acc l : List (κ × ν)} (h : (l.map Prod.fst).Nodup) (k : κ) :
    (collectInto acc l).lookup k = (l.lookup k).or (acc.lookup k) := by
  induction l generalizing acc with
  | nil => rfl
  | cons e rest ih =>
    have hnd := List.nodup_cons.mp h
    refine (@ih (insertEntry e.1 e.2 acc) hnd.2).trans ?_
    rw [lookup_insertEntry, lookup_cons_ite]
    by_cases hk : k = e.1
    · subst hk
      have hrest : rest.lookup e.1 = none := List.lookup_eq_none_iff.mpr fun p hp => by
        simpa using fun heq : e.1 = p.1 => hnd.1 (heq ▸ List.mem_map_of_mem hp)
      simp [hrest]
    · simp [hk]

/-- Of several pairs with one key the last is found. -/
theorem lookup_collectInto_last (acc l : List (κ × ν)) (k : κ) :
    (collectInto acc l).lookup k =
      ((l.filter (·.1 = k)).getLast?.map Prod.snd).or (acc.lookup k) := by
  induction l generalizing acc with
  | nil => rfl
  | cons e rest ih =>
    refine (ih (insertEntry e.1 e.2 acc)).trans ?_
    rw [lookup_insertEntry]
    by_cases hk : e.1 = k
    · subst hk
      simp [List.getLast?_cons]
    · simp [hk, Ne.symm hk]

theorem insertEntry_of_forall_lt {k : κ} {v : ν} {l : List (κ × ν)} (h : ∀ e ∈ l, e.1 < k) :
    insertEntry k v l = l ++ [(k, v)] := by
  induction l with
  | nil => rfl
  | cons e rest ih =>
    have he := h e List.mem_cons_self
    rw [insertEntry, if_neg (not_lt.mpr he.le), if_neg he.ne',
      ih fun f hf => h f (List.mem_cons_of_mem _ hf)]
    rfl

theorem collectInto_of_keysIncrease {acc l : List (κ × ν)} (h : KeysIncrease (acc ++ l)) :
    collectInto acc l = acc ++ l := by
  induction l generalizing acc with
  | nil => simp [collectInto]
  | cons e rest ih =>
    have hlt : ∀ f ∈ acc, f.1 < e.1 := fun f hf =>
      (List.pairwise_append.mp h).2.2 f hf e List.mem_cons_self
    have hacc : insertEntry e.1 e.2 acc = acc ++ [e] := insertEntry_of_forall_lt hlt
    have hstep : collectInto acc (e :: rest) = collectInto (acc ++ [e]) rest := by
      rw [← hacc]
      rfl
    rw [hstep, ih (by simpa using h)]
    simp

/-- Collecting pairs whose keys already increase gives them back. -/
theorem collectInto_nil_of_keysIncrease {l : List (κ × ν)} (h : KeysIncrease l) :
    collectInto [] l = l :=
  @collectInto_of_keysIncrease κ ν _ [] l h

theorem KeysIncrease.nodup {l : List (κ × ν)} (h : KeysIncrease l) :
    (l.map Prod.fst).Nodup := by
  exact List.pairwise_map.mpr (h.imp fun hab => ne_of_lt hab)

theorem length_insertEntry_of_not_mem {k : κ} {v : ν} {l : List (κ × ν)}
    (h : k ∉ l.map Prod.fst) : (insertEntry k v l).length = l.length + 1 := by
  induction l with
  | nil => rfl
  | cons e rest ih =>
    simp only [List.map_cons, List.mem_cons, not_or] at h
    simp only [insertEntry]
    split_ifs with hlt
    · rfl
    · exact absurd ‹k = e.1› h.1
    · simp [ih h.2]

theorem mem_keys_insertEntry {k k' : κ} {v : ν} {l : List (κ × ν)}
    (h : k' ∈ (insertEntry k v l).map Prod.fst) : k' = k ∨ k' ∈ l.map Prod.fst := by
  obtain ⟨e, he, rfl⟩ := List.mem_map.mp h
  rcases mem_insertEntry he with rfl | he
  · exact Or.inl rfl
  · exact Or.inr (List.mem_map_of_mem he)

/-- Each new key takes one entry of its own. -/
theorem length_collectInto {acc l : List (κ × ν)} (h : (l.map Prod.fst).Nodup)
    (hd : ∀ k ∈ l.map Prod.fst, k ∉ acc.map Prod.fst) :
    (collectInto acc l).length = acc.length + l.length := by
  induction l generalizing acc with
  | nil => rfl
  | cons e rest ih =>
    have hnd := List.nodup_cons.mp h
    have hfresh : ∀ k ∈ rest.map Prod.fst, k ∉ (insertEntry e.1 e.2 acc).map Prod.fst := by
      intro k hk hmem
      rcases mem_keys_insertEntry hmem with rfl | hmem
      · exact hnd.1 hk
      · exact hd k (List.mem_cons_of_mem _ hk) hmem
    have hlen := ih hnd.2 hfresh
    rw [length_insertEntry_of_not_mem (hd e.1 List.mem_cons_self)] at hlen
    change (collectInto (insertEntry e.1 e.2 acc) rest).length = _
    rw [hlen, List.length_cons]
    omega

/-- An entry with a new key is one more entry. -/
theorem insertEntry_perm {k : κ} (v : ν) {l : List (κ × ν)} (h : k ∉ l.map Prod.fst) :
    (insertEntry k v l).Perm ((k, v) :: l) := by
  induction l with
  | nil => exact List.Perm.refl _
  | cons e rest ih =>
    simp only [List.map_cons, List.mem_cons, not_or] at h
    simp only [insertEntry]
    split_ifs with hlt
    · exact List.Perm.refl _
    · exact absurd ‹k = e.1› h.1
    · exact ((ih h.2).cons e).trans (List.Perm.swap _ _ _)

/-- Pairs with different keys are the entries they are collected to. -/
theorem collectInto_perm (acc : List (κ × ν)) {l : List (κ × ν)}
    (h : ((acc ++ l).map Prod.fst).Nodup) :
    (collectInto acc l).Perm (acc ++ l) := by
  induction l generalizing acc with
  | nil =>
    rw [List.append_nil]
    exact List.Perm.refl _
  | cons e rest ih =>
    have hperm : (acc ++ e :: rest).Perm (e :: (acc ++ rest)) := List.perm_middle
    have hnodup : ((e :: (acc ++ rest)).map Prod.fst).Nodup := (hperm.map Prod.fst).nodup_iff.mp h
    have hfresh : e.1 ∉ acc.map Prod.fst := by
      intro hmem
      refine (List.nodup_cons.mp hnodup).1 ?_
      rw [List.map_append]
      exact List.mem_append_left _ hmem
    have hinsert := insertEntry_perm e.2 hfresh
    have hshift : (insertEntry e.1 e.2 acc ++ rest).Perm (e :: (acc ++ rest)) :=
      hinsert.append_right rest
    have hcollect := ih (insertEntry e.1 e.2 acc)
      ((hshift.map Prod.fst).nodup_iff.mpr hnodup)
    exact (hcollect.trans hshift).trans hperm.symm

end

/-- In increasing entries each key has one value. -/
theorem KeysIncrease.mem_iff_lookup {κ ν : Type} [LinearOrder κ] {l : List (κ × ν)}
    (h : KeysIncrease l) (e : κ × ν) : e ∈ l ↔ l.lookup e.1 = some e.2 := by
  induction l with
  | nil => simp
  | cons f rest ih =>
    obtain ⟨hfirst, hrest⟩ := List.pairwise_cons.mp h
    rw [lookup_cons_ite, List.mem_cons, ih hrest]
    by_cases hkey : e.1 = f.1
    · rw [if_pos hkey]
      constructor
      · rintro (rfl | hmem)
        · rfl
        · have hlt := hfirst e ((ih hrest).mpr hmem)
          exact absurd hkey hlt.ne'
      · intro hvalue
        exact Or.inl (Prod.ext hkey (Option.some.inj hvalue).symm)
    · rw [if_neg hkey]
      constructor
      · rintro (rfl | hmem)
        · exact absurd rfl hkey
        · exact hmem
      · exact Or.inr

/-- A map kept as its strictly increasing list of entries. -/
@[ext] structure OrderedMap (κ ν : Type) [LinearOrder κ] where
  entries : List (κ × ν)
  increasing : KeysIncrease entries

namespace OrderedMap

variable {κ ν : Type} [LinearOrder κ]

/-- Collects pairs in order; of several pairs with one key the last stays. -/
def ofList (l : List (κ × ν)) : OrderedMap κ ν where
  entries := collectInto [] l
  increasing := keysIncrease_collectInto List.Pairwise.nil l

def get? (m : OrderedMap κ ν) (k : κ) : Option ν := m.entries.lookup k

def keys (m : OrderedMap κ ν) : List κ := m.entries.map Prod.fst

def size (m : OrderedMap κ ν) : ℕ := m.entries.length

theorem ofList_entries (m : OrderedMap κ ν) : ofList m.entries = m :=
  OrderedMap.ext (collectInto_nil_of_keysIncrease m.increasing)

/-- The order of pairs with different keys does not matter. -/
theorem ofList_perm {l l' : List (κ × ν)} (h : l.Perm l') (hnodup : (l.map Prod.fst).Nodup) :
    ofList l = ofList l' := by
  have hnodup' : (l'.map Prod.fst).Nodup := (h.map Prod.fst).nodup_iff.mp hnodup
  have hperm : (ofList l).entries.Perm (ofList l').entries :=
    ((collectInto_perm [] hnodup).trans h).trans (collectInto_perm [] hnodup').symm
  have hantisymm : ∀ a b : κ × ν, a ∈ (ofList l).entries → b ∈ (ofList l').entries →
      a.1 < b.1 → b.1 < a.1 → a = b := by
    intro a b _ _ hab hba
    exact absurd (lt_trans hab hba) (lt_irrefl _)
  exact OrderedMap.ext
    (hperm.eq_of_pairwise hantisymm (ofList l).increasing (ofList l').increasing)

theorem get?_ofList {l : List (κ × ν)} (h : (l.map Prod.fst).Nodup) (k : κ) :
    (ofList l).get? k = l.lookup k := by
  simp [get?, ofList, lookup_collectInto h]

theorem size_ofList {l : List (κ × ν)} (h : (l.map Prod.fst).Nodup) :
    (ofList l).size = l.length := by
  have hlength : (collectInto [] l).length = ([] : List (κ × ν)).length + l.length :=
    length_collectInto h (by simp)
  simpa [size, ofList] using hlength

/-- A collected map has the last value of each key. -/
theorem get?_ofList_last (l : List (κ × ν)) (k : κ) :
    (ofList l).get? k = (l.filter (·.1 = k)).getLast?.map Prod.snd := by
  simp [get?, ofList, lookup_collectInto_last]

theorem mem_keys {m : OrderedMap κ ν} {k : κ} : k ∈ m.keys ↔ m.get? k ≠ none := by
  rw [Ne, get?, List.lookup_eq_none_iff, keys, List.mem_map]
  push Not
  constructor
  · rintro ⟨e, he, rfl⟩
    exact ⟨e, he, by simp⟩
  · rintro ⟨e, he, heq⟩
    exact ⟨e, he, by simpa using (beq_iff_eq.mp (by simpa using heq)).symm⟩

theorem mem_keys_ofList {l : List (κ × ν)} {k : κ} :
    k ∈ (ofList l).keys ↔ k ∈ l.map Prod.fst := by
  rw [mem_keys, get?_ofList_last, Ne, Option.map_eq_none_iff, List.getLast?_eq_none_iff,
    List.filter_eq_nil_iff, List.mem_map]
  simp only [decide_eq_true_eq]
  push Not
  rfl

/-- Maps with the same values are equal. -/
theorem ext_get? {m m' : OrderedMap κ ν} (h : ∀ k, m.get? k = m'.get? k) : m = m' := by
  have hperm : m.entries.Perm m'.entries := by
    have hnodup : ∀ m : OrderedMap κ ν, m.entries.Nodup := fun m =>
      m.increasing.imp fun h heq => absurd (congrArg Prod.fst heq) h.ne
    apply (List.perm_ext_iff_of_nodup (hnodup m) (hnodup m')).mpr
    intro e
    rw [m.increasing.mem_iff_lookup, m'.increasing.mem_iff_lookup]
    exact Eq.congr_left (h e.1)
  have hantisymm : ∀ a b : κ × ν, a ∈ m.entries → b ∈ m'.entries → a.1 < b.1 → b.1 < a.1 →
      a = b := by
    intro a b _ _ hab hba
    exact absurd (lt_trans hab hba) (lt_irrefl _)
  exact OrderedMap.ext (hperm.eq_of_pairwise hantisymm m.increasing m'.increasing)

/-- The entry of a key, which starts with a default, is changed. -/
def modify (m : OrderedMap κ ν) (k : κ) (default : ν) (f : ν → ν) : OrderedMap κ ν where
  entries := insertEntry k (f ((m.get? k).getD default)) m.entries
  increasing := keysIncrease_insertEntry k _ m.increasing

theorem get?_modify (m : OrderedMap κ ν) (k k' : κ) (default : ν) (f : ν → ν) :
    (m.modify k default f).get? k' =
      if k' = k then some (f ((m.get? k).getD default)) else m.get? k' :=
  lookup_insertEntry k k' _ m.entries

end OrderedMap
