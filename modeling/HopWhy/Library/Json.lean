import HopWhy.Library.OrderedMap
import Mathlib.Data.String.Basic

/-!
# JSON trees

A tree keeps the members of an object in document order and allows repeated
names, as a streaming reader meets them. `canon` re-keys every object through a
sorted map, where the last of several members of one name stays. A `Value` is a
tree that re-keying leaves alone.
-/

/-- A finite double, by its bit pattern. -/
structure F64 where
  bits : UInt64
  finite : bits.toNat / 2 ^ 52 % 2048 ≠ 2047
deriving DecidableEq

namespace F64

/-- The magnitude nearest to `n`, ties to the even mantissa, as exponent and
mantissa bits. Rounding up to the next power of two carries into the exponent. -/
def natBits (n : ℕ) : ℕ :=
  if n = 0 then 0
  else
    let e := Nat.log2 n
    if e ≤ 52 then (1023 + e) * 2 ^ 52 + (n * 2 ^ (52 - e) - 2 ^ 52)
    else
      let unit := 2 ^ (e - 52)
      let q := n / unit
      let up := unit < 2 * (n % unit) ∨ (unit = 2 * (n % unit) ∧ q % 2 = 1)
      (1023 + e) * 2 ^ 52 + ((if up then q + 1 else q) - 2 ^ 52)

theorem natBits_lt {n : ℕ} (h : n < 2 ^ 64) : natBits n < 2000 * 2 ^ 52 := by
  unfold natBits
  dsimp only
  split_ifs with h0 he hup
  · omega
  · have hlt : n < 2 ^ (Nat.log2 n + 1) := Nat.lt_log2_self
    have hpow : n * 2 ^ (52 - Nat.log2 n) < 2 ^ (Nat.log2 n + 1) * 2 ^ (52 - Nat.log2 n) :=
      Nat.mul_lt_mul_of_pos_right hlt (Nat.two_pow_pos _)
    rw [← pow_add, show Nat.log2 n + 1 + (52 - Nat.log2 n) = 53 by omega] at hpow
    omega
  all_goals
    have hlog : Nat.log2 n < 64 := (Nat.log2_lt h0).mpr h
    have hlt : n < 2 ^ 53 * 2 ^ (Nat.log2 n - 52) := by
      rw [← pow_add, show 53 + (Nat.log2 n - 52) = Nat.log2 n + 1 by omega]
      exact Nat.lt_log2_self
    have hq : n / 2 ^ (Nat.log2 n - 52) < 2 ^ 53 := Nat.div_lt_of_lt_mul (by
      rw [Nat.mul_comm]
      exact hlt)
    omega

/-- `u64 as f64`. -/
def ofUInt64 (n : UInt64) : F64 where
  bits := UInt64.ofNat (natBits n.toNat)
  finite := by
    have h := natBits_lt n.toNat_lt
    rw [UInt64.toNat_ofNat_of_lt' (by simp only [UInt64.size]; omega)]
    omega

/-- `i64 as f64` of a negative number: the sign bit over the magnitude. -/
def ofNegative (n : Int64) : F64 where
  bits := UInt64.ofNat (2 ^ 63 + natBits n.toInt.natAbs)
  finite := by
    have hn : n.toInt.natAbs < 2 ^ 64 := by
      have := n.toInt_lt
      have := n.le_toInt
      omega
    have h := natBits_lt hn
    rw [UInt64.toNat_ofNat_of_lt' (by simp only [UInt64.size]; omega)]
    omega

end F64

/-- A number token, in the class the reader puts it. -/
inductive Number where
  | posInt (n : UInt64)
  | negInt (n : Int64)
  | float (x : F64)
deriving DecidableEq

inductive Json where
  | null
  | bool (b : Bool)
  | num (n : Number)
  | str (s : String)
  | arr (elements : List Json)
  | obj (members : List (String × Json))

namespace Json

/-- Induction with hypotheses for every element and every member value. -/
@[elab_as_elim] theorem inductionOn {P : Json → Prop} (j : Json) (null : P .null)
    (bool : ∀ b, P (.bool b)) (num : ∀ n, P (.num n)) (str : ∀ s, P (.str s))
    (arr : ∀ xs, (∀ x ∈ xs, P x) → P (.arr xs))
    (obj : ∀ ms, (∀ m ∈ ms, P m.2) → P (.obj ms)) : P j := by
  refine Json.rec (motive_1 := P) (motive_2 := fun xs => ∀ x ∈ xs, P x)
    (motive_3 := fun ms => ∀ m ∈ ms, P m.2) (motive_4 := fun m => P m.2)
    null bool num str (fun _ h => arr _ h) (fun _ h => obj _ h) ?_ ?_ ?_ ?_ ?_ j
  · simp
  · intro x xs hx hxs y hy
    rcases List.mem_cons.mp hy with rfl | hy
    · exact hx
    · exact hxs y hy
  · simp
  · intro m ms hm hms n hn
    rcases List.mem_cons.mp hn with rfl | hn
    · exact hm
    · exact hms n hn
  · intro k v hv
    exact hv

mutual

/-- Re-keys every object of the tree through a sorted map. -/
def canon : Json → Json
  | .null => .null
  | .bool b => .bool b
  | .num n => .num n
  | .str s => .str s
  | .arr xs => .arr (canonElements xs)
  | .obj ms => .obj (canonMembers [] ms)

def canonElements : List Json → List Json
  | [] => []
  | x :: xs => canon x :: canonElements xs

def canonMembers (acc : List (String × Json)) : List (String × Json) → List (String × Json)
  | [] => acc
  | (k, v) :: ms => canonMembers (insertEntry k (canon v) acc) ms

end

theorem canonElements_eq_map (xs : List Json) : canonElements xs = xs.map canon := by
  induction xs with
  | nil => rfl
  | cons x xs ih => simp [canonElements, ih]

theorem canonMembers_eq_collectInto (acc ms : List (String × Json)) :
    canonMembers acc ms = collectInto acc (ms.map fun m => (m.1, canon m.2)) := by
  induction ms generalizing acc with
  | nil => rfl
  | cons m ms ih => exact ih (insertEntry m.1 (canon m.2) acc)

@[simp] theorem canon_null : canon .null = .null := rfl

@[simp] theorem canon_bool (b : Bool) : canon (.bool b) = .bool b := rfl

@[simp] theorem canon_num (n : Number) : canon (.num n) = .num n := rfl

@[simp] theorem canon_str (s : String) : canon (.str s) = .str s := rfl

@[simp] theorem canon_arr (xs : List Json) : canon (.arr xs) = .arr (xs.map canon) := by
  rw [canon, canonElements_eq_map]

theorem canon_obj (ms : List (String × Json)) :
    canon (.obj ms) = .obj (collectInto [] (ms.map fun m => (m.1, canon m.2))) := by
  rw [canon, canonMembers_eq_collectInto]

/-- An object whose names already increase keeps its order. -/
theorem canon_obj_of_keysIncrease {ms : List (String × Json)} (h : KeysIncrease ms) :
    canon (.obj ms) = .obj (ms.map fun m => (m.1, canon m.2)) := by
  rw [canon_obj, collectInto_nil_of_keysIncrease]
  exact List.pairwise_map.mpr h

@[simp] theorem canon_eq_null {j : Json} : canon j = .null ↔ j = .null := by
  cases j <;> simp [canon]

/-- Re-keying twice is re-keying once. -/
theorem canon_canon (j : Json) : canon (canon j) = canon j := by
  induction j using Json.inductionOn with
  | null => rfl
  | bool b => rfl
  | num n => rfl
  | str s => rfl
  | arr xs ih =>
    simp only [canon_arr, List.map_map, Json.arr.injEq]
    exact List.map_congr_left ih
  | obj ms ih =>
    rw [canon_obj, canon_obj_of_keysIncrease (keysIncrease_collectInto List.Pairwise.nil _)]
    -- Every collected value is one of the re-keyed values of the object.
    have hfix : ∀ e ∈ collectInto [] (ms.map fun m => (m.1, canon m.2)),
        (e.1, canon e.2) = id e := by
      intro e he
      rcases mem_collectInto he with he | he
      · simp at he
      · obtain ⟨m, hm, rfl⟩ := List.mem_map.mp he
        simp [ih m hm]
    rw [List.map_congr_left hfix, List.map_id]

end Json

/-- A tree whose objects are sorted maps. -/
@[ext] structure Value where
  tree : Json
  sorted : tree.canon = tree

namespace Value

def ofJson (j : Json) : Value := ⟨j.canon, Json.canon_canon j⟩

theorem ofJson_tree (v : Value) : ofJson v.tree = v := Value.ext v.sorted

theorem ofJson_canon (j : Json) : ofJson j.canon = ofJson j := Value.ext (Json.canon_canon j)

end Value
