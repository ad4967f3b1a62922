import HopWhy.Library.Codec
import HopWhy.Library.JsonSize
import Mathlib.Algebra.Order.BigOperators.Group.List

/-!
# Sizes of written values

Bounds for the sizes of the trees that codecs write. A record costs a frame, which
its field names and its depth decide, and the sizes of its values; a list costs as
much for each element. Both layouts are bounded by the wider one.
-/

namespace Json

variable (pretty : Bool) (doubleText : F64 → String) (quoted : String → ℕ)

theorem octets_lineBreak_le (depth : ℕ) : octets (lineBreak pretty depth) ≤ 2 * depth + 1 := by
  have hspaces : ∀ n, octets (List.replicate n ' ') = n := by
    intro n
    induction n with
    | zero => rfl
    | succ n ih =>
      rw [List.replicate_succ, octets_cons, ih]
      exact Nat.add_comm 1 n
  cases pretty with
  | false => exact Nat.zero_le _
  | true =>
    have hbreak : '\n'.utf8Size = 1 := by decide
    rw [lineBreak, if_pos rfl, octets_cons, hspaces, hbreak]
    omega

theorem octets_nameMark_le : octets (nameMark pretty) ≤ 2 := by
  cases pretty <;> decide

/-- A machine word prints as at most twenty digits. -/
theorem octets_toDigits_le (n : UInt64) : octets (Nat.toDigits 10 n.toNat) ≤ 20 := by
  have hone : ∀ cs : List Char, (∀ c ∈ cs, c.isDigit) → octets cs = cs.length := by
    intro cs
    induction cs with
    | nil => exact fun _ => rfl
    | cons c cs ih =>
      intro h
      have hc : c.utf8Size = 1 := by
        have hdigit := h c List.mem_cons_self
        simp only [Char.isDigit, Bool.and_eq_true, decide_eq_true_eq] at hdigit
        have hlow : c.val ≤ 127 := UInt32.le_trans hdigit.2 (by decide)
        exact if_pos hlow
      rw [octets_cons, hc, ih fun d hd => h d (List.mem_cons_of_mem _ hd), List.length_cons]
      exact Nat.add_comm 1 _
  rw [hone _ fun c hc => Nat.isDigit_of_mem_toDigits (by decide) (by decide) hc,
    Nat.length_toDigits_le_iff (by decide) (by decide)]
  exact n.toNat_lt.trans (by decide)

variable {pretty doubleText quoted}

/-- The elements of a list, each with what is in front of it. -/
theorem sizeElements_le {α : Type} {f : α → Json} {g : α → ℕ} {xs : List α} {depth bound : ℕ}
    (h : ∀ x ∈ xs, size pretty doubleText quoted depth (f x) ≤ bound + g x) :
    sizeElements pretty doubleText quoted depth (xs.map f) ≤
      xs.length * (bound + (2 * depth + 2)) + (xs.map g).sum := by
  have hbreak := octets_lineBreak_le pretty depth
  induction xs with
  | nil => exact Nat.zero_le _
  | cons x xs ih =>
    have hx := h x List.mem_cons_self
    have hxs := ih fun y hy => h y (List.mem_cons_of_mem _ hy)
    rw [List.map_cons, List.map_cons, sizeElements, separator, List.length_cons, List.sum_cons,
      Nat.add_one_mul]
    omega

theorem size_arr_le {α : Type} {f : α → Json} {g : α → ℕ} {xs : List α} {depth bound count : ℕ}
    (hcount : xs.length ≤ count)
    (h : ∀ x ∈ xs, size pretty doubleText quoted (depth + 1) (f x) ≤ bound + g x) :
    size pretty doubleText quoted depth (.arr (xs.map f)) ≤
      count * (bound + (2 * depth + 4)) + (2 * depth + 3) + (xs.map g).sum := by
  have helements := sizeElements_le h
  have hbreak := octets_lineBreak_le pretty depth
  have hmul := Nat.mul_le_mul_right (bound + (2 * depth + 4)) hcount
  rw [show 2 * (depth + 1) + 2 = 2 * depth + 4 by omega] at helements
  rw [size]
  omega

/-- Elements that cost the same. -/
theorem size_arr_uniform_le {α : Type} {f : α → Json} {xs : List α} {depth bound count : ℕ}
    (hcount : xs.length ≤ count)
    (h : ∀ x ∈ xs, size pretty doubleText quoted (depth + 1) (f x) ≤ bound) :
    size pretty doubleText quoted depth (.arr (xs.map f)) ≤
      count * (bound + (2 * depth + 4)) + (2 * depth + 3) := by
  have hsize := size_arr_le (g := fun _ => 0) hcount h
  have hzero : (xs.map fun _ => 0).sum = 0 := List.sum_eq_zero fun n hn => by
    obtain ⟨x, -, rfl⟩ := List.mem_map.mp hn
    rfl
  rwa [hzero] at hsize

/-- Each member of an object with what its name and mark take. -/
theorem sizeMembers_le {α : Type} {name : α → String} {f : α → Json} {g : α → ℕ} {xs : List α}
    {depth bound : ℕ}
    (h : ∀ x ∈ xs, quoted (name x) + size pretty doubleText quoted depth (f x) ≤ bound + g x) :
    sizeMembers pretty doubleText quoted depth (xs.map fun x => (name x, f x)) ≤
      xs.length * (bound + (2 * depth + 4)) + (xs.map g).sum := by
  have hbreak := octets_lineBreak_le pretty depth
  have hmark := octets_nameMark_le pretty
  induction xs with
  | nil => exact Nat.zero_le _
  | cons x xs ih =>
    have hx := h x List.mem_cons_self
    have hxs := ih fun y hy => h y (List.mem_cons_of_mem _ hy)
    rw [List.map_cons, List.map_cons, sizeMembers, separator, List.length_cons, List.sum_cons,
      Nat.add_one_mul]
    omega

end Json

namespace Fields

variable {τ : Type} (pretty : Bool) (doubleText : F64 → String) (quoted : String → ℕ)

/-- What the members of a record take apart from their values. -/
def frame (depth : ℕ) : {τ : Type} → Fields τ → ℕ
  | _, nil => 0
  | _, cons n _ r => 2 * depth + 4 + quoted n + r.frame depth

theorem frame_mono {quoted : String → ℕ} {depth depth' : ℕ} (h : depth ≤ depth') (F : Fields τ) :
    F.frame quoted depth ≤ F.frame quoted depth' := by
  induction F with
  | nil => exact le_refl 0
  | cons n c r ih =>
    simp only [frame]
    omega

/-- The sizes of the values of a record. -/
def sizes (depth : ℕ) : {τ : Type} → Fields τ → τ → ℕ
  | _, nil, () => 0
  | _, cons _ c r, (b, t) =>
    Json.size pretty doubleText quoted depth (c.write b) + r.sizes depth t

variable {pretty doubleText quoted} in
/-- What the values of a record take, field by field. -/
theorem sizes_cons_le {β : Type} {depth : ℕ} {n : String} {c : Codec β} {r : Fields τ} {v : β × τ}
    {bound rest : ℕ} (h : Json.size pretty doubleText quoted depth (c.write v.1) ≤ bound)
    (hrest : r.sizes pretty doubleText quoted depth v.2 ≤ rest) :
    (cons n c r).sizes pretty doubleText quoted depth v ≤ bound + rest :=
  Nat.add_le_add h hrest

variable {pretty doubleText quoted} in
theorem sizes_nil_le {depth : ℕ} (v : Unit) : nil.sizes pretty doubleText quoted depth v ≤ 0 :=
  le_refl 0

theorem sizeMembers_write_le (F : Fields τ) (t : τ) (depth : ℕ) :
    Json.sizeMembers pretty doubleText quoted depth (F.write t) ≤
      F.frame quoted depth + F.sizes pretty doubleText quoted depth t := by
  have hbreak := Json.octets_lineBreak_le pretty depth
  have hmark := Json.octets_nameMark_le pretty
  induction F with
  | nil => exact le_refl 0
  | cons n c r ih =>
    have hrest := ih t.2
    simp only [write, Json.sizeMembers, Json.separator, frame, sizes]
    omega

end Fields

namespace Codec

variable {α τ : Type} (pretty : Bool) (doubleText : F64 → String) (quoted : String → ℕ)

section

variable {pretty doubleText quoted} (depth : ℕ)

@[simp] theorem size_string (s : String) :
    Json.size pretty doubleText quoted depth (string.write s) = quoted s := rfl

@[simp] theorem size_enumeration (name : α → String) (variants : List α) {h} (a : α) :
    Json.size pretty doubleText quoted depth ((enumeration name variants h).write a) =
      quoted (name a) := rfl

@[simp] theorem size_bool (b : Bool) :
    Json.size pretty doubleText quoted depth (bool.write b) = 5 := rfl

theorem size_withDefault_le {c : Codec α} {d a : α} {bound : ℕ}
    (h : Json.size pretty doubleText quoted depth (c.write a) ≤ bound) :
    Json.size pretty doubleText quoted depth ((c.withDefault d).write a) ≤ bound := h

theorem size_u64_le (n : UInt64) :
    Json.size pretty doubleText quoted depth (u64.write n) ≤ 20 := Json.octets_toDigits_le n

theorem size_u32_le (n : UInt32) :
    Json.size pretty doubleText quoted depth (u32.write n) ≤ 20 := Json.octets_toDigits_le _

theorem size_u16_le (n : UInt16) :
    Json.size pretty doubleText quoted depth (u16.write n) ≤ 20 := Json.octets_toDigits_le _

/-- A missing value takes four octets. -/
theorem size_option_le (c : Codec α) {h} {a : Option α} {bound : ℕ}
    (hbound : ∀ b ∈ a, Json.size pretty doubleText quoted depth (c.write b) ≤ bound) :
    Json.size pretty doubleText quoted depth ((option c h).write a) ≤ 4 + bound := by
  rcases a with _ | b
  · exact Nat.le_add_right 4 bound
  · exact (hbound b rfl).trans (Nat.le_add_left bound 4)

/-- Each entry of a map with its name. -/
theorem size_orderedMap_le {c : Codec α} {m : OrderedMap String α} {g : String × α → ℕ}
    {bound count : ℕ} (hcount : m.entries.length ≤ count)
    (h : ∀ e ∈ m.entries, quoted e.1 +
      Json.size pretty doubleText quoted (depth + 1) (c.write e.2) ≤ bound + g e) :
    Json.size pretty doubleText quoted depth ((orderedMap c).write m) ≤
      count * (bound + (2 * depth + 6)) + (2 * depth + 3) + (m.entries.map g).sum := by
  have hmembers := Json.sizeMembers_le h
  have hbreak := Json.octets_lineBreak_le pretty depth
  have hmul := Nat.mul_le_mul_right (bound + (2 * depth + 6)) hcount
  rw [show 2 * (depth + 1) + 4 = 2 * depth + 6 by omega] at hmembers
  rw [orderedMap, Json.size]
  omega

/-- A free-form value is no larger than the tree it is made from. -/
theorem size_ofJson_le (j : Json) :
    Json.size pretty doubleText quoted depth (value.write (.ofJson j)) ≤
      Json.size pretty doubleText quoted depth j := Json.size_canon_le j depth

end

variable {pretty doubleText quoted}

/-- A record takes its frame and what its values take. -/
theorem size_record_le {policy : RecordPolicy} {F : Fields τ} {toTuple : α → τ}
    {ofTuple : τ → α} {hinv hnames} {a : α} {depth frame bound : ℕ}
    (hframe : F.frame quoted (depth + 1) ≤ frame)
    (hsizes : F.sizes pretty doubleText quoted (depth + 1) (toTuple a) ≤ bound) :
    Json.size pretty doubleText quoted depth
        ((record policy F toTuple ofTuple hinv hnames).write a) ≤
      frame + (2 * depth + 3) + bound := by
  have hmembers := F.sizeMembers_write_le pretty doubleText quoted (toTuple a) (depth + 1)
  have hbreak := Json.octets_lineBreak_le pretty depth
  rw [record, Json.size]
  omega

end Codec
