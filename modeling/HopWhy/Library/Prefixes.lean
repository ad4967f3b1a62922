import Mathlib.Algebra.Group.Nat.Defs
import Mathlib.Data.List.MinMax
import Mathlib.Order.Interval.Finset.Nat

/-!
# Address prefixes

Addresses of a fixed width as natural numbers, blocks of addresses that share a
prefix, rule lists read by their first match, and tables read by their most
specific match. A function that looks at an address through finitely many blocks
is constant between the ends of these blocks, so two such functions are equal
once they agree at the ends.
-/

namespace Prefixes

/-- The addresses of that width whose first `length` bits are those of `network`. -/
structure Block (width : ℕ) where
  network : ℕ
  length : ℕ
  length_le : length ≤ width := by decide
deriving DecidableEq

namespace Block

variable {width : ℕ} {b c : Block width} {n : ℕ}

def size (b : Block width) : ℕ := 2 ^ (width - b.length)

def Holds (b : Block width) (n : ℕ) : Prop := n / b.size = b.network / b.size

instance : Decidable (b.Holds n) := inferInstanceAs (Decidable (_ = _))

/-- The first address of the block. -/
def first (b : Block width) : ℕ := b.network / b.size * b.size

/-- The first address above the block. -/
def above (b : Block width) : ℕ := b.first + b.size

theorem size_pos (b : Block width) : 0 < b.size := Nat.two_pow_pos _

theorem holds_iff : b.Holds n ↔ b.first ≤ n ∧ n < b.above := by
  have hpos := b.size_pos
  rw [Holds, Nat.div_eq_iff hpos, above, first]
  omega

/-- Blocks are nested or disjoint: an address of both puts the longer prefix into the shorter. -/
theorem holds_of_length_le (hle : b.length ≤ c.length) (hc : c.Holds n) :
    b.Holds n ↔ b.Holds c.network := by
  have hsize : b.size = c.size * 2 ^ (c.length - b.length) := by
    have := c.length_le
    rw [size, size, ← Nat.pow_add]
    congr 1
    omega
  rw [Holds, Holds, hsize, ← Nat.div_div_eq_div_mul, ← Nat.div_div_eq_div_mul,
    ← Nat.div_div_eq_div_mul, hc]

end Block

/-- Some block of the list holds the address. -/
def Covered {width : ℕ} (blocks : List (Block width)) (n : ℕ) : Prop :=
  ∃ block ∈ blocks, block.Holds n

instance {width : ℕ} (blocks : List (Block width)) (n : ℕ) : Decidable (Covered blocks n) :=
  inferInstanceAs (Decidable (∃ block ∈ blocks, block.Holds n))

theorem covered_cons {width : ℕ} (block : Block width) (blocks : List (Block width)) (n : ℕ) :
    Covered (block :: blocks) n ↔ block.Holds n ∨ Covered blocks n := by
  simp [Covered]

theorem not_covered_nil {width : ℕ} (n : ℕ) : ¬ Covered ([] : List (Block width)) n := by
  simp [Covered]

/-- A block and what is decided about its addresses. -/
structure Rule (width : ℕ) (α : Type) extends Block width where
  verdict : α

section Rules

variable {width : ℕ} {α : Type}

/-- The verdict of the first rule that holds the address. -/
def firstMatch (rules : List (Rule width α)) (otherwise : α) (n : ℕ) : α :=
  match rules with
  | [] => otherwise
  | rule :: rules => if rule.Holds n then rule.verdict else firstMatch rules otherwise n

theorem firstMatch_append_map (blocks : List (Block width)) (verdict : α)
    (rules : List (Rule width α)) (otherwise : α) (n : ℕ) :
    firstMatch (blocks.map (fun block => ⟨block, verdict⟩) ++ rules) otherwise n =
      if Covered blocks n then verdict else firstMatch rules otherwise n := by
  induction blocks with
  | nil => rw [List.map_nil, List.nil_append, if_neg (not_covered_nil n)]
  | cons block blocks ih =>
    rw [List.map_cons, List.cons_append, firstMatch, ih]
    by_cases h : block.Holds n
    · rw [if_pos h, if_pos ((covered_cons _ _ _).mpr (.inl h))]
    · simp only [covered_cons, h, false_or, if_false]

/-- The rule with the longest prefix among those that hold the address. -/
def mostSpecific (table : List (Rule width α)) (n : ℕ) : Option (Rule width α) :=
  (table.filter fun rule => rule.Holds n).argmax fun rule => rule.length

theorem mostSpecific_eq_none_iff {table : List (Rule width α)} {n : ℕ} :
    mostSpecific table n = none ↔ ∀ rule ∈ table, ¬ rule.Holds n := by
  simp [mostSpecific, List.filter_eq_nil_iff]

theorem mostSpecific_spec {table : List (Rule width α)} {n : ℕ} {rule : Rule width α}
    (h : mostSpecific table n = some rule) :
    rule ∈ table ∧ rule.Holds n ∧
      ∀ other ∈ table, other.Holds n → other.length ≤ rule.length := by
  have hmem := List.mem_filter.mp (List.argmax_mem h)
  refine ⟨hmem.1, of_decide_eq_true hmem.2, ?_⟩
  intro other hother hholds
  have hfilter : other ∈ table.filter fun rule => rule.Holds n :=
    List.mem_filter.mpr ⟨hother, decide_eq_true hholds⟩
  exact List.le_of_mem_argmax (f := fun rule : Rule width α => rule.length) hfilter h

/-- Where equal prefixes have equal verdicts, any longest match has the verdict of the table. -/
theorem verdict_eq_of_longest {table : List (Rule width α)} {n : ℕ} {rule other : Rule width α}
    (hcoherent : ∀ r ∈ table, ∀ s ∈ table, r.length = s.length → r.Holds s.network →
      r.verdict = s.verdict)
    (h : mostSpecific table n = some rule) (hother : other ∈ table) (hholds : other.Holds n)
    (hlongest : ∀ r ∈ table, r.Holds n → r.length ≤ other.length) :
    other.verdict = rule.verdict := by
  rcases mostSpecific_spec h with ⟨hrule, hruleHolds, hmax⟩
  have hlength : other.length = rule.length :=
    Nat.le_antisymm (hmax other hother hholds) (hlongest rule hrule hruleHolds)
  apply hcoherent other hother rule hrule hlength
  exact (Block.holds_of_length_le hlength.le hruleHolds).mp hholds

end Rules

/-- The largest of the cuts not above `n`, or zero. -/
def floorCut (cuts : List ℕ) (n : ℕ) : ℕ := (cuts.filter (· ≤ n)).foldr max 0

section FloorCut

variable {cuts : List ℕ} {n c : ℕ}

theorem floorCut_le (cuts : List ℕ) (n : ℕ) : floorCut cuts n ≤ n := by
  apply List.max_le_of_forall_le
  intro c hc
  exact of_decide_eq_true (List.mem_filter.mp hc).2

theorem floorCut_mem (cuts : List ℕ) (n : ℕ) : floorCut cuts n ∈ 0 :: cuts := by
  induction cuts with
  | nil => exact List.mem_cons_self
  | cons c cuts ih =>
    rw [floorCut, List.filter_cons]
    split
    · rw [List.foldr_cons]
      rcases max_choice c (floorCut cuts n) with h | h
      · change max c (floorCut cuts n) ∈ _
        rw [h]
        simp
      · change max c (floorCut cuts n) ∈ _
        rw [h]
        rcases List.mem_cons.mp ih with h | h <;> simp [h]
    · change floorCut cuts n ∈ _
      rcases List.mem_cons.mp ih with h | h <;> simp [h]

/-- A cut lies below an address exactly when it lies below the address's floor. -/
theorem le_floorCut_iff (hc : c ∈ cuts) : c ≤ floorCut cuts n ↔ c ≤ n := by
  constructor
  · intro h
    exact h.trans (floorCut_le cuts n)
  · intro h
    exact List.le_max_of_le (List.mem_filter.mpr ⟨hc, decide_eq_true h⟩) (le_refl c)

theorem Block.holds_floorCut {width : ℕ} {b : Block width} (hfirst : b.first ∈ cuts)
    (habove : b.above ∈ cuts) : b.Holds (floorCut cuts n) ↔ b.Holds n := by
  rw [Block.holds_iff, Block.holds_iff, le_floorCut_iff hfirst]
  have := le_floorCut_iff (n := n) habove
  omega

end FloorCut

/-- The ends of the blocks. -/
def ends {width : ℕ} (blocks : List (Block width)) : List ℕ :=
  blocks.flatMap fun block => [block.first, block.above]

/-- The function does not tell an address from its floor among the cuts. -/
def Steps {β : Type} (cuts : List ℕ) (f : ℕ → β) : Prop := ∀ n, f (floorCut cuts n) = f n

section Steps

variable {width : ℕ} {α β γ : Type} {cuts : List ℕ}

theorem holds_floorCut_of_ends {blocks : List (Block width)} (hends : ends blocks ⊆ cuts)
    {block : Block width} (hblock : block ∈ blocks) (n : ℕ) :
    block.Holds (floorCut cuts n) ↔ block.Holds n := by
  have hmem : ∀ c ∈ [block.first, block.above], c ∈ cuts := by
    intro c hc
    exact hends (List.mem_flatMap.mpr ⟨block, hblock, hc⟩)
  apply Block.holds_floorCut
  · apply hmem
    simp
  · apply hmem
    simp

theorem steps_covered {blocks : List (Block width)} (hends : ends blocks ⊆ cuts) :
    Steps cuts fun n => decide (Covered blocks n) := by
  intro n
  rw [decide_eq_decide]
  constructor
  · rintro ⟨block, hblock, hholds⟩
    exact ⟨block, hblock, (holds_floorCut_of_ends hends hblock n).mp hholds⟩
  · rintro ⟨block, hblock, hholds⟩
    exact ⟨block, hblock, (holds_floorCut_of_ends hends hblock n).mpr hholds⟩

theorem steps_firstMatch {rules : List (Rule width α)}
    (hends : ends (rules.map Rule.toBlock) ⊆ cuts) (otherwise : α) :
    Steps cuts (firstMatch rules otherwise) := by
  intro n
  induction rules with
  | nil => rfl
  | cons rule rules ih =>
    have hhead := holds_floorCut_of_ends hends List.mem_cons_self n
    have htail : ends (rules.map Rule.toBlock) ⊆ cuts := by
      intro c hc
      apply hends
      simp only [ends, List.map_cons, List.flatMap_cons, List.mem_append]
      exact .inr hc
    simp only [firstMatch, hhead, ih htail]

theorem steps_mostSpecific {table : List (Rule width α)}
    (hends : ends (table.map Rule.toBlock) ⊆ cuts) : Steps cuts (mostSpecific table) := by
  intro n
  rw [mostSpecific, mostSpecific]
  congr 1
  apply List.filter_congr
  intro rule hrule
  rw [decide_eq_decide]
  exact holds_floorCut_of_ends hends (List.mem_map_of_mem hrule) n

theorem steps_holds {b : Block width} (hfirst : b.first ∈ cuts) (habove : b.above ∈ cuts) :
    Steps cuts fun n => decide (b.Holds n) := by
  intro n
  rw [decide_eq_decide]
  exact Block.holds_floorCut hfirst habove

theorem Steps.map₂ {f : ℕ → α} {g : ℕ → β} (hf : Steps cuts f) (hg : Steps cuts g)
    (h : α → β → γ) : Steps cuts fun n => h (f n) (g n) := by
  intro n
  simp only [hf n, hg n]

/-- Two functions that only step at the cuts are equal once they agree at the cuts. -/
theorem Steps.eq_of_agree {f g : ℕ → β} (hf : Steps cuts f) (hg : Steps cuts g)
    (h : ∀ c ∈ 0 :: cuts, f c = g c) (n : ℕ) : f n = g n := by
  rw [← hf n, ← hg n]
  exact h _ (floorCut_mem cuts n)

/-- What holds of a stepping function at the cuts of a block holds in the whole block. -/
theorem Steps.forall_holds {f : ℕ → β} {P : β → Prop} (hf : Steps cuts f) {b : Block width}
    (hfirst : b.first ∈ cuts) (habove : b.above ∈ cuts)
    (h : ∀ c ∈ 0 :: cuts, b.Holds c → P (f c)) (n : ℕ) (hn : b.Holds n) : P (f n) := by
  rw [← hf n]
  exact h _ (floorCut_mem cuts n) ((Block.holds_floorCut hfirst habove).mpr hn)

end Steps

end Prefixes

namespace Nat

/-- Masking with `m` shifted left keeps the bits that `m` selects above the shift. -/
theorem and_mul_two_pow (x m k : ℕ) : x &&& m * 2 ^ k = (x / 2 ^ k &&& m) * 2 ^ k := by
  apply Nat.eq_of_testBit_eq
  intro i
  rw [Nat.testBit_and, Nat.testBit_mul_two_pow, Nat.testBit_mul_two_pow, Nat.testBit_and,
    Nat.testBit_div_two_pow]
  by_cases h : k ≤ i
  · simp [h, Nat.sub_add_cancel h]
  · simp [h]

/-- Equality under a mask of the bits from `k` up to `k + w`. -/
theorem and_mask_eq_iff (x v w k : ℕ) :
    x &&& (2 ^ w - 1) * 2 ^ k = v * 2 ^ k ↔ x / 2 ^ k % 2 ^ w = v := by
  rw [and_mul_two_pow, Nat.and_two_pow_sub_one_eq_mod]
  exact ⟨fun h => Nat.eq_of_mul_eq_mul_right (Nat.two_pow_pos k) h, fun h => by rw [h]⟩

end Nat

namespace BitVec

variable {w : ℕ}

theorem and_allOnes_shiftLeft (x : BitVec w) (k : ℕ) :
    x &&& BitVec.allOnes w <<< k = x >>> k <<< k := by
  ext i hi
  by_cases h : i < k
  · simp [h]
  · have : k + (i - k) = i := by omega
    simp [h, this, hi]

theorem shiftRight_shiftLeft_shiftRight (x : BitVec w) (k : ℕ) :
    x >>> k <<< k >>> k = x >>> k := by
  ext i hi
  by_cases h : k + i < w
  · simp [h]
  · simp [h, BitVec.getLsbD_of_ge x (k + i) (by omega)]

/-- Equality under a mask of the first bits is equality of these bits. -/
theorem and_allOnes_shiftLeft_eq_iff (x y : BitVec w) (k : ℕ) :
    x &&& BitVec.allOnes w <<< k = y &&& BitVec.allOnes w <<< k ↔
      x.toNat / 2 ^ k = y.toNat / 2 ^ k := by
  rw [and_allOnes_shiftLeft, and_allOnes_shiftLeft, ← Nat.shiftRight_eq_div_pow,
    ← Nat.shiftRight_eq_div_pow, ← BitVec.toNat_ushiftRight, ← BitVec.toNat_ushiftRight,
    BitVec.toNat_inj]
  constructor
  · intro h
    rw [← shiftRight_shiftLeft_shiftRight x, ← shiftRight_shiftLeft_shiftRight y, h]
  · intro h
    rw [h]

end BitVec
