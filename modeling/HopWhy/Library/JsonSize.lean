import Mathlib.Algebra.GroupWithZero.Nat
import HopWhy.Library.JsonText
import HopWhy.Library.Text

/-!
# Sizes of JSON text

Bounds for the number of octets a tree prints as. The size of a tree is an upper
bound that re-keying does not raise, since it only drops and moves members; it
charges a quoted text what a measure says. The text of a part is a lower bound
for the text of the whole.
-/

/-- The octets of a text. -/
def octets (cs : List Char) : ℕ := (cs.map Char.utf8Size).sum

@[simp] theorem octets_nil : octets [] = 0 := rfl

@[simp] theorem octets_cons (c : Char) (cs : List Char) :
    octets (c :: cs) = c.utf8Size + octets cs := rfl

@[simp] theorem octets_append (a b : List Char) : octets (a ++ b) = octets a + octets b := by
  simp [octets]

theorem length_utf8_ofList (cs : List Char) :
    (Text.utf8 (String.ofList cs)).length = octets cs := by
  rw [Text.utf8_ofList, List.length_flatMap]
  simp [octets]

namespace Json

section Size

variable (pretty : Bool) (doubleText : F64 → String) (quoted : String → ℕ)

/-- What separates an element from the one before it. -/
def separator (depth : ℕ) : ℕ := 1 + octets (lineBreak pretty depth)

mutual

/-- The octets of a tree at the depth, with `quoted` for those of a quoted text. -/
def size (depth : ℕ) : Json → ℕ
  | .null => 4
  | .bool _ => 5
  | .num n => octets (numberText doubleText n)
  | .str s => quoted s
  | .arr xs => sizeElements (depth + 1) xs + octets (lineBreak pretty depth) + 2
  | .obj ms => sizeMembers (depth + 1) ms + octets (lineBreak pretty depth) + 2

def sizeElements (depth : ℕ) : List Json → ℕ
  | [] => 0
  | x :: xs => separator pretty depth + size depth x + sizeElements depth xs

def sizeMembers (depth : ℕ) : List (String × Json) → ℕ
  | [] => 0
  | (k, v) :: ms =>
    separator pretty depth + quoted k + octets (nameMark pretty) + size depth v +
      sizeMembers depth ms

end

variable {pretty doubleText quoted}

theorem octets_comma_le (first : Bool) : octets (if first then [] else [',']) ≤ 1 := by
  cases first <;> decide

variable (pretty) in
theorem octets_break_le (empty : Bool) (depth : ℕ) :
    octets (if empty then [] else lineBreak pretty depth) ≤ octets (lineBreak pretty depth) := by
  split_ifs
  · exact Nat.zero_le _
  · exact le_refl _

theorem octets_elementsText_le {depth : ℕ} {xs : List Json}
    (h : ∀ x ∈ xs, octets (text pretty doubleText (depth + 1) x) ≤
      size pretty doubleText quoted (depth + 1) x) (first : Bool) :
    octets (elementsText pretty doubleText depth first xs) ≤
      sizeElements pretty doubleText quoted (depth + 1) xs := by
  induction xs generalizing first with
  | nil => exact le_refl 0
  | cons x xs ih =>
    have hx := h x List.mem_cons_self
    have hxs := ih (fun y hy => h y (List.mem_cons_of_mem _ hy)) false
    have hcomma := octets_comma_le first
    simp only [elementsText, sizeElements, separator, octets_append]
    omega

theorem octets_membersText_le (hquoted : ∀ s, octets (quote s) ≤ quoted s) {depth : ℕ}
    {ms : List (String × Json)}
    (h : ∀ m ∈ ms, octets (text pretty doubleText (depth + 1) m.2) ≤
      size pretty doubleText quoted (depth + 1) m.2) (first : Bool) :
    octets (membersText pretty doubleText depth first ms) ≤
      sizeMembers pretty doubleText quoted (depth + 1) ms := by
  induction ms generalizing first with
  | nil => exact le_refl 0
  | cons m ms ih =>
    have hm := h m List.mem_cons_self
    have hms := ih (fun n hn => h n (List.mem_cons_of_mem _ hn)) false
    have hcomma := octets_comma_le first
    have hname := hquoted m.1
    simp only [membersText, sizeMembers, separator, octets_append]
    omega

theorem octets_text_le (hquoted : ∀ s, octets (quote s) ≤ quoted s) (j : Json) : ∀ depth,
    octets (text pretty doubleText depth j) ≤ size pretty doubleText quoted depth j := by
  induction j using Json.inductionOn with
  | null => intro depth; exact le_of_eq rfl
  | bool b => intro depth; cases b <;> simp only [text, size] <;> decide
  | num n => intro depth; exact le_refl _
  | str s => intro depth; exact hquoted s
  | arr xs ih =>
    intro depth
    have helements := octets_elementsText_le (fun x hx => ih x hx (depth + 1)) true
    have hbreak := octets_break_le pretty xs.isEmpty depth
    have hopen : '['.utf8Size = 1 := by decide
    have hclose : ']'.utf8Size = 1 := by decide
    simp only [text, size, octets_append, octets_cons, octets_nil]
    omega
  | obj ms ih =>
    intro depth
    have hmembers := octets_membersText_le hquoted (fun m hm => ih m hm (depth + 1)) true
    have hbreak := octets_break_le pretty ms.isEmpty depth
    have hopen : '{'.utf8Size = 1 := by decide
    have hclose : '}'.utf8Size = 1 := by decide
    simp only [text, size, octets_append, octets_cons, octets_nil]
    omega

/-- Elements that do not grow leave an array that does not. -/
theorem sizeElements_map_le {quoted' : String → ℕ} {depth : ℕ} {f : Json → Json} {xs : List Json}
    (h : ∀ x ∈ xs, size pretty doubleText quoted depth (f x) ≤
      size pretty doubleText quoted' depth x) :
    sizeElements pretty doubleText quoted depth (xs.map f) ≤
      sizeElements pretty doubleText quoted' depth xs := by
  induction xs with
  | nil => exact le_refl _
  | cons x xs ih =>
    have hx := h x List.mem_cons_self
    have hxs := ih fun y hy => h y (List.mem_cons_of_mem _ hy)
    simp only [List.map_cons, sizeElements]
    omega

theorem sizeMembers_map_le {quoted' : String → ℕ} (hquoted : ∀ s, quoted s ≤ quoted' s)
    {depth : ℕ} {f : Json → Json} {ms : List (String × Json)}
    (h : ∀ m ∈ ms, size pretty doubleText quoted depth (f m.2) ≤
      size pretty doubleText quoted' depth m.2) :
    sizeMembers pretty doubleText quoted depth (ms.map fun m => (m.1, f m.2)) ≤
      sizeMembers pretty doubleText quoted' depth ms := by
  induction ms with
  | nil => exact le_refl _
  | cons m ms ih =>
    have hm := h m List.mem_cons_self
    have hms := ih fun n hn => h n (List.mem_cons_of_mem _ hn)
    have hname := hquoted m.1
    simp only [List.map_cons, sizeMembers]
    omega

theorem sizeMembers_append (depth : ℕ) (as bs : List (String × Json)) :
    sizeMembers pretty doubleText quoted depth (as ++ bs) =
      sizeMembers pretty doubleText quoted depth as +
        sizeMembers pretty doubleText quoted depth bs := by
  induction as with
  | nil => simp [sizeMembers]
  | cons m as ih =>
    simp only [List.cons_append, sizeMembers, ih]
    omega

variable (pretty doubleText quoted) in
theorem sizeMembers_insertEntry_le (depth : ℕ) (k : String) (v : Json)
    (ms : List (String × Json)) :
    sizeMembers pretty doubleText quoted depth (insertEntry k v ms) ≤
      sizeMembers pretty doubleText quoted depth ((k, v) :: ms) := by
  induction ms with
  | nil => exact le_refl _
  | cons m ms ih =>
    rw [insertEntry]
    split_ifs with hlt heq
    · exact le_refl _
    · simp only [sizeMembers]
      omega
    · simp only [sizeMembers] at ih ⊢
      omega

variable (pretty doubleText quoted) in
theorem sizeMembers_collectInto_le (depth : ℕ) (acc ms : List (String × Json)) :
    sizeMembers pretty doubleText quoted depth (collectInto acc ms) ≤
      sizeMembers pretty doubleText quoted depth acc +
        sizeMembers pretty doubleText quoted depth ms := by
  induction ms generalizing acc with
  | nil => exact le_refl _
  | cons m ms ih =>
    have hinsert := sizeMembers_insertEntry_le pretty doubleText quoted depth m.1 m.2 acc
    have hrest := ih (insertEntry m.1 m.2 acc)
    rw [collectInto, List.foldl_cons, ← collectInto]
    simp only [sizeMembers] at hinsert ⊢
    omega

/-- Re-keying does not make a tree larger. -/
theorem size_canon_le (j : Json) : ∀ depth,
    size pretty doubleText quoted depth j.canon ≤ size pretty doubleText quoted depth j := by
  induction j using Json.inductionOn with
  | null => intro depth; exact le_refl _
  | bool b => intro depth; exact le_refl _
  | num n => intro depth; exact le_refl _
  | str s => intro depth; exact le_refl _
  | arr xs ih =>
    intro depth
    have helements := sizeElements_map_le fun x hx => ih x hx (depth + 1)
    rw [canon_arr]
    simp only [size]
    omega
  | obj ms ih =>
    intro depth
    have hmembers := sizeMembers_map_le (fun s => le_refl (quoted s)) fun m hm =>
      ih m hm (depth + 1)
    have hcollect := sizeMembers_collectInto_le pretty doubleText quoted (depth + 1) []
      (ms.map fun m => (m.1, m.2.canon))
    rw [canon_obj]
    simp only [size, sizeMembers] at hcollect ⊢
    omega

end Size

section Parts

variable {pretty : Bool} {doubleText : F64 → String}

variable (pretty doubleText) in
theorem octets_text_le_members {ms : List (String × Json)} {m : String × Json} (h : m ∈ ms)
    (depth : ℕ) (first : Bool) :
    octets (text pretty doubleText (depth + 1) m.2) ≤
      octets (membersText pretty doubleText depth first ms) := by
  induction ms generalizing first with
  | nil => cases h
  | cons n ms ih =>
    simp only [membersText, octets_append]
    rcases List.mem_cons.mp h with rfl | h
    · omega
    · have := ih h false
      omega

/-- A member's value is part of the text of its object. -/
theorem octets_text_le_obj {ms : List (String × Json)} {m : String × Json} (h : m ∈ ms)
    (depth : ℕ) :
    octets (text pretty doubleText (depth + 1) m.2) ≤
      octets (text pretty doubleText depth (.obj ms)) := by
  have := octets_text_le_members pretty doubleText h depth true
  simp only [text, octets_append, octets_cons]
  omega

variable (pretty doubleText) in
/-- The elements are parts of the text of their array. -/
theorem sum_octets_le_arr (xs : List Json) (depth : ℕ) :
    (xs.map fun x => octets (text pretty doubleText (depth + 1) x)).sum ≤
      octets (text pretty doubleText depth (.arr xs)) := by
  have helements : ∀ first, (xs.map fun x => octets (text pretty doubleText (depth + 1) x)).sum ≤
      octets (elementsText pretty doubleText depth first xs) := by
    induction xs with
    | nil => intro first; exact Nat.zero_le _
    | cons x xs ih =>
      intro first
      have := ih false
      simp only [List.map_cons, List.sum_cons, elementsText, octets_append]
      omega
  have := helements true
  simp only [text, octets_append, octets_cons]
  omega

end Parts

theorem octets_toList (s : String) : octets s.toList = s.utf8ByteSize := by
  have h := length_utf8_ofList s.toList
  rw [String.ofList_toList] at h
  rw [← h, ← String.size_toByteArray, ← String.utf8Encode_toList]
  simp [Text.utf8, List.utf8Encode]

theorem utf8Size_hexDigit : ∀ n < 16, (hexDigit n).utf8Size = 1 := by decide

theorem octets_escapeChar_le (c : Char) : octets (escapeChar c) ≤ 6 * c.utf8Size := by
  have hpos := c.utf8Size_pos
  unfold escapeChar
  split_ifs with h₁ h₂ h₃ h₄ h₅ h₆ h₇ hcontrol
  iterate 7 exact le_trans (by decide) (Nat.mul_le_mul_left 6 hpos)
  · have hhigh := utf8Size_hexDigit (c.toNat / 16) (by omega)
    have hlow := utf8Size_hexDigit (c.toNat % 16) (by omega)
    have hmark : '\\'.utf8Size = 1 ∧ 'u'.utf8Size = 1 ∧ '0'.utf8Size = 1 := by decide
    simp only [octets_cons, octets_nil, hhigh, hlow, hmark]
    omega
  · simp only [octets_cons, octets_nil]
    omega

def quotedOctets (s : String) : ℕ := octets (quote s)

/-- A measure of quoted text that is fast to evaluate. -/
def sixfold (s : String) : ℕ := 6 * s.utf8ByteSize + 2

theorem octets_quote_le_sixfold (s : String) : octets (quote s) ≤ sixfold s := by
  have hbody : ∀ cs : List Char, octets (cs.flatMap escapeChar) ≤ 6 * octets cs := by
    intro cs
    induction cs with
    | nil => exact le_refl 0
    | cons c cs ih =>
      have := octets_escapeChar_le c
      rw [List.flatMap_cons, octets_append, octets_cons]
      omega
  have := hbody s.toList
  have hmark : '"'.utf8Size = 1 := by decide
  rw [octets_toList] at this
  simp only [quote, sixfold, octets_cons, octets_append, octets_nil, hmark]
  omega

/-- The characters a quoted text shows as themselves. -/
def Plain (c : Char) : Prop := escapeChar c = [c] ∧ c.utf8Size = 1

theorem octets_of_plain {cs : List Char} (h : ∀ c ∈ cs, Plain c) : octets cs = cs.length := by
  induction cs with
  | nil => rfl
  | cons c cs ih =>
    rw [octets_cons, (h c List.mem_cons_self).2, ih fun d hd => h d (List.mem_cons_of_mem _ hd),
      List.length_cons]
    omega

theorem octets_quote_of_plain {s : String} (h : ∀ c ∈ s.toList, Plain c) :
    octets (quote s) = s.toList.length + 2 := by
  have hbody : octets (s.toList.flatMap escapeChar) = s.toList.length := by
    generalize s.toList = cs at h
    induction cs with
    | nil => rfl
    | cons c cs ih =>
      obtain ⟨hescape, hone⟩ := h c List.mem_cons_self
      rw [List.flatMap_cons, octets_append, hescape, ih fun d hd => h d (List.mem_cons_of_mem _ hd)]
      simp only [octets_cons, octets_nil, hone, List.length_cons]
      omega
  have hmark : '"'.utf8Size = 1 := by decide
  simp only [quote, octets_cons, octets_append, octets_nil, hbody, hmark]
  omega

end Json
