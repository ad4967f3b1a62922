import Mathlib.Data.List.TakeWhile
import Mathlib.Data.Nat.Notation

/-!
# Text and octets

Character-list forms of the string operations the tool calls, the UTF-8
encoding of a string, its lossy decoding, and the base64 alphabet. Decoding
replaces each maximal invalid prefix by one replacement character.
-/

namespace Text

/-- The code points with the Unicode `White_Space` property. -/
def isWhitespace (c : Char) : Bool :=
  let n := c.toNat
  (9 ≤ n && n ≤ 13) || n == 0x20 || n == 0x85 || n == 0xa0 || n == 0x1680 ||
    (0x2000 ≤ n && n ≤ 0x200a) || n == 0x2028 || n == 0x2029 || n == 0x202f ||
    n == 0x205f || n == 0x3000

def trim (cs : List Char) : List Char :=
  ((cs.dropWhile isWhitespace).reverse.dropWhile isWhitespace).reverse

theorem trim_ne_nil_of_mem {c : Char} {cs : List Char} (hc : c ∈ cs)
    (hblank : isWhitespace c = false) : trim cs ≠ [] := by
  intro hnil
  have hall := List.dropWhile_eq_nil_iff.mp (List.reverse_eq_nil_iff.mp hnil)
  rw [← List.takeWhile_append_dropWhile (p := isWhitespace) (l := cs)] at hc
  rcases List.mem_append.mp hc with hc | hc
  · rw [List.mem_takeWhile_imp hc] at hblank
    cases hblank
  · rw [hall c (List.mem_reverse.mpr hc)] at hblank
    cases hblank

/-- The parts before and after the last occurrence of `sep`. -/
def rsplitOnce (sep : Char) (cs : List Char) : Option (List Char × List Char) :=
  let suffix := cs.reverse.takeWhile (· ≠ sep)
  if sep ∈ cs then some (cs.take (cs.length - suffix.length - 1), suffix.reverse) else none

theorem rsplitOnce_append {sep : Char} (before : List Char) {after : List Char}
    (h : sep ∉ after) : rsplitOnce sep (before ++ sep :: after) = some (before, after) := by
  have hstop : ∀ c ∈ after.reverse, decide (c ≠ sep) = true := by
    intro c hc
    apply decide_eq_true
    rintro rfl
    exact h (List.mem_reverse.mp hc)
  have hsuffix : (before ++ sep :: after).reverse.takeWhile (· ≠ sep) = after.reverse := by
    rw [List.reverse_append, List.reverse_cons, List.append_assoc,
      List.takeWhile_append_of_pos hstop]
    simp
  have hlength : before.length + (after.length + 1) - after.length - 1 = before.length := by omega
  rw [rsplitOnce, hsuffix, if_pos (by simp)]
  simp [hlength]

theorem rsplitOnce_of_not_mem {sep : Char} {cs : List Char} (h : sep ∉ cs) :
    rsplitOnce sep cs = none := if_neg h

/-- A text with the separator can be cut at its last occurrence. -/
theorem exists_last_occurrence {sep : Char} {cs : List Char} (h : sep ∈ cs) :
    ∃ before after, cs = before ++ sep :: after ∧ sep ∉ after := by
  obtain ⟨after, before, heq, hafter⟩ := List.eq_append_cons_of_mem (List.mem_reverse.mpr h)
  refine ⟨before.reverse, after.reverse, ?_, by simpa using hafter⟩
  have hback := congrArg List.reverse heq
  simpa using hback

def contains (part : List Char) : List Char → Bool
  | [] => part.isPrefixOf []
  | c :: cs => part.isPrefixOf (c :: cs) || contains part cs

/-- A part whose second character does not occur before a stop is found behind it only. -/
theorem contains_append_cons {a d stop : Char} {part u : List Char} (rest : List Char)
    (ha : a ≠ stop) (hd : d ≠ stop) (hu : d ∉ u) :
    contains (a :: d :: part) (u ++ stop :: rest) = contains (a :: d :: part) rest := by
  induction u with
  | nil => simp [contains, ha]
  | cons c cs ih =>
    have hprefix : (a :: d :: part).isPrefixOf (c :: (cs ++ stop :: rest)) = false := by
      rcases cs with _ | ⟨c', cs⟩
      · simp [List.isPrefixOf, hd]
      · have hc' : d ≠ c' := by
          rintro rfl
          exact hu (List.mem_cons_of_mem _ List.mem_cons_self)
        simp [List.isPrefixOf, hc']
    rw [List.cons_append, contains, hprefix, Bool.false_or]
    exact ih fun hmem => hu (List.mem_cons_of_mem _ hmem)

theorem contains_append (part before rest : List Char) :
    contains part (before ++ part ++ rest) = true := by
  induction before with
  | nil =>
    have hprefix : part.isPrefixOf (part ++ rest) = true := by simp
    rcases hp : part ++ rest with _ | ⟨c, cs⟩
    · rw [hp] at hprefix
      simp [hp, contains, hprefix]
    · rw [hp] at hprefix
      rw [List.nil_append, hp, contains, hprefix, Bool.true_or]
  | cons c cs ih =>
    rw [List.cons_append, List.cons_append, contains, ih, Bool.or_true]

def isAsciiDigit (c : Char) : Bool := '0' ≤ c && c ≤ '9'

def toAsciiLower (c : Char) : Char :=
  if 'A' ≤ c ∧ c ≤ 'Z' then Char.ofNat (c.toNat + 32) else c

def toAsciiLowercase (cs : List Char) : List Char := cs.map toAsciiLower

def eqIgnoreAsciiCase (a b : List Char) : Bool := toAsciiLowercase a == toAsciiLowercase b

theorem toAsciiLowercase_append (a b : List Char) :
    toAsciiLowercase (a ++ b) = toAsciiLowercase a ++ toAsciiLowercase b := by
  simp [toAsciiLowercase]

theorem toNat_ofNat_of_lt {n : ℕ} (h : n < 0xd800) : (Char.ofNat n).toNat = n := by
  have hvalid : n.isValidChar := Or.inl h
  rw [Char.ofNat, dif_pos hvalid]
  exact UInt32.toNat_ofNatLT

/-- The lower-case forms of letters are letters. -/
theorem toAsciiLower_eq_iff {c d : Char} (hupper : ¬ ('A' ≤ c ∧ c ≤ 'Z'))
    (hlower : ¬ ('a' ≤ c ∧ c ≤ 'z')) : toAsciiLower d = c ↔ d = c := by
  unfold toAsciiLower
  split_ifs with hd
  · have hrange : 65 ≤ d.toNat ∧ d.toNat ≤ 90 := by
      simpa [Char.le_def, UInt32.le_iff_toNat_le] using hd
    have hnat := toNat_ofNat_of_lt (n := d.toNat + 32) (by omega)
    constructor
    · rintro rfl
      refine absurd ?_ hlower
      simp only [Char.le_def, UInt32.le_iff_toNat_le, Char.toNat_val, hnat]
      exact ⟨show 97 ≤ d.toNat + 32 by omega, show d.toNat + 32 ≤ 122 by omega⟩
    · rintro rfl
      exact absurd hd hupper
  · rfl

/-- Lowering the case neither adds nor removes a character that is no letter. -/
theorem mem_toAsciiLowercase {c : Char} (hupper : ¬ ('A' ≤ c ∧ c ≤ 'Z'))
    (hlower : ¬ ('a' ≤ c ∧ c ≤ 'z')) {cs : List Char} : c ∈ toAsciiLowercase cs ↔ c ∈ cs := by
  simp [toAsciiLowercase, toAsciiLower_eq_iff hupper hlower]

/-- General category `Cc`. -/
def isControl (c : Char) : Bool := c.toNat < 0x20 || (0x7f ≤ c.toNat && c.toNat < 0xa0)

def replacement : Char := Char.ofNat 0xfffd

/-- The UTF-8 octets of a string. -/
def utf8 (s : String) : List UInt8 := s.toList.flatMap String.utf8EncodeChar

theorem utf8_ofList (cs : List Char) :
    utf8 (String.ofList cs) = cs.flatMap String.utf8EncodeChar := by
  rw [utf8, String.toList_ofList]

def isTail (b : UInt8) : Bool := 0x80 ≤ b && b ≤ 0xbf

/-- The octets allowed after a lead octet of a three- or four-octet sequence. -/
def isSecond (lead b : UInt8) : Bool :=
  if lead == 0xe0 then 0xa0 ≤ b && b ≤ 0xbf
  else if lead == 0xed then 0x80 ≤ b && b ≤ 0x9f
  else if lead == 0xf0 then 0x90 ≤ b && b ≤ 0xbf
  else if lead == 0xf4 then 0x80 ≤ b && b ≤ 0x8f
  else isTail b

/-- The first character of a nonempty octet list and how many octets it takes. -/
def lossyHead : List UInt8 → Char × ℕ
  | [] => (replacement, 1)
  | a :: rest =>
    if a < 0x80 then (Char.ofNat a.toNat, 1)
    else if 0xc2 ≤ a && a ≤ 0xdf then
      match rest with
      | b :: _ =>
        if isTail b then (Char.ofNat ((a.toNat % 32) * 64 + b.toNat % 64), 2)
        else (replacement, 1)
      | [] => (replacement, 1)
    else if 0xe0 ≤ a && a ≤ 0xef then
      match rest with
      | b :: c :: _ =>
        if !isSecond a b then (replacement, 1)
        else if isTail c then
          (Char.ofNat ((a.toNat % 16) * 4096 + (b.toNat % 64) * 64 + c.toNat % 64), 3)
        else (replacement, 2)
      | [b] => (replacement, if isSecond a b then 2 else 1)
      | [] => (replacement, 1)
    else if 0xf0 ≤ a && a ≤ 0xf4 then
      match rest with
      | b :: c :: d :: _ =>
        if !isSecond a b then (replacement, 1)
        else if !isTail c then (replacement, 2)
        else if isTail d then
          (Char.ofNat ((a.toNat % 8) * 262144 + (b.toNat % 64) * 4096 + (c.toNat % 64) * 64 +
            d.toNat % 64), 4)
        else (replacement, 3)
      | [b, c] =>
        (replacement, if !isSecond a b then 1 else if isTail c then 3 else 2)
      | [b] => (replacement, if isSecond a b then 2 else 1)
      | [] => (replacement, 1)
    else (replacement, 1)

/-- Decodes character by character; every character takes an octet, so the
number of octets bounds the rounds. -/
def decodeLossy : ℕ → List UInt8 → List Char
  | 0, _ => []
  | _, [] => []
  | n + 1, bs => (lossyHead bs).1 :: decodeLossy n (bs.drop (lossyHead bs).2)

def fromUtf8Lossy (bs : List UInt8) : String := String.ofList (decodeLossy bs.length bs)

def base64Digit (n : ℕ) : Char :=
  if n < 26 then Char.ofNat (65 + n)
  else if n < 52 then Char.ofNat (97 + (n - 26))
  else if n < 62 then Char.ofNat (48 + (n - 52))
  else if n = 62 then '+' else '/'

/-- Three octets at a time as four digits, padded with `=`. -/
def base64Chars : List UInt8 → List Char
  | a :: b :: c :: rest =>
    let n := a.toNat * 65536 + b.toNat * 256 + c.toNat
    base64Digit (n / 262144) :: base64Digit (n / 4096 % 64) :: base64Digit (n / 64 % 64) ::
      base64Digit (n % 64) :: base64Chars rest
  | [a, b] =>
    let n := a.toNat * 1024 + b.toNat * 4
    [base64Digit (n / 4096), base64Digit (n / 64 % 64), base64Digit (n % 64), '=']
  | [a] =>
    let n := a.toNat * 16
    [base64Digit (n / 64), base64Digit (n % 64), '=', '=']
  | [] => []

def base64 (bs : List UInt8) : String := String.ofList (base64Chars bs)

/-- Every started group of three octets takes four characters. -/
theorem length_base64Chars : ∀ bs : List UInt8,
    (base64Chars bs).length = 4 * ((bs.length + 2) / 3)
  | a :: b :: c :: rest => by
    simp only [base64Chars, List.length_cons, length_base64Chars rest]
    omega
  | [_, _] => by simp [base64Chars]
  | [_] => by simp [base64Chars]
  | [] => rfl

/-- A string is its octets. -/
theorem utf8_injective : Function.Injective utf8 := by
  intro s t h
  have hencode : s.toList.utf8Encode = t.toList.utf8Encode := congrArg List.toByteArray h
  have hdecode := congrArg ByteArray.utf8Decode? hencode
  rw [List.utf8Decode?_utf8Encode, List.utf8Decode?_utf8Encode] at hdecode
  exact String.toList_inj.mp (by simpa using hdecode)

def lowerHexDigit (n : ℕ) : Char := if n < 10 then Char.ofNat (48 + n) else Char.ofNat (87 + n)

/-- Two digits an octet. -/
def lowerHex (bs : List UInt8) : List Char :=
  bs.flatMap fun b => [lowerHexDigit (b.toNat / 16), lowerHexDigit (b.toNat % 16)]

theorem lowerHexDigit_inj : ∀ m < 16, ∀ n < 16, lowerHexDigit m = lowerHexDigit n → m = n := by
  decide

theorem lowerHex_injective : Function.Injective lowerHex := by
  intro as bs h
  induction as generalizing bs with
  | nil =>
    rcases bs with _ | ⟨b, bs⟩
    · rfl
    · cases h
  | cons a as ih =>
    rcases bs with _ | ⟨b, bs⟩
    · cases h
    · have ha := a.toNat_lt
      have hb := b.toNat_lt
      simp only [lowerHex, List.flatMap_cons, List.cons_append, List.nil_append,
        List.cons.injEq] at h
      obtain ⟨hhigh, hlow, hrest⟩ := h
      have hhigh := lowerHexDigit_inj _ (by omega) _ (by omega) hhigh
      have hlow := lowerHexDigit_inj _ (by omega) _ (by omega) hlow
      rw [ih hrest, UInt8.toNat_inj.mp (by omega : a.toNat = b.toNat)]

theorem length_lowerHex (bs : List UInt8) : (lowerHex bs).length = 2 * bs.length := by
  induction bs with
  | nil => rfl
  | cons b bs ih =>
    rw [lowerHex, List.flatMap_cons, List.length_append, ← lowerHex, ih]
    simp only [List.length_cons, List.length_nil]
    omega

end Text
