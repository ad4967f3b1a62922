import HopWhy.Library.Text

/-!
# UTF-8

Lossy decoding gives a string back from its octets: whatever the length of the
sequence of a character, its head is that character.
-/

namespace Text

theorem isTail_iff {b : UInt8} : isTail b = true ↔ 0x80 ≤ b.toNat ∧ b.toNat ≤ 0xbf := by
  simp [isTail, UInt8.le_iff_toNat_le]

/-- A second octet is a tail, with less room after four of the lead octets. -/
theorem isSecond_of_bounds {a b : UInt8} (htail : 0x80 ≤ b.toNat ∧ b.toNat ≤ 0xbf)
    (he0 : a.toNat = 0xe0 → 0xa0 ≤ b.toNat) (hed : a.toNat = 0xed → b.toNat ≤ 0x9f)
    (hf0 : a.toNat = 0xf0 → 0x90 ≤ b.toNat) (hf4 : a.toNat = 0xf4 → b.toNat ≤ 0x8f) :
    isSecond a b = true := by
  simp only [isSecond, isTail, beq_iff_eq, ← UInt8.toNat_inj, UInt8.le_iff_toNat_le]
  split_ifs with h0 hd h0 h4
  · simpa using ⟨he0 h0, htail.2⟩
  · simpa using ⟨htail.1, hed hd⟩
  · simpa using ⟨hf0 h0, htail.2⟩
  · simpa using ⟨htail.1, hf4 h4⟩
  · simpa using htail

theorem lossyHead_one {a : UInt8} (ha : a.toNat < 0x80) (rest : List UInt8) :
    lossyHead (a :: rest) = (Char.ofNat a.toNat, 1) := by
  simp [lossyHead, UInt8.lt_iff_toNat_lt, ha]

theorem lossyHead_two {a b : UInt8} (ha : 0xc2 ≤ a.toNat ∧ a.toNat ≤ 0xdf) (hb : isTail b = true)
    (rest : List UInt8) :
    lossyHead (a :: b :: rest) = (Char.ofNat (a.toNat % 32 * 64 + b.toNat % 64), 2) := by
  have hascii : ¬ a.toNat < 0x80 := by omega
  simp [lossyHead, UInt8.lt_iff_toNat_lt, UInt8.le_iff_toNat_le, ha, hascii, hb]

theorem lossyHead_three {a b c : UInt8} (ha : 0xe0 ≤ a.toNat ∧ a.toNat ≤ 0xef)
    (hb : isSecond a b = true) (hc : isTail c = true) (rest : List UInt8) :
    lossyHead (a :: b :: c :: rest) =
      (Char.ofNat (a.toNat % 16 * 4096 + b.toNat % 64 * 64 + c.toNat % 64), 3) := by
  have hascii : ¬ a.toNat < 0x80 := by omega
  have htwo : ¬ a.toNat ≤ 0xdf := by omega
  simp [lossyHead, UInt8.lt_iff_toNat_lt, UInt8.le_iff_toNat_le, ha, hascii, htwo, hb, hc]

theorem lossyHead_four {a b c d : UInt8} (ha : 0xf0 ≤ a.toNat ∧ a.toNat ≤ 0xf4)
    (hb : isSecond a b = true) (hc : isTail c = true) (hd : isTail d = true) (rest : List UInt8) :
    lossyHead (a :: b :: c :: d :: rest) =
      (Char.ofNat (a.toNat % 8 * 262144 + b.toNat % 64 * 4096 + c.toNat % 64 * 64 +
        d.toNat % 64), 4) := by
  have hascii : ¬ a.toNat < 0x80 := by omega
  have htwo : ¬ a.toNat ≤ 0xdf := by omega
  have hthree : ¬ a.toNat ≤ 0xef := by omega
  simp [lossyHead, UInt8.lt_iff_toNat_lt, UInt8.le_iff_toNat_le, ha, hascii, htwo, hthree, hb, hc,
    hd]

theorem toNat_octet {m : ℕ} (h : m < 256) : (UInt8.ofNat m).toNat = m := by
  rw [UInt8.toNat_ofNat', Nat.mod_eq_of_lt h]

section

variable {n : ℕ} (rest : List UInt8)

theorem lossyHead_scalar_one (h : n ≤ 0x7f) :
    lossyHead (UInt8.ofNat n :: rest) = (Char.ofNat n, 1) := by
  have ha : (UInt8.ofNat n).toNat = n := toNat_octet (by omega)
  rw [lossyHead_one (by omega), ha]

theorem lossyHead_scalar_two (hlow : 0x7f < n) (hhigh : n ≤ 0x7ff) :
    lossyHead (UInt8.ofNat (n / 64 % 32 + 192) :: UInt8.ofNat (n % 64 + 128) :: rest) =
      (Char.ofNat n, 2) := by
  have ha := toNat_octet (show n / 64 % 32 + 192 < 256 by omega)
  have hb := toNat_octet (show n % 64 + 128 < 256 by omega)
  rw [lossyHead_two (by omega) (isTail_iff.mpr (by omega)), ha, hb]
  have hback : (n / 64 % 32 + 192) % 32 * 64 + (n % 64 + 128) % 64 = n := by omega
  rw [hback]

/-- The surrogates are not written, so no second octet is out of bounds. -/
theorem lossyHead_scalar_three (hlow : 0x7ff < n) (hhigh : n ≤ 0xffff)
    (hvalid : n < 0xd800 ∨ 0xdfff < n) :
    lossyHead (UInt8.ofNat (n / 4096 % 16 + 224) :: UInt8.ofNat (n / 64 % 64 + 128) ::
      UInt8.ofNat (n % 64 + 128) :: rest) = (Char.ofNat n, 3) := by
  have ha := toNat_octet (show n / 4096 % 16 + 224 < 256 by omega)
  have hb := toNat_octet (show n / 64 % 64 + 128 < 256 by omega)
  have hc := toNat_octet (show n % 64 + 128 < 256 by omega)
  have hsecond : isSecond (UInt8.ofNat (n / 4096 % 16 + 224)) (UInt8.ofNat (n / 64 % 64 + 128)) =
      true := by
    apply isSecond_of_bounds <;> omega
  rw [lossyHead_three (by omega) hsecond (isTail_iff.mpr (by omega)), ha, hb, hc]
  have hback : (n / 4096 % 16 + 224) % 16 * 4096 + (n / 64 % 64 + 128) % 64 * 64 +
      (n % 64 + 128) % 64 = n := by omega
  rw [hback]

theorem lossyHead_scalar_four (hlow : 0xffff < n) (hhigh : n < 0x110000) :
    lossyHead (UInt8.ofNat (n / 262144 % 8 + 240) :: UInt8.ofNat (n / 4096 % 64 + 128) ::
      UInt8.ofNat (n / 64 % 64 + 128) :: UInt8.ofNat (n % 64 + 128) :: rest) =
      (Char.ofNat n, 4) := by
  have ha := toNat_octet (show n / 262144 % 8 + 240 < 256 by omega)
  have hb := toNat_octet (show n / 4096 % 64 + 128 < 256 by omega)
  have hc := toNat_octet (show n / 64 % 64 + 128 < 256 by omega)
  have hd := toNat_octet (show n % 64 + 128 < 256 by omega)
  have hsecond : isSecond (UInt8.ofNat (n / 262144 % 8 + 240))
      (UInt8.ofNat (n / 4096 % 64 + 128)) = true := by
    apply isSecond_of_bounds <;> omega
  rw [lossyHead_four (by omega) hsecond (isTail_iff.mpr (by omega)) (isTail_iff.mpr (by omega)), ha,
    hb, hc, hd]
  have hback : (n / 262144 % 8 + 240) % 8 * 262144 + (n / 4096 % 64 + 128) % 64 * 4096 +
      (n / 64 % 64 + 128) % 64 * 64 + (n % 64 + 128) % 64 = n := by omega
  rw [hback]

end

/-- The head of the octets of a character is the character. -/
theorem lossyHead_utf8EncodeChar (c : Char) (rest : List UInt8) :
    lossyHead (String.utf8EncodeChar c ++ rest) = (c, (String.utf8EncodeChar c).length) := by
  have hvalid : c.toNat < 0xd800 ∨ 0xdfff < c.toNat ∧ c.toNat < 0x110000 := c.valid
  obtain ⟨n, hn⟩ : ∃ n, c.toNat = n := ⟨_, rfl⟩
  have hchar : c = Char.ofNat n := by rw [← hn, Char.ofNat_toNat]
  unfold String.utf8EncodeChar
  simp only [Char.toNat_val, hn]
  rw [hn] at hvalid
  subst hchar
  split_ifs with hone htwo hthree
  · exact lossyHead_scalar_one rest hone
  · exact lossyHead_scalar_two rest (by omega) htwo
  · exact lossyHead_scalar_three rest (by omega) hthree (by omega)
  · exact lossyHead_scalar_four rest (by omega) (by omega)

theorem decodeLossy_utf8 (cs : List Char) {n : ℕ} (hn : cs.length ≤ n) :
    decodeLossy n (cs.flatMap String.utf8EncodeChar) = cs := by
  induction cs generalizing n with
  | nil => cases n <;> rfl
  | cons c cs ih =>
    rcases n with _ | n
    · cases hn
    · rw [List.flatMap_cons]
      have hhead := lossyHead_utf8EncodeChar c (cs.flatMap String.utf8EncodeChar)
      have hne : String.utf8EncodeChar c ++ cs.flatMap String.utf8EncodeChar ≠ [] := by
        simp
      obtain ⟨b, bs, hcons⟩ := List.exists_cons_of_ne_nil hne
      rw [hcons] at hhead ⊢
      rw [decodeLossy, hhead, ← hcons, List.drop_left, ih (Nat.le_of_succ_le_succ hn)]
      simp

theorem length_le_length_utf8EncodeChars (cs : List Char) :
    cs.length ≤ (cs.flatMap String.utf8EncodeChar).length := by
  induction cs with
  | nil => exact Nat.zero_le _
  | cons c cs ih =>
    have hpos := c.utf8Size_pos
    rw [List.flatMap_cons, List.length_append, List.length_cons, String.length_utf8EncodeChar]
    omega

/-- The octets of a string decode to it. -/
theorem fromUtf8Lossy_utf8 (s : String) : fromUtf8Lossy (utf8 s) = s := by
  rw [fromUtf8Lossy, utf8, decodeLossy_utf8 _ (length_le_length_utf8EncodeChars _),
    String.ofList_toList]

/-- The octets of text without other characters than ASCII. -/
def asciiOctets (cs : List Char) : List UInt8 := cs.map fun c => UInt8.ofNat c.toNat

theorem asciiOctets_append (as bs : List Char) :
    asciiOctets (as ++ bs) = asciiOctets as ++ asciiOctets bs := List.map_append

theorem utf8_ofList_of_ascii {cs : List Char} (h : ∀ c ∈ cs, c.toNat < 0x80) :
    utf8 (String.ofList cs) = asciiOctets cs := by
  rw [utf8, String.toList_ofList]
  induction cs with
  | nil => rfl
  | cons c cs ih =>
    have hc : c.val.toNat ≤ 0x7f := Nat.le_of_lt_succ (h c List.mem_cons_self)
    rw [List.flatMap_cons, ih fun d hd => h d (List.mem_cons_of_mem _ hd), String.utf8EncodeChar]
    rw [if_pos hc]
    rfl

end Text
