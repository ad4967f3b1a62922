import HopWhy.Library.Text

/-!
# Reading base64

The octets behind a text of the base64 alphabet. Four digits are three octets, and
the last group has one or two of them where it ends with padding.
-/

namespace Text

/-- The value of a digit of the alphabet. -/
def base64Value (c : Char) : Option ℕ :=
  let n := c.toNat
  if 65 ≤ n ∧ n ≤ 90 then some (n - 65)
  else if 97 ≤ n ∧ n ≤ 122 then some (n - 71)
  else if 48 ≤ n ∧ n ≤ 57 then some (n + 4)
  else if c = '+' then some 62
  else if c = '/' then some 63
  else none

/-- The octets of a group without padding. -/
def base64Group (a b c d : ℕ) : List UInt8 :=
  [UInt8.ofNat (a * 4 + b / 16), UInt8.ofNat (b % 16 * 16 + c / 4), UInt8.ofNat (c % 4 * 64 + d)]

/-- The octets of a text with its padding; a text with other characters has none. -/
def fromBase64 : List Char → Option (List UInt8)
  | [] => some []
  | a :: b :: c :: d :: rest =>
    if d ≠ '=' then do
      let first := base64Group (← base64Value a) (← base64Value b) (← base64Value c)
        (← base64Value d)
      return first ++ (← fromBase64 rest)
    else if rest ≠ [] then none
    else if c ≠ '=' then
      return (base64Group (← base64Value a) (← base64Value b) (← base64Value c) 0).take 2
    else return (base64Group (← base64Value a) (← base64Value b) 0 0).take 1
  | _ => none

theorem base64Value_digit : ∀ n < 64, base64Value (base64Digit n) = some n := by
  decide

theorem base64Digit_ne_pad {n : ℕ} (h : n < 64) : base64Digit n ≠ '=' := by
  intro hpad
  have hvalue := base64Value_digit n h
  rw [hpad] at hvalue
  cases hvalue

section

variable {w x y z : ℕ}

theorem fromBase64_group (hw : w < 64) (hx : x < 64) (hy : y < 64) (hz : z < 64)
    (rest : List Char) :
    fromBase64 (base64Digit w :: base64Digit x :: base64Digit y :: base64Digit z :: rest) =
      (fromBase64 rest).map (base64Group w x y z ++ ·) := by
  rw [fromBase64, if_pos (base64Digit_ne_pad hz), base64Value_digit w hw, base64Value_digit x hx,
    base64Value_digit y hy, base64Value_digit z hz]
  rcases fromBase64 rest with _ | later
  · rfl
  · rfl

theorem fromBase64_padded (hw : w < 64) (hx : x < 64) (hy : y < 64) :
    fromBase64 [base64Digit w, base64Digit x, base64Digit y, '='] =
      some ((base64Group w x y 0).take 2) := by
  rw [fromBase64, if_neg (not_not_intro rfl), if_neg (not_not_intro rfl),
    if_pos (base64Digit_ne_pad hy), base64Value_digit w hw, base64Value_digit x hx,
    base64Value_digit y hy]
  rfl

theorem fromBase64_padded_twice (hw : w < 64) (hx : x < 64) :
    fromBase64 [base64Digit w, base64Digit x, '=', '='] = some ((base64Group w x 0 0).take 1) := by
  rw [fromBase64, if_neg (not_not_intro rfl), if_neg (not_not_intro rfl),
    if_neg (not_not_intro rfl), base64Value_digit w hw, base64Value_digit x hx]
  rfl

/-- A group of octets, from the digits of their number. -/
theorem base64Group_eq (a b c : UInt8)
    (h : w * 262144 + x * 4096 + y * 64 + z = a.toNat * 65536 + b.toNat * 256 + c.toNat)
    (hy : y < 64) (hz : z < 64) : base64Group w x y z = [a, b, c] := by
  have hb := b.toNat_lt
  have hc := c.toNat_lt
  have hfirst : w * 4 + x / 16 = a.toNat := by omega
  have hsecond : x % 16 * 16 + y / 4 = b.toNat := by omega
  have hthird : y % 4 * 64 + z = c.toNat := by omega
  rw [base64Group, hfirst, hsecond, hthird, UInt8.ofNat_toNat, UInt8.ofNat_toNat,
    UInt8.ofNat_toNat]

end

/-- Encoded octets are read back. -/
theorem fromBase64_base64Chars (bs : List UInt8) : fromBase64 (base64Chars bs) = some bs := by
  have hdigit : ∀ n, n % 64 < 64 := fun n => Nat.mod_lt n (by decide)
  have hzero : (0 : UInt8).toNat = 0 := rfl
  induction bs using base64Chars.induct with
  | case1 a b c rest ih =>
    have ha := a.toNat_lt
    have hb := b.toNat_lt
    have hc := c.toNat_lt
    rw [base64Chars, fromBase64_group (by omega) (hdigit _) (hdigit _) (hdigit _), ih,
      base64Group_eq a b c (by omega) (hdigit _) (hdigit _)]
    rfl
  | case2 a b =>
    have ha := a.toNat_lt
    have hb := b.toNat_lt
    rw [base64Chars, fromBase64_padded (by omega) (hdigit _) (hdigit _),
      base64Group_eq a b 0 (by omega) (hdigit _) (by decide)]
    rfl
  | case3 a =>
    have ha := a.toNat_lt
    rw [base64Chars, fromBase64_padded_twice (by omega) (hdigit _),
      base64Group_eq a 0 0 (by omega) (by decide) (by decide)]
    rfl
  | case4 => rfl

end Text
