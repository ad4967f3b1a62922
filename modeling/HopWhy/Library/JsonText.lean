import HopWhy.Library.Json

/-!
# JSON text

The text of a tree in the compact layout and in the layout with one element a
line and two spaces a level. The text of a double is a parameter.
-/

namespace Json

def hexDigit (n : ℕ) : Char := if n < 10 then Char.ofNat (48 + n) else Char.ofNat (87 + n)

/-- Quotes, backslashes and control characters are escaped, and nothing else. -/
def escapeChar (c : Char) : List Char :=
  if c = '"' then ['\\', '"']
  else if c = '\\' then ['\\', '\\']
  else if c = Char.ofNat 8 then ['\\', 'b']
  else if c = Char.ofNat 12 then ['\\', 'f']
  else if c = '\n' then ['\\', 'n']
  else if c = '\r' then ['\\', 'r']
  else if c = '\t' then ['\\', 't']
  else if c.toNat < 32 then ['\\', 'u', '0', '0', hexDigit (c.toNat / 16), hexDigit (c.toNat % 16)]
  else [c]

def quote (s : String) : List Char := '"' :: s.toList.flatMap escapeChar ++ ['"']

def numberText (doubleText : F64 → String) : Number → List Char
  | .posInt n => Nat.toDigits 10 n.toNat
  | .negInt n => (toString n.toInt).toList
  | .float x => (doubleText x).toList

/-- The break before a line at the depth; the compact layout has none. -/
def lineBreak (pretty : Bool) (depth : ℕ) : List Char :=
  if pretty then '\n' :: List.replicate (2 * depth) ' ' else []

def nameMark (pretty : Bool) : List Char := if pretty then [':', ' '] else [':']

variable (pretty : Bool) (doubleText : F64 → String)

mutual

def text (depth : ℕ) : Json → List Char
  | .null => "null".toList
  | .bool b => if b then "true".toList else "false".toList
  | .num n => numberText doubleText n
  | .str s => quote s
  | .arr xs =>
    '[' :: elementsText depth true xs ++
      (if xs.isEmpty then [] else lineBreak pretty depth) ++ [']']
  | .obj ms =>
    '{' :: membersText depth true ms ++
      (if ms.isEmpty then [] else lineBreak pretty depth) ++ ['}']

def elementsText (depth : ℕ) (first : Bool) : List Json → List Char
  | [] => []
  | x :: xs =>
    (if first then [] else [',']) ++ lineBreak pretty (depth + 1) ++ text (depth + 1) x ++
      elementsText depth false xs

def membersText (depth : ℕ) (first : Bool) : List (String × Json) → List Char
  | [] => []
  | (k, v) :: ms =>
    (if first then [] else [',']) ++ lineBreak pretty (depth + 1) ++ quote k ++
      nameMark pretty ++ text (depth + 1) v ++ membersText depth false ms

end

/-- `to_string` and `to_vec`. -/
def compactText (j : Json) : String := String.ofList (text false doubleText 0 j)

/-- `to_string_pretty`. -/
def prettyText (j : Json) : String := String.ofList (text true doubleText 0 j)

section Lines

variable {doubleText}

theorem not_mem_toDigits (n : ℕ) : '\n' ∉ Nat.toDigits 10 n := by
  intro h
  have hdigit := Nat.isDigit_of_mem_toDigits (by decide) (by decide) h
  revert hdigit
  decide

theorem not_mem_quote (s : String) : '\n' ∉ quote s := by
  have hhex : ∀ n < 16, '\n' ≠ hexDigit n := by decide
  have hescape : ∀ c, '\n' ∉ escapeChar c := by
    intro c
    unfold escapeChar
    split_ifs with h₁ h₂ h₃ h₄ h₅ h₆ h₇ hcontrol
    any_goals decide
    · have hlow := hhex (c.toNat % 16) (Nat.mod_lt _ (by decide))
      have hhigh := hhex (c.toNat / 16) (by omega)
      simp [hlow, hhigh]
    · simpa using Ne.symm h₅
  simp [quote, hescape]

/-- The compact text of a tree is one line. -/
theorem not_mem_text_compact (hdouble : ∀ x, '\n' ∉ (doubleText x).toList) (j : Json) :
    ∀ depth, '\n' ∉ text false doubleText depth j := by
  induction j using Json.inductionOn with
  | null => intro depth; simp [text]
  | bool b => intro depth; cases b <;> simp [text]
  | num n =>
    intro depth
    cases n with
    | posInt n => exact not_mem_toDigits n.toNat
    | negInt n =>
      change '\n' ∉ (Int.repr n.toInt).toList
      rcases n.toInt with k | k
      · simpa [Int.repr, Nat.repr] using not_mem_toDigits k
      · simpa [Int.repr, Nat.repr] using not_mem_toDigits (k + 1)
    | float x => exact hdouble x
  | str s => intro depth; exact not_mem_quote s
  | arr xs ih =>
    intro depth
    have helements : ∀ first, '\n' ∉ elementsText false doubleText depth first xs := by
      induction xs with
      | nil => intro first; simp [elementsText]
      | cons x xs ihxs =>
        intro first
        have hx := ih x List.mem_cons_self (depth + 1)
        have hxs := ihxs (fun y hy => ih y (List.mem_cons_of_mem _ hy)) false
        cases first <;> simp [elementsText, lineBreak, hx, hxs]
    simp [text, lineBreak, helements]
  | obj ms ih =>
    intro depth
    have hmembers : ∀ first, '\n' ∉ membersText false doubleText depth first ms := by
      induction ms with
      | nil => intro first; simp [membersText]
      | cons m ms ihms =>
        intro first
        have hm := ih m List.mem_cons_self (depth + 1)
        have hms := ihms (fun n hn => ih n (List.mem_cons_of_mem _ hn)) false
        cases first <;> simp [membersText, lineBreak, nameMark, not_mem_quote, hm, hms]
    simp [text, lineBreak, hmembers]

/-- The text of a tree does not end in a line break. -/
theorem getLast?_text_ne (hdouble : ∀ x, '\n' ∉ (doubleText x).toList) (pretty : Bool) (j : Json)
    (depth : ℕ) : (text pretty doubleText depth j).getLast? ≠ some '\n' := by
  -- A scalar is printed alike in both layouts.
  cases j with
  | null => exact fun h => not_mem_text_compact hdouble .null depth (List.mem_of_getLast? h)
  | bool b => exact fun h => not_mem_text_compact hdouble (.bool b) depth (List.mem_of_getLast? h)
  | num n => exact fun h => not_mem_text_compact hdouble (.num n) depth (List.mem_of_getLast? h)
  | str s => exact fun h => not_mem_text_compact hdouble (.str s) depth (List.mem_of_getLast? h)
  | arr xs =>
    rw [text, List.getLast?_concat]
    decide
  | obj ms =>
    rw [text, List.getLast?_concat]
    decide

end Lines

/-- The layouts of objects with members differ in their second character. -/
theorem compactText_ne_prettyText {ms ms' : List (String × Json)} (h : ms ≠ []) (h' : ms' ≠ []) :
    compactText doubleText (.obj ms) ≠ prettyText doubleText (.obj ms') := by
  obtain ⟨m, ms, rfl⟩ := List.exists_cons_of_ne_nil h
  obtain ⟨m', ms', rfl⟩ := List.exists_cons_of_ne_nil h'
  intro heq
  have hsecond := congrArg (fun cs : List Char => cs[1]?) (String.ofList_inj.mp heq)
  simp [text, membersText, lineBreak, quote] at hsecond

end Json
