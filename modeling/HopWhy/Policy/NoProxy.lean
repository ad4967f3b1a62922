import HopWhy.Library.AddrText
import HopWhy.Policy.Proxy

/-!
# The `NO_PROXY` matcher

What an entry of the list has to look like to match a host. The matcher trims,
takes the port of the target from the end, turns away any other number behind a
last colon, drops leading dots and compares what is left.
-/

namespace HopWhy

open Text

/-- The host is the name or ends with a dot and the name, in any ASCII case. -/
def Covers (name host : List Char) : Prop :=
  toAsciiLowercase host = toAsciiLowercase name ∨
    ('.' :: toAsciiLowercase name) <:+ toAsciiLowercase host

instance (name host : List Char) : Decidable (Covers name host) :=
  inferInstanceAs (Decidable (_ ∨ _))

/-- A row of dots, possibly an empty one. -/
def Dots (cs : List Char) : Prop := ∀ c ∈ cs, c = '.'

/-- A port behind its colon. -/
def portText (port : UInt16) : List Char := ':' :: Nat.toDigits 10 port.toNat

/-- The text ends like a name with a port. -/
def EndsInPort (cs : List Char) : Prop :=
  ∃ before digits, cs = before ++ ':' :: digits ∧ digits ≠ [] ∧ digits.all isAsciiDigit

theorem isAsciiDigit_of_isDigit {c : Char} (h : AddrReader.isDigit 10 c = true) :
    isAsciiDigit c = true := by
  unfold AddrReader.isDigit AddrReader.digitValue at h
  have hrange : 48 ≤ c.toNat ∧ c.toNat ≤ 57 := by
    by_contra hno
    simp only [hno, if_false] at h
    split_ifs at h <;> simp_all <;> omega
  simpa [isAsciiDigit, Char.le_def, UInt32.le_iff_toNat_le] using hrange

theorem toDigits_all_isAsciiDigit (n : ℕ) : (Nat.toDigits 10 n).all isAsciiDigit := by
  apply List.all_eq_true.mpr
  intro c hc
  exact isAsciiDigit_of_isDigit
    (AddrReader.isDigit_of_mem_toDigits (by decide) (by decide) n c hc)

theorem colon_not_mem_of_all {digits : List Char} (h : digits.all isAsciiDigit) :
    ':' ∉ digits := by
  intro hmem
  have hdigit := List.all_eq_true.mp h ':' hmem
  revert hdigit
  decide

theorem endsInPort_append (stem : List Char) (port : UInt16) :
    EndsInPort (stem ++ portText port) :=
  ⟨stem, _, rfl, Nat.toDigits_ne_nil, toDigits_all_isAsciiDigit _⟩

/-- What the matcher compares after its leading dots are gone. -/
def HostMatches (host pattern : List Char) : Prop := Covers (pattern.dropWhile (· == '.')) host

/-- The test of a name against the host. -/
theorem hostTest_iff (host pattern : List Char) :
    (eqIgnoreAsciiCase host (pattern.dropWhile (· == '.')) ||
      ('.' :: toAsciiLowercase (pattern.dropWhile (· == '.'))).isSuffixOf
        (toAsciiLowercase host)) = true ↔ HostMatches host pattern := by
  simp [HostMatches, Covers, eqIgnoreAsciiCase]

/-- A numeric part after the last colon is what the matcher takes for a port. -/
theorem rsplitOnce_colon_cases (pattern : List Char) :
    (rsplitOnce ':' pattern = none ∧ ¬ EndsInPort pattern) ∨
    ∃ before after, rsplitOnce ':' pattern = some (before, after) ∧
      (EndsInPort pattern ↔ after ≠ [] ∧ after.all isAsciiDigit = true) := by
  by_cases hcolon : ':' ∈ pattern
  · obtain ⟨before, after, rfl, hafter⟩ := exists_last_occurrence hcolon
    refine Or.inr ⟨before, after, rsplitOnce_append before hafter, ?_, ?_⟩
    · rintro ⟨before', digits, heq, hne, hall⟩
      have hcut := rsplitOnce_append before' (colon_not_mem_of_all hall)
      rw [← heq, rsplitOnce_append before hafter] at hcut
      cases hcut
      exact ⟨hne, hall⟩
    · rintro ⟨hne, hall⟩
      exact ⟨before, after, rfl, hne, hall⟩
  · refine Or.inl ⟨rsplitOnce_of_not_mem hcolon, ?_⟩
    rintro ⟨before, digits, rfl, -⟩
    exact hcolon (by simp)

/-- The matcher takes the wildcard, a name with the port of the target, and a name that
does not look like one with a port. -/
theorem noProxyEntryMatches_iff (entry : List Char) (host : String) (port : UInt16) :
    noProxyEntryMatches entry host port = true ↔
      trim entry = ['*'] ∨ (∃ stem, trim entry = stem ++ portText port ∧
        HostMatches host.toList stem) ∨
      trim entry ≠ [] ∧ ¬ EndsInPort (trim entry) ∧ HostMatches host.toList (trim entry) := by
  unfold noProxyEntryMatches
  generalize trim entry = pattern
  dsimp only
  rw [← portText]
  by_cases hempty : pattern = []
  · subst hempty
    simp [portText]
  by_cases hstar : pattern = ['*']
  · simp [hstar]
  rw [if_neg hempty, if_neg hstar]
  by_cases hsuffix : portText port <:+ pattern
  · obtain ⟨stem, rfl⟩ := hsuffix
    have hport := endsInPort_append stem port
    rw [if_pos (by simp)]
    simp only [hstar, hport, not_true_eq_false, false_and, and_false, or_false, false_or,
      List.append_cancel_right_eq]
    have hstem : (stem ++ portText port).take
        ((stem ++ portText port).length - (portText port).length) = stem := by simp
    rw [hstem]
    refine (hostTest_iff host.toList stem).trans ⟨fun h => ⟨stem, rfl, h⟩, ?_⟩
    rintro ⟨_, rfl, h⟩
    exact h
  · rw [if_neg (by simpa using hsuffix)]
    have hno : ¬ ∃ stem, pattern = stem ++ portText port ∧ HostMatches host.toList stem := by
      rintro ⟨stem, rfl, -⟩
      exact hsuffix (List.suffix_append _ _)
    simp only [hstar, hno, false_or, ne_eq, hempty, not_false_eq_true, true_and]
    have hhost := hostTest_iff host.toList pattern
    rcases rsplitOnce_colon_cases pattern with ⟨hcut, hport⟩ | ⟨before, after, hcut, hport⟩
    · simp only [hcut, hport, not_false_eq_true, true_and]
      exact hhost
    · simp only [hcut, hport]
      split_ifs with hnumeric
      · simp [hnumeric]
      · simp only [hnumeric, not_false_eq_true, true_and]
        exact hhost

theorem dot_suffix_lowercase (host : List Char) :
    ['.'] <:+ toAsciiLowercase host ↔ ['.'] <:+ host := by
  constructor
  · rintro ⟨before, h⟩
    rcases List.eq_nil_or_concat host with rfl | ⟨init, last, rfl⟩
    · simp [toAsciiLowercase] at h
    · rw [List.concat_eq_append, toAsciiLowercase_append] at h
      have hlast : toAsciiLower last = '.' := by
        simpa [toAsciiLowercase] using (List.append_inj' h rfl).2.symm
      rw [(toAsciiLower_eq_iff (by decide) (by decide)).mp hlast, List.concat_eq_append]
      exact List.suffix_append init ['.']
  · rintro ⟨before, rfl⟩
    rw [toAsciiLowercase_append]
    exact List.suffix_append _ _

/-- Leading dots of a name ask for more of the host. -/
theorem Covers.of_dots {dots name host : List Char} (hdots : Dots dots)
    (h : Covers (dots ++ name) host) : Covers name host := by
  induction dots with
  | nil => exact h
  | cons d dots ih =>
    obtain rfl : d = '.' := hdots d (by simp)
    apply ih (fun c hc => hdots c (by simp [hc]))
    have hlower : toAsciiLowercase ('.' :: dots ++ name) = '.' :: toAsciiLowercase (dots ++ name) :=
      rfl
    rcases h with h | h
    · rw [hlower] at h
      exact Or.inr (h ▸ List.suffix_rfl)
    · rw [hlower] at h
      exact Or.inr ((List.suffix_cons _ _).trans h)

theorem dots_takeWhile (pattern : List Char) : Dots (pattern.takeWhile (· == '.')) := by
  intro c hc
  simpa using List.mem_takeWhile_imp hc

theorem Dots.dropWhile_append {dots : List Char} (h : Dots dots) (name : List Char) :
    (dots ++ name).dropWhile (· == '.') = name.dropWhile (· == '.') := by
  apply List.dropWhile_append_of_pos
  intro c hc
  simp [h c hc]

/-- What is left without leading dots covers a host as a name does, or it is nothing and
the host ends in a dot. -/
theorem hostMatches_iff {host : List Char} (hhost : host ≠ []) (pattern : List Char) :
    HostMatches host pattern ↔
      (∃ dots name, pattern = dots ++ name ∧ Dots dots ∧ name ≠ [] ∧ Covers name host) ∨
      (Dots pattern ∧ ['.'] <:+ host) := by
  have hnothing : Covers [] host ↔ ['.'] <:+ host := by
    rw [← dot_suffix_lowercase]
    simp [Covers, toAsciiLowercase, hhost]
  have hsplit := List.takeWhile_append_dropWhile (p := (· == '.')) (l := pattern)
  constructor
  · intro h
    by_cases hname : pattern.dropWhile (· == '.') = []
    · refine Or.inr ⟨?_, hnothing.mp (hname ▸ h)⟩
      rw [hname, List.append_nil] at hsplit
      exact hsplit ▸ dots_takeWhile pattern
    · exact Or.inl ⟨_, _, hsplit.symm, dots_takeWhile pattern, hname, h⟩
  · rintro (⟨dots, name, rfl, hdots, -, hcovers⟩ | ⟨hdots, hend⟩)
    · unfold HostMatches
      rw [hdots.dropWhile_append]
      apply Covers.of_dots (dots_takeWhile name)
      rwa [List.takeWhile_append_dropWhile]
    · have hdrop := hdots.dropWhile_append []
      rw [List.append_nil] at hdrop
      unfold HostMatches
      rw [hdrop]
      exact hnothing.mpr hend

/-- A name of a host without colons does not look like a name with a port. -/
theorem HostMatches.not_endsInPort {host pattern : List Char} (hcolon : ':' ∉ host)
    (h : HostMatches host pattern) : ¬ EndsInPort pattern := by
  rintro ⟨before, digits, rfl, -⟩
  have hmem : ':' ∈ (before ++ ':' :: digits).dropWhile (· == '.') := by
    rw [List.dropWhile_append]
    split_ifs
    · simp
    · simp
  have hlower := (mem_toAsciiLowercase (c := ':') (by decide) (by decide)).mpr hmem
  apply hcolon
  apply (mem_toAsciiLowercase (c := ':') (by decide) (by decide)).mp
  rcases h with h | h
  · rw [h]
    exact hlower
  · exact h.subset (List.mem_cons_of_mem _ hlower)

end HopWhy
