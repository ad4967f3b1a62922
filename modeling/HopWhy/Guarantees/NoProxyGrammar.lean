import HopWhy.Policy.NoProxy

/-!
# The grammar of `NO_PROXY`

The list read as a grammar, beside what the matcher makes of it. They differ for
entries without a name only, and only on hosts that end in a dot.
-/

namespace HopWhy

open Text

/-- The entries that exempt a host: the wildcard, and any leading dots with a name of the
host behind them, without a port or with that of the target. -/
inductive Exempting (host : List Char) (port : UInt16) : List Char → Prop
  | wildcard : Exempting host port ['*']
  | named {dots name : List Char} (leading : Dots dots) (nonempty : name ≠ [])
      (covers : Covers name host) : Exempting host port (dots ++ name)
  | namedWithPort {dots name : List Char} (leading : Dots dots) (nonempty : name ≠ [])
      (covers : Covers name host) : Exempting host port (dots ++ name ++ portText port)

def Exempts (noProxy host : String) (port : UInt16) : Prop :=
  ∃ entry ∈ noProxy.toList.splitOn ',', Exempting host.toList port (trim entry)

/-- An entry without a name: dots alone, or dots and the port of the target. -/
inductive Nameless (port : UInt16) : List Char → Prop
  | dots {dots : List Char} (leading : Dots dots) (nonempty : dots ≠ []) : Nameless port dots
  | dotsWithPort {dots : List Char} (leading : Dots dots) : Nameless port (dots ++ portText port)

/-- The text of a host that is a domain name or an IPv4 literal. -/
structure PlainHost (host : String) : Prop where
  nonempty : host.toList ≠ []
  colonless : ':' ∉ host.toList

/-- On a plain host the matcher is its grammar, but for entries without a name. -/
theorem noProxyEntryMatches_iff_exempting {host : String} (hhost : PlainHost host)
    (entry : List Char) (port : UInt16) :
    noProxyEntryMatches entry host port = true ↔
      Exempting host.toList port (trim entry) ∨
        (Nameless port (trim entry) ∧ ['.'] <:+ host.toList) := by
  rw [noProxyEntryMatches_iff]
  generalize trim entry = pattern
  have hmatches := hostMatches_iff hhost.nonempty
  constructor
  · rintro (rfl | ⟨stem, rfl, h⟩ | ⟨hne, -, h⟩)
    · exact Or.inl .wildcard
    · rcases (hmatches stem).mp h with ⟨dots, name, rfl, hdots, hname, hcovers⟩ | ⟨hdots, hend⟩
      · exact Or.inl (.namedWithPort hdots hname hcovers)
      · exact Or.inr ⟨.dotsWithPort hdots, hend⟩
    · rcases (hmatches pattern).mp h with ⟨dots, name, rfl, hdots, hname, hcovers⟩ | ⟨hdots, hend⟩
      · exact Or.inl (.named hdots hname hcovers)
      · exact Or.inr ⟨.dots hdots hne, hend⟩
  · have hplain : ∀ {text}, text ≠ [] → HostMatches host.toList text →
        text ≠ [] ∧ ¬ EndsInPort text ∧ HostMatches host.toList text :=
      fun hne h => ⟨hne, h.not_endsInPort hhost.colonless, h⟩
    rintro (h | ⟨h, hend⟩)
    · cases h with
      | wildcard => exact Or.inl rfl
      | @named dots name leading nonempty covers =>
        refine Or.inr (Or.inr (hplain (by simp [nonempty]) ?_))
        exact (hmatches _).mpr (Or.inl ⟨dots, name, rfl, leading, nonempty, covers⟩)
      | @namedWithPort dots name leading nonempty covers =>
        refine Or.inr (Or.inl ⟨dots ++ name, rfl, ?_⟩)
        exact (hmatches _).mpr (Or.inl ⟨dots, name, rfl, leading, nonempty, covers⟩)
    · cases h with
      | dots leading nonempty =>
        exact Or.inr (Or.inr (hplain nonempty ((hmatches _).mpr (Or.inr ⟨leading, hend⟩))))
      | @dotsWithPort dots leading =>
        exact Or.inr (Or.inl ⟨dots, rfl, (hmatches _).mpr (Or.inr ⟨leading, hend⟩)⟩)

theorem noProxyMatches_iff_exempts {host : String} (hhost : PlainHost host) (noProxy : String)
    (port : UInt16) :
    noProxyMatches noProxy host port = true ↔
      Exempts noProxy host port ∨ (['.'] <:+ host.toList ∧
        ∃ entry ∈ noProxy.toList.splitOn ',', Nameless port (trim entry)) := by
  simp only [noProxyMatches, List.any_eq_true, noProxyEntryMatches_iff_exempting hhost, Exempts]
  constructor
  · rintro ⟨entry, hmem, h | ⟨hname, hend⟩⟩
    · exact Or.inl ⟨entry, hmem, h⟩
    · exact Or.inr ⟨hend, entry, hmem, hname⟩
  · rintro (⟨entry, hmem, h⟩ | ⟨hend, entry, hmem, hname⟩)
    · exact ⟨entry, hmem, Or.inl h⟩
    · exact ⟨entry, hmem, Or.inr ⟨hname, hend⟩⟩

/-- The matcher and the grammar agree unless an entry without a name meets a host that ends
in a dot and that no entry exempts. -/
theorem noProxyMatches_agrees_iff {host : String} (hhost : PlainHost host) (noProxy : String)
    (port : UInt16) :
    (noProxyMatches noProxy host port = true ↔ Exempts noProxy host port) ↔
      (['.'] <:+ host.toList → (∃ entry ∈ noProxy.toList.splitOn ',', Nameless port (trim entry)) →
        Exempts noProxy host port) := by
  rw [noProxyMatches_iff_exempts hhost, or_iff_left_iff_imp, and_imp]

theorem noProxyMatches_agrees_with_suffix_list :
    (noProxyMatches "localhost,.example.com:443" "www.example.com" 443 = true ↔
        Exempts "localhost,.example.com:443" "www.example.com" 443) ↔
      (['.'] <:+ "www.example.com".toList →
        (∃ entry ∈ "localhost,.example.com:443".toList.splitOn ',',
          Nameless 443 (trim entry)) →
        Exempts "localhost,.example.com:443" "www.example.com" 443) :=
  noProxyMatches_agrees_iff ⟨by decide, by decide⟩ _ _

theorem Exempting.covers_of_dot {host : List Char} {port : UInt16} (h : Exempting host port ['.']) :
    Covers ['.'] host := by
  generalize htext : ['.'] = text at h
  cases h with
  | wildcard => cases htext
  | @named dots name leading nonempty covers =>
    rcases dots with _ | ⟨d, dots⟩
    · exact covers
    · simp [nonempty] at htext
  | @namedWithPort dots name leading nonempty covers =>
    have hcolon : ':' ∈ dots ++ name ++ portText port := by simp [portText]
    rw [← htext] at hcolon
    cases List.mem_singleton.mp hcolon

/-- A lone dot exempts every host that ends in a dot. -/
theorem noProxyMatches_lone_dot :
    PlainHost "example.com." ∧ ¬ (noProxyMatches "." "example.com." 443 = true ↔
      Exempts "." "example.com." 443) := by
  refine ⟨⟨by decide, by decide⟩, fun h => ?_⟩
  obtain ⟨entry, hmem, hexempting⟩ := h.mp (by decide)
  have hentry : ∀ entry ∈ ".".toList.splitOn ',', trim entry = ['.'] := by decide
  rw [hentry entry hmem] at hexempting
  exact absurd hexempting.covers_of_dot (by decide)

end HopWhy
