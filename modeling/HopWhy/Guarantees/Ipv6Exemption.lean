import HopWhy.Guarantees.NoProxyGrammar
import HopWhy.Library.Url

/-!
# IPv6 hosts in `NO_PROXY`

The host of an IPv6 target stands in brackets, and the matcher follows the
grammar on it. An address that is listed without brackets is never that host.
-/

namespace HopWhy

open Text

/-- The text of an IPv6 host. -/
def bracketed (a : Ipv6Addr) : List Char := '[' :: a.hexText ++ [']']

theorem toList_text_ipv6 (a : Ipv6Addr) : (UrlHost.ipv6 a).text.toList = bracketed a := by
  simp [UrlHost.text, bracketed]

/-- The list has this entry. -/
def Lists (noProxy : String) (text : List Char) : Prop :=
  ∃ entry ∈ noProxy.toList.splitOn ',', trim entry = text

/-- The list has this entry and no other. -/
def ListsOnly (noProxy : String) (text : List Char) : Prop :=
  ∃ entry, noProxy.toList.splitOn ',' = [entry] ∧ trim entry = text

/-- What a list should do for the targets of an address. -/
structure ServesIpv6 (a : Ipv6Addr) (port : UInt16) (noProxy : String) : Prop where
  bypasses : Lists noProxy a.hexText ∨ Lists noProxy (bracketed a) ∨
      Lists noProxy (bracketed a ++ portText port) →
    noProxyMatches noProxy (UrlHost.ipv6 a).text port = true
  keepsOtherPorts : ∀ other, other ≠ port → ListsOnly noProxy (bracketed a ++ portText other) →
    noProxyMatches noProxy (UrlHost.ipv6 a).text port = false

theorem not_mem_hexText {c : Char} (hcolon : c ≠ ':') (hdigit : AddrReader.isDigit 16 c = false)
    (a : Ipv6Addr) : c ∉ a.hexText := by
  intro h
  rcases AddrReader.mem_hexText h with h | h
  · exact hcolon h
  · rw [hdigit] at h
    cases h

theorem dot_not_mem_bracketed (a : Ipv6Addr) : '.' ∉ bracketed a := by
  simp [bracketed, not_mem_hexText (c := '.') (by decide) (by decide)]

/-- Without dots in the host only the whole host is a name of it. -/
theorem Covers.lowercase_eq {name : List Char} {a : Ipv6Addr} (h : Covers name (bracketed a)) :
    toAsciiLowercase (bracketed a) = toAsciiLowercase name := by
  rcases h with h | h
  · exact h
  · have hdot : '.' ∈ toAsciiLowercase (bracketed a) := h.subset (by simp)
    rw [mem_toAsciiLowercase (by decide) (by decide)] at hdot
    exact absurd hdot (dot_not_mem_bracketed a)

theorem not_dot_suffix_bracketed (a : Ipv6Addr) : ¬ ['.'] <:+ bracketed a := fun h =>
  dot_not_mem_bracketed a (h.subset (by simp))

theorem EndsInPort.getLast? {cs : List Char} (h : EndsInPort cs) :
    ∃ d, cs.getLast? = some d ∧ isAsciiDigit d = true := by
  obtain ⟨before, digits, rfl, hne, hall⟩ := h
  refine ⟨digits.getLast hne, ?_, List.all_eq_true.mp hall _ (List.getLast_mem hne)⟩
  simp [List.getLast?_append, List.getLast?_cons, List.getLast?_eq_some_getLast hne]

/-- A name of a bracketed host ends in a bracket and not in a port. -/
theorem Covers.not_endsInPort {name : List Char} {a : Ipv6Addr} (h : Covers name (bracketed a))
    (dots : List Char) : ¬ EndsInPort (dots ++ name) := by
  intro hport
  have hlast := congrArg List.getLast? h.lowercase_eq
  rw [toAsciiLowercase, toAsciiLowercase, List.getLast?_map, List.getLast?_map] at hlast
  have hbracket : (bracketed a).getLast? = some ']' := by simp [bracketed, List.getLast?_cons]
  obtain ⟨c, hc, hlower⟩ : ∃ c, name.getLast? = some c ∧ toAsciiLower c = ']' := by
    rcases hname : name.getLast? with _ | c
    · simp [hname, hbracket] at hlast
    · refine ⟨c, rfl, ?_⟩
      simpa [hname, hbracket, toAsciiLower] using hlast.symm
  rw [toAsciiLower_eq_iff (by decide) (by decide)] at hlower
  obtain ⟨d, hd, hdigit⟩ := hport.getLast?
  rw [List.getLast?_append, hc, Option.some_or, hlower] at hd
  cases hd
  revert hdigit
  decide

/-- On a bracketed host the matcher is its grammar. -/
theorem noProxyEntryMatches_bracketed (a : Ipv6Addr) (entry : List Char) (port : UInt16) :
    noProxyEntryMatches entry (UrlHost.ipv6 a).text port = true ↔
      Exempting (bracketed a) port (trim entry) := by
  rw [noProxyEntryMatches_iff, toList_text_ipv6]
  generalize trim entry = pattern
  have hmatches : ∀ text, HostMatches (bracketed a) text ↔ ∃ dots name, text = dots ++ name ∧
      Dots dots ∧ name ≠ [] ∧ Covers name (bracketed a) := by
    intro text
    rw [hostMatches_iff (by simp [bracketed])]
    simp [not_dot_suffix_bracketed]
  constructor
  · rintro (rfl | ⟨stem, rfl, h⟩ | ⟨-, -, h⟩)
    · exact .wildcard
    · obtain ⟨dots, name, rfl, hdots, hname, hcovers⟩ := (hmatches stem).mp h
      exact .namedWithPort hdots hname hcovers
    · obtain ⟨dots, name, rfl, hdots, hname, hcovers⟩ := (hmatches pattern).mp h
      exact .named hdots hname hcovers
  · intro h
    cases h with
    | wildcard => exact Or.inl rfl
    | @named dots name leading nonempty covers =>
      exact Or.inr (Or.inr ⟨by simp [nonempty], covers.not_endsInPort dots,
        (hmatches _).mpr ⟨dots, name, rfl, leading, nonempty, covers⟩⟩)
    | @namedWithPort dots name leading nonempty covers =>
      exact Or.inr (Or.inl ⟨dots ++ name, rfl,
        (hmatches _).mpr ⟨dots, name, rfl, leading, nonempty, covers⟩⟩)

theorem noProxyMatches_bracketed (a : Ipv6Addr) (noProxy : String) (port : UInt16) :
    noProxyMatches noProxy (UrlHost.ipv6 a).text port = true ↔
      Exempts noProxy (UrlHost.ipv6 a).text port := by
  simp only [noProxyMatches, List.any_eq_true, noProxyEntryMatches_bracketed, Exempts,
    toList_text_ipv6]

theorem dots_nil : Dots [] := fun c h => by cases h

theorem exempting_bracketed (a : Ipv6Addr) (port : UInt16) :
    Exempting (bracketed a) port (bracketed a) := by
  have hexempts : Exempting (bracketed a) port ([] ++ bracketed a) :=
    .named dots_nil (by simp [bracketed]) (Or.inl rfl)
  exact hexempts

theorem exempting_bracketed_port (a : Ipv6Addr) (port : UInt16) :
    Exempting (bracketed a) port (bracketed a ++ portText port) := by
  have hexempts : Exempting (bracketed a) port ([] ++ bracketed a ++ portText port) :=
    .namedWithPort dots_nil (by simp [bracketed]) (Or.inl rfl)
  exact hexempts

/-- A name of a bracketed host has its bracket. -/
theorem Covers.bracket_mem {name : List Char} {a : Ipv6Addr} (h : Covers name (bracketed a)) :
    '[' ∈ name := by
  apply (mem_toAsciiLowercase (by decide) (by decide)).mp
  rw [← h.lowercase_eq]
  exact (mem_toAsciiLowercase (by decide) (by decide)).mpr (by simp [bracketed])

/-- An address without brackets exempts no host of its own. -/
theorem not_exempting_hexText (a : Ipv6Addr) (port : UInt16) :
    ¬ Exempting (bracketed a) port a.hexText := by
  have hbracket := not_mem_hexText (c := '[') (by decide) (by decide) a
  have hstar := not_mem_hexText (c := '*') (by decide) (by decide) a
  intro h
  generalize htext : a.hexText = text at h hbracket hstar
  cases h with
  | wildcard => simp at hstar
  | named leading nonempty covers => simp [covers.bracket_mem] at hbracket
  | namedWithPort leading nonempty covers => simp [covers.bracket_mem] at hbracket

/-- A port behind the brackets has to be that of the target. -/
theorem not_exempting_other_port {a : Ipv6Addr} {port other : UInt16} (hne : other ≠ port) :
    ¬ Exempting (bracketed a) port (bracketed a ++ portText other) := by
  intro h
  generalize htext : bracketed a ++ portText other = text at h
  have hport := endsInPort_append (bracketed a) other
  cases h with
  | wildcard => simp [bracketed] at htext
  | @named dots name leading nonempty covers =>
    rw [htext] at hport
    exact covers.not_endsInPort dots hport
  | @namedWithPort dots name leading nonempty covers =>
    have hcut := congrArg (rsplitOnce ':') htext
    unfold portText at hcut
    rw [rsplitOnce_append _ (colon_not_mem_of_all (toDigits_all_isAsciiDigit _)),
      rsplitOnce_append _ (colon_not_mem_of_all (toDigits_all_isAsciiDigit _))] at hcut
    have hdigits := congrArg Prod.snd (Option.some.inj hcut)
    exact hne (UInt16.toNat_inj.mp
      (AddrReader.toDigits_injective (by decide) (by decide) hdigits))

theorem Exempts.of_lists {noProxy : String} {a : Ipv6Addr} {port : UInt16} {text : List Char}
    (hlists : Lists noProxy text) (h : Exempting (bracketed a) port text) :
    Exempts noProxy (UrlHost.ipv6 a).text port := by
  obtain ⟨entry, hmem, rfl⟩ := hlists
  rw [← toList_text_ipv6] at h
  exact ⟨entry, hmem, h⟩

theorem ListsOnly.lists {noProxy : String} {text : List Char} (h : ListsOnly noProxy text) :
    Lists noProxy text := by
  obtain ⟨entry, honly, htext⟩ := h
  exact ⟨entry, by simp [honly], htext⟩

/-- A list without another entry is no better than the one it has. -/
theorem noProxyMatches_of_listsOnly {noProxy : String} {a : Ipv6Addr} {port : UInt16}
    {text : List Char} (honly : ListsOnly noProxy text)
    (h : ¬ Exempting (bracketed a) port text) :
    noProxyMatches noProxy (UrlHost.ipv6 a).text port = false := by
  obtain ⟨entry, honly, htext⟩ := honly
  apply Bool.eq_false_iff.mpr
  intro hmatch
  obtain ⟨e, hmem, hexempting⟩ := (noProxyMatches_bracketed a noProxy port).mp hmatch
  rw [honly, List.mem_singleton] at hmem
  rw [hmem, htext, toList_text_ipv6] at hexempting
  exact h hexempting

/-- A list serves the targets of an IPv6 address unless it has the address without brackets
and nothing that exempts its host. -/
theorem servesIpv6_iff (a : Ipv6Addr) (port : UInt16) (noProxy : String) :
    ServesIpv6 a port noProxy ↔
      (Lists noProxy a.hexText → Exempts noProxy (UrlHost.ipv6 a).text port) := by
  constructor
  · intro h hlists
    exact (noProxyMatches_bracketed a noProxy port).mp (h.bypasses (Or.inl hlists))
  · intro h
    constructor
    · intro hlists
      apply (noProxyMatches_bracketed a noProxy port).mpr
      rcases hlists with hlists | hlists | hlists
      · exact h hlists
      · exact Exempts.of_lists hlists (exempting_bracketed a port)
      · exact Exempts.of_lists hlists (exempting_bracketed_port a port)
    · intro other hne honly
      exact noProxyMatches_of_listsOnly honly (not_exempting_other_port hne)

/-- The loopback address without brackets does not exempt itself. -/
theorem noProxyMatches_bare_loopback : ¬ ServesIpv6 ⟨1⟩ 80 "::1" := by
  intro h
  have honly : ListsOnly "::1" (Ipv6Addr.hexText ⟨1⟩) :=
    ⟨"::1".toList, by decide, by decide +kernel⟩
  have hmatch := h.bypasses (Or.inl honly.lists)
  rw [noProxyMatches_of_listsOnly honly (not_exempting_hexText ⟨1⟩ 80)] at hmatch
  cases hmatch

end HopWhy
