import HopWhy.Library.AddrText
import HopWhy.Library.Url

/-!
# Addresses and server names as text

`FromStr` of an address, and the texts that are TLS server names: DNS names and
addresses without brackets. The text of an IPv4 host is both an address and a
server name; that of an IPv6 host, which stands in brackets, is neither.
-/

namespace IpAddr

open AddrReader

def readAddr (cs : List Char) : Option (IpAddr × List Char) :=
  ((readIpv4 cs).map fun (a, rest) => (.v4 a, rest)).or
    ((readIpv6 cs).map fun (a, rest) => (.v6 a, rest))

/-- `FromStr` of an address: the whole text is read. -/
def parse (s : String) : Option IpAddr :=
  match readAddr s.toList with
  | some (a, []) => some a
  | _ => none

def isV4 : IpAddr → Bool
  | v4 _ => true
  | v6 _ => false

theorem parse_text (a : Ipv4Addr) : parse (String.ofList a.text) = some (.v4 a) := by
  have hread : readIpv4 (a.text ++ []) = some (a, []) := readIpv4_text a (stops_nil 10)
  rw [List.append_nil] at hread
  rw [parse, String.toList_ofList, readAddr, hread]
  rfl

/-- No address begins with a bracket. -/
theorem parse_bracket (cs : List Char) : parse (String.ofList ('[' :: cs)) = none := by
  have hv4 : readIpv4 ('[' :: cs) = none := by
    have hoctet : readOctet ('[' :: cs) = none := readNumber_of_stops (stops_cons (by decide) _)
    simp only [readIpv4, bind, Option.bind, hoctet]
  have hgroup : readGroup ('[' :: cs) = none := readNumber_of_stops (stops_cons (by decide) _)
  have hv6 : readIpv6 ('[' :: cs) = none := by
    have hgroups : readGroups 8 true ('[' :: cs) = ([], false, '[' :: cs) := by
      simp [readGroups, separated, hv4, hgroup]
    simp [readIpv6, hgroups, readChar]
  rw [parse, String.toList_ofList, readAddr, hv4, hv6]
  rfl

end IpAddr

namespace ServerName

def isDnsChar (c : Char) : Bool :=
  ('a' ≤ c && c ≤ 'z') || ('A' ≤ c && c ≤ 'Z') || ('0' ≤ c && c ≤ '9') || c == '-' || c == '_'

/-- Up to 63 letters, digits, underscores and inner hyphens. -/
def isDnsLabel (label : List Char) : Bool :=
  1 ≤ label.length && label.length ≤ 63 && label.head? != some '-' && label.getLast? != some '-'

/-- Labels with dots between them and perhaps one at the end; the last is no number. -/
def isDnsName (text : String) : Bool :=
  let cs := text.toList
  let labels := (if cs.getLast? = some '.' then cs.dropLast else cs).splitOn '.'
  cs.length ≤ 253 && cs.all (fun c => isDnsChar c || c == '.') && labels.all isDnsLabel &&
    !(labels.getLast?.all fun label => label.all Char.isDigit)

/-- The texts of which `ServerName::try_from` makes a name. -/
def accepts (text : String) : Bool := isDnsName text || (IpAddr.parse text).isSome

theorem accepts_ipv4 (a : Ipv4Addr) : accepts (String.ofList a.text) = true := by
  rw [accepts, IpAddr.parse_text, Option.isSome_some, Bool.or_true]

theorem not_accepts_bracket (cs : List Char) : accepts (String.ofList ('[' :: cs)) = false := by
  rw [accepts, IpAddr.parse_bracket]
  simp [isDnsName, isDnsChar]

/-- The text of a literal host is a server name exactly for an IPv4 address. -/
theorem accepts_literal {host : UrlHost} {ip : IpAddr} (h : host.literal = some ip) :
    accepts host.text = ip.isV4 := by
  rcases host with name | a | a
  · cases h
  · cases h
    exact accepts_ipv4 a
  · cases h
    exact not_accepts_bracket _

/-- The text of a literal host reads back exactly for an IPv4 address. -/
theorem parse_literal {host : UrlHost} {ip : IpAddr} (h : host.literal = some ip) :
    IpAddr.parse host.text = if ip.isV4 then some ip else none := by
  rcases host with name | a | a
  · cases h
  · cases h
    exact IpAddr.parse_text a
  · cases h
    exact IpAddr.parse_bracket _

end ServerName
