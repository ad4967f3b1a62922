import HopWhy.Library.IpAddr

/-!
# URL records

The components of a parsed URL, its serialization, the setters, and the
`application/x-www-form-urlencoded` form of a query. Parsing text into a record
and resolving references is not described here.
-/

inductive UrlHost where
  | domain (name : String)
  | ipv4 (a : Ipv4Addr)
  | ipv6 (a : Ipv6Addr)
deriving DecidableEq, Repr

structure Url where
  scheme : String
  username : String
  password : Option String
  host : Option UrlHost
  port : Option UInt16
  path : String
  query : Option String
  fragment : Option String
deriving DecidableEq, Repr

/-- The host serializer: an IPv6 address stands in brackets. -/
def UrlHost.text : UrlHost → String
  | .domain name => name
  | .ipv4 a => String.ofList a.text
  | .ipv6 a => String.ofList ('[' :: a.hexText ++ [']'])

/-- The address that the host spells out. -/
def UrlHost.literal : UrlHost → Option IpAddr
  | .domain _ => none
  | .ipv4 a => some (.v4 a)
  | .ipv6 a => some (.v6 a)

namespace Url

/-- The host as text; an empty host counts as none. -/
def hostStr (u : Url) : Option String :=
  match u.host with
  | none => none
  | some h => if h = .domain "" then none else some h.text

def defaultPort (scheme : String) : Option UInt16 :=
  if scheme = "http" ∨ scheme = "ws" then some 80
  else if scheme = "https" ∨ scheme = "wss" then some 443
  else if scheme = "ftp" then some 21
  else none

def portOrKnownDefault (u : Url) : Option UInt16 := u.port.or (defaultPort u.scheme)

/-- Neither a host nor a path from the root: the path is opaque text. -/
def cannotBeABase (u : Url) : Bool := u.host.isNone && !(u.path.toList.head? == some '/')

def authorityText (u : Url) : String :=
  match u.host with
  | none => if u.path.toList.take 2 = ['/', '/'] then "/." else ""
  | some h =>
    let credentials :=
      if u.username = "" ∧ u.password = none then ""
      else u.username ++ (match u.password with | some p => ":" ++ p | none => "") ++ "@"
    "//" ++ credentials ++ h.text ++
      (match u.port with | some p => ":" ++ toString p.toNat | none => "")

/-- The URL serializer. -/
def asStr (u : Url) : String :=
  u.scheme ++ ":" ++ u.authorityText ++ u.path ++
    (match u.query with | some q => "?" ++ q | none => "") ++
    (match u.fragment with | some f => "#" ++ f | none => "")

def cannotHaveCredentials (u : Url) : Bool := u.hostStr.isNone || u.scheme == "file"

/-- A URL that cannot have credentials is left alone. -/
def setUsername (u : Url) (name : String) : Url :=
  if u.cannotHaveCredentials then u else { u with username := name }

def clearPassword (u : Url) : Url :=
  if u.cannotHaveCredentials then u else { u with password := none }

/-- Spaces at the end of an opaque path go when nothing follows it any more. -/
def stripOpaqueSpaces (u : Url) : Url :=
  if u.cannotBeABase ∧ u.query = none ∧ u.fragment = none then
    { u with path := String.ofList (u.path.toList.reverse.dropWhile (· == ' ')).reverse }
  else u

def clearFragment (u : Url) : Url := { u with fragment := none }.stripOpaqueSpaces

theorem clearFragment_of_host {u : Url} (h : u.host.isSome) :
    u.clearFragment = { u with fragment := none } := by
  obtain ⟨host, hhost⟩ := Option.isSome_iff_exists.mp h
  have hbase : ¬ ({ u with fragment := none } : Url).cannotBeABase := by
    simp [cannotBeABase, hhost]
  rw [clearFragment, stripOpaqueSpaces, if_neg fun hopaque => hbase hopaque.1]

@[simp] theorem host_clearFragment (u : Url) : u.clearFragment.host = u.host := by
  rw [clearFragment, stripOpaqueSpaces]
  split <;> rfl

theorem hostStr_of_literal {u : Url} {host : UrlHost} {ip : IpAddr} (hhost : u.host = some host)
    (h : host.literal = some ip) : u.hostStr = some host.text := by
  rw [hostStr, hhost]
  rcases host with name | a | a
  · cases h
  · rfl
  · rfl

theorem host_isSome_of_hostStr {u : Url} (h : u.hostStr.isSome) : u.host.isSome := by
  unfold hostStr at h
  rcases hhost : u.host with _ | host
  · rw [hhost] at h
    cases h
  · rfl

def clearQuery (u : Url) : Url := { u with query := none }.stripOpaqueSpaces

end Url

namespace FormUrlencoded

def hexDigitValue (b : UInt8) : Option ℕ :=
  let n := b.toNat
  if 48 ≤ n ∧ n ≤ 57 then some (n - 48)
  else if 97 ≤ n ∧ n ≤ 102 then some (n - 87)
  else if 65 ≤ n ∧ n ≤ 70 then some (n - 55)
  else none

def percentDecode : List UInt8 → List UInt8
  | [] => []
  | [a] => [a]
  | [a, b] => [a, b]
  | a :: b :: c :: rest =>
    if a = 37 then
      match hexDigitValue b, hexDigitValue c with
      | some h, some l => UInt8.ofNat (h * 16 + l) :: percentDecode rest
      | _, _ => a :: percentDecode (b :: c :: rest)
    else a :: percentDecode (b :: c :: rest)

/-- Plus signs stand for spaces; the octets decode lossily. -/
def decode (bs : List UInt8) : String :=
  Text.fromUtf8Lossy (percentDecode (bs.map fun b => if b = 43 then 32 else b))

/-- The name of a segment ends at its first equals sign. -/
def segmentName (segment : List UInt8) : List UInt8 := segment.takeWhile (· ≠ 61)

/-- The decoded names of the pairs of a query, empty segments dropped. -/
def keys (query : String) : List String :=
  (((Text.utf8 query).splitOn 38).filter (· ≠ [])).map fun segment => decode (segmentName segment)

def isUnreserved (b : UInt8) : Bool :=
  let n := b.toNat
  (48 ≤ n && n ≤ 57) || (65 ≤ n && n ≤ 90) || (97 ≤ n && n ≤ 122) ||
    n == 42 || n == 45 || n == 46 || n == 95

def upperHexDigit (n : ℕ) : Char := if n < 10 then Char.ofNat (48 + n) else Char.ofNat (55 + n)

def encodeByte (b : UInt8) : List Char :=
  if b = 32 then ['+']
  else if isUnreserved b then [Char.ofNat b.toNat]
  else ['%', upperHexDigit (b.toNat / 16), upperHexDigit (b.toNat % 16)]

def encode (s : String) : List Char := (Text.utf8 s).flatMap encodeByte

/-- Pairs joined by ampersands, every name with the same value. -/
def serialize (names : List String) (value : String) : String :=
  String.ofList (joinText ['&'] (names.map fun n => encode n ++ '=' :: encode value))

end FormUrlencoded
