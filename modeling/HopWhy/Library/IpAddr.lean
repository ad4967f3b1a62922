import Mathlib.Algebra.Group.Nat.Defs
import HopWhy.Library.Text

/-!
# Internet addresses and their text

Addresses as bit vectors, the text forms of the standard library and of the URL
serializer, and the standard library's socket-address reader: decimal octets
without leading zeros, hexadecimal groups with one optional `::`, an embedded
dotted tail, an optional scope and a port.
-/

structure Ipv4Addr where
  bits : BitVec 32
deriving DecidableEq, Repr

structure Ipv6Addr where
  bits : BitVec 128
deriving DecidableEq, Repr

inductive IpAddr where
  | v4 (a : Ipv4Addr)
  | v6 (a : Ipv6Addr)
deriving DecidableEq, Repr

inductive SocketAddr where
  | v4 (ip : Ipv4Addr) (port : UInt16)
  | v6 (ip : Ipv6Addr) (port : UInt16) (flowinfo scopeId : UInt32)
deriving DecidableEq, Repr

def joinText (sep : List Char) : List (List Char) → List Char
  | [] => []
  | [t] => t
  | t :: ts => t ++ sep ++ joinText sep ts

namespace Ipv4Addr

def ofOctets (a b c d : ℕ) : Ipv4Addr := ⟨BitVec.ofNat 32 (((a * 256 + b) * 256 + c) * 256 + d)⟩

def octet (a : Ipv4Addr) (i : ℕ) : ℕ := a.bits.toNat / 2 ^ (24 - 8 * i) % 256

def octets (a : Ipv4Addr) : List ℕ := [a.octet 0, a.octet 1, a.octet 2, a.octet 3]

def text (a : Ipv4Addr) : List Char := joinText ['.'] (a.octets.map (Nat.toDigits 10))

end Ipv4Addr

namespace Ipv6Addr

def ofSegments (segments : List ℕ) : Ipv6Addr :=
  ⟨BitVec.ofNat 128 (segments.foldl (fun n s => n * 65536 + s) 0)⟩

def segment (a : Ipv6Addr) (i : ℕ) : ℕ := a.bits.toNat / 2 ^ (112 - 16 * i) % 65536

def segments (a : Ipv6Addr) : List ℕ := (List.range 8).map a.segment

/-- The IPv4 address of `::ffff:0:0/96`. -/
def toIpv4Mapped (a : Ipv6Addr) : Option Ipv4Addr :=
  if a.bits.toNat / 2 ^ 32 = 0xffff then some ⟨BitVec.ofNat 32 (a.bits.toNat % 2 ^ 32)⟩ else none

/-- Start and length of the first longest run of zero groups. -/
def zeroRun (segments : List ℕ) : ℕ × ℕ :=
  ((List.range segments.length).map fun i =>
    (i, ((segments.drop i).takeWhile (· == 0)).length)).foldl
      (fun best run => if best.2 < run.2 then run else best) (0, 0)

def groupsText (segments : List ℕ) : List Char :=
  joinText [':'] (segments.map (Nat.toDigits 16))

/-- Hexadecimal groups with the first longest run of at least two zeros
compressed, as the URL host serializer writes them. -/
def hexText (a : Ipv6Addr) : List Char :=
  let (start, length) := zeroRun a.segments
  if length ≤ 1 then groupsText a.segments
  else groupsText (a.segments.take start) ++ [':', ':'] ++
    groupsText (a.segments.drop (start + length))

/-- The standard library's display form: a mapped address ends in dotted text. -/
def text (a : Ipv6Addr) : List Char :=
  match a.toIpv4Mapped with
  | some v4 => "::ffff:".toList ++ v4.text
  | none => a.hexText

end Ipv6Addr

namespace SocketAddr

def ip : SocketAddr → IpAddr
  | v4 a _ => .v4 a
  | v6 a _ _ _ => .v6 a

def port : SocketAddr → UInt16
  | v4 _ p => p
  | v6 _ p _ _ => p

def isIpv4 : SocketAddr → Bool
  | v4 _ _ => true
  | v6 _ _ _ _ => false

def text : SocketAddr → List Char
  | v4 a p => a.text ++ ':' :: Nat.toDigits 10 p.toNat
  | v6 a p _ scope =>
    let scopeText := if scope = 0 then [] else '%' :: Nat.toDigits 10 scope.toNat
    '[' :: a.text ++ scopeText ++ ']' :: ':' :: Nat.toDigits 10 p.toNat

/-- `Display` of a socket address. -/
def display (a : SocketAddr) : String := String.ofList a.text

end SocketAddr

namespace AddrReader

def digitValue (radix : ℕ) (c : Char) : Option ℕ :=
  let n := c.toNat
  let v := if 48 ≤ n ∧ n ≤ 57 then n - 48
    else if 97 ≤ n ∧ n ≤ 122 then n - 87
    else if 65 ≤ n ∧ n ≤ 90 then n - 55
    else 99
  if v < radix then some v else none

def isDigit (radix : ℕ) (c : Char) : Bool := (digitValue radix c).isSome

def digitsValue (radix : ℕ) (cs : List Char) : ℕ :=
  cs.foldl (fun n c => n * radix + (digitValue radix c).getD 0) 0

/-- A run of digits below `bound`: at most `maxDigits` of them, and no leading
zero unless `zeroPrefix`. -/
def readNumber (radix : ℕ) (maxDigits : Option ℕ) (zeroPrefix : Bool) (bound : ℕ)
    (cs : List Char) : Option (ℕ × List Char) :=
  let digits := cs.takeWhile (isDigit radix)
  let value := digitsValue radix digits
  if digits = [] ∨ (∃ m ∈ maxDigits, m < digits.length) ∨
      (zeroPrefix = false ∧ digits.head? = some '0' ∧ 1 < digits.length) ∨ bound ≤ value then none
  else some (value, cs.drop digits.length)

def readChar (c : Char) : List Char → Option (List Char)
  | [] => none
  | d :: cs => if d = c then some cs else none

def readOctet (cs : List Char) : Option (ℕ × List Char) := readNumber 10 (some 3) false 256 cs

def readIpv4 (cs : List Char) : Option (Ipv4Addr × List Char) := do
  let (a, cs) ← readOctet cs
  let cs ← readChar '.' cs
  let (b, cs) ← readOctet cs
  let cs ← readChar '.' cs
  let (c, cs) ← readOctet cs
  let cs ← readChar '.' cs
  let (d, cs) ← readOctet cs
  pure (.ofOctets a b c d, cs)

def readGroup (cs : List Char) : Option (ℕ × List Char) := readNumber 16 (some 4) true 65536 cs

/-- `read` after a colon, which the first of a row of groups does without. -/
def separated {α : Type} (first : Bool) (read : List Char → Option (α × List Char))
    (cs : List Char) : Option (α × List Char) :=
  if first then read cs else (readChar ':' cs).bind read

/-- Up to `slots` groups, the last two of which may be a dotted address; also
whether they were, and the text left. -/
def readGroups : ℕ → Bool → List Char → List ℕ × Bool × List Char
  | 0, _, cs => ([], false, cs)
  | slots + 1, first, cs =>
    match (if 1 ≤ slots then separated first readIpv4 cs else none) with
    | some (a, rest) => ([a.bits.toNat / 65536, a.bits.toNat % 65536], true, rest)
    | none =>
      match separated first readGroup cs with
      | some (g, rest) =>
        let (gs, dotted, out) := readGroups slots false rest
        (g :: gs, dotted, out)
      | none => ([], false, cs)

def readIpv6 (cs : List Char) : Option (Ipv6Addr × List Char) :=
  let (head, dotted, rest) := readGroups 8 true cs
  if head.length = 8 then some (.ofSegments head, rest)
  else if dotted then none
  else do
    let rest ← readChar ':' rest
    let rest ← readChar ':' rest
    let (tail, _, rest) := readGroups (7 - head.length) true rest
    pure (.ofSegments (head ++ List.replicate (8 - head.length - tail.length) 0 ++ tail), rest)

def readPort (cs : List Char) : Option (UInt16 × List Char) := do
  let cs ← readChar ':' cs
  let (n, cs) ← readNumber 10 none true 65536 cs
  pure (UInt16.ofNat n, cs)

def readScope (cs : List Char) : Option (UInt32 × List Char) := do
  let cs ← readChar '%' cs
  let (n, cs) ← readNumber 10 none true (2 ^ 32) cs
  pure (UInt32.ofNat n, cs)

def readSocketV4 (cs : List Char) : Option (SocketAddr × List Char) := do
  let (ip, cs) ← readIpv4 cs
  let (port, cs) ← readPort cs
  pure (.v4 ip port, cs)

def readSocketV6 (cs : List Char) : Option (SocketAddr × List Char) := do
  let cs ← readChar '[' cs
  let (ip, cs) ← readIpv6 cs
  let (scope, cs) := (readScope cs).getD (0, cs)
  let cs ← readChar ']' cs
  let (port, cs) ← readPort cs
  pure (.v6 ip port 0 scope, cs)

end AddrReader

/-- `FromStr` of a socket address: the whole text is read. -/
def SocketAddr.parse (s : String) : Option SocketAddr :=
  match (AddrReader.readSocketV4 s.toList).or (AddrReader.readSocketV6 s.toList) with
  | some (a, []) => some a
  | _ => none
