import HopWhy.Library.Sha256
import HopWhy.Library.Text
import HopWhy.Library.Url
import HopWhy.Model.Error
import HopWhy.Model.Report

/-!
# The libraries behind the tool

What the tool takes from its dependencies, as pure functions: the URL parser and
its reference resolution, the server-name check of the TLS library, SHA-256, the
syntax layer of the JSON reader, and the text of a double.
-/

namespace HopWhy

class Crates where
  /-- `Url::parse`; the error is its display text. -/
  urlParse : String → Except String Url
  /-- `Url::join`. -/
  urlJoin : Url → String → Except String Url
  /-- `ServerName::try_from` accepts the text. -/
  serverName : String → Bool
  /-- `Sha256::digest`. -/
  sha256 : List UInt8 → Sha256.Digest
  /-- The tree of a JSON document; the error is the reader's display text. -/
  jsonTree : List UInt8 → Except String Json
  /-- What the derived reader says about a tree that is no report. -/
  reportMismatch : Json → String
  /-- The shortest text of a double. -/
  doubleText : F64 → String

/-- `hex::encode_lower`. -/
def encodeLower (bytes : List UInt8) : String := String.ofList (Text.lowerHex bytes)

section

variable [Crates]

def sha256Hex (bytes : List UInt8) : String := encodeLower (Crates.sha256 bytes).val

def sha256Text (value : String) : String := sha256Hex (Text.utf8 value)

/-- Equal hex digests are equal digests. -/
theorem sha256_of_sha256Hex {a b : List UInt8} (h : sha256Hex a = sha256Hex b) :
    Crates.sha256 a = Crates.sha256 b :=
  Subtype.ext (Text.lowerHex_injective (String.ofList_inj.mp h))

end

/-- How the confidences of a report print. -/
def printedConfidences : List (F64 × String) :=
  [(confidence100, "1.0"), (confidence95, "0.95"), (confidence90, "0.9"), (confidence80, "0.8")]

/-- Recorded answers of the crates, for runs on known texts. -/
structure Recordings where
  urls : List (String × Url) := []
  joins : List ((Url × String) × Url) := []
  serverNames : List String := []
  documents : List (List UInt8 × Json) := []
  doubles : List (F64 × String) := printedConfidences

@[reducible] def Recordings.crates (r : Recordings) : Crates where
  urlParse s := (r.urls.lookup s).elim (.error "relative URL without a base") .ok
  urlJoin base s := (r.joins.lookup (base, s)).elim (.error "relative URL without a base") .ok
  serverName s := r.serverNames.contains s
  sha256 := Sha256.digest
  jsonTree bytes := (r.documents.lookup bytes).elim (.error "expected value at line 1 column 1") .ok
  reportMismatch _ := "invalid type: expected struct Report"
  doubleText x := (r.doubles.lookup x).getD "0.0"

/-- What holds of every recorded text of a double. -/
theorem Recordings.doubleText_of {r : Recordings} {P : String → Prop} (hzero : P "0.0")
    (hdoubles : ∀ entry ∈ r.doubles, P entry.2) (x : F64) : P (r.crates.doubleText x) := by
  change P ((r.doubles.lookup x).getD "0.0")
  rcases hlookup : r.doubles.lookup x with _ | text
  · exact hzero
  · obtain ⟨before, after, hsplit, -⟩ := List.lookup_eq_some_iff.mp hlookup
    exact hdoubles (x, text) (by simp [hsplit])

/-- A reader of two documents. -/
theorem jsonTree_pair (r : Recordings) {a b : List UInt8} (ta tb : Json) (h : b ≠ a) :
    letI := Recordings.crates { r with documents := [(a, ta), (b, tb)] }
    Crates.jsonTree a = .ok ta ∧ Crates.jsonTree b = .ok tb := by
  constructor
  · change (List.lookup a [_, _]).elim _ _ = _
    rw [List.lookup_cons, beq_self_eq_true]
    rfl
  · change (List.lookup b [_, _]).elim _ _ = _
    rw [List.lookup_cons, beq_false_of_ne h, List.lookup_cons, beq_self_eq_true]
    rfl

def exampleUrl (path : String) : Url where
  scheme := "http"
  username := ""
  password := none
  host := some (.domain "example.com")
  port := none
  path
  query := none
  fragment := none

def exampleSecureUrl : Url := { exampleUrl "/" with scheme := "https" }

/-- A site whose front page refers to `/next`. -/
def exampleRecordings : Recordings where
  urls := [("http://example.com/", exampleUrl "/"), ("http://example.com/next", exampleUrl "/next"),
    ("https://example.com/", exampleSecureUrl)]
  joins := [((exampleUrl "/", "/next"), exampleUrl "/next")]
  serverNames := ["example.com"]

end HopWhy
