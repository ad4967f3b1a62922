import HopWhy.Library.Calendar
import HopWhy.Library.Python

/-!
# Checks of single fields

The release gate reads a manifest of evidence. Every check of a field raises an
error that names the path of the field, or hands on what it has read there.
-/

namespace HopWhy.Release

open Python

/-- What the standard library finds in a URL. -/
structure UrlParts where
  scheme : String
  netloc : String
  hostname : Option String
  username : Option String
  password : Option String

/-- The functions of the standard library that are taken as they are. An address that
`ip_address` does not read has no answer. -/
class Stdlib where
  casefold : String → String
  repr : String → String
  urlparse : String → Except String UrlParts
  isGlobal : String → Option Bool

inductive Raised where
  | evidenceError (message : String)
  | valueError (message : String)
  | keyError (name : String)
  | overflowError
deriving DecidableEq, Repr

abbrev Checked (α : Type) : Type := Except Raised α

/-- Raises unless the condition holds. -/
def require (good : Prop) [Decidable good] (message : String) : Checked (PLift good) :=
  if h : good then .ok ⟨h⟩ else .error (.evidenceError message)

def object (value : PyValue) (path : String) : Checked (List (String × PyValue)) :=
  match value with
  | .dict entries => .ok entries
  | _ => .error (.evidenceError (path ++ " must be an object"))

def exactKeys (value : List (String × PyValue)) (expected : List String) (path : String) :
    Checked Unit := do
  let actual := value.map Prod.fst
  let missing := sortedSet (expected.filter (· ∉ actual))
  let unknown := sortedSet (actual.filter (· ∉ expected))
  let _ ← require (missing = [])
    (path ++ " is missing fields: " ++ ", ".intercalate missing)
  let _ ← require (unknown = [])
    (path ++ " has unknown fields: " ++ ", ".intercalate unknown)
  return ()

def item (entries : List (String × PyValue)) (name : String) : Checked PyValue :=
  match entries.lookup name with
  | some value => .ok value
  | none => .error (.keyError name)

/-- The check of a member, under the path of the object. -/
def field {α : Type} (check : PyValue → String → Checked α) (entries : List (String × PyValue))
    (path name : String) : Checked α := do
  check (← item entries name) (path ++ "." ++ name)

def array (value : PyValue) (path : String) : Checked (List PyValue) :=
  match value with
  | .list items => .ok items
  | _ => .error (.evidenceError (path ++ " must be an array"))

/-- The check of the items from this index on. -/
def eachItem {α : Type} (check : PyValue → String → Checked α) (path : String) :
    ℕ → List PyValue → Checked (List α)
  | _, [] => .ok []
  | index, value :: rest => do
    let first ← check value (path ++ "[" ++ toString index ++ "]")
    let others ← eachItem check path (index + 1) rest
    return first :: others

def listOf {α : Type} (check : PyValue → String → Checked α) (value : PyValue) (path : String) :
    Checked (List α) := do
  eachItem check path 0 (← array value path)

/-- `None`, or what the check accepts. -/
def optional {α : Type} (check : PyValue → String → Checked α) (value : PyValue) (path : String) :
    Checked (Option α) :=
  match value with
  | .none => .ok none
  | value => some <$> check value path

/-- What the check accepts is the value in this reading. -/
def Reads {α : Type} (check : PyValue → String → Checked α) (R : α → PyValue → Prop) : Prop :=
  ∀ value path a, check value path = .ok a → R a value

def IsListOf {α : Type} (R : α → PyValue → Prop) (results : List α) (value : PyValue) : Prop :=
  ∃ items, value = .list items ∧ List.Forall₂ R results items

def IsOptional {α : Type} (R : α → PyValue → Prop) : Option α → PyValue → Prop
  | none, value => value = .none
  | some a, value => R a value

theorem IsListOf.map {α β : Type} {R : α → PyValue → Prop} {S : β → PyValue → Prop} {f : α → β}
    {results : List α} {value : PyValue} (h : IsListOf R results value)
    (hRS : ∀ a child, R a child → S (f a) child) : IsListOf S (results.map f) value := by
  obtain ⟨items, hvalue, hitems⟩ := h
  exact ⟨items, hvalue, List.forall₂_map_left_iff.mpr (hitems.imp hRS)⟩

theorem object_eq_ok {value : PyValue} {path : String} {entries : List (String × PyValue)}
    (h : object value path = .ok entries) : value = .dict entries := by
  unfold object at h
  split at h
  next =>
    cases h
    rfl
  next => cases h

section

variable {α : Type} {check : PyValue → String → Checked α} {R : α → PyValue → Prop}

theorem field_at (hcheck : Reads check R) {entries : List (String × PyValue)} {path name : String}
    {a : α} (h : field check entries path name = .ok a) :
    (PyValue.dict entries).At [name] (R a) := by
  obtain ⟨child, hitem, h⟩ := Except.bind_eq_ok.mp h
  unfold item at hitem
  split at hitem
  next hlookup =>
    cases hitem
    exact .cons hlookup (.nil (hcheck _ _ _ h))
  next => cases hitem

/-- What is found in a member that is an object. -/
theorem field_object_at {entries children : List (String × PyValue)} {path name : String}
    {rest : List String} {P : PyValue → Prop} (h : field object entries path name = .ok children)
    (hP : (PyValue.dict children).At rest P) : (PyValue.dict entries).At (name :: rest) P := by
  have hreads : Reads object fun children value => value = .dict children := fun _ _ _ =>
    object_eq_ok
  obtain ⟨_, hchild, rfl⟩ := field_at hreads h
  rw [PyValue.field?, Option.bind_eq_some_iff] at hchild
  obtain ⟨_, hlookup, hfield⟩ := hchild
  cases hfield
  exact .cons hlookup hP

theorem eachItem_eq_ok (hcheck : Reads check R) {path : String} {index : ℕ} {items : List PyValue}
    {results : List α} (h : eachItem check path index items = .ok results) :
    List.Forall₂ R results items := by
  induction items generalizing index results with
  | nil =>
    cases h
    exact .nil
  | cons value rest ih =>
    simp only [eachItem, Except.bind_eq_ok] at h
    obtain ⟨first, hfirst, others, hothers, h⟩ := h
    cases h
    exact .cons (hcheck _ _ _ hfirst) (ih hothers)

theorem reads_listOf (hcheck : Reads check R) : Reads (listOf check) (IsListOf R) := by
  intro value path results h
  obtain ⟨items, harray, h⟩ := Except.bind_eq_ok.mp h
  refine ⟨items, ?_, eachItem_eq_ok hcheck h⟩
  unfold array at harray
  split at harray
  next =>
    cases harray
    rfl
  next => cases harray

theorem reads_optional (hcheck : Reads check R) : Reads (optional check) (IsOptional R) := by
  intro value path result h
  unfold optional at h
  split at h
  next =>
    cases h
    rfl
  next =>
    rw [map_eq_pure_bind] at h
    obtain ⟨a, ha, h⟩ := Except.bind_eq_ok.mp h
    cases h
    exact hcheck _ _ _ ha

end

def string (value : PyValue) (path : String) : Checked String :=
  match value with
  | .str text =>
    if strip text = "" then .error (.evidenceError (path ++ " must not be empty"))
    else .ok text
  | _ => .error (.evidenceError (path ++ " must be a string"))

def nonnegativeInteger (value : PyValue) (path : String) : Checked ℕ :=
  match value with
  | .int (.ofNat n) => .ok n
  | _ => .error (.evidenceError (path ++ " must be a non-negative integer"))

/-- One of the names, and what it stands for. -/
def oneOf {α : Type} (names : List (String × α)) (value : PyValue) (path : String) : Checked α := do
  let text ← string value path
  match names.lookup text with
  | some a => .ok a
  | none => .error (.evidenceError (path ++ " must be one of: " ++
      ", ".intercalate (sortedSet (names.map Prod.fst))))

inductive Status where
  | pending
  | satisfied
deriving DecidableEq, Repr

def statuses : List (String × Status) := [("pending", .pending), ("satisfied", .satisfied)]

def status (value : PyValue) (path : String) : Checked Status := oneOf statuses value path

def date (value : PyValue) (path : String) : Checked Date := do
  let text ← string value path
  let _ ← require (Date.isoNumbers text).isSome (path ++ " must use canonical YYYY-MM-DD form")
  match Date.ofIsoFormat text with
  | some day => .ok day
  | none => .error (.evidenceError (path ++ " must be an ISO 8601 calendar date"))

def IsText (text : String) (value : PyValue) : Prop := value = .str text

def IsCount (n : ℕ) (value : PyValue) : Prop := value = .int n

def IsOneOf {α : Type} (names : List (String × α)) (a : α) (value : PyValue) : Prop :=
  ∃ text, value = .str text ∧ names.lookup text = some a

def IsDate (day : Date) (value : PyValue) : Prop :=
  ∃ text, value = .str text ∧ Date.ofIsoFormat text = some day

theorem reads_string : Reads string IsText := by
  intro value path text h
  unfold string at h
  split at h
  next =>
    split_ifs at h
    cases h
    rfl
  next => cases h

theorem reads_nonnegativeInteger : Reads nonnegativeInteger IsCount := by
  intro value path n h
  unfold nonnegativeInteger at h
  split at h
  next =>
    cases h
    rfl
  next => cases h

theorem reads_oneOf {α : Type} (names : List (String × α)) :
    Reads (oneOf names) (IsOneOf names) := by
  intro value path a h
  obtain ⟨text, htext, h⟩ := Except.bind_eq_ok.mp h
  split at h
  next hname =>
    cases h
    exact ⟨text, reads_string _ _ _ htext, hname⟩
  next => cases h

theorem reads_date : Reads date IsDate := by
  intro value path day h
  simp only [date, Except.bind_eq_ok] at h
  obtain ⟨text, htext, _, _, h⟩ := h
  split at h
  next hday =>
    cases h
    exact ⟨text, reads_string _ _ _ htext, hday⟩
  next => cases h

/-- `0|[1-9][0-9]*`. -/
def isNumeric : List Char → Bool
  | [] => false
  | ['0'] => true
  | c :: cs => c ≠ '0' && (c :: cs).all Text.isAsciiDigit

/-- `[0-9A-Za-z-]`. -/
def isIdentifierChar (c : Char) : Bool :=
  Text.isAsciiDigit c || ('A' ≤ c && c ≤ 'Z') || ('a' ≤ c && c ≤ 'z') || c = '-'

def isPrereleaseIdentifier (cs : List Char) : Bool :=
  isNumeric cs || (cs.all isIdentifierChar && cs.any fun c => !Text.isAsciiDigit c)

def isBuildIdentifier (cs : List Char) : Bool := cs ≠ [] && cs.all isIdentifierChar

/-- The parts before and after the first occurrence of `sep`. -/
def cut (sep : Char) (cs : List Char) : List Char × Option (List Char) :=
  (cs.takeWhile (· ≠ sep), if sep ∈ cs then some (cs.dropWhile (· ≠ sep)).tail else none)

/-- The first group of the version pattern. No part before the build has a plus sign, and no
number has a hyphen. -/
def semverMajor (version : String) : Option (List Char) :=
  let build := cut '+' version.toList
  let prerelease := cut '-' build.1
  match prerelease.1.splitOn '.' with
  | [major, minor, patch] =>
    if [major, minor, patch].all isNumeric &&
        prerelease.2.all (fun ids => (ids.splitOn '.').all isPrereleaseIdentifier) &&
        build.2.all (fun ids => (ids.splitOn '.').all isBuildIdentifier) then
      some major
    else none
  | _ => none

theorem exists_append_of_cut (sep : Char) (cs : List Char) : ∃ rest, cs = (cut sep cs).1 ++ rest :=
  ⟨cs.dropWhile (· ≠ sep), (List.takeWhile_append_dropWhile ..).symm⟩

/-- The major number comes first, with a dot behind it. -/
theorem semverMajor_eq_some {version : String} {digits : List Char}
    (h : semverMajor version = some digits) :
    isNumeric digits = true ∧ ∃ rest, version.toList = digits ++ '.' :: rest := by
  obtain ⟨build, hbuild⟩ := exists_append_of_cut '+' version.toList
  obtain ⟨prerelease, hprerelease⟩ := exists_append_of_cut '-' (cut '+' version.toList).1
  unfold semverMajor at h
  dsimp only at h
  split at h
  next major minor patch hsplit =>
    split_ifs at h with hgood
    cases h
    rw [Bool.and_eq_true, Bool.and_eq_true] at hgood
    refine ⟨List.all_eq_true.mp hgood.1.1 digits List.mem_cons_self, ?_⟩
    have hcore : (cut '-' (cut '+' version.toList).1).1 =
        ['.'].intercalate [digits, minor, patch] := by
      rw [← hsplit, List.intercalate_splitOn]
    refine ⟨minor ++ '.' :: patch ++ prerelease ++ build, ?_⟩
    rw [hbuild, hprerelease, hcore]
    simp [List.intercalate, List.intersperse]
  next => cases h

theorem exists_digitChar {c : Char} (h : Text.isAsciiDigit c = true) :
    ∃ d < 10, c = Nat.digitChar d := by
  rw [Text.isAsciiDigit, Bool.and_eq_true] at h
  have hlow : 48 ≤ c.toNat := of_decide_eq_true h.1
  have hhigh : c.toNat ≤ 57 := of_decide_eq_true h.2
  obtain ⟨d, hd⟩ := Nat.exists_eq_add_of_le hlow
  have hlt : d < 10 := by omega
  refine ⟨d, hlt, ?_⟩
  rw [← Char.ofNat_toNat c, hd]
  clear hd
  revert d
  decide

/-- Further digits stand behind those of a positive number. -/
theorem toDigits_ofDigitChars {cs : List Char} (h : ∀ c ∈ cs, Text.isAsciiDigit c = true) {n : ℕ}
    (hn : 0 < n) : Nat.toDigits 10 (Nat.ofDigitChars 10 cs n) = Nat.toDigits 10 n ++ cs := by
  induction cs generalizing n with
  | nil => simp
  | cons c cs ih =>
    obtain ⟨d, hd, rfl⟩ := exists_digitChar (h c List.mem_cons_self)
    have htail : ∀ c ∈ cs, Text.isAsciiDigit c = true := fun c hc =>
      h c (List.mem_cons_of_mem _ hc)
    rw [Nat.ofDigitChars_cons_digitChar_of_lt_ten hd, ih htail (by omega),
      ← Nat.toDigits_append_toDigits (by decide) hn hd, Nat.toDigits_of_lt_base hd,
      List.append_assoc]
    rfl

/-- A numeral without leading zeros is the one of its value. -/
theorem toDigits_of_isNumeric {digits : List Char} (h : isNumeric digits = true) :
    Nat.toDigits 10 (Nat.ofDigitChars 10 digits 0) = digits := by
  unfold isNumeric at h
  split at h
  next => cases h
  next => rfl
  next c cs _ =>
    rw [Bool.and_eq_true, decide_eq_true_eq] at h
    have hall := List.all_eq_true.mp h.2
    obtain ⟨d, hd, rfl⟩ := exists_digitChar (hall c List.mem_cons_self)
    have hpos : 0 < d := by
      apply Nat.pos_of_ne_zero
      rintro rfl
      exact h.1 rfl
    have htail : ∀ c ∈ cs, Text.isAsciiDigit c = true := fun c hc =>
      hall c (List.mem_cons_of_mem _ hc)
    rw [Nat.ofDigitChars_cons_digitChar_of_lt_ten hd, Nat.mul_zero, Nat.zero_add,
      toDigits_ofDigitChars htail hpos, Nat.toDigits_of_lt_base hd]
    rfl

def httpsUrl [Stdlib] (value : PyValue) (path : String) : Checked String := do
  let text ← string value path
  let _ ← require (text = strip text ∧ ¬ text.toList.any isSpace)
    (path ++ " must not contain whitespace")
  let _ ← require ('\\' ∉ text.toList) (path ++ " must not contain backslashes")
  let parsed ← (Stdlib.urlparse text).mapError .valueError
  let _ ← require (parsed.scheme = "https" ∧ parsed.netloc ≠ "" ∧ parsed.hostname.isSome ∧
      parsed.username.getD "" = "" ∧ parsed.password.getD "" = "")
    (path ++ " must be a public HTTPS URL without credentials")
  let hostname := Stdlib.casefold (rstrip '.' (parsed.hostname.getD ""))
  let _ ← require ('.' ∈ hostname.toList ∧ hostname ≠ "localhost" ∧
      ¬ endsWith ".localhost" hostname ∧ ¬ endsWith ".local" hostname)
    (path ++ " must use a public hostname")
  let _ ← require (Stdlib.isGlobal hostname ≠ some false)
    (path ++ " must not use a private or reserved IP address")
  return text

def runUrlHead : String := "https://github.com/yhay81/hopwhy/actions/runs/"

/-- `[1-9][0-9]*`. -/
def isPositive (cs : List Char) : Bool := isNumeric cs && cs ≠ ['0']

def isRunUrl (text : String) : Bool :=
  runUrlHead.toList.isPrefixOf text.toList &&
    match cut '/' (text.toList.drop runUrlHead.length) with
    | (run, none) => isPositive run
    | (run, some rest) =>
      isPositive run && "job/".toList.isPrefixOf rest && isPositive (rest.drop 4)

def runUrl [Stdlib] (value : PyValue) (path : String) : Checked String := do
  let text ← httpsUrl value path
  let _ ← require (isRunUrl text)
    (path ++ " must be a GitHub Actions run or job URL for yhay81/hopwhy")
  return text

theorem reads_httpsUrl [Stdlib] : Reads httpsUrl IsText := by
  intro value path text h
  simp only [httpsUrl, Except.bind_eq_ok] at h
  obtain ⟨_, htext, _, _, _, _, _, _, _, _, _, _, _, _, h⟩ := h
  cases h
  exact reads_string _ _ _ htext

theorem reads_runUrl [Stdlib] : Reads runUrl IsText := by
  intro value path text h
  simp only [runUrl, Except.bind_eq_ok] at h
  obtain ⟨_, htext, _, _, h⟩ := h
  cases h
  exact reads_httpsUrl _ _ _ htext

end HopWhy.Release
