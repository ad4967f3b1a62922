import HopWhy.Library.Url
import HopWhy.Library.Utf8

/-!
# Form-urlencoded queries

What is written as `application/x-www-form-urlencoded` is read back: every octet
by itself, then names and values, then the pairs between the ampersands.
-/

namespace FormUrlencoded

/-- The value of a segment begins after its first equals sign. -/
def segmentValue (segment : List UInt8) : List UInt8 := (segment.dropWhile (· ≠ 61)).drop 1

/-- The decoded pairs of a query, empty segments dropped. -/
def pairs (query : String) : List (String × String) :=
  (((Text.utf8 query).splitOn 38).filter (· ≠ [])).map fun segment =>
    (decode (segmentName segment), decode (segmentValue segment))

theorem keys_eq (query : String) : keys query = (pairs query).map Prod.fst := by
  rw [pairs, List.map_map]
  rfl

theorem upperHexDigit_facts : ∀ n < 16,
    hexDigitValue (UInt8.ofNat (upperHexDigit n).toNat) = some n ∧
    UInt8.ofNat (upperHexDigit n).toNat ≠ 43 := by decide

/-- An octet that is written as itself is ASCII and no mark of the form. -/
theorem isUnreserved_facts {b : UInt8} (h : isUnreserved b = true) : b.toNat < 0x80 ∧
    ∀ mark ∈ [(37 : UInt8), 38, 43, 61], b ≠ mark := by
  constructor
  · simp only [isUnreserved, Bool.or_eq_true, Bool.and_eq_true, decide_eq_true_eq,
      beq_iff_eq] at h
    omega
  · rintro mark hmark rfl
    have hmarks : ∀ mark ∈ [(37 : UInt8), 38, 43, 61], isUnreserved mark = false := by
      simp [isUnreserved]
    rw [hmarks b hmark] at h
    cases h

/-- The three ways to write an octet. -/
theorem encodeByte_cases (b : UInt8) :
    (b = 32 ∧ encodeByte b = ['+']) ∨
    (isUnreserved b = true ∧ encodeByte b = [Char.ofNat b.toNat]) ∨
    encodeByte b = ['%', upperHexDigit (b.toNat / 16), upperHexDigit (b.toNat % 16)] := by
  unfold encodeByte
  split_ifs with hspace hunreserved
  · exact Or.inl ⟨hspace, rfl⟩
  · exact Or.inr (Or.inl ⟨hunreserved, rfl⟩)
  · exact Or.inr (Or.inr rfl)

/-- The characters of encoded names and values. -/
def IsFormChar (c : Char) : Prop :=
  c.toNat < 0x80 ∧ (isUnreserved (UInt8.ofNat c.toNat) = true ∨ c = '%' ∨ c = '+')

theorem upperHexDigit_isFormChar : ∀ n < 16, (upperHexDigit n).toNat < 0x80 ∧
    isUnreserved (UInt8.ofNat (upperHexDigit n).toNat) = true := by decide

theorem encodeByte_isFormChar {b : UInt8} {c : Char} (h : c ∈ encodeByte b) : IsFormChar c := by
  have hb := b.toNat_lt
  rcases encodeByte_cases b with ⟨-, heq⟩ | ⟨hunreserved, heq⟩ | heq
  · rw [heq, List.mem_singleton] at h
    subst h
    exact ⟨by decide, Or.inr (Or.inr rfl)⟩
  · have hascii := (isUnreserved_facts hunreserved).1
    rw [heq, List.mem_singleton] at h
    rw [IsFormChar, h, Text.toNat_ofNat_of_lt (by omega), UInt8.ofNat_toNat]
    exact ⟨hascii, Or.inl hunreserved⟩
  · have hdigit : ∀ n < 16, c = upperHexDigit n → IsFormChar c := by
      rintro n hn rfl
      obtain ⟨hascii, hunreserved⟩ := upperHexDigit_isFormChar n hn
      exact ⟨hascii, Or.inl hunreserved⟩
    rw [heq, List.mem_cons, List.mem_cons, List.mem_singleton] at h
    rcases h with rfl | h | h
    · exact ⟨by decide, Or.inr (Or.inl rfl)⟩
    · exact hdigit _ (by omega) h
    · exact hdigit _ (by omega) h

/-- No character of a name or a value separates pairs or parts of a pair. -/
theorem IsFormChar.ne {c : Char} (h : IsFormChar c) :
    UInt8.ofNat c.toNat ≠ 38 ∧ UInt8.ofNat c.toNat ≠ 61 := by
  rcases h.2 with hunreserved | rfl | rfl
  · have hmarks := (isUnreserved_facts hunreserved).2
    exact ⟨hmarks 38 (by decide), hmarks 61 (by decide)⟩
  · decide
  · decide

theorem percentDecode_cons {a : UInt8} (h : a ≠ 37) (rest : List UInt8) :
    percentDecode (a :: rest) = a :: percentDecode rest := by
  rcases rest with _ | ⟨b, _ | ⟨c, rest⟩⟩
  · rfl
  · rfl
  · rw [percentDecode, if_neg h]

/-- The spaces that plus signs stand for. -/
def plusToSpace (bs : List UInt8) : List UInt8 := bs.map fun b => if b = 43 then 32 else b

theorem plusToSpace_append (as bs : List UInt8) :
    plusToSpace (as ++ bs) = plusToSpace as ++ plusToSpace bs := List.map_append

/-- An encoded octet is read back, whatever follows. -/
theorem percentDecode_encodeByte (b : UInt8) (rest : List UInt8) :
    percentDecode (plusToSpace (Text.asciiOctets (encodeByte b)) ++ rest) =
      b :: percentDecode rest := by
  have hb := b.toNat_lt
  rcases encodeByte_cases b with ⟨rfl, heq⟩ | ⟨hunreserved, heq⟩ | heq
  · exact percentDecode_cons (by decide) rest
  · obtain ⟨hascii, hmarks⟩ := isUnreserved_facts hunreserved
    rw [heq, Text.asciiOctets, List.map_singleton, Text.toNat_ofNat_of_lt (by omega),
      UInt8.ofNat_toNat, plusToSpace, List.map_singleton, if_neg (hmarks 43 (by decide)),
      List.singleton_append, percentDecode_cons (hmarks 37 (by decide))]
  · obtain ⟨hhigh, hplus⟩ := upperHexDigit_facts (b.toNat / 16) (by omega)
    obtain ⟨hlow, hplus'⟩ := upperHexDigit_facts (b.toNat % 16) (by omega)
    have hoctets : plusToSpace (Text.asciiOctets (encodeByte b)) = [37,
        UInt8.ofNat (upperHexDigit (b.toNat / 16)).toNat,
        UInt8.ofNat (upperHexDigit (b.toNat % 16)).toNat] := by
      rw [heq]
      simp [plusToSpace, Text.asciiOctets, hplus, hplus']
    have hback : b.toNat / 16 * 16 + b.toNat % 16 = b.toNat := by omega
    rw [hoctets, List.cons_append, List.cons_append, List.singleton_append, percentDecode,
      if_pos rfl, hhigh, hlow]
    dsimp only
    rw [hback, UInt8.ofNat_toNat]

theorem percentDecode_encode (bs rest : List UInt8) :
    percentDecode (plusToSpace (Text.asciiOctets (bs.flatMap encodeByte)) ++ rest) =
      bs ++ percentDecode rest := by
  induction bs with
  | nil => rfl
  | cons b bs ih =>
    rw [List.flatMap_cons, Text.asciiOctets_append, plusToSpace_append, List.append_assoc,
      percentDecode_encodeByte, ih, List.cons_append]

theorem decode_encode (s : String) : decode (Text.asciiOctets (encode s)) = s := by
  have hdecoded := percentDecode_encode (Text.utf8 s) []
  rw [List.append_nil, percentDecode, List.append_nil] at hdecoded
  rw [decode, ← plusToSpace, encode, hdecoded, Text.fromUtf8Lossy_utf8]

theorem encode_isFormChar {s : String} {c : Char} (h : c ∈ encode s) : IsFormChar c := by
  obtain ⟨b, -, hc⟩ := List.mem_flatMap.mp h
  exact encodeByte_isFormChar hc

/-- The octets of a pair. -/
def segment (name value : String) : List UInt8 :=
  Text.asciiOctets (encode name) ++ 61 :: Text.asciiOctets (encode value)

theorem mem_asciiOctets_encode {s : String} {b : UInt8} (h : b ∈ Text.asciiOctets (encode s)) :
    b ≠ 38 ∧ b ≠ 61 := by
  obtain ⟨c, hc, rfl⟩ := List.mem_map.mp h
  exact (encode_isFormChar hc).ne

theorem segmentName_segment (name value : String) :
    segmentName (segment name value) = Text.asciiOctets (encode name) := by
  rw [segmentName, segment, List.takeWhile_append_of_pos, List.takeWhile_cons_of_neg (by decide),
    List.append_nil]
  intro b hb
  exact decide_eq_true (mem_asciiOctets_encode hb).2

theorem segmentValue_segment (name value : String) :
    segmentValue (segment name value) = Text.asciiOctets (encode value) := by
  rw [segmentValue, segment, List.dropWhile_append_of_pos, List.dropWhile_cons_of_neg (by decide)]
  · rfl
  · intro b hb
    exact decide_eq_true (mem_asciiOctets_encode hb).2

theorem joinText_cons_cons (sep text text' : List Char) (texts : List (List Char)) :
    joinText sep (text :: text' :: texts) = text ++ sep ++ joinText sep (text' :: texts) := rfl

theorem asciiOctets_joinText (texts : List (List Char)) :
    Text.asciiOctets (joinText ['&'] texts) = [38].intercalate (texts.map Text.asciiOctets) := by
  induction texts with
  | nil => rfl
  | cons text texts ih =>
    rcases texts with _ | ⟨text', texts⟩
    · simp [joinText]
    · rw [joinText_cons_cons, Text.asciiOctets_append, Text.asciiOctets_append, ih, List.map_cons,
        List.map_cons, List.map_cons, List.intercalate_cons_cons]
      rfl

theorem mem_joinText {sep : List Char} {texts : List (List Char)} {c : Char}
    (h : c ∈ joinText sep texts) : c ∈ sep ∨ ∃ text ∈ texts, c ∈ text := by
  induction texts with
  | nil => cases h
  | cons text texts ih =>
    rcases texts with _ | ⟨text', texts⟩
    · exact Or.inr ⟨text, List.mem_cons_self, h⟩
    · rw [joinText_cons_cons, List.mem_append, List.mem_append] at h
      rcases h with (h | h) | h
      · exact Or.inr ⟨text, List.mem_cons_self, h⟩
      · exact Or.inl h
      · refine (ih h).imp_right ?_
        rintro ⟨other, hother, hc⟩
        exact ⟨other, List.mem_cons_of_mem _ hother, hc⟩

/-- The characters of a query that is written. -/
theorem mem_serialize {names : List String} {value : String} {c : Char}
    (h : c ∈ (serialize names value).toList) : IsFormChar c ∨ c = '&' ∨ c = '=' := by
  rw [serialize, String.toList_ofList] at h
  rcases mem_joinText h with h | ⟨text, htext, h⟩
  · exact Or.inr (Or.inl (List.mem_singleton.mp h))
  · obtain ⟨name, -, rfl⟩ := List.mem_map.mp htext
    rw [List.mem_append, List.mem_cons] at h
    rcases h with h | h | h
    · exact Or.inl (encode_isFormChar h)
    · exact Or.inr (Or.inr h)
    · exact Or.inl (encode_isFormChar h)

theorem utf8_serialize (names : List String) (value : String) :
    Text.utf8 (serialize names value) = [38].intercalate (names.map fun n => segment n value) := by
  have hascii : ∀ c ∈ joinText ['&'] (names.map fun n => encode n ++ '=' :: encode value),
      c.toNat < 0x80 := by
    intro c hc
    rw [← String.toList_ofList (l := joinText _ _), ← serialize] at hc
    rcases mem_serialize hc with h | rfl | rfl
    · exact h.1
    · decide
    · decide
  rw [serialize, Text.utf8_ofList_of_ascii hascii, asciiOctets_joinText, List.map_map]
  congr 2
  funext name
  exact Text.asciiOctets_append _ _

theorem segment_facts (name value : String) :
    segment name value ≠ [] ∧ 38 ∉ segment name value := by
  constructor
  · simp [segment]
  · rw [segment, List.mem_append, List.mem_cons]
    rintro (h | h | h)
    · exact (mem_asciiOctets_encode h).1 rfl
    · cases h
    · exact (mem_asciiOctets_encode h).1 rfl

/-- The pairs that are written are read back. -/
theorem pairs_serialize (names : List String) (value : String) :
    pairs (serialize names value) = names.map fun name => (name, value) := by
  rcases names with _ | ⟨name, names⟩
  · rfl
  · rw [pairs, utf8_serialize, List.splitOn_intercalate, List.filter_eq_self.mpr, List.map_map]
    · apply List.map_congr_left
      intro other hother
      rw [Function.comp_apply, segmentName_segment, segmentValue_segment, decode_encode,
        decode_encode]
    · intro octets hoctets
      obtain ⟨other, -, rfl⟩ := List.mem_map.mp hoctets
      exact decide_eq_true (segment_facts other value).1
    · intro octets hoctets
      obtain ⟨other, -, rfl⟩ := List.mem_map.mp hoctets
      exact (segment_facts other value).2
    · simp

end FormUrlencoded
