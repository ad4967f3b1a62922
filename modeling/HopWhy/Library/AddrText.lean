import HopWhy.Library.IpAddr
import Mathlib.Data.List.TakeWhile
import Mathlib.Tactic.SplitIfs

/-!
# Reading addresses back

The socket-address reader takes the text that the URL host serializer writes for
a literal address, with a port behind it, for that address. For an IPv6 address
this rests on the compressed run being one of zeros.
-/

namespace AddrReader

/-- No digit stands at the head of the text. -/
def Stops (radix : ℕ) (cs : List Char) : Prop := ∀ c, cs.head? = some c → isDigit radix c = false

theorem stops_nil (radix : ℕ) : Stops radix [] := fun c h => by cases h

theorem stops_cons {radix : ℕ} {c : Char} (h : isDigit radix c = false) (cs : List Char) :
    Stops radix (c :: cs) := fun d hd => by
  cases hd
  exact h

theorem digitValue_digitChar : ∀ radix ≤ 16, ∀ n < radix,
    digitValue radix n.digitChar = some n := by decide

theorem digitsValue_append_singleton (radix : ℕ) (cs : List Char) (c : Char) :
    digitsValue radix (cs ++ [c]) =
      digitsValue radix cs * radix + (digitValue radix c).getD 0 := by
  simp [digitsValue, List.foldl_append]

section

variable {radix : ℕ} (hradix : 1 < radix) (hle : radix ≤ 16)
include hradix hle

theorem isDigit_of_mem_toDigits (n : ℕ) : ∀ c ∈ Nat.toDigits radix n, isDigit radix c = true := by
  induction n using Nat.strongRecOn with
  | ind n ih =>
    intro c hc
    by_cases hn : n < radix
    · rw [Nat.toDigits_of_lt_base hn, List.mem_singleton] at hc
      rw [hc, isDigit, digitValue_digitChar radix hle n hn]
      rfl
    · rw [Nat.toDigits_of_base_le hradix (Nat.le_of_not_lt hn)] at hc
      rcases List.mem_append.mp hc with hc | hc
      · exact ih _ (Nat.div_lt_self (by omega) hradix) c hc
      · rw [List.mem_singleton.mp hc, isDigit,
          digitValue_digitChar radix hle _ (Nat.mod_lt n (by omega))]
        rfl

theorem digitsValue_toDigits (n : ℕ) : digitsValue radix (Nat.toDigits radix n) = n := by
  induction n using Nat.strongRecOn with
  | ind n ih =>
    by_cases hn : n < radix
    · rw [Nat.toDigits_of_lt_base hn, ← List.nil_append [n.digitChar],
        digitsValue_append_singleton, digitValue_digitChar radix hle n hn]
      simp [digitsValue]
    · rw [Nat.toDigits_of_base_le hradix (Nat.le_of_not_lt hn), digitsValue_append_singleton,
        ih _ (Nat.div_lt_self (by omega) hradix),
        digitValue_digitChar radix hle _ (Nat.mod_lt n (by omega)), Option.getD_some]
      exact Nat.div_add_mod' n radix

theorem toDigits_injective : Function.Injective (Nat.toDigits radix) := by
  intro m n h
  have hvalue := congrArg (digitsValue radix) h
  rwa [digitsValue_toDigits hradix hle, digitsValue_toDigits hradix hle] at hvalue

theorem takeWhile_toDigits (n : ℕ) {rest : List Char} (hrest : Stops radix rest) :
    (Nat.toDigits radix n ++ rest).takeWhile (isDigit radix) = Nat.toDigits radix n := by
  rw [List.takeWhile_append_of_pos (isDigit_of_mem_toDigits hradix hle n)]
  rcases rest with _ | ⟨c, rest⟩
  · simp
  · rw [List.takeWhile_cons_of_neg (by simp [hrest c rfl]), List.append_nil]

/-- A number in bounds is read as far as its digits go. -/
theorem readNumber_toDigits {maxDigits : Option ℕ} {zeroPrefix : Bool} {bound n : ℕ}
    (hdigits : ∀ m ∈ maxDigits, (Nat.toDigits radix n).length ≤ m)
    (hzero : zeroPrefix = false → (Nat.toDigits radix n).head? = some '0' →
      (Nat.toDigits radix n).length ≤ 1)
    (hbound : n < bound) {rest : List Char} (hrest : Stops radix rest) :
    readNumber radix maxDigits zeroPrefix bound (Nat.toDigits radix n ++ rest) =
      some (n, rest) := by
  unfold readNumber
  simp only [takeWhile_toDigits hradix hle n hrest, digitsValue_toDigits hradix hle n]
  rw [if_neg, List.drop_left]
  rintro (hnil | ⟨m, hm, hlt⟩ | ⟨hlead, hhead, hlong⟩ | hover)
  · exact Nat.toDigits_ne_nil hnil
  · exact absurd (hdigits m hm) (Nat.not_le.mpr hlt)
  · exact absurd (hzero hlead hhead) (Nat.not_le.mpr hlong)
  · exact absurd hbound (Nat.not_lt.mpr hover)

end

theorem readNumber_of_stops {radix bound : ℕ} {maxDigits : Option ℕ} {zeroPrefix : Bool}
    {cs : List Char} (h : Stops radix cs) :
    readNumber radix maxDigits zeroPrefix bound cs = none := by
  have hnil : cs.takeWhile (isDigit radix) = [] := by
    rcases cs with _ | ⟨c, cs⟩
    · rfl
    · exact List.takeWhile_cons_of_neg (by simp [h c rfl])
  unfold readNumber
  rw [if_pos (Or.inl hnil)]

theorem readNumber_suffix {radix bound n : ℕ} {maxDigits : Option ℕ} {zeroPrefix : Bool}
    {cs rest : List Char} (h : readNumber radix maxDigits zeroPrefix bound cs = some (n, rest)) :
    rest <:+ cs := by
  unfold readNumber at h
  dsimp only at h
  split_ifs at h
  cases h
  exact List.drop_suffix _ _

theorem readChar_self (c : Char) (cs : List Char) : readChar c (c :: cs) = some cs := if_pos rfl

theorem readChar_of_not_mem {c : Char} {cs : List Char} (h : c ∉ cs) : readChar c cs = none := by
  rcases cs with _ | ⟨d, cs⟩
  · rfl
  · exact if_neg fun heq : d = c => h (heq ▸ List.mem_cons_self)

theorem length_toDigits_octet : ∀ n < 256, (Nat.toDigits 10 n).length ≤ 3 ∧
    ((Nat.toDigits 10 n).head? = some '0' → (Nat.toDigits 10 n).length ≤ 1) := by
  decide +kernel

theorem readOctet_toDigits {n : ℕ} (hn : n < 256) {rest : List Char} (hrest : Stops 10 rest) :
    readOctet (Nat.toDigits 10 n ++ rest) = some (n, rest) := by
  obtain ⟨hlength, hzero⟩ := length_toDigits_octet n hn
  refine readNumber_toDigits (by decide) (by decide) (fun m hm => ?_) (fun _ => hzero) hn hrest
  cases hm
  exact hlength

theorem ofOctets_octet (a : Ipv4Addr) :
    Ipv4Addr.ofOctets (a.octet 0) (a.octet 1) (a.octet 2) (a.octet 3) = a := by
  have hlt : a.bits.toNat < 2 ^ 32 := a.bits.isLt
  have hbits : ((a.octet 0 * 256 + a.octet 1) * 256 + a.octet 2) * 256 + a.octet 3 =
      a.bits.toNat := by
    simp only [Ipv4Addr.octet]
    omega
  rw [Ipv4Addr.ofOctets, hbits, BitVec.ofNat_toNat, BitVec.setWidth_eq]

theorem readIpv4_text (a : Ipv4Addr) {rest : List Char} (hrest : Stops 10 rest) :
    readIpv4 (a.text ++ rest) = some (a, rest) := by
  have hoctet : ∀ i, a.octet i < 256 := fun i => Nat.mod_lt _ (by decide)
  have hdot : ∀ cs, Stops 10 ('.' :: cs) := stops_cons (by decide)
  have htext : a.text ++ rest =
      Nat.toDigits 10 (a.octet 0) ++ '.' :: (Nat.toDigits 10 (a.octet 1) ++
        '.' :: (Nat.toDigits 10 (a.octet 2) ++ '.' :: (Nat.toDigits 10 (a.octet 3) ++ rest))) := by
    simp [Ipv4Addr.text, Ipv4Addr.octets, joinText]
  simp only [htext, readIpv4, bind, Option.bind, readOctet_toDigits (hoctet _) (hdot _),
    readOctet_toDigits (hoctet 3) hrest, readChar_self, ofOctets_octet]
  rfl

/-- Text without a dot is no dotted address. -/
theorem readIpv4_of_not_mem {cs : List Char} (h : '.' ∉ cs) : readIpv4 cs = none := by
  unfold readIpv4
  rcases hoctet : readOctet cs with _ | ⟨n, rest⟩
  · rfl
  · have hrest : '.' ∉ rest := fun hmem => h ((readNumber_suffix hoctet).subset hmem)
    simp only [bind, Option.bind, readChar_of_not_mem hrest]

/-- The groups behind a first one. -/
def colonText (groups : List ℕ) : List Char := groups.flatMap fun g => ':' :: Nat.toDigits 16 g

theorem groupsText_cons (g : ℕ) (gs : List ℕ) :
    Ipv6Addr.groupsText (g :: gs) = Nat.toDigits 16 g ++ colonText gs := by
  induction gs generalizing g with
  | nil => simp [Ipv6Addr.groupsText, joinText, colonText]
  | cons g' gs ih =>
    have hrest := ih g'
    simp only [Ipv6Addr.groupsText, colonText, List.map_cons, joinText, List.flatMap_cons,
      List.cons_append, List.append_assoc] at hrest ⊢
    rw [hrest]
    rfl

theorem mem_colonText {groups : List ℕ} {c : Char} (h : c ∈ colonText groups) :
    c = ':' ∨ isDigit 16 c = true := by
  obtain ⟨g, -, hg⟩ := List.mem_flatMap.mp h
  rcases List.mem_cons.mp hg with rfl | hg
  · exact Or.inl rfl
  · exact Or.inr (isDigit_of_mem_toDigits (by decide) (by decide) g c hg)

theorem mem_groupsText {groups : List ℕ} {c : Char} (h : c ∈ Ipv6Addr.groupsText groups) :
    c = ':' ∨ isDigit 16 c = true := by
  rcases groups with _ | ⟨g, gs⟩
  · simp [Ipv6Addr.groupsText, joinText] at h
  · rw [groupsText_cons, List.mem_append] at h
    rcases h with h | h
    · exact Or.inr (isDigit_of_mem_toDigits (by decide) (by decide) g c h)
    · exact mem_colonText h

theorem dot_not_mem_colonText (groups : List ℕ) : '.' ∉ colonText groups := fun h =>
  absurd (mem_colonText h) (by decide)

theorem dot_not_mem_groupsText (groups : List ℕ) : '.' ∉ Ipv6Addr.groupsText groups := fun h =>
  absurd (mem_groupsText h) (by decide)

/-- The text of an IPv6 address has hexadecimal digits and colons only. -/
theorem mem_hexText {a : Ipv6Addr} {c : Char} (h : c ∈ a.hexText) :
    c = ':' ∨ isDigit 16 c = true := by
  unfold Ipv6Addr.hexText at h
  dsimp only at h
  split_ifs at h
  · exact mem_groupsText h
  · simp only [List.mem_append, List.mem_cons, List.not_mem_nil, or_false, or_self] at h
    rcases h with (h | h) | h
    · exact mem_groupsText h
    · exact Or.inl h
    · exact mem_groupsText h

theorem readGroup_toDigits {n : ℕ} (hn : n < 65536) {rest : List Char} (hrest : Stops 16 rest) :
    readGroup (Nat.toDigits 16 n ++ rest) = some (n, rest) := by
  refine readNumber_toDigits (by decide) (by decide) (fun m hm => ?_) (fun h => (by cases h)) hn
    hrest
  cases hm
  exact (Nat.length_toDigits_le_iff (by decide) (by decide)).mpr hn

/-- No further group begins here, with or without a colon before it. -/
structure Ends (rest : List Char) : Prop where
  stops : Stops 16 rest
  stops_colon : ∀ cs, rest = ':' :: cs → Stops 16 cs
  no_dot : '.' ∉ rest

theorem stops_colonText (groups : List ℕ) {rest : List Char} (h : Stops 16 rest) :
    Stops 16 (colonText groups ++ rest) := by
  rcases groups with _ | ⟨g, gs⟩
  · exact h
  · exact stops_cons (by decide) _

theorem separated_readIpv4 (first : Bool) {cs : List Char} (h : '.' ∉ cs) :
    separated first readIpv4 cs = none := by
  rcases first with _ | _
  · rcases cs with _ | ⟨c, cs⟩
    · rfl
    · have hcs : '.' ∉ cs := fun hmem => h (List.mem_cons_of_mem c hmem)
      simp only [separated, readChar, Bool.false_eq_true, if_false]
      split_ifs
      · exact readIpv4_of_not_mem hcs
      · rfl
  · exact readIpv4_of_not_mem h

theorem separated_readGroup (first : Bool) {rest : List Char} (h : Ends rest) :
    separated first readGroup rest = none := by
  rcases first with _ | _
  · rcases rest with _ | ⟨c, cs⟩
    · rfl
    · simp only [separated, readChar, Bool.false_eq_true, if_false]
      split_ifs with hc
      · exact readNumber_of_stops (h.stops_colon cs (by rw [hc]))
      · rfl
  · exact readNumber_of_stops h.stops

/-- Without a dot a slot is a group or nothing. -/
theorem readGroups_succ (slots : ℕ) (first : Bool) {cs : List Char} (h : '.' ∉ cs) :
    readGroups (slots + 1) first cs =
      match separated first readGroup cs with
      | some (g, rest) =>
        let (gs, dotted, out) := readGroups slots false rest
        (g :: gs, dotted, out)
      | none => ([], false, cs) := by
  rw [readGroups, separated_readIpv4 first h]
  split_ifs <;> rfl

theorem readGroups_nil (slots : ℕ) (first : Bool) {rest : List Char} (h : Ends rest) :
    readGroups slots first rest = ([], false, rest) := by
  rcases slots with _ | slots
  · rfl
  · rw [readGroups_succ slots first h.no_dot, separated_readGroup first h]

theorem readGroups_colonText {groups : List ℕ} (hgroups : ∀ g ∈ groups, g < 65536) {slots : ℕ}
    (hslots : groups.length ≤ slots) {rest : List Char} (h : Ends rest) :
    readGroups slots false (colonText groups ++ rest) = (groups, false, rest) := by
  induction groups generalizing slots with
  | nil => exact readGroups_nil slots false h
  | cons g gs ih =>
    rcases slots with _ | slots
    · cases hslots
    · have hdot : '.' ∉ colonText (g :: gs) ++ rest := by
        rw [List.mem_append]
        exact not_or.mpr ⟨dot_not_mem_colonText _, h.no_dot⟩
      have hread : separated false readGroup (colonText (g :: gs) ++ rest) =
          some (g, colonText gs ++ rest) := by
        have := readGroup_toDigits (hgroups g List.mem_cons_self) (stops_colonText gs h.stops)
        simpa [separated, colonText, readChar_self] using this
      rw [readGroups_succ slots false hdot, hread]
      dsimp only
      rw [ih (fun g' hg' => hgroups g' (List.mem_cons_of_mem g hg'))
        (Nat.le_of_succ_le_succ hslots)]

theorem readGroups_groupsText {groups : List ℕ} (hgroups : ∀ g ∈ groups, g < 65536) {slots : ℕ}
    (hslots : groups.length ≤ slots) {rest : List Char} (h : Ends rest) :
    readGroups slots true (Ipv6Addr.groupsText groups ++ rest) = (groups, false, rest) := by
  rcases groups with _ | ⟨g, gs⟩
  · exact readGroups_nil slots true h
  · rcases slots with _ | slots
    · cases hslots
    · have hdot : '.' ∉ Ipv6Addr.groupsText (g :: gs) ++ rest := by
        rw [List.mem_append]
        exact not_or.mpr ⟨dot_not_mem_groupsText _, h.no_dot⟩
      have hread : separated true readGroup (Ipv6Addr.groupsText (g :: gs) ++ rest) =
          some (g, colonText gs ++ rest) := by
        have := readGroup_toDigits (hgroups g List.mem_cons_self) (stops_colonText gs h.stops)
        rw [groupsText_cons, List.append_assoc]
        exact this
      rw [readGroups_succ slots true hdot, hread]
      dsimp only
      rw [readGroups_colonText (fun g' hg' => hgroups g' (List.mem_cons_of_mem g hg'))
        (Nat.le_of_succ_le_succ hslots) h]

end AddrReader

namespace Ipv6Addr

theorem segment_lt (a : Ipv6Addr) : ∀ s ∈ a.segments, s < 65536 := by
  intro s hs
  obtain ⟨i, -, rfl⟩ := List.mem_map.mp hs
  exact Nat.mod_lt _ (by decide)

theorem length_segments (a : Ipv6Addr) : a.segments.length = 8 := by simp [segments]

theorem ofSegments_segments (a : Ipv6Addr) : ofSegments a.segments = a := by
  have hlt : a.bits.toNat < 2 ^ 128 := a.bits.isLt
  have hstep : ∀ k, a.bits.toNat / 2 ^ (k + 16) * 65536 + a.bits.toNat / 2 ^ k % 65536 =
      a.bits.toNat / 2 ^ k := by
    intro k
    rw [Nat.pow_add, ← Nat.div_div_eq_div_mul]
    exact Nat.div_add_mod' _ _
  have hbits : a.segments.foldl (fun n s => n * 65536 + s) 0 = a.bits.toNat := by
    have hfirst : a.bits.toNat / 2 ^ 112 % 65536 = a.bits.toNat / 2 ^ 112 :=
      Nat.mod_eq_of_lt (Nat.div_lt_of_lt_mul (by omega))
    simp only [segments, segment, List.range_succ, List.range_zero, List.nil_append,
      List.map_append, List.map_cons, List.map_nil, List.foldl_append, List.foldl_cons,
      List.foldl_nil, hfirst, Nat.zero_mul, Nat.zero_add, Nat.mul_zero, Nat.sub_zero]
    rw [hstep 96, hstep 80, hstep 64, hstep 48, hstep 32, hstep 16, hstep 0, Nat.pow_zero,
      Nat.div_one]
  rw [ofSegments, hbits, BitVec.ofNat_toNat, BitVec.setWidth_eq]

/-- A run of zeros that starts at the place. -/
def IsZeroRun (segments : List ℕ) (run : ℕ × ℕ) : Prop :=
  run.2 ≤ ((segments.drop run.1).takeWhile (· == 0)).length

theorem isZeroRun_zeroRun (segments : List ℕ) : IsZeroRun segments (zeroRun segments) := by
  unfold zeroRun
  generalize hruns : (List.range segments.length).map (fun i =>
    (i, ((segments.drop i).takeWhile (· == 0)).length)) = runs
  have hall : ∀ run ∈ runs, IsZeroRun segments run := by
    rw [← hruns]
    intro run hrun
    obtain ⟨i, -, rfl⟩ := List.mem_map.mp hrun
    exact Nat.le_refl _
  clear hruns
  suffices hfold : ∀ best, IsZeroRun segments best → IsZeroRun segments
      (runs.foldl (fun best run => if best.2 < run.2 then run else best) best) from
    hfold (0, 0) (Nat.zero_le _)
  induction runs with
  | nil => exact fun best hbest => hbest
  | cons run runs ih =>
    intro best hbest
    refine ih (fun r hr => hall r (List.mem_cons_of_mem run hr)) _ ?_
    dsimp only
    split_ifs
    · exact hall run List.mem_cons_self
    · exact hbest

/-- A compressed run lies within the segments and is made of zeros. -/
theorem IsZeroRun.split {segments : List ℕ} {start length : ℕ}
    (h : IsZeroRun segments (start, length)) (hpos : 0 < length) :
    start + length ≤ segments.length ∧
      segments.take start ++ List.replicate length 0 ++ segments.drop (start + length) =
        segments := by
  have hle : length ≤ ((segments.drop start).takeWhile (· == 0)).length := h
  have hdrop : ((segments.drop start).takeWhile (· == 0)).length ≤ segments.length - start := by
    rw [← List.length_drop]
    exact (List.takeWhile_prefix _).length_le
  have hzeros : (segments.drop start).take length = List.replicate length 0 := by
    have htake : (segments.drop start).take length =
        ((segments.drop start).takeWhile (· == 0)).take length :=
      ((List.prefix_iff_eq_take.mp (List.takeWhile_prefix _)) ▸ by
        rw [List.take_take, Nat.min_eq_left hle])
    rw [htake, List.eq_replicate_iff]
    refine ⟨by rw [List.length_take, Nat.min_eq_left hle], fun s hs => ?_⟩
    have := List.mem_takeWhile_imp (List.mem_of_mem_take hs)
    simpa using this
  refine ⟨by omega, ?_⟩
  rw [← hzeros, List.append_assoc, ← List.drop_drop, List.take_append_drop,
    List.take_append_drop]

end Ipv6Addr

namespace AddrReader

theorem ends_colons (groups : List ℕ) {rest : List Char} (h : Ends rest) :
    Ends (':' :: ':' :: (Ipv6Addr.groupsText groups ++ rest)) := by
  refine ⟨stops_cons (by decide) _, fun cs hcs => ?_, ?_⟩
  · cases hcs
    exact stops_cons (by decide) _
  · have hgroups := dot_not_mem_groupsText groups
    have hrest := h.no_dot
    simp [hgroups, hrest]

theorem readIpv6_hexText (a : Ipv6Addr) {rest : List Char} (h : Ends rest) :
    readIpv6 (a.hexText ++ rest) = some (a, rest) := by
  have hlength := a.length_segments
  have hlt := a.segment_lt
  unfold Ipv6Addr.hexText
  obtain ⟨start, length, hrun⟩ : ∃ start length, Ipv6Addr.zeroRun a.segments = (start, length) :=
    ⟨_, _, rfl⟩
  rw [hrun]
  dsimp only
  split_ifs with hshort
  · -- Nothing is compressed: the eight groups fill all slots.
    rw [readIpv6, readGroups_groupsText hlt hlength.le h]
    dsimp only
    rw [if_pos hlength, a.ofSegments_segments]
  · have hzero := Ipv6Addr.isZeroRun_zeroRun a.segments
    rw [hrun] at hzero
    obtain ⟨hle, hsplit⟩ := hzero.split (by omega)
    have hhead : (a.segments.take start).length = start := by
      rw [List.length_take]
      omega
    have htail : (a.segments.drop (start + length)).length = 8 - (start + length) := by
      rw [List.length_drop, hlength]
    have htext : Ipv6Addr.groupsText (a.segments.take start) ++ [':', ':'] ++
        Ipv6Addr.groupsText (a.segments.drop (start + length)) ++ rest =
          Ipv6Addr.groupsText (a.segments.take start) ++ ':' :: ':' ::
            (Ipv6Addr.groupsText (a.segments.drop (start + length)) ++ rest) := by simp
    rw [htext, readIpv6, readGroups_groupsText (fun g hg => hlt g (List.mem_of_mem_take hg))
      (by omega) (ends_colons _ h)]
    simp only [hhead, bind, Option.bind, readChar_self]
    rw [if_neg (by omega), if_neg (by decide), readGroups_groupsText
      (fun g hg => hlt g (List.mem_of_mem_drop hg)) (by omega) h]
    dsimp only
    rw [htail, show 8 - start - (8 - (start + length)) = length by omega, hsplit,
      a.ofSegments_segments]
    rfl

theorem readPort_toDigits (p : UInt16) :
    readPort (':' :: Nat.toDigits 10 p.toNat) = some (p, []) := by
  have hnumber : readNumber 10 none true 65536 (Nat.toDigits 10 p.toNat ++ []) =
      some (p.toNat, []) :=
    readNumber_toDigits (by decide) (by decide) (fun m hm => (by cases hm)) (fun h => (by cases h))
      p.toNat_lt (stops_nil 10)
  rw [List.append_nil] at hnumber
  have hport : UInt16.ofNat p.toNat = p := UInt16.ofNat_toNat
  simp only [readPort, bind, Option.bind, readChar_self, hnumber, hport]
  rfl

end AddrReader

namespace SocketAddr

open AddrReader

theorem colon_not_mem_text (a : Ipv4Addr) : ':' ∉ a.text := by
  have hdigits : ∀ n, ':' ∉ Nat.toDigits 10 n := by
    intro n h
    have := isDigit_of_mem_toDigits (by decide) (by decide) n _ h
    revert this
    decide
  simp [Ipv4Addr.text, Ipv4Addr.octets, joinText, hdigits]

theorem parse_v4 (a : Ipv4Addr) (p : UInt16) :
    parse (String.ofList (a.text ++ ':' :: Nat.toDigits 10 p.toNat)) = some (.v4 a p) := by
  have hip : readIpv4 (a.text ++ ':' :: Nat.toDigits 10 p.toNat) =
      some (a, ':' :: Nat.toDigits 10 p.toNat) := readIpv4_text a (stops_cons (by decide) _)
  have hread : readSocketV4 (a.text ++ ':' :: Nat.toDigits 10 p.toNat) = some (.v4 a p, []) := by
    simp only [readSocketV4, bind, Option.bind, hip, readPort_toDigits]
    rfl
  rw [parse, String.toList_ofList, hread]
  rfl

/-- The scope of a literal without one is zero. -/
theorem parse_v6 (a : Ipv6Addr) (p : UInt16) :
    parse (String.ofList ('[' :: a.hexText ++ ']' :: ':' :: Nat.toDigits 10 p.toNat)) =
      some (.v6 a p 0 0) := by
  have hdot : '.' ∉ ']' :: ':' :: Nat.toDigits 10 p.toNat := by
    intro h
    have h : '.' ∈ Nat.toDigits 10 p.toNat := by simpa using h
    have := isDigit_of_mem_toDigits (by decide) (by decide) p.toNat _ h
    revert this
    decide
  have hends : Ends (']' :: ':' :: Nat.toDigits 10 p.toNat) :=
    ⟨stops_cons (by decide) _, fun cs hcs => (by cases hcs), hdot⟩
  have hv4 : readSocketV4 ('[' :: (a.hexText ++ ']' :: ':' :: Nat.toDigits 10 p.toNat)) = none := by
    have hoctet : readOctet ('[' :: (a.hexText ++ ']' :: ':' :: Nat.toDigits 10 p.toNat)) = none :=
      readNumber_of_stops (stops_cons (by decide) _)
    simp only [readSocketV4, readIpv4, bind, Option.bind, hoctet]
  have hread : readSocketV6 ('[' :: (a.hexText ++ ']' :: ':' :: Nat.toDigits 10 p.toNat)) =
      some (.v6 a p 0 0, []) := by
    have hscope : readScope (']' :: ':' :: Nat.toDigits 10 p.toNat) = none := rfl
    simp only [readSocketV6, bind, Option.bind, readChar_self, readIpv6_hexText a hends, hscope,
      Option.getD_none, readPort_toDigits]
    rfl
  rw [parse, String.toList_ofList, List.cons_append, hv4, hread]
  rfl

end SocketAddr
