import HopWhy.Library.Codec

/-!
# Readers and the order of members

A derived reader looks members up by name, so for a document that repeats no name
it reads the re-keyed tree as it reads the tree itself. Documents with one
re-keyed tree are read alike, in whatever order their members stand.
-/

namespace Json

/-- No object of the tree repeats a name. -/
inductive Distinct : Json → Prop
  | null : Distinct .null
  | bool (b : Bool) : Distinct (.bool b)
  | num (n : Number) : Distinct (.num n)
  | str (s : String) : Distinct (.str s)
  | arr {xs : List Json} (elements : ∀ x ∈ xs, Distinct x) : Distinct (.arr xs)
  | obj {ms : List (String × Json)} (names : (ms.map Prod.fst).Nodup)
      (members : ∀ m ∈ ms, Distinct m.2) : Distinct (.obj ms)

mutual

/-- The check for `Distinct`. -/
def distinct : Json → Bool
  | .null => true
  | .bool _ => true
  | .num _ => true
  | .str _ => true
  | .arr xs => distinctElements xs
  | .obj ms => decide (ms.map Prod.fst).Nodup && distinctMembers ms

def distinctElements : List Json → Bool
  | [] => true
  | x :: xs => distinct x && distinctElements xs

def distinctMembers : List (String × Json) → Bool
  | [] => true
  | (_, j) :: ms => distinct j && distinctMembers ms

end

theorem distinctElements_iff {xs : List Json} :
    distinctElements xs = true ↔ ∀ x ∈ xs, distinct x = true := by
  induction xs with
  | nil => simp [distinctElements]
  | cons x xs ih => simp [distinctElements, ih]

theorem distinctMembers_iff {ms : List (String × Json)} :
    distinctMembers ms = true ↔ ∀ m ∈ ms, distinct m.2 = true := by
  induction ms with
  | nil => simp [distinctMembers]
  | cons m ms ih =>
    rw [distinctMembers, Bool.and_eq_true, ih, List.forall_mem_cons]

theorem distinct_iff (j : Json) : distinct j = true ↔ Distinct j := by
  induction j using inductionOn with
  | null => exact iff_of_true rfl .null
  | bool b => exact iff_of_true rfl (.bool b)
  | num n => exact iff_of_true rfl (.num n)
  | str s => exact iff_of_true rfl (.str s)
  | arr xs ih =>
    rw [distinct, distinctElements_iff, forall₂_congr ih]
    constructor
    · exact .arr
    · intro h
      cases h with
      | arr elements => exact elements
  | obj ms ih =>
    rw [distinct, Bool.and_eq_true, decide_eq_true_iff, distinctMembers_iff, forall₂_congr ih]
    constructor
    · exact fun h => .obj h.1 h.2
    · intro h
      cases h with
      | obj names members => exact ⟨names, members⟩

instance (j : Json) : Decidable j.Distinct := decidable_of_iff _ (distinct_iff j)

/-- The members of an object after re-keying. -/
def rekeyed (ms : List (String × Json)) : List (String × Json) :=
  collectInto [] (ms.map fun m => (m.1, m.2.canon))

theorem canon_obj_eq_rekeyed (ms : List (String × Json)) : canon (.obj ms) = .obj (rekeyed ms) :=
  canon_obj ms

theorem lookup_map_canon (ms : List (String × Json)) (name : String) :
    (ms.map fun m => (m.1, m.2.canon)).lookup name = (ms.lookup name).map canon := by
  induction ms with
  | nil => rfl
  | cons m ms ih =>
    rw [List.map_cons, lookup_cons_ite, lookup_cons_ite]
    split_ifs
    · rfl
    · exact ih

section

variable {ms : List (String × Json)} (h : (ms.map Prod.fst).Nodup)

include h

theorem nodup_map_canon : ((ms.map fun m => (m.1, m.2.canon)).map Prod.fst).Nodup := by
  simpa [List.map_map, Function.comp_def] using h

theorem rekeyed_perm : (rekeyed ms).Perm (ms.map fun m => (m.1, m.2.canon)) :=
  collectInto_perm [] (nodup_map_canon h)

theorem names_rekeyed_perm : ((rekeyed ms).map Prod.fst).Perm (ms.map Prod.fst) := by
  have hperm := (rekeyed_perm h).map Prod.fst
  simpa [List.map_map, Function.comp_def] using hperm

theorem lookup_rekeyed (name : String) :
    (rekeyed ms).lookup name = (ms.lookup name).map canon := by
  rw [rekeyed, lookup_collectInto (nodup_map_canon h), lookup_map_canon]
  rcases ms.lookup name with _ | j
  · rfl
  · rfl

end

end Json

/-- A codec that reads a tree without repeated names as it reads the re-keyed tree. -/
class Codec.Rekeys {α : Type} (c : Codec α) : Prop where
  read_canon : ∀ {j : Json}, j.Distinct → c.read j.canon = c.read j

namespace Codec

variable {α : Type}

/-- Trees that re-key alike are read alike. -/
theorem read_eq_of_canon_eq (c : Codec α) [c.Rekeys] {j j' : Json} (h : j.Distinct)
    (h' : j'.Distinct) (hcanon : j.canon = j'.canon) : c.read j = c.read j' := by
  rw [← Rekeys.read_canon (c := c) h, hcanon, Rekeys.read_canon h']

instance : string.Rekeys := ⟨fun {j} _ => by cases j <;> rfl⟩

instance : bool.Rekeys := ⟨fun {j} _ => by cases j <;> rfl⟩

instance : u64.Rekeys := ⟨fun {j} _ => by cases j <;> rfl⟩

instance : u32.Rekeys := ⟨fun {j} _ => by cases j <;> rfl⟩

instance : u16.Rekeys := ⟨fun {j} _ => by cases j <;> rfl⟩

instance : f64.Rekeys := ⟨fun {j} _ => by cases j <;> rfl⟩

instance : value.Rekeys := ⟨fun {j} _ => congrArg some (Value.ofJson_canon j)⟩

instance (c : Codec α) [c.Rekeys] (a : α) : (c.withDefault a).Rekeys :=
  ⟨Rekeys.read_canon (c := c)⟩

theorem option_rekeys {c : Codec α} {h : ∀ a, c.write a ≠ .null} (hc : c.Rekeys) :
    (option c h).Rekeys where
  read_canon {j} hj := by
    by_cases hnull : j = .null
    · rw [hnull]
      rfl
    · rw [read_option hnull, read_option (Json.canon_eq_null.not.mpr hnull),
        Rekeys.read_canon (c := c) hj]

instance (c : Codec α) [hc : c.Rekeys] (h : ∀ a, c.write a ≠ .null) : (option c h).Rekeys :=
  option_rekeys hc

/-- Elements that are read alike make lists that are. -/
theorem mapM_congr_of_mem {β γ : Type} {f g : β → Option γ} {l : List β}
    (h : ∀ b ∈ l, f b = g b) : l.mapM f = l.mapM g := by
  induction l with
  | nil => rfl
  | cons b l ih =>
    rw [List.mapM_cons, List.mapM_cons, h b List.mem_cons_self,
      ih fun c hc => h c (List.mem_cons_of_mem _ hc)]

theorem rel_perm_trans {β : Type} {x y z : Option (List β)} (h : Option.Rel List.Perm x y)
    (h' : Option.Rel List.Perm y z) : Option.Rel List.Perm x z := by
  cases h with
  | none =>
    cases h'
    exact .none
  | some hxy =>
    cases h' with
    | some hyz => exact .some (hxy.trans hyz)

/-- Readers meet the elements of a permuted list in another order. -/
theorem mapM_perm {β γ : Type} {f : β → Option γ} {l l' : List β} (h : l.Perm l') :
    Option.Rel List.Perm (l.mapM f) (l'.mapM f) := by
  induction h with
  | nil => exact .some (List.Perm.refl [])
  | @cons b l l' hperm ih =>
    rw [List.mapM_cons, List.mapM_cons]
    rcases f b with _ | c
    · exact .none
    · revert ih
      generalize l.mapM f = r
      generalize l'.mapM f = r'
      rintro (hcs | _)
      · exact .some (hcs.cons c)
      · exact .none
  | swap b b' l =>
    simp only [List.mapM_cons]
    rcases f b with _ | c <;> rcases f b' with _ | c' <;> rcases l.mapM f with _ | cs
    any_goals exact .none
    exact .some (List.Perm.swap c c' cs)
  | trans _ _ ih ih' => exact rel_perm_trans ih ih'

instance (c : Codec α) [c.Rekeys] : (list c).Rekeys where
  read_canon {j} hj := by
    cases hj with
    | @arr xs elements =>
      rw [Json.canon_arr]
      change (xs.map Json.canon).mapM c.read = xs.mapM c.read
      rw [List.mapM_map]
      exact mapM_congr_of_mem fun x hx => Rekeys.read_canon (c := c) (elements x hx)
    | @obj ms names members =>
      rw [Json.canon_obj_eq_rekeyed]
      rfl
    | _ => rfl

theorem read_enumeration_cons_cons {name : α → String} {variants : List α}
    {h : ∀ a, variants.find? (fun b => name b == name a) = some a} (m m' : String × Json)
    (ms : List (String × Json)) :
    (enumeration name variants h).read (.obj (m :: m' :: ms)) = none := by
  rcases m with ⟨s, j⟩
  cases j <;> rfl

/-- A unit enumeration sees through an object with one member only. -/
instance (name : α → String) (variants : List α)
    (h : ∀ a, variants.find? (fun b => name b == name a) = some a) :
    (enumeration name variants h).Rekeys where
  read_canon {j} hj := by
    cases hj with
    | @obj ms names members =>
      rw [Json.canon_obj_eq_rekeyed]
      have hperm := Json.rekeyed_perm names
      rcases ms with _ | ⟨⟨s, j⟩, _ | ⟨m, ms⟩⟩
      · rfl
      · cases j <;> rfl
      · have hlength := hperm.length_eq
        rcases hrekeyed : Json.rekeyed ((s, j) :: m :: ms) with _ | ⟨k, _ | ⟨k', ks⟩⟩
        · rw [hrekeyed] at hlength
          simp at hlength
        · rw [hrekeyed] at hlength
          simp at hlength
        · rw [read_enumeration_cons_cons, read_enumeration_cons_cons]
    | _ => rfl

/-- Values that are read alike under different names make the same map. -/
theorem map_ofList_rekeyed {read : Json → Option α} {ms : List (String × Json)}
    (names : (ms.map Prod.fst).Nodup) (hread : ∀ m ∈ ms, read m.2.canon = read m.2) :
    ((Json.rekeyed ms).mapM fun m => (read m.2).map fun a => (m.1, a)).map OrderedMap.ofList =
      (ms.mapM fun m => (read m.2).map fun a => (m.1, a)).map OrderedMap.ofList := by
  have hperm := mapM_perm (f := fun m : String × Json => (read m.2).map fun a => (m.1, a))
    (Json.rekeyed_perm names)
  have hsame : (ms.map fun m => (m.1, m.2.canon)).mapM
      (fun m => (read m.2).map fun a => (m.1, a)) =
      ms.mapM fun m => (read m.2).map fun a => (m.1, a) := by
    rw [List.mapM_map]
    refine mapM_congr_of_mem fun m hm => ?_
    rw [Function.comp_apply, hread m hm]
  have hnames : ∀ pairs, (ms.mapM fun m => (read m.2).map fun a => (m.1, a)) = some pairs →
      pairs.map Prod.fst = ms.map Prod.fst := by
    clear hperm hsame hread names
    induction ms with
    | nil =>
      intro pairs h
      cases h
      rfl
    | cons m ms ih =>
      intro pairs h
      rw [List.mapM_cons] at h
      rcases hm : read m.2 with _ | a
      · simp [hm] at h
      · rcases hms : ms.mapM fun m => (read m.2).map fun a => (m.1, a) with _ | rest
        · simp [hm, hms] at h
        · simp [hm, hms] at h
          subst h
          simp [ih rest hms]
  rw [hsame] at hperm
  revert hperm hnames
  generalize ((Json.rekeyed ms).mapM fun m => (read m.2).map fun a => (m.1, a)) = r
  generalize (ms.mapM fun m => (read m.2).map fun a => (m.1, a)) = r'
  rintro (hpairs | _) hnames
  · rename_i pairs pairs'
    have hnodup : (pairs.map Prod.fst).Nodup :=
      ((hpairs.map Prod.fst).nodup_iff).mpr (hnames pairs' rfl ▸ names)
    simp only [Option.map_some, OrderedMap.ofList_perm hpairs hnodup]
  · rfl

instance (c : Codec α) [c.Rekeys] : (orderedMap c).Rekeys where
  read_canon {j} hj := by
    cases hj with
    | @obj ms names members =>
      rw [Json.canon_obj_eq_rekeyed]
      exact map_ofList_rekeyed names fun m hm => Rekeys.read_canon (c := c) (members m hm)
    | @arr xs elements =>
      rw [Json.canon_arr]
      rfl
    | _ => rfl

end Codec

/-- Every field reads re-keyed trees as it reads the trees. -/
class Fields.Rekeys {τ : Type} (F : Fields τ) : Prop where
  read_canon : ∀ {find : String → Option Json}, (∀ name j, find name = some j → j.Distinct) →
    F.read (fun name => (find name).map Json.canon) = F.read find

instance : Fields.nil.Rekeys := ⟨fun _ => rfl⟩

theorem Fields.cons_rekeys {β τ : Type} {name : String} {c : Codec β} {rest : Fields τ}
    (hc : c.Rekeys) (hrest : rest.Rekeys) : (Fields.cons name c rest).Rekeys where
  read_canon {find} hfind := by
    have hrest := Fields.Rekeys.read_canon (F := rest) hfind
    simp only [Fields.read, hrest]
    rcases hname : find name with _ | j
    · rfl
    · simp only [Option.map_some, Codec.Rekeys.read_canon (hfind name j hname)]

instance {β τ : Type} (name : String) (c : Codec β) (rest : Fields τ) [hc : c.Rekeys]
    [hrest : rest.Rekeys] : (Fields.cons name c rest).Rekeys := Fields.cons_rekeys hc hrest

theorem distinct_of_lookup {ms : List (String × Json)} (members : ∀ m ∈ ms, m.2.Distinct)
    {name : String} {j : Json} (h : ms.lookup name = some j) : j.Distinct := by
  obtain ⟨before, after, hsplit, -⟩ := List.lookup_eq_some_iff.mp h
  exact members (name, j) (hsplit ▸ List.mem_append_right _ List.mem_cons_self)

/-- A record looks at the members of an object by name only. -/
theorem recordMembers_rekeyed {policy : RecordPolicy} {names : List String}
    {ms : List (String × Json)} (h : (ms.map Prod.fst).Nodup) :
    recordMembers policy names (.obj (Json.rekeyed ms)) =
      (recordMembers policy names (.obj ms)).map fun _ => Json.rekeyed ms := by
  have hperm := Json.names_rekeyed_perm h
  have hcount : ∀ n, ((Json.rekeyed ms).map Prod.fst).count n = (ms.map Prod.fst).count n :=
    fun n => hperm.count_eq n
  have hall : ((Json.rekeyed ms).all fun m => names.contains m.1) =
      ms.all fun m => names.contains m.1 := by
    have hmap : ∀ l : List (String × Json),
        (l.all fun m => names.contains m.1) = (l.map Prod.fst).all fun n => names.contains n := by
      intro l
      rw [List.all_map]
      rfl
    rw [hmap, hmap]
    exact Bool.eq_iff_iff.mpr (by simp only [List.all_eq_true, hperm.mem_iff])
  simp only [recordMembers, hcount, hall]
  split_ifs
  · rfl
  · rfl

theorem Codec.record_rekeys {α τ : Type} {policy : RecordPolicy} {F : Fields τ} {toTuple : α → τ}
    {ofTuple : τ → α} {hinv : ∀ a, ofTuple (toTuple a) = a} {hnames : F.names.Nodup}
    (hF : F.Rekeys) : (Codec.record policy F toTuple ofTuple hinv hnames).Rekeys where
  read_canon {j} hj := by
    cases hj with
    | @obj ms names members =>
      rw [Json.canon_obj_eq_rekeyed]
      simp only [Codec.record, recordMembers_rekeyed names]
      rcases hmembers : recordMembers policy F.names (.obj ms) with _ | ms'
      · rfl
      · have hsame : ms' = ms := by
          simp only [recordMembers] at hmembers
          split_ifs at hmembers
          exact (Option.some.inj hmembers).symm
        subst hsame
        have hfind : (fun n => (Json.rekeyed ms').lookup n) =
            fun n => (ms'.lookup n).map Json.canon := funext (Json.lookup_rekeyed names)
        simp only [Option.map_some, Option.bind_some, hfind,
          Fields.Rekeys.read_canon fun name j h => distinct_of_lookup members h]
    | @arr xs elements =>
      rw [Json.canon_arr]
      simp only [Codec.record, recordMembers, List.length_map]
      split_ifs
      · have hfind : (fun n => (F.names.zip (xs.map Json.canon)).lookup n) =
            fun n => ((F.names.zip xs).lookup n).map Json.canon := by
          funext n
          rw [← Json.lookup_map_canon, List.zip_map_right]
          rfl
        have hdistinct : ∀ m ∈ F.names.zip xs, m.2.Distinct := fun m hm =>
          elements m.2 (List.of_mem_zip hm).2
        simp only [Option.bind_some, hfind,
          Fields.Rekeys.read_canon fun name j h => distinct_of_lookup hdistinct h]
      · rfl
    | _ => rfl
