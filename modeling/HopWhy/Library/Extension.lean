import HopWhy.Library.Codec

/-!
# Extending documents

Edits of a tree at one place, and what the derived readers make of them. An open
record reader ignores a member it has no field for, wherever it stands, and a
closed one refuses it; a reader around the place follows the reader at the place.
-/

namespace Json

/-- The object has one more member, of a name that is not among the names. -/
def Extends (names : List String) (name : String) (value : Json) (j j' : Json) : Prop :=
  name ∉ names ∧ ∃ pre post, j = .obj (pre ++ post) ∧ j' = .obj (pre ++ (name, value) :: post)

/-- The trees differ in one field of a record, which an object names and an
array holds at its place. -/
inductive AtField (names : List String) (field : String) (E : Json → Json → Prop) :
    Json → Json → Prop
  | named (pre post : List (String × Json)) {x x' : Json} (h : E x x') :
    AtField names field E (.obj (pre ++ (field, x) :: post)) (.obj (pre ++ (field, x') :: post))
  | placed (pre post : List Json) (hplace : names[pre.length]? = some field) {x x' : Json}
    (h : E x x') : AtField names field E (.arr (pre ++ x :: post)) (.arr (pre ++ x' :: post))

/-- The trees differ in one element of an array. -/
inductive AtElement (E : Json → Json → Prop) : Json → Json → Prop
  | mk (pre post : List Json) {x x' : Json} (h : E x x') :
    AtElement E (.arr (pre ++ x :: post)) (.arr (pre ++ x' :: post))

theorem Extends.ne_null {names : List String} {name : String} {value j j' : Json}
    (h : Extends names name value j j') : j ≠ .null ∧ j' ≠ .null := by
  obtain ⟨-, pre, post, rfl, rfl⟩ := h
  simp

end Json

open Json

namespace Codec

variable {α : Type}

/-- The reader makes the same of both trees of an edit. -/
def Ignores (E : Json → Json → Prop) (c : Codec α) : Prop := ∀ j j', E j j' → c.read j' = c.read j

/-- The reader refuses the edited tree. -/
def Refuses (E : Json → Json → Prop) (c : Codec α) : Prop := ∀ j j', E j j' → c.read j' = none

theorem Ignores.list {E : Json → Json → Prop} {c : Codec α} (h : c.Ignores E) :
    (Codec.list c).Ignores (AtElement E) := by
  rintro _ _ ⟨pre, post, hx⟩
  simp only [Codec.list, List.mapM_append, List.mapM_cons, h _ _ hx]

theorem Ignores.option {E : Json → Json → Prop} {c : Codec α} {hc : ∀ a, c.write a ≠ .null}
    (h : c.Ignores E) (hne : ∀ j j', E j j' → j ≠ .null ∧ j' ≠ .null) :
    (Codec.option c hc).Ignores E := by
  intro j j' hE
  obtain ⟨hj, hj'⟩ := hne j j' hE
  rw [read_option hj, read_option hj', h j j' hE]

end Codec

namespace Fields

variable {τ : Type}

/-- Every codec of the field has the property. -/
def At (field : String) (P : ∀ {β : Type}, Codec β → Prop) : {τ : Type} → Fields τ → Prop
  | _, nil => True
  | _, cons n c r => (n = field → P c) ∧ r.At field P

variable {F : Fields τ} {field : String} {E : Json → Json → Prop} {x x' : Json}
  {find find' : String → Option Json}

theorem read_ignores (h : F.At field (Codec.Ignores E)) (hE : E x x') (hfind : find field = some x)
    (hfind' : find' field = some x') (hother : ∀ n, n ≠ field → find' n = find n) :
    F.read find' = F.read find := by
  induction F with
  | nil => rfl
  | cons n c r ih =>
    have hrest := ih h.2
    by_cases hn : n = field
    · subst hn
      simp only [read, hfind, hfind', h.1 rfl _ _ hE, hrest]
    · simp only [read, hother n hn, hrest]

theorem read_congr (h : ∀ n ∈ F.names, find' n = find n) : F.read find' = F.read find := by
  induction F with
  | nil => rfl
  | cons n c r ih =>
    have hhead := h n List.mem_cons_self
    have hrest := ih fun m hm => h m (List.mem_cons_of_mem _ hm)
    simp only [read, hhead, hrest]

theorem read_refuses (h : F.At field (Codec.Refuses E)) (hmem : field ∈ F.names) (hE : E x x')
    (hfind' : find' field = some x') : F.read find' = none := by
  induction F with
  | nil => cases hmem
  | cons n c r ih =>
    by_cases hn : n = field
    · subst hn
      simp only [read, hfind', h.1 rfl _ _ hE]
    · have hrest := ih h.2 ((List.mem_cons.mp hmem).resolve_left (Ne.symm hn))
      simp only [read, hrest]
      split <;> simp_all

end Fields

section Lookup

variable {ν : Type} {pre post : List (String × ν)} {field n : String} {v v' : ν}

theorem lookup_insert_of_ne (h : n ≠ field) :
    (pre ++ (field, v) :: post).lookup n = (pre ++ post).lookup n := by
  rw [List.lookup_append, List.lookup_append, lookup_cons_ite, if_neg h]

theorem lookup_replace_of_ne (h : n ≠ field) :
    (pre ++ (field, v') :: post).lookup n = (pre ++ (field, v) :: post).lookup n := by
  rw [lookup_insert_of_ne h, lookup_insert_of_ne h]

theorem lookup_self_of_none (h : pre.lookup field = none) :
    (pre ++ (field, v) :: post).lookup field = some v := by
  rw [List.lookup_append, h, lookup_cons_ite, if_pos rfl]
  rfl

/-- A member behind another of its name is not looked up. -/
theorem lookup_replace_of_some {u : ν} (h : pre.lookup field = some u) (n : String) :
    (pre ++ (field, v') :: post).lookup n = (pre ++ (field, v) :: post).lookup n := by
  by_cases hn : n = field
  · subst hn
    rw [List.lookup_append, List.lookup_append, h]
    rfl
  · exact lookup_replace_of_ne hn

end Lookup

theorem exists_names_around {names : List String} {field : String} {n : ℕ}
    (h : names[n]? = some field) :
    ∃ before after, names = before ++ field :: after ∧ before.length = n := by
  obtain ⟨hlt, rfl⟩ := List.getElem?_eq_some_iff.mp h
  exact ⟨names.take n, names.drop (n + 1), by simp, by rw [List.length_take]; omega⟩

theorem zip_around {before after : List String} {field : String} {pre post : List Json} {x : Json}
    (h : before.length = pre.length) :
    (before ++ field :: after).zip (pre ++ x :: post) =
      before.zip pre ++ (field, x) :: after.zip post := by
  rw [List.zip_append h, List.zip_cons_cons]

namespace Codec

variable {α τ : Type} {policy : RecordPolicy} {F : Fields τ} {toTuple : α → τ} {ofTuple : τ → α}
  {hinv : ∀ a, ofTuple (toTuple a) = a} {hnames : F.names.Nodup} {field : String}
  {E : Json → Json → Prop}

theorem read_record (j : Json) : (record policy F toTuple ofTuple hinv hnames).read j =
    (recordMembers policy F.names j).bind fun ms =>
      (F.read fun n => ms.lookup n).map ofTuple := rfl

/-- The names of the members decide the shape of an object. -/
theorem recordMembers_obj {names : List String} {ms ms' : List (String × Json)}
    (h : ms'.map Prod.fst = ms.map Prod.fst) :
    recordMembers policy names (.obj ms') =
      (recordMembers policy names (.obj ms)).map fun _ => ms' := by
  have hall : (ms'.all fun m => names.contains m.1) = ms.all fun m => names.contains m.1 := by
    have := congrArg (fun keys => keys.all fun k => names.contains k) h
    simpa only [List.all_map, Function.comp_def] using this
  simp only [recordMembers, h, hall]
  split_ifs <;> rfl

theorem ignores_extends (hopen : policy.closed = false) (name : String) (value : Json) :
    (record policy F toTuple ofTuple hinv hnames).Ignores (Extends F.names name value) := by
  rintro _ _ ⟨hname, pre, post, rfl, rfl⟩
  have hne : ∀ n ∈ F.names, n ≠ name := fun n hn heq => hname (heq ▸ hn)
  have hcount : ∀ n ∈ F.names, ((pre ++ (name, value) :: post).map Prod.fst).count n =
      ((pre ++ post).map Prod.fst).count n := by
    intro n hn
    simp [(hne n hn).symm]
  have hshape : (F.names.all fun n =>
      decide (((pre ++ (name, value) :: post).map Prod.fst).count n ≤ 1)) =
        F.names.all fun n => decide (((pre ++ post).map Prod.fst).count n ≤ 1) := by
    rw [Bool.eq_iff_iff, List.all_eq_true, List.all_eq_true]
    exact forall₂_congr fun n hn => by rw [hcount n hn]
  have hread : F.read (fun n => (pre ++ (name, value) :: post).lookup n) =
      F.read fun n => (pre ++ post).lookup n :=
    Fields.read_congr fun n hn => lookup_insert_of_ne (hne n hn)
  rw [read_record, read_record, recordMembers, recordMembers, hshape, hopen]
  simp only [Bool.not_false, Bool.true_or, Bool.and_true]
  split_ifs
  · rw [Option.bind_some, Option.bind_some, hread]
  · rfl

theorem refuses_extends (hclosed : policy.closed = true) (name : String) (value : Json) :
    (record policy F toTuple ofTuple hinv hnames).Refuses (Extends F.names name value) := by
  rintro _ _ ⟨hname, pre, post, rfl, rfl⟩
  rw [read_record, recordMembers, hclosed]
  simp [hname]

/-- The reader of the fields follows the reader of the replaced member. -/
theorem read_replace (h : F.At field (Ignores E)) {x x' : Json} (hE : E x x')
    (pre post : List (String × Json)) :
    F.read (fun n => (pre ++ (field, x') :: post).lookup n) =
      F.read fun n => (pre ++ (field, x) :: post).lookup n := by
  rcases hpre : pre.lookup field with _ | u
  · exact Fields.read_ignores h hE (lookup_self_of_none hpre) (lookup_self_of_none hpre)
      fun n hn => lookup_replace_of_ne hn
  · exact Fields.read_congr fun n _ => lookup_replace_of_some hpre n

/-- Members of an accepted object are its own, and no field stands twice. -/
theorem of_recordMembers_obj {names : List String} {ms ms' : List (String × Json)}
    (h : recordMembers policy names (.obj ms) = some ms') :
    ms' = ms ∧ ∀ n ∈ names, (ms.map Prod.fst).count n ≤ 1 := by
  rw [recordMembers] at h
  split_ifs at h with hshape
  rw [Bool.and_eq_true, List.all_eq_true] at hshape
  exact ⟨(Option.some.inj h).symm, fun n hn => of_decide_eq_true (hshape.1 n hn)⟩

theorem lookup_eq_none_of_count_le {pre post : List (String × Json)} {x : Json}
    (h : ((pre ++ (field, x) :: post).map Prod.fst).count field ≤ 1) :
    pre.lookup field = none := by
  rw [List.lookup_eq_none_iff]
  intro m hm
  have hpos : field ∉ pre.map Prod.fst := by
    intro hmem
    have := List.count_pos_iff.mpr hmem
    simp only [List.map_append, List.map_cons, List.count_append, List.count_cons_self] at h
    omega
  exact bne_iff_ne.mpr fun heq => hpos (heq ▸ List.mem_map_of_mem hm)

theorem ignores_atField (h : F.At field (Ignores E)) :
    (record policy F toTuple ofTuple hinv hnames).Ignores (AtField F.names field E) := by
  intro j j' hedit
  rw [read_record, read_record]
  cases hedit with
  | named pre post hE =>
    rename_i x x'
    have hkeys : (pre ++ (field, x') :: post).map Prod.fst =
        (pre ++ (field, x) :: post).map Prod.fst := by simp
    rw [recordMembers_obj hkeys]
    rcases hms : recordMembers policy F.names (.obj (pre ++ (field, x) :: post)) with _ | ms
    · rfl
    · obtain ⟨rfl, -⟩ := of_recordMembers_obj hms
      exact congrArg (Option.map ofTuple) (read_replace h hE pre post)
  | placed pre post hplace hE =>
    obtain ⟨before, after, hsplit, hlength⟩ := exists_names_around hplace
    have hzip : ∀ y, F.names.zip (pre ++ y :: post) =
        before.zip pre ++ (field, y) :: after.zip post := by
      intro y
      rw [hsplit, zip_around hlength]
    simp only [recordMembers, List.length_append, List.length_cons, hzip]
    split_ifs
    · exact congrArg (Option.map ofTuple) (read_replace h hE _ _)
    · rfl

theorem refuses_atField (hmem : field ∈ F.names) (h : F.At field (Refuses E)) :
    (record policy F toTuple ofTuple hinv hnames).Refuses (AtField F.names field E) := by
  intro j j' hedit
  rw [read_record, Option.bind_eq_none_iff]
  cases hedit with
  | named pre post hE =>
    intro ms hms
    obtain ⟨rfl, hcount⟩ := of_recordMembers_obj hms
    have hpre := lookup_eq_none_of_count_le (hcount field hmem)
    rw [Fields.read_refuses h hmem hE (lookup_self_of_none hpre)]
    rfl
  | placed pre post hplace hE =>
    rename_i x x'
    intro ms hms
    obtain ⟨before, after, hsplit, hlength⟩ := exists_names_around hplace
    have hpre : (before.zip pre).lookup field = none := by
      have hnodup := hnames
      rw [hsplit, List.nodup_middle] at hnodup
      rw [List.lookup_eq_none_iff]
      intro m hm
      have hbefore := (List.of_mem_zip hm).1
      exact bne_iff_ne.mpr fun heq =>
        (List.nodup_cons.mp hnodup).1 (List.mem_append_left _ (heq ▸ hbefore))
    have hzip : F.names.zip (pre ++ x' :: post) =
        before.zip pre ++ (field, x') :: after.zip post := by
      rw [hsplit, zip_around hlength]
    rw [recordMembers] at hms
    split_ifs at hms
    rw [← Option.some.inj hms, hzip, Fields.read_refuses h hmem hE (lookup_self_of_none hpre)]
    rfl

end Codec
