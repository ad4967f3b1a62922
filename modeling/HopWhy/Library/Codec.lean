import HopWhy.Library.Json
import Mathlib.Data.List.Nodup

/-!
# Derived readers and writers

A codec writes a value as a JSON tree and reads it back from any tree that a
document may hold in its place. The one law of a codec is that the re-keyed
writing reads back as the value: it makes the writing injective, and it lets a
reader meet the members in any order. Records are written from a list of named
fields; their reader looks members up by name, lets a missing one stand for
what its codec says, refuses repeated fields, and takes an array for the fields
in declared order.
-/

/-- How a type is written to and read from a tree; `absent` is what a missing
member stands for. -/
structure Codec (α : Type) where
  write : α → Json
  read : Json → Option α
  absent : Option α
  read_write : ∀ a, read (write a).canon = some a

namespace Codec

variable {α β : Type}

/-- Two values written alike are the same value. -/
theorem write_injective (c : Codec α) : Function.Injective c.write := by
  intro a b h
  have hread := c.read_write a
  rw [h, c.read_write b] at hread
  exact (Option.some.inj hread).symm

/-- The same reader, with a value for a missing member. -/
def withDefault (c : Codec α) (a : α) : Codec α := { c with absent := some a }

def string : Codec String where
  write := .str
  read
    | .str s => some s
    | _ => none
  absent := none
  read_write _ := rfl

def bool : Codec Bool where
  write := .bool
  read
    | .bool b => some b
    | _ => none
  absent := none
  read_write _ := rfl

def u64 : Codec UInt64 where
  write n := .num (.posInt n)
  read
    | .num (.posInt n) => some n
    | _ => none
  absent := none
  read_write _ := rfl

def u32 : Codec UInt32 where
  write n := .num (.posInt n.toUInt64)
  read
    | .num (.posInt n) => if n.toNat < 2 ^ 32 then some n.toUInt32 else none
    | _ => none
  absent := none
  read_write n := by
    simpa using n.toNat_lt

def u16 : Codec UInt16 where
  write n := .num (.posInt n.toUInt64)
  read
    | .num (.posInt n) => if n.toNat < 2 ^ 16 then some n.toUInt16 else none
    | _ => none
  absent := none
  read_write n := by
    simpa using n.toNat_lt

/-- A double also reads an integer token, converted. -/
def f64 : Codec F64 where
  write x := .num (.float x)
  read
    | .num (.float x) => some x
    | .num (.posInt n) => some (F64.ofUInt64 n)
    | .num (.negInt n) => some (F64.ofNegative n)
    | _ => none
  absent := none
  read_write _ := rfl

def value : Codec Value where
  write := Value.tree
  read j := some (Value.ofJson j)
  absent := none
  read_write v := by rw [Value.ofJson_canon, Value.ofJson_tree]

/-- A missing member and `null` both stand for `none`. -/
def option (c : Codec α) (h : ∀ a, c.write a ≠ .null) : Codec (Option α) where
  write
    | none => .null
    | some a => c.write a
  read
    | .null => some none
    | j => (c.read j).map some
  absent := some none
  read_write
    | none => rfl
    | some a => by
      have hne : (c.write a).canon ≠ .null := Json.canon_eq_null.not.mpr (h a)
      simp only [c.read_write a, Option.map_some]

/-- A tree read by `option c` that is not `null` is read by `c`. -/
theorem read_option {c : Codec α} {h : ∀ a, c.write a ≠ .null} {j : Json} (hj : j ≠ .null) :
    (option c h).read j = (c.read j).map some := by
  simp only [option]

theorem mapM_read_map (c : Codec α) (xs : List α) :
    (xs.map fun a => (c.write a).canon).mapM c.read = some xs := by
  induction xs with
  | nil => rfl
  | cons a xs ih => simp [c.read_write, ih]

def list (c : Codec α) : Codec (List α) where
  write xs := .arr (xs.map c.write)
  read
    | .arr js => js.mapM c.read
    | _ => none
  absent := none
  read_write xs := by
    simpa [Function.comp_def] using mapM_read_map c xs

/-- A map from strings; of repeated names the last stays. -/
def orderedMap (c : Codec α) : Codec (OrderedMap String α) where
  write m := .obj (m.entries.map fun e => (e.1, c.write e.2))
  read
    | .obj ms => (ms.mapM fun m => (c.read m.2).map fun a => (m.1, a)).map OrderedMap.ofList
    | _ => none
  absent := none
  read_write m := by
    have hinc : KeysIncrease (m.entries.map fun e => (e.1, c.write e.2)) :=
      List.pairwise_map.mpr m.increasing
    have hread : ∀ l : List (String × α),
        (l.map fun e => (e.1, (c.write e.2).canon)).mapM
          (fun m => (c.read m.2).map fun a => (m.1, a)) = some l := by
      intro l
      induction l with
      | nil => rfl
      | cons e l ih =>
        rw [List.map_cons, List.mapM_cons, ih, c.read_write]
        rfl
    rw [Json.canon_obj_of_keysIncrease hinc]
    simp only [List.map_map, Function.comp_def, hread, Option.map_some, OrderedMap.ofList_entries]

abbrev stringMap : Codec (OrderedMap String String) := orderedMap string

/-- A unit enumeration, written as the name of the variant. The reader also
takes an object whose one member is the name of the variant with a `null`. -/
def enumeration (name : α → String) (variants : List α)
    (h : ∀ a, variants.find? (fun b => name b == name a) = some a) : Codec α where
  write a := .str (name a)
  read
    | .str s => variants.find? fun b => name b == s
    | .obj [(s, .null)] => variants.find? fun b => name b == s
    | _ => none
  absent := none
  read_write a := h a

end Codec

/-- The named fields of a record whose values form the tuple type `τ`. -/
inductive Fields : Type → Type 1
  | nil : Fields Unit
  | cons {β τ : Type} (name : String) (codec : Codec β) (rest : Fields τ) : Fields (β × τ)

namespace Fields

variable {τ : Type}

def names : {τ : Type} → Fields τ → List String
  | _, nil => []
  | _, cons n _ r => n :: r.names

def write : {τ : Type} → Fields τ → τ → List (String × Json)
  | _, nil, () => []
  | _, cons n c r, (b, t) => (n, c.write b) :: r.write t

/-- Reads every field from the member of its name. -/
def read (find : String → Option Json) : {τ : Type} → Fields τ → Option τ
  | _, nil => some ()
  | _, cons n c r =>
    match (match find n with | some j => c.read j | none => c.absent), r.read find with
    | some b, some t => some (b, t)
    | _, _ => none

theorem keys_write (F : Fields τ) (t : τ) : (F.write t).map Prod.fst = F.names := by
  induction F with
  | nil => rfl
  | cons n c r ih => simp [write, names, ih t.2]

theorem read_write (F : Fields τ) (t : τ) (find : String → Option Json)
    (hfind : ∀ m ∈ F.write t, find m.1 = some m.2.canon) : F.read find = some t := by
  induction F with
  | nil => rfl
  | cons n c r ih =>
    have hhead := hfind (n, c.write t.1) List.mem_cons_self
    have htail := ih t.2 fun m hm => hfind m (List.mem_cons_of_mem _ hm)
    simp only [read, hhead, htail, c.read_write]

end Fields

theorem lookup_of_mem_of_nodup {ν : Type} {l : List (String × ν)}
    (h : (l.map Prod.fst).Nodup) {e : String × ν} (he : e ∈ l) : l.lookup e.1 = some e.2 := by
  induction l with
  | nil => simp at he
  | cons f l ih =>
    have hnd := List.nodup_cons.mp h
    rw [lookup_cons_ite]
    rcases List.mem_cons.mp he with rfl | he
    · simp
    · rw [if_neg fun heq : e.1 = f.1 => hnd.1 (heq ▸ List.mem_map_of_mem he), ih hnd.2 he]

/-- The members of a re-keyed object are its members, re-keyed, if no name repeats. -/
theorem mem_canon_members {ms : List (String × Json)} (h : (ms.map Prod.fst).Nodup)
    {m : String × Json} (hm : m ∈ ms) :
    (m.1, m.2.canon) ∈ collectInto [] (ms.map fun m => (m.1, m.2.canon)) := by
  have hkeys : ((ms.map fun m => (m.1, m.2.canon)).map Prod.fst).Nodup := by
    simpa [Function.comp_def] using h
  have hlookup : (collectInto [] (ms.map fun m => (m.1, m.2.canon))).lookup m.1 =
      some m.2.canon := by
    rw [lookup_collectInto hkeys, lookup_of_mem_of_nodup hkeys
      (List.mem_map_of_mem (f := fun m : String × Json => (m.1, m.2.canon)) hm)]
    rfl
  obtain ⟨before, after, hsplit, -⟩ := List.lookup_eq_some_iff.mp hlookup
  rw [hsplit]
  exact List.mem_append_right _ List.mem_cons_self

/-- How a record meets a document: `closed` refuses unknown members, `defaults`
lets an array stop before the last field. -/
structure RecordPolicy where
  closed : Bool := false
  defaults : Bool := false

/-- The members a record reader works with, or `none` when the shape is refused. -/
def recordMembers (policy : RecordPolicy) (names : List String) :
    Json → Option (List (String × Json))
  | .obj ms =>
    if (names.all fun n => decide ((ms.map Prod.fst).count n ≤ 1)) &&
        (!policy.closed || ms.all fun m => names.contains m.1) then some ms else none
  | .arr xs =>
    if xs.length = names.length ∨ (policy.defaults = true ∧ xs.length ≤ names.length) then
      some (names.zip xs)
    else none
  | _ => none

namespace Codec

variable {α τ : Type}

/-- The derived codec of a record, through the tuple of its fields. -/
def record (policy : RecordPolicy) (F : Fields τ) (toTuple : α → τ) (ofTuple : τ → α)
    (hinv : ∀ a, ofTuple (toTuple a) = a) (hnames : F.names.Nodup) : Codec α where
  write a := .obj (F.write (toTuple a))
  read j := (recordMembers policy F.names j).bind fun ms =>
    (F.read fun n => ms.lookup n).map ofTuple
  absent := none
  read_write a := by
    let ms := (F.write (toTuple a)).map fun m => (m.1, m.2.canon)
    have hkeys : ms.map Prod.fst = F.names := by
      simp only [ms, List.map_map, Function.comp_def]
      exact F.keys_write (toTuple a)
    have hinc : KeysIncrease (collectInto [] ms) := keysIncrease_collectInto List.Pairwise.nil ms
    have hmembers : recordMembers policy F.names (.obj (collectInto [] ms)) =
        some (collectInto [] ms) := by
      refine if_pos ?_
      simp only [Bool.and_eq_true, List.all_eq_true, decide_eq_true_eq, Bool.or_eq_true]
      refine ⟨fun n _ => List.nodup_iff_count_le_one.mp hinc.nodup n, Or.inr fun e he => ?_⟩
      rcases mem_collectInto he with he | he
      · simp at he
      · simpa [hkeys] using List.mem_map_of_mem (f := Prod.fst) he
    have hfind : ∀ m ∈ F.write (toTuple a),
        (collectInto [] ms).lookup m.1 = some m.2.canon := by
      intro m hm
      have hmem : (m.1, m.2.canon) ∈ ms := List.mem_map_of_mem hm
      rw [lookup_collectInto (hkeys ▸ hnames),
        lookup_of_mem_of_nodup (hkeys ▸ hnames) hmem]
      rfl
    have hread := F.read_write (toTuple a) (fun n => (collectInto [] ms).lookup n) hfind
    rw [Json.canon_obj, hmembers, Option.bind_some, hread, Option.map_some, hinv]

theorem record_write_ne_null {policy : RecordPolicy} {F : Fields τ} {toTuple : α → τ}
    {ofTuple : τ → α} {hinv hnames} (a : α) :
    (record policy F toTuple ofTuple hinv hnames).write a ≠ .null := by
  simp [record]

end Codec
