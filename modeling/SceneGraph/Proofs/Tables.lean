import Mathlib.Data.List.Nodup
import Mathlib.Data.List.Perm.Basic
import SceneGraph.Expr.Registry
import SceneGraph.Schema.Builtin

/-!
# Tables are in order

The names of a table ascend, and the table of entries with different names has these entries. So any list of the
entries whose names ascend is their table: the built-in node types and compilers, in order, are the built-in tables.

* `Table.ascending_ofList`: names ascend.
* `Table.perm_ofList`: a table has the entries that it is made from.
* `Schema.builtin_eq`, `Registry.builtin_eq`: the built-in tables as lists.
-/
set_option autoImplicit false

namespace SceneGraph

namespace Table

variable {α : Type}

/-- The names of a table ascend. -/
def Ascending (t : Table α) : Prop := t.Pairwise fun d e => d.1 < e.1

theorem mem_of_mem_insert {t : Table α} {name : String} {value : α} {e : String × α}
    (h : e ∈ t.insert name value) : e = (name, value) ∨ e ∈ t := by
  induction t with
  | nil => exact .inl (List.mem_singleton.1 h)
  | cons d rest ih =>
    unfold insert at h
    split at h
    · exact (List.mem_cons.1 h).imp_right (List.mem_cons_of_mem _)
    · split at h
      · exact List.mem_cons.1 h
      · rcases List.mem_cons.1 h with rfl | h
        · exact .inr List.mem_cons_self
        · exact (ih h).imp_right (List.mem_cons_of_mem _)

theorem Ascending.insert {t : Table α} (h : t.Ascending) (name : String) (value : α) :
    (t.insert name value).Ascending := by
  induction t with
  | nil => exact List.pairwise_singleton _ _
  | cons d rest ih =>
    obtain ⟨hfirst, hrest⟩ := List.pairwise_cons.1 h
    unfold Table.insert
    split
    · rename_i hname
      exact List.pairwise_cons.2 ⟨fun e he => hname ▸ hfirst e he, hrest⟩
    · rename_i hname
      split
      · rename_i hless
        refine List.pairwise_cons.2 ⟨fun e he => ?_, h⟩
        rcases List.mem_cons.1 he with rfl | he
        · exact hless
        · exact String.lt_trans hless (hfirst e he)
      · rename_i hless
        have hgreater : d.1 < name := Decidable.byContradiction fun hnot =>
          hname (String.le_antisymm (String.not_lt.1 hnot) (String.not_lt.1 hless))
        refine List.pairwise_cons.2 ⟨fun e he => ?_, ih hrest⟩
        rcases mem_of_mem_insert he with rfl | he
        · exact hgreater
        · exact hfirst e he

/-- The names of a table ascend, whatever it is made from. -/
theorem ascending_ofList (entries : List (String × α)) : (ofList entries).Ascending := by
  have hfold : ∀ t : Table α, t.Ascending → (entries.foldl (fun t e => t.insert e.1 e.2) t).Ascending := by
    induction entries with
    | nil => exact fun t h => h
    | cons e rest ih => exact fun t h => ih _ (h.insert e.1 e.2)
  exact hfold [] .nil

theorem mem_of_mem_ofList {entries : List (String × α)} {e : String × α} (h : e ∈ ofList entries) : e ∈ entries := by
  have hfold : ∀ t : Table α, e ∈ entries.foldl (fun t e => t.insert e.1 e.2) t → e ∈ t ∨ e ∈ entries := by
    clear h
    induction entries with
    | nil => exact fun t he => .inl he
    | cons d rest ih =>
      intro t he
      rcases ih _ he with he | he
      · exact (mem_of_mem_insert he).symm.imp id fun h => List.mem_cons.2 (.inl h)
      · exact .inr (List.mem_cons_of_mem _ he)
  exact (hfold [] h).resolve_left (List.not_mem_nil)

theorem perm_insert {t : Table α} {name : String} (hnew : ∀ e ∈ t, e.1 ≠ name) (value : α) :
    (t.insert name value).Perm ((name, value) :: t) := by
  induction t with
  | nil => exact .refl _
  | cons d rest ih =>
    unfold insert
    rw [if_neg fun h => hnew d List.mem_cons_self h.symm]
    split
    · exact .refl _
    · exact ((ih fun e he => hnew e (List.mem_cons_of_mem _ he)).cons d).trans (.swap _ _ _)

/-- The table of entries with different names has these entries. -/
theorem perm_ofList {entries : List (String × α)} (h : (entries.map Prod.fst).Nodup) :
    (ofList entries).Perm entries := by
  have hfold : ∀ t : Table α, ((entries ++ t).map Prod.fst).Nodup →
      (entries.foldl (fun t e => t.insert e.1 e.2) t).Perm (entries ++ t) := by
    clear h
    induction entries with
    | nil => exact fun t _ => .refl t
    | cons e rest ih =>
      intro t ht
      obtain ⟨hnew, hrest⟩ := List.nodup_cons.1 ht
      have hinsert : (t.insert e.1 e.2).Perm (e :: t) := perm_insert
        (fun d hd hname => hnew (List.mem_map.2 ⟨d, List.mem_append_right rest hd, hname⟩)) e.2
      have hall : (rest ++ t.insert e.1 e.2).Perm (e :: (rest ++ t)) :=
        (hinsert.append_left rest).trans List.perm_middle
      exact (ih _ ((hall.map Prod.fst).nodup_iff.2 ht)).trans hall
  have hempty := hfold [] (by rwa [List.append_nil])
  rwa [List.append_nil] at hempty

theorem get?_cons (name key : String) (value : α) (t : Table α) :
    get? ((name, value) :: t) key = if name = key then some value else t.get? key := by
  unfold get?
  rw [List.find?_cons]
  by_cases h : name = key
  · simp [h]
  · have hname : (name == key) = false := by simpa using h
    simp [h, hname]

theorem mem_of_get? {t : Table α} {key : String} {value : α} (h : t.get? key = some value) : (key, value) ∈ t := by
  obtain ⟨e, he, rfl⟩ := Option.map_eq_some_iff.1 h
  have hname : e.1 = key := by simpa using List.find?_some he
  exact hname ▸ List.mem_of_find?_eq_some he

theorem get?_eq_none_iff {t : Table α} {key : String} : t.get? key = none ↔ ∀ e ∈ t, e.1 ≠ key := by
  unfold get?
  simp

theorem has_iff {t : Table α} {key : String} : t.has key = true ↔ ∃ v, t.get? key = some v := by
  rw [← Option.isSome_iff_exists, Table.get?, Option.isSome_map, List.find?_isSome]
  simp [Table.has]

namespace Ascending

variable {t u : Table α} {e : String × α}

theorem tail (h : Ascending (e :: t)) : t.Ascending := (List.pairwise_cons.1 h).2

theorem get?_tail (h : Ascending (e :: t)) : t.get? e.1 = none :=
  get?_eq_none_iff.2 fun d hd => (String.ne_of_lt ((List.pairwise_cons.1 h).1 d hd)).symm

theorem get?_eq_some_iff (h : t.Ascending) {key : String} {value : α} :
    t.get? key = some value ↔ (key, value) ∈ t := by
  refine ⟨mem_of_get?, fun hmem => ?_⟩
  induction t with
  | nil => cases hmem
  | cons e rest ih =>
    rw [show e = (e.1, e.2) from rfl, get?_cons]
    rcases List.mem_cons.1 hmem with rfl | hmem
    · simp
    · have hne : e.1 ≠ key := String.ne_of_lt ((List.pairwise_cons.1 h).1 _ hmem)
      rw [if_neg hne]
      exact ih h.tail hmem

theorem nodup (h : t.Ascending) : t.Nodup :=
  List.Pairwise.imp (fun hlt heq => String.ne_of_lt hlt (congrArg Prod.fst heq)) h

/-- Tables with the same values under all names are equal. -/
theorem ext (ht : t.Ascending) (hu : u.Ascending) (h : ∀ key, t.get? key = u.get? key) : t = u := by
  have hperm : t.Perm u := (List.perm_ext_iff_of_nodup ht.nodup hu.nodup).2 fun e => by
    rw [← ht.get?_eq_some_iff, ← hu.get?_eq_some_iff, h]
  exact hperm.eq_of_pairwise (fun d e _ _ h h' => absurd h' (String.lt_asymm h)) ht hu

end Ascending

/-- Some of a list of entries, by their places. -/
def pick (order : List Nat) (entries : List (String × α)) : Table α := order.filterMap fun i => entries[i]?

theorem pick_range (entries : List (String × α)) : pick (List.range entries.length) entries = entries := by
  induction entries with
  | nil => rfl
  | cons e rest ih =>
    rw [pick, List.length_cons, List.range_succ_eq_map, List.filterMap_cons, List.filterMap_map]
    exact congrArg (e :: ·) ih

/-- Entries in ascending order of their names are the table of the entries. -/
theorem ofList_eq_pick {order : List Nat} {entries : List (String × α)}
    (hall : order.Perm (List.range entries.length))
    (hchain : ((pick order entries).map Prod.fst).IsChain (· < ·)) : ofList entries = pick order entries := by
  have hascending : (pick order entries).Ascending := List.pairwise_map.1 (List.isChain_iff_pairwise.1 hchain)
  have hperm : (pick order entries).Perm entries := by
    have h := hall.filterMap fun i => entries[i]?
    rwa [← pick, ← pick, pick_range] at h
  have hnodup : (entries.map Prod.fst).Nodup :=
    (hperm.map Prod.fst).nodup_iff.1 (List.pairwise_map.2 (hascending.imp fun h => String.ne_of_lt h))
  exact ((perm_ofList hnodup).trans hperm.symm).eq_of_pairwise
    (fun d e _ _ h h' => absurd h' (String.lt_asymm h)) (ascending_ofList entries) hascending

end Table

/-! ## The built-in tables -/

/-- The places of the built-in node types, by ascending name. -/
def Builtin.typeOrder : List Nat :=
  [31, 43, 60, 52, 3, 5, 4, 18, 33, 9, 56, 22, 64, 58, 6, 29, 54, 46, 53, 36, 65, 16, 32, 34, 7, 12, 13, 27, 11, 17, 42,
    37, 23, 48, 47, 55, 50, 45, 38, 41, 62, 40, 61, 49, 8, 2, 1, 26, 14, 39, 0, 59, 28, 57, 63, 35, 51, 44, 30, 15, 24,
    10, 25, 19, 20, 21]

/-- The places of the built-in input types, by ascending name. -/
def Builtin.compatOrder : List Nat := [12, 3, 0, 10, 9, 1, 7, 11, 8, 2, 4, 5, 6]

/-- The built-in schema with its tables as lists. -/
def Schema.listed : Schema :=
  { Schema.builtin with
    types := Table.pick Builtin.typeOrder (Builtin.nodeTypes.map fun t => (t.name, t))
    compat := Table.pick Builtin.compatOrder Builtin.compat }

theorem Schema.builtin_eq : builtin = listed := by
  have htypes : Table.ofList (Builtin.nodeTypes.map fun t => (t.name, t)) =
      Table.pick Builtin.typeOrder (Builtin.nodeTypes.map fun t => (t.name, t)) :=
    Table.ofList_eq_pick (by decide +kernel) (by decide +kernel)
  have hcompat : Table.ofList Builtin.compat = Table.pick Builtin.compatOrder Builtin.compat :=
    Table.ofList_eq_pick (by decide +kernel) (by decide +kernel)
  rw [builtin, htypes, hcompat]
  rfl

/-- The built-in node compilers as a list. -/
def Registry.listed : Registry :=
  [("Abs", .unary), ("Add", .binary), ("And", .connective "&&"), ("Atan2", .binary), ("Bool", .scalar .bool),
    ("Ceil", .unary), ("Clamp", .clamp), ("Color", .color), ("Combine", .combine), ("Compare", .compare),
    ("Cos", .unary), ("Distance", .binary), ("Divide", .binary), ("Dot", .binary), ("Exp", .unary),
    ("Expression", .snippet), ("Float", .scalar .float), ("Floor", .unary), ("Fract", .unary),
    ("ImageTexture", .textureSource), ("InstanceIndex", .instanceNumber), ("Int", .scalar .int), ("Length", .unary),
    ("Log", .unary), ("Mat4", .matrix), ("Max", .binary), ("Min", .binary), ("Mix", .mix), ("Mod", .binary),
    ("Multiply", .binary), ("Negate", .unary), ("Normalize", .unary), ("Not", .negation), ("OneMinus", .unary),
    ("Or", .connective "||"), ("Pow", .binary), ("RenderTexture", .target), ("Resolution", .targetSize),
    ("SampleTexture", .sampleTexture), ("Saturate", .unary), ("Screen", .target), ("Select", .select),
    ("Sin", .unary), ("Smoothstep", .smoothstep), ("Split", .split), ("Sqrt", .unary), ("Step", .binary),
    ("Subtract", .binary), ("Tan", .unary), ("Text", .textureSource), ("Time", .clock), ("UV", .coordinates),
    ("Vec2", .vector .vec2), ("Vec3", .vector .vec3), ("Vec4", .vector .vec4)]

theorem Registry.builtin_eq : builtin = listed := by
  decide +kernel

end SceneGraph
