import Mathlib.Data.List.Nodup
import Mathlib.Data.List.Perm.Subperm
import SceneGraph.Prepare.Names

/-!
# Names are distinct identifiers

Every node has a name, and nodes with different ids have different names. A name is the id with everything that no
identifier holds squeezed into underscores, numbered as long as it is taken. Ids may look like numbered names, so that
a numbered name may be taken as well and the search goes on, without a bound. It ends for all that, and where the
computation bounds the search the bound is never met.

* `Names.fresh_not_mem`: a fresh name is not taken.
* `Names.ofScene_injective`: a name belongs to one id.
* `Names.IsIdentifier`: a name that can stand in generated code.
* `Names.isIdentifier_base`, `Names.isIdentifier_numbered`: names are identifiers, and stay so when numbered.
* `Names.Searches`, `Names.Assigns`: the search and the naming of all nodes, without a bound.
* `Names.searches_iff`, `Names.assigns_iff`: both end, with what is computed.
* `Names.ofScene_identifiers`: the names of a scene.
-/
set_option autoImplicit false

namespace SceneGraph

namespace Table

variable {α : Type}

theorem get?_insert_ne (t : Table α) (name other : String) (value : α) (h : other ≠ name) :
    (t.insert name value).get? other = t.get? other := by
  have hname : (name == other) = false := by simpa using Ne.symm h
  induction t with
  | nil => simp [insert, get?, hname]
  | cons e rest ih =>
    obtain ⟨k, v⟩ := e
    simp only [insert]
    split
    · rename_i hk
      simp [get?, ← hk, hname]
    · split
      · simp [get?, hname]
      · by_cases hko : k = other
        · simp [get?, hko]
        · have hko' : (k == other) = false := by simpa using hko
          simpa [get?, List.find?_cons, hko'] using ih

theorem get?_insert (t : Table α) (name other : String) (value : α) :
    (t.insert name value).get? other = if other = name then some value else t.get? other := by
  split
  · rename_i h
    rw [h, get?_insert_self]
  · rename_i h
    exact get?_insert_ne t name other value h

end Table

namespace Names

/-! ## Fresh names -/

theorem repr_injective (i j : Nat) (h : Nat.repr i = Nat.repr j) : i = j := by
  have hi : Nat.ofDigitChars 10 (Nat.repr i).toList 0 = i := by
    rw [Nat.toList_repr, Nat.ofDigitChars_ten_toDigits]
  have hj : Nat.ofDigitChars 10 (Nat.repr j).toList 0 = j := by
    rw [Nat.toList_repr, Nat.ofDigitChars_ten_toDigits]
  rw [← hi, ← hj, h]

theorem numbered_injective (stem : String) (i j : Nat) (h : numbered stem i = numbered stem j) : i = j := by
  unfold numbered at h
  exact repr_injective i j ((String.append_right_inj _).1 h)

/-- A search that ends on a taken name has met only taken names. -/
theorem searchFrom_mem (used : List String) (stem : String) (fuel i : Nat)
    (h : searchFrom used stem fuel i ∈ used) : ∀ k ≤ fuel, numbered stem (i + k) ∈ used := by
  induction fuel generalizing i with
  | zero =>
    intro k hk
    obtain rfl : k = 0 := by omega
    exact h
  | succ fuel ih =>
    simp only [searchFrom, List.contains_iff_mem] at h
    split at h
    · rename_i hi
      intro k hk
      cases k with
      | zero => exact hi
      | succ k =>
        have := ih (i + 1) h k (by omega)
        rwa [Nat.add_right_comm, Nat.add_assoc] at this
    · rename_i hi
      exact absurd h hi

theorem fresh_not_mem (used : List String) (stem : String) : fresh used stem ∉ used := by
  unfold fresh
  split
  · intro h
    have hall := searchFrom_mem used stem used.length 2 h
    -- one variant more than there are taken names
    let variants := (List.range (used.length + 1)).map fun k => numbered stem (2 + k)
    have hnodup : variants.Nodup := by
      refine List.Nodup.map ?_ List.nodup_range
      intro i j hij
      have := numbered_injective stem _ _ hij
      omega
    have hsub : variants ⊆ used := by
      intro x hx
      obtain ⟨k, hk, rfl⟩ := List.mem_map.1 hx
      exact hall k (by have := List.mem_range.1 hk; omega)
    have hle := (hnodup.subperm hsub).length_le
    simp only [variants, List.length_map, List.length_range] at hle
    omega
  · rename_i h
    simpa using h

/-! ## The names of a scene -/

/-- What holds of the names given so far: they are taken, no two ids share one, and the reserved name
belongs to the output. -/
structure Distinct (output : String) (used : List String) (names : Table String) : Prop where
  reserved_mem : sceneTexture ∈ used
  mem_used : ∀ id x, names.get? id = some x → x ∈ used
  injective : ∀ a b x, names.get? a = some x → names.get? b = some x → a = b
  reserved : ∀ id, names.get? id = some sceneTexture → id = output

theorem Distinct.insert_output {output : String} {used : List String} {names : Table String}
    (h : Distinct output used names) : Distinct output used (names.insert output sceneTexture) where
  reserved_mem := h.reserved_mem
  mem_used id x hx := by
    rw [Table.get?_insert] at hx
    split at hx
    · cases hx
      exact h.reserved_mem
    · exact h.mem_used id x hx
  injective a b x ha hb := by
    rw [Table.get?_insert] at ha hb
    split at ha <;> split at hb
    · simp_all
    · cases ha
      exact absurd (h.reserved b hb) (by assumption)
    · cases hb
      exact absurd (h.reserved a ha) (by assumption)
    · exact h.injective a b x ha hb
  reserved id hid := by
    rw [Table.get?_insert] at hid
    split at hid
    · assumption
    · exact h.reserved id hid

theorem Distinct.insert_fresh {output : String} {used : List String} {names : Table String}
    (h : Distinct output used names) (id name : String) (hname : name ∉ used) :
    Distinct output (name :: used) (names.insert id name) where
  reserved_mem := List.mem_cons_of_mem name h.reserved_mem
  mem_used a x hx := by
    rw [Table.get?_insert] at hx
    split at hx
    · cases hx
      exact List.mem_cons_self
    · exact List.mem_cons_of_mem name (h.mem_used a x hx)
  injective a b x ha hb := by
    rw [Table.get?_insert] at ha hb
    split at ha <;> split at hb
    · simp_all
    · cases ha
      exact absurd (h.mem_used b name hb) hname
    · cases hb
      exact absurd (h.mem_used a name ha) hname
    · exact h.injective a b x ha hb
  reserved a ha := by
    rw [Table.get?_insert] at ha
    split at ha
    · cases ha
      exact absurd h.reserved_mem hname
    · exact h.reserved a ha

theorem assign_distinct (output : String) (used : List String) (nodes : List Node) (names : Table String)
    (h : Distinct output used names) : ∃ used', Distinct output used' (assign output used nodes names) := by
  induction nodes generalizing used names with
  | nil => exact ⟨used, h⟩
  | cons n rest ih =>
    simp only [assign]
    split
    · rename_i hn
      rw [hn]
      exact ih _ _ h.insert_output
    · exact ih _ _ (h.insert_fresh n.id _ (fresh_not_mem used _))

theorem ofScene_distinct (s : Scene) (output : String) : ∃ used, Distinct output used (ofScene s output) := by
  apply assign_distinct
  refine ⟨List.mem_singleton_self _, ?_, ?_, ?_⟩ <;> simp

/-- A name belongs to one id. -/
theorem ofScene_injective (s : Scene) (output a b x : String) (ha : (ofScene s output).get? a = some x)
    (hb : (ofScene s output).get? b = some x) : a = b := by
  obtain ⟨used, h⟩ := ofScene_distinct s output
  exact h.injective a b x ha hb

theorem assign_get? (output : String) (used : List String) (nodes : List Node) (names : Table String)
    (id : String) (h : (∃ n ∈ nodes, n.id = id) ∨ ∃ x, names.get? id = some x) :
    ∃ x, (assign output used nodes names).get? id = some x := by
  induction nodes generalizing used names with
  | nil => simpa [assign] using h
  | cons n rest ih =>
    have hinsert : ∀ x, (∃ m ∈ rest, m.id = id) ∨ ∃ y, (names.insert n.id x).get? id = some y := by
      intro x
      rw [Table.get?_insert]
      by_cases hid : id = n.id
      · exact .inr ⟨x, by simp [hid]⟩
      · simp only [hid, if_false]
        rcases h with ⟨m, hm, hmid⟩ | h
        · rcases List.mem_cons.1 hm with rfl | hm
          · exact absurd hmid.symm hid
          · exact .inl ⟨m, hm, hmid⟩
        · exact .inr h
    simp only [assign]
    split
    · exact ih _ _ (hinsert _)
    · exact ih _ _ (hinsert _)

theorem ofScene_get? (s : Scene) (output id : String) (h : id ∈ s.nodeIds) :
    ∃ x, (ofScene s output).get? id = some x := by
  obtain ⟨n, hn, hid⟩ := List.mem_map.1 h
  exact assign_get? output _ s.nodes [] id (.inl ⟨n, hn, hid⟩)

theorem assign_output (output : String) (used : List String) (nodes : List Node) (names : Table String)
    (h : (∃ n ∈ nodes, n.id = output) ∨ names.get? output = some sceneTexture) :
    (assign output used nodes names).get? output = some sceneTexture := by
  induction nodes generalizing used names with
  | nil => simpa [assign] using h
  | cons n rest ih =>
    simp only [assign]
    split
    · rename_i hn
      exact ih _ _ (.inr (by rw [hn, Table.get?_insert_self]))
    · rename_i hn
      apply ih
      rcases h with ⟨m, hm, hid⟩ | h
      · rcases List.mem_cons.1 hm with rfl | hm
        · exact absurd hid hn
        · exact .inl ⟨m, hm, hid⟩
      · exact .inr (by rw [Table.get?_insert_ne _ _ _ _ (Ne.symm hn)]; exact h)

theorem ofScene_output (s : Scene) (output : String) (h : output ∈ s.nodeIds) :
    (ofScene s output).get? output = some sceneTexture := by
  obtain ⟨n, hn, hid⟩ := List.mem_map.1 h
  exact assign_output output _ s.nodes [] (.inl ⟨n, hn, hid⟩)

/-! ## Identifiers -/

/-- A name over the characters of identifiers that is not empty and starts with no digit. -/
structure IsIdentifier (name : String) : Prop where
  ne_empty : name ≠ ""
  chars : ∀ c ∈ name.toList, isIdentChar c = true
  head : ∀ c ∈ name.toList.head?, c.isDigit = false

theorem isIdentifier_cons {c : Char} {rest : List Char} (hc : c.isDigit = false)
    (h : ∀ d ∈ c :: rest, isIdentChar d = true) : IsIdentifier (String.ofList (c :: rest)) where
  ne_empty := by simp
  chars := by rwa [String.toList_ofList]
  head := by simpa using hc

theorem IsIdentifier.append {name suffix : String} (h : IsIdentifier name)
    (hsuffix : ∀ c ∈ suffix.toList, isIdentChar c = true) : IsIdentifier (name ++ suffix) := by
  obtain ⟨c, rest, hname⟩ := List.exists_cons_of_ne_nil (mt String.toList_eq_nil_iff.1 h.ne_empty)
  have htext : name ++ suffix = String.ofList (c :: (rest ++ suffix.toList)) := by
    rw [← String.toList_inj, String.toList_append, String.toList_ofList, hname, List.cons_append]
  rw [htext]
  refine isIdentifier_cons (h.head c (by rw [hname]; rfl)) ?_
  rw [← List.cons_append, ← hname]
  exact List.forall_mem_append.2 ⟨h.chars, hsuffix⟩

theorem isIdentChar_of_isDigit {c : Char} (h : c.isDigit = true) : isIdentChar c = true := by
  have hbounds : '0' ≤ c ∧ c ≤ '9' := by simpa [Char.isDigit, Char.le_def] using h
  simp [isIdentChar, hbounds]

theorem isIdentChar_of_mem_squeeze {cs : List Char} {inRun : Bool} {c : Char} (h : c ∈ squeeze inRun cs) :
    isIdentChar c = true := by
  induction cs generalizing inRun with
  | nil => cases h
  | cons d rest ih =>
    rw [squeeze] at h
    split at h
    · rename_i hd
      rcases List.mem_cons.1 h with rfl | h
      · exact hd
      · exact ih h
    · split at h
      · exact ih h
      · rcases List.mem_cons.1 h with rfl | h
        · rfl
        · exact ih h

theorem isIdentifier_sceneTexture : IsIdentifier sceneTexture := by
  have htext : sceneTexture = String.ofList ['s', 'c', 'e', 'n', 'e'] := rfl
  rw [htext]
  exact isIdentifier_cons rfl (by simp [isIdentChar])

theorem isIdentifier_base (id : String) : IsIdentifier (base id) := by
  have hchars : ∀ c ∈ squeeze false id.toList, isIdentChar c = true := fun c => isIdentChar_of_mem_squeeze
  unfold base
  generalize squeeze false id.toList = cs at hchars
  cases cs with
  | nil => exact isIdentifier_cons rfl (List.forall_mem_singleton.2 rfl)
  | cons c rest =>
    unfold lead
    dsimp only
    split
    · exact isIdentifier_cons rfl (List.forall_mem_cons.2 ⟨rfl, hchars⟩)
    · rename_i hdigit
      exact isIdentifier_cons (by simpa using hdigit) hchars

theorem isIdentifier_numbered {stem : String} (h : IsIdentifier stem) (i : Nat) : IsIdentifier (numbered stem i) := by
  refine IsIdentifier.append (h.append ?_) ?_
  · exact List.forall_mem_singleton.2 rfl
  · intro c hc
    rw [show toString i = Nat.repr i from rfl, Nat.toList_repr] at hc
    exact isIdentChar_of_isDigit (Nat.isDigit_of_mem_toDigits (by decide) (by decide) hc)

/-! ## The search for a name -/

/-- The search without a bound: a name that is taken gives way to the variant with the next number. -/
inductive Searches (used : List String) (stem : String) : Nat → String → String → Prop where
  | found {i : Nat} {name : String} (hfree : name ∉ used) : Searches used stem i name name
  | next {i : Nat} {name result : String} (htaken : name ∈ used)
      (hrest : Searches used stem (i + 1) (numbered stem i) result) : Searches used stem i name result

variable {used : List String} {stem name result other : String}

/-- Every name that a search comes to is the one that it starts from or a variant of the stem. -/
theorem Searches.isIdentifier {i : Nat} (h : Searches used stem i name result) (hstem : IsIdentifier stem)
    (hname : IsIdentifier name) : IsIdentifier result := by
  induction h with
  | found _ => exact hname
  | next _ _ ih => exact ih (isIdentifier_numbered hstem _)

theorem Searches.unique {i : Nat} (h : Searches used stem i name result) (h' : Searches used stem i name other) :
    result = other := by
  induction h with
  | found hfree =>
    cases h' with
    | found _ => rfl
    | next htaken _ => exact absurd htaken hfree
  | next htaken _ ih =>
    cases h' with
    | found hfree => exact absurd htaken hfree
    | next _ hrest => exact ih hrest

/-- A bounded search that ends on a free name is a search. -/
theorem searches_searchFrom {fuel i : Nat} (h : searchFrom used stem fuel i ∉ used) :
    Searches used stem (i + 1) (numbered stem i) (searchFrom used stem fuel i) := by
  induction fuel generalizing i with
  | zero => exact .found h
  | succ fuel ih =>
    rw [searchFrom] at h ⊢
    split
    · rename_i htaken
      rw [if_pos htaken] at h
      exact .next (by simpa using htaken) (ih h)
    · rename_i hfree
      exact .found (by simpa using hfree)

/-- The search from a stem ends, and ends with the name that is computed. -/
theorem searches_iff : Searches used stem 2 stem result ↔ result = fresh used stem := by
  have hends : Searches used stem 2 stem (fresh used stem) := by
    have hfree := fresh_not_mem used stem
    unfold fresh at hfree ⊢
    split
    · rename_i htaken
      rw [if_pos htaken] at hfree
      exact .next (by simpa using htaken) (searches_searchFrom hfree)
    · rename_i hnot
      exact .found (by simpa using hnot)
  constructor
  · exact fun h => h.unique hends
  · rintro rfl
    exact hends

theorem isIdentifier_fresh (hstem : IsIdentifier stem) : IsIdentifier (fresh used stem) :=
  (searches_iff.2 rfl).isIdentifier hstem hstem

/-! ## The naming of a scene -/

/-- The naming of nodes one after another, by searches without a bound. -/
inductive Assigns (output : String) : List String → List Node → Table String → Table String → Prop where
  | done {used : List String} {names : Table String} : Assigns output used [] names names
  | output {used : List String} {n : Node} {rest : List Node} {names result : Table String} (hid : n.id = output)
      (hrest : Assigns output used rest (names.insert n.id sceneTexture) result) :
      Assigns output used (n :: rest) names result
  | other {used : List String} {n : Node} {rest : List Node} {names result : Table String} {name : String}
      (hid : n.id ≠ output) (hname : Searches used (base n.id) 2 (base n.id) name)
      (hrest : Assigns output (name :: used) rest (names.insert n.id name) result) :
      Assigns output used (n :: rest) names result

/-- The naming of nodes ends, and ends with the names that are computed. -/
theorem assigns_iff {output : String} {nodes : List Node} {names result : Table String} :
    Assigns output used nodes names result ↔ result = assign output used nodes names := by
  constructor
  · intro h
    induction h with
    | done => rfl
    | output hid _ ih => rw [ih, assign, if_pos hid]
    | other hid hname _ ih => rw [ih, assign, if_neg hid, searches_iff.1 hname]
  · rintro rfl
    induction nodes generalizing used names with
    | nil => exact .done
    | cons n rest ih =>
      rw [assign]
      split
      · rename_i hid
        exact .output hid ih
      · rename_i hid
        exact .other hid (searches_iff.2 rfl) ih

theorem assign_isIdentifier {output id : String} {nodes : List Node} {names : Table String}
    (hnames : ∀ x, names.get? id = some x → IsIdentifier x)
    (h : (assign output used nodes names).get? id = some name) : IsIdentifier name := by
  induction nodes generalizing used names with
  | nil => exact hnames name h
  | cons n rest ih =>
    -- The new name is an identifier, and the others were.
    have hinsert : ∀ y, IsIdentifier y → ∀ x, (names.insert n.id y).get? id = some x → IsIdentifier x := by
      intro y hy x hx
      rw [Table.get?_insert] at hx
      split at hx
      · exact Option.some.inj hx ▸ hy
      · exact hnames x hx
    rw [assign] at h
    split at h
    · exact ih (hinsert _ isIdentifier_sceneTexture) h
    · exact ih (hinsert _ (isIdentifier_fresh (isIdentifier_base n.id))) h

/-- The naming of a scene ends. Every node has a name that is an identifier, nodes with different ids have different
names, and the reserved name is that of the output and of no other node. -/
theorem ofScene_identifiers (s : Scene) (output : String) :
    (∀ names, Assigns output [sceneTexture] s.nodes [] names ↔ names = ofScene s output) ∧
      (∀ id ∈ s.nodeIds, ∃ name, (ofScene s output).get? id = some name ∧ IsIdentifier name ∧
        (name = sceneTexture ↔ id = output)) ∧
      ∀ a b name, (ofScene s output).get? a = some name → (ofScene s output).get? b = some name → a = b := by
  refine ⟨fun names => assigns_iff, fun id hid => ?_, ofScene_injective s output⟩
  obtain ⟨name, hname⟩ := ofScene_get? s output id hid
  obtain ⟨_, hdistinct⟩ := ofScene_distinct s output
  refine ⟨name, hname, assign_isIdentifier (by simp) hname, ?_, ?_⟩
  · rintro rfl
    exact hdistinct.reserved id hname
  · rintro rfl
    exact Option.some.inj (hname.symm.trans (ofScene_output s id hid))

-- The second variant of the last name belongs to another id already.
example : ofScene { nodes := [{ id := "out" }, { id := "a-b" }, { id := "a_b_2" }, { id := "a \u2192 b" }] } "out" =
    [("a \u2192 b", "a_b_3"), ("a-b", "a_b"), ("a_b_2", "a_b_2"), ("out", "scene")] := by decide +kernel

end Names

end SceneGraph
