import Mathlib.Data.List.Nodup
import Mathlib.Data.List.Perm.Basic
import SceneGraph.Prepare.Basic

/-!
# The topological order

The order holds every node of the scene once per occurrence, and in a scene without repeated ids the
source of a connection stands before its target.

* `Graph.topologicalOrder_perm`: the order is a permutation of the node ids.
* `Graph.idxOf_lt_idxOf`: connections go forward in the order.
-/
set_option autoImplicit false

namespace SceneGraph.Graph

/-! ## Positions -/

theorem drain_none (remaining : List Nat) (edges : List (Nat × Nat))
    (h : remaining.find? (isReady edges) = none) : drain remaining edges = ([], remaining) := by
  rw [drain]
  split
  · rfl
  · simp_all

theorem drain_some (remaining : List Nat) (edges : List (Nat × Nat)) (i : Nat)
    (h : remaining.find? (isReady edges) = some i) :
    drain remaining edges = (i :: (drain (remaining.erase i) (edges.filter fun e => e.1 != i)).1,
      (drain (remaining.erase i) (edges.filter fun e => e.1 != i)).2) := by
  rw [drain]
  split
  · simp_all
  · rename_i j hj
    obtain rfl : i = j := Option.some.inj (h.symm.trans hj)
    rfl

/-- Induction along the positions taken. -/
theorem drain_induction {motive : List Nat → List (Nat × Nat) → Prop}
    (stop : ∀ remaining edges, remaining.find? (isReady edges) = none → motive remaining edges)
    (take : ∀ remaining edges i, remaining.find? (isReady edges) = some i →
      motive (remaining.erase i) (edges.filter fun e => e.1 != i) → motive remaining edges)
    (remaining : List Nat) (edges : List (Nat × Nat)) : motive remaining edges := by
  cases hfound : remaining.find? (isReady edges) with
  | none => exact stop remaining edges hfound
  | some i => exact take remaining edges i hfound (drain_induction stop take _ _)
termination_by remaining.length
decreasing_by
  have hmem := List.mem_of_find?_eq_some hfound
  have hpos := List.length_pos_of_mem hmem
  rw [List.length_erase_of_mem hmem]
  omega

theorem drain_perm (remaining : List Nat) (edges : List (Nat × Nat)) :
    ((drain remaining edges).1 ++ (drain remaining edges).2).Perm remaining := by
  induction remaining, edges using drain_induction with
  | stop remaining edges hfound => simp [drain_none _ _ hfound]
  | take remaining edges i hfound ih =>
    have hi : i ∈ remaining := List.mem_of_find?_eq_some hfound
    rw [drain_some _ _ _ hfound]
    exact (ih.cons i).trans (List.perm_cons_erase hi).symm

/-- The end of an edge is taken only after its start. -/
theorem drain_edge (remaining : List Nat) (edges : List (Nat × Nat)) (i j : Nat) (hedge : (i, j) ∈ edges)
    (hi : i ∈ remaining) (hj : j ∈ (drain remaining edges).1) :
    (drain remaining edges).1.idxOf i < (drain remaining edges).1.idxOf j := by
  induction remaining, edges using drain_induction with
  | stop remaining edges hfound => simp [drain_none _ _ hfound] at hj
  | take remaining edges k hfound ih =>
    rw [drain_some _ _ _ hfound] at hj ⊢
    have hready : isReady edges k := List.find?_some hfound
    have hjk : j ≠ k := by
      rintro rfl
      have := List.all_eq_true.1 hready _ hedge
      simp at this
    have hj' := (List.mem_cons.1 hj).resolve_left hjk
    rw [List.idxOf_cons_ne _ (Ne.symm hjk)]
    by_cases hik : i = k
    · rw [hik, List.idxOf_cons_self]
      omega
    · rw [List.idxOf_cons_ne _ (Ne.symm hik)]
      have hlt := ih (List.mem_filter.2 ⟨hedge, by simpa using hik⟩) ((List.mem_erase_of_ne hik).2 hi) hj'
      omega

theorem getElem?_of_position? (ids : List String) (id : String) (i : Nat) (h : position? ids id = some i) :
    ids[i]? = some id := by
  unfold position? at h
  obtain ⟨j, hj, rfl⟩ := Option.map_eq_some_iff.1 h
  obtain ⟨hlt, hid, _⟩ := List.findIdx?_eq_some_iff_getElem.1 hj
  rw [List.length_reverse] at hlt
  rw [List.getElem_reverse] at hid
  rw [List.getElem?_eq_getElem (by omega)]
  exact congrArg some (by simpa using hid)

theorem position?_isSome (ids : List String) (id : String) (h : id ∈ ids) :
    ∃ i, position? ids id = some i := by
  unfold position?
  have : (ids.reverse.findIdx? (· == id)).isSome := by
    rw [List.findIdx?_isSome, List.any_eq_true]
    exact ⟨id, List.mem_reverse.2 h, by simp⟩
  obtain ⟨j, hj⟩ := Option.isSome_iff_exists.1 this
  exact ⟨_, by rw [hj]; rfl⟩

/-! ## Ids -/

theorem idsAt_range (s : Scene) : idsAt s (List.range s.nodes.length) = s.nodeIds := by
  have hlen : s.nodes.length = s.nodeIds.length := by simp [Scene.nodeIds]
  unfold idsAt
  rw [hlen]
  apply List.ext_getElem?
  intro i
  have hmap : (List.range s.nodeIds.length).filterMap (fun i => s.nodeIds[i]?)
      = (List.range s.nodeIds.length).map fun i => s.nodeIds.getD i "" := by
    rw [← List.filterMap_eq_map]
    apply List.filterMap_congr
    intro k hk
    have hk' : k < s.nodeIds.length := List.mem_range.1 hk
    simp [List.getD_eq_getElem?_getD, List.getElem?_eq_getElem hk']
  rw [hmap]
  by_cases hi : i < s.nodeIds.length
  · simp [hi, List.getD_eq_getElem?_getD]
  · simp [hi]

theorem idsAt_cons {s : Scene} {i : Nat} {id : String} {positions : List Nat} (hid : s.nodeIds[i]? = some id) :
    idsAt s (i :: positions) = id :: idsAt s positions :=
  List.filterMap_cons_some hid

theorem idsAt_perm (s : Scene) (positions : List Nat) (h : positions.Perm (List.range s.nodes.length)) :
    (idsAt s positions).Perm s.nodeIds := by
  rw [← idsAt_range s]
  exact h.filterMap _

theorem idxOf_idsAt (s : Scene) (hnodup : s.nodeIds.Nodup) (positions : List Nat)
    (hlt : ∀ k ∈ positions, k < s.nodeIds.length) (i : Nat) (id : String) (hid : s.nodeIds[i]? = some id) :
    (idsAt s positions).idxOf id = positions.idxOf i := by
  induction positions with
  | nil => rfl
  | cons k rest ih =>
    have hk : k < s.nodeIds.length := hlt k (by simp)
    have ih' := ih fun k' hk' => hlt k' (List.mem_cons_of_mem k hk')
    rw [idsAt_cons (List.getElem?_eq_getElem hk)]
    obtain ⟨hi, rfl⟩ := List.getElem?_eq_some_iff.1 hid
    by_cases hki : k = i
    · subst hki
      simp
    · have hne : s.nodeIds[k] ≠ s.nodeIds[i] := by
        intro heq
        exact hki (hnodup.getElem_inj_iff.1 heq)
      rw [List.idxOf_cons_ne _ hne, List.idxOf_cons_ne _ hki, ih']

variable {s : Scene} {order : List String}

theorem topologicalOrder_eq_ok (h : topologicalOrder s = .ok order) :
    order = idsAt s (drain (List.range s.nodes.length) (edges s)).1 ∧
      (drain (List.range s.nodes.length) (edges s)).1.Perm (List.range s.nodes.length) := by
  have hperm := drain_perm (List.range s.nodes.length) (edges s)
  unfold topologicalOrder at h
  generalize drain (List.range s.nodes.length) (edges s) = d at h hperm ⊢
  obtain ⟨taken, rest⟩ := d
  cases rest with
  | nil =>
    simp only [List.append_nil] at hperm
    exact ⟨by simpa using h.symm, hperm⟩
  | cons _ _ => simp at h

theorem topologicalOrder_perm (h : topologicalOrder s = .ok order) : order.Perm s.nodeIds := by
  obtain ⟨rfl, hperm⟩ := topologicalOrder_eq_ok h
  exact idsAt_perm s _ hperm

/-- The ids that are taken, in order, before only cycles and what is behind them are left. -/
def taken (s : Scene) : List String := idsAt s (drain (List.range s.nodes.length) (edges s)).1

theorem drain_lt {i : Nat} (h : i ∈ (drain (List.range s.nodes.length) (edges s)).1) : i < s.nodeIds.length := by
  have hrange := (drain_perm (List.range s.nodes.length) (edges s)).mem_iff.1 (List.mem_append_left _ h)
  simpa [Scene.nodeIds] using hrange

/-- A connection to a node that is taken comes from one that is taken before it. -/
theorem idxOf_lt_of_taken (hnodup : s.nodeIds.Nodup) (c : Connection) (hc : c ∈ s.connections)
    (hs : c.source.node ∈ s.nodeIds) (ht : c.target.node ∈ taken s) :
    (taken s).idxOf c.source.node < (taken s).idxOf c.target.node := by
  obtain ⟨k, hk, hid⟩ := List.mem_filterMap.1 ht
  obtain ⟨i, hi⟩ := position?_isSome _ _ hs
  obtain ⟨j, hj⟩ := position?_isSome _ _ (List.mem_of_getElem? hid)
  have hi' := getElem?_of_position? _ _ _ hi
  have hj' := getElem?_of_position? _ _ _ hj
  have hedge : (i, j) ∈ edges s := by
    unfold edges
    rw [List.mem_filterMap]
    exact ⟨c, hc, by simp only [hi, hj]⟩
  have hrange : i ∈ List.range s.nodes.length := by
    obtain ⟨hlt, -⟩ := List.getElem?_eq_some_iff.1 hi'
    simpa [Scene.nodeIds] using hlt
  obtain rfl : k = j := (List.getElem?_inj (drain_lt hk) hnodup).1 (hid.trans hj'.symm)
  unfold taken
  rw [idxOf_idsAt s hnodup _ (fun _ => drain_lt) i _ hi', idxOf_idsAt s hnodup _ (fun _ => drain_lt) k _ hj']
  exact drain_edge _ _ i k hedge hrange hk

/-- Connections between nodes go forward in the order. -/
theorem idxOf_lt_idxOf (h : topologicalOrder s = .ok order) (hnodup : s.nodeIds.Nodup) (c : Connection)
    (hc : c ∈ s.connections) (hs : c.source.node ∈ s.nodeIds) (ht : c.target.node ∈ s.nodeIds) :
    order.idxOf c.source.node < order.idxOf c.target.node := by
  obtain ⟨rfl, hperm⟩ := topologicalOrder_eq_ok h
  exact idxOf_lt_of_taken hnodup c hc hs ((idsAt_perm s _ hperm).mem_iff.2 ht)

end SceneGraph.Graph
