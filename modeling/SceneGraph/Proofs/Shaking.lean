import Mathlib.Data.Nat.Nth
import SceneGraph.Graph.Reach
import SceneGraph.Proofs.Acyclic

/-!
# Shaking and the topological order

A node that nothing names waits for no other and holds none up. Left out of the scene it is left out of the order,
and nothing else changes. The others stand at other positions then, but in the same order among themselves, so what
is taken first is the same node again: the run on the smaller scene goes the steps of the run on the larger one that
take a node that stays, and stands still in between.

* `Graph.drain_filter`: positions without edges taken or left out.
* `Graph.drain_map`: positions that are renumbered.
* `Graph.place`: where the nodes that stay stood before.
* `Graph.topologicalOrder_treeShake`: the order of a scene that was shaken.
-/
set_option autoImplicit false

namespace SceneGraph.Graph

/-! ## Positions left out -/

section
variable {remaining : List Nat} {edges : List (Nat × Nat)} {i k : Nat}

theorem find?_ready_filter {keep : Nat → Bool} (hfound : remaining.find? (isReady edges) = some i)
    (hi : keep i = true) : (remaining.filter keep).find? (isReady edges) = some i := by
  obtain ⟨hready, before, after, rfl, hbefore⟩ := List.find?_eq_some_iff_append.1 hfound
  have hnone : (before.filter keep).find? (isReady edges) = none := by
    refine List.find?_eq_none.2 fun j hj hj' => ?_
    have hnot := hbefore j (List.mem_filter.1 hj).1
    simp [hj'] at hnot
  rw [List.filter_append, List.filter_cons_of_pos hi, List.find?_append, hnone, List.find?_cons_of_pos hready]
  rfl

/-- Positions that no edge touches can be left out of what is given, and are left out of what is taken. -/
theorem drain_filter (keep : Nat → Bool) (remaining : List Nat) (edges : List (Nat × Nat))
    (hkeep : ∀ e ∈ edges, keep e.1 = true ∧ keep e.2 = true) :
    drain (remaining.filter keep) edges = ((drain remaining edges).1.filter keep, (drain remaining edges).2) := by
  induction remaining, edges using drain_induction with
  | stop remaining edges hfound =>
    -- Each position that is left has an edge that leads to it.
    have hall : remaining.filter keep = remaining := by
      refine List.filter_eq_self.2 fun i hi => ?_
      have hnot : isReady edges i ≠ true := List.find?_eq_none.1 hfound i hi
      simp only [isReady, ne_eq, List.all_eq_true, bne_iff_ne, not_forall, not_not] at hnot
      obtain ⟨e, he, rfl⟩ := hnot
      exact (hkeep e he).2
    rw [hall, drain_none _ _ hfound]
    rfl
  | take remaining edges i hfound ih =>
    have ih := ih fun e he => hkeep e (List.mem_filter.1 he).1
    rw [drain_some _ _ _ hfound]
    by_cases hi : keep i = true
    · have hfound' := find?_ready_filter hfound hi
      rw [drain_some _ _ _ hfound', List.erase_filter, ih, List.filter_cons_of_pos hi]
    · -- The run on what stays waits: the position is none of its own and has no edges.
      have hedges : edges.filter (fun e => e.1 != i) = edges := by
        refine List.filter_eq_self.2 fun e he => bne_iff_ne.2 ?_
        rintro rfl
        exact hi (hkeep e he).1
      have herase : (remaining.erase i).filter keep = remaining.filter keep := by
        rw [← List.erase_filter]
        exact List.erase_of_not_mem fun hmem => hi (List.mem_filter.1 hmem).2
      rw [herase, hedges] at ih
      rw [ih, hedges, List.filter_cons_of_neg hi]

/-! ## Positions renumbered -/

theorem isReady_map {f : Nat → Nat} (hf : Function.Injective f) :
    isReady (edges.map (Prod.map f f)) ∘ f = isReady edges := by
  funext j
  simp only [isReady, Function.comp_apply, List.all_map]
  refine List.all_congr rfl fun e => ?_
  simp [bne, hf.eq_iff]

theorem drain_map {f : Nat → Nat} (hf : Function.Injective f) (remaining : List Nat) (edges : List (Nat × Nat)) :
    drain (remaining.map f) (edges.map (Prod.map f f)) =
      ((drain remaining edges).1.map f, (drain remaining edges).2.map f) := by
  induction remaining, edges using drain_induction with
  | stop remaining edges hfound =>
    have hfound' : (remaining.map f).find? (isReady (edges.map (Prod.map f f))) = none := by
      rw [List.find?_map, isReady_map hf, hfound]
      rfl
    rw [drain_none _ _ hfound, drain_none _ _ hfound']
    rfl
  | take remaining edges i hfound ih =>
    have hfound' : (remaining.map f).find? (isReady (edges.map (Prod.map f f))) = some (f i) := by
      rw [List.find?_map, isReady_map hf, hfound]
      rfl
    have hedges : (edges.map (Prod.map f f)).filter (fun e => e.1 != f i) =
        (edges.filter fun e => e.1 != i).map (Prod.map f f) := by
      rw [List.filter_map]
      refine congrArg (List.map (Prod.map f f)) (List.filter_congr fun e _ => ?_)
      simp [bne, hf.eq_iff]
    rw [drain_some _ _ _ hfound, drain_some _ _ _ hfound', hedges, ← List.map_erase hf, ih]
    rfl

end

/-! ## Nodes that stay -/

theorem filter_range_eq_map_nth (p : Nat → Bool) (n : Nat) :
    (List.range n).filter p = (List.range (Nat.count (fun i => p i = true) n)).map (Nat.nth fun i => p i = true) := by
  induction n with
  | zero => simp
  | succ n ih =>
    rw [List.range_succ, List.filter_append, ih, Nat.count_succ]
    by_cases hn : p n = true
    · rw [if_pos hn, List.range_succ, List.map_append, List.filter_cons_of_pos hn, List.map_singleton,
        Nat.nth_count (p := fun i => p i = true) hn]
      rfl
    · rw [if_neg hn, List.filter_cons_of_neg hn, List.filter_nil, List.append_nil, Nat.add_zero]

variable {s : Scene} {id : String} {i k : Nat}

/-- The node at a position is one that stays. Behind the last node all positions do. -/
def stays (s : Scene) (i : Nat) : Bool := (s.nodeIds[i]?).all (isUsed s)

/-- Where the node at a position of the scene that was shaken stood before. -/
noncomputable def place (s : Scene) (k : Nat) : Nat := Nat.nth (fun i => stays s i = true) k

theorem infinite_stays (s : Scene) : (Set.ofPred fun i => stays s i = true).Infinite := by
  refine Set.infinite_of_forall_exists_gt fun a => ⟨max (a + 1) s.nodeIds.length, ?_, by omega⟩
  simp [stays]

theorem place_lt_place {k l : Nat} : place s k < place s l ↔ k < l := Nat.nth_lt_nth (infinite_stays s)

theorem place_injective (s : Scene) : Function.Injective (place s) := Nat.nth_injective (infinite_stays s)

theorem exists_place (h : stays s i = true) : ∃ k, place s k = i :=
  ⟨_, Nat.nth_count (p := fun i => stays s i = true) h⟩

theorem stays_of_isUsed (hid : s.nodeIds[i]? = some id) (h : isUsed s id = true) : stays s i = true := by
  rw [stays, hid]
  exact h

theorem mem_nodeIds_treeShake : id ∈ (treeShake s).nodeIds ↔ id ∈ s.nodeIds ∧ isUsed s id = true := by
  rw [nodeIds_treeShake, List.mem_filter]

theorem filter_idsAt (positions : List Nat) :
    (idsAt s positions).filter (isUsed s) = idsAt s (positions.filter (stays s)) := by
  unfold idsAt
  rw [List.filter_filterMap, List.filterMap_filter]
  refine List.filterMap_congr fun i _ => ?_
  cases hid : s.nodeIds[i]? with
  | none => simp
  | some id => simp [stays, hid, Option.filter]

theorem place_lt : place s k < s.nodes.length ↔ k < Nat.count (fun i => stays s i = true) s.nodes.length :=
  (Nat.lt_nth_iff_count_lt (infinite_stays s)).symm

theorem getElem?_idsAt {positions : List Nat} (h : ∀ i ∈ positions, i < s.nodeIds.length) (k : Nat) :
    (idsAt s positions)[k]? = positions[k]?.bind (s.nodeIds[·]?) := by
  induction positions generalizing k with
  | nil => rfl
  | cons i rest ih =>
    obtain ⟨hi, hrest⟩ := List.forall_mem_cons.1 h
    rw [idsAt_cons (List.getElem?_eq_getElem hi)]
    cases k with
    | zero => exact (List.getElem?_eq_getElem hi).symm
    | succ k => exact ih hrest k

theorem nodeIds_place : (treeShake s).nodeIds =
    idsAt s ((List.range (Nat.count (fun i => stays s i = true) s.nodes.length)).map (place s)) :=
  calc (treeShake s).nodeIds
    _ = (idsAt s (List.range s.nodes.length)).filter (isUsed s) := by rw [nodeIds_treeShake, idsAt_range]
    _ = idsAt s ((List.range s.nodes.length).filter (stays s)) := filter_idsAt _
    _ = idsAt s ((List.range (Nat.count (fun i => stays s i = true) s.nodes.length)).map (place s)) :=
        congrArg (idsAt s) (filter_range_eq_map_nth (stays s) s.nodes.length)

theorem getElem?_place (k : Nat) : (treeShake s).nodeIds[k]? = s.nodeIds[place s k]? := by
  have hlength : s.nodeIds.length = s.nodes.length := List.length_map ..
  rw [nodeIds_place, getElem?_idsAt]
  · by_cases hk : k < Nat.count (fun i => stays s i = true) s.nodes.length
    · simp [hk]
    · have hle : s.nodeIds.length ≤ place s k := by
        rw [hlength]
        exact Nat.not_lt.1 fun hlt => hk (place_lt.1 hlt)
      simp [hk, List.getElem?_eq_none hle]
  · intro i hi
    obtain ⟨k, hk, rfl⟩ := List.mem_map.1 hi
    rw [hlength]
    exact place_lt.2 (List.mem_range.1 hk)

theorem count_stays : Nat.count (fun i => stays s i = true) s.nodes.length = (treeShake s).nodes.length := by
  have hlength : s.nodeIds.length = s.nodes.length := List.length_map ..
  have hlength' : (treeShake s).nodeIds.length = (treeShake s).nodes.length := List.length_map ..
  refine eq_of_forall_ge_iff fun k => ?_
  rw [← not_lt, ← place_lt, not_lt, ← hlength, ← hlength', ← List.getElem?_eq_none_iff, ← List.getElem?_eq_none_iff,
    getElem?_place]

theorem idsAt_place (positions : List Nat) : idsAt s (positions.map (place s)) = idsAt (treeShake s) positions := by
  rw [idsAt, idsAt, List.filterMap_map]
  exact List.filterMap_congr fun k _ => (getElem?_place k).symm

/-! ## Connections of the nodes that stay -/

theorem position?_last {ids : List String} {j : Nat} (h : position? ids id = some i) (hij : i < j) :
    ids[j]? ≠ some id := by
  intro hj
  obtain ⟨k, hk, rfl⟩ := Option.map_eq_some_iff.1 h
  obtain ⟨hlt, -, hbefore⟩ := List.findIdx?_eq_some_iff_getElem.1 hk
  obtain ⟨hjlt, hid⟩ := List.getElem?_eq_some_iff.1 hj
  rw [List.length_reverse] at hlt
  have hnot := hbefore (ids.length - 1 - j) (by omega)
  rw [List.getElem_reverse] at hnot
  have hindex : ids.length - 1 - (ids.length - 1 - j) = j := by omega
  simp [hindex, hid] at hnot

theorem position?_eq_none {ids : List String} (h : id ∉ ids) : position? ids id = none := by
  cases hi : position? ids id with
  | none => rfl
  | some i => exact absurd (List.mem_of_getElem? (getElem?_of_position? _ _ _ hi)) h

theorem position?_place (h : isUsed s id = true) :
    position? s.nodeIds id = (position? (treeShake s).nodeIds id).map (place s) := by
  by_cases hmem : id ∈ s.nodeIds
  · have hkept : id ∈ (treeShake s).nodeIds := mem_nodeIds_treeShake.2 ⟨hmem, h⟩
    obtain ⟨i, hi⟩ := position?_isSome _ _ hmem
    obtain ⟨k, hk⟩ := position?_isSome _ _ hkept
    have hid := getElem?_of_position? _ _ _ hi
    obtain ⟨l, rfl⟩ := exists_place (stays_of_isUsed hid h)
    have hid' := getElem?_of_position? _ _ _ hk
    -- Neither of the two positions is before the other, since each is the last of its scene.
    have hle : ¬ place s l < place s k := fun hlt => position?_last hi hlt (getElem?_place k ▸ hid')
    have hge : ¬ k < l := fun hlt => position?_last hk hlt ((getElem?_place l).trans hid)
    rw [place_lt_place] at hle
    obtain rfl : l = k := by omega
    rw [hi, hk]
    rfl
  · have hkept : id ∉ (treeShake s).nodeIds := fun hkept => hmem (mem_nodeIds_treeShake.1 hkept).1
    rw [position?_eq_none hmem, position?_eq_none hkept]
    rfl

theorem isUsed_ends {c : Connection} (hc : c ∈ s.connections) :
    isUsed s c.source.node = true ∧ isUsed s c.target.node = true := by
  constructor
  all_goals
    refine Bool.or_eq_true_iff.2 (.inl (List.any_eq_true.2 ⟨c, hc, ?_⟩))
    simp

theorem edges_place : edges s = (edges (treeShake s)).map (Prod.map (place s) (place s)) := by
  unfold edges
  rw [List.map_filterMap]
  refine List.filterMap_congr fun c hc => ?_
  obtain ⟨hsource, htarget⟩ := isUsed_ends hc
  simp only [position?_place hsource, position?_place htarget]
  cases position? (treeShake s).nodeIds c.source.node with
  | none => rfl
  | some i => cases position? (treeShake s).nodeIds c.target.node <;> rfl

theorem stays_of_edge {e : Nat × Nat} (he : e ∈ edges s) : stays s e.1 = true ∧ stays s e.2 = true := by
  obtain ⟨c, hc, hsource, htarget⟩ := mem_edges.1 he
  obtain ⟨husedSource, husedTarget⟩ := isUsed_ends hc
  exact ⟨stays_of_isUsed (getElem?_of_position? _ _ _ hsource) husedSource,
    stays_of_isUsed (getElem?_of_position? _ _ _ htarget) husedTarget⟩

/-! ## The order -/

/-- The run on a scene, and the one on what is left of it when it is shaken. -/
theorem drain_shaken (s : Scene) :
    (drain (List.range s.nodes.length) (edges s)).1.filter (stays s) =
        (drain (List.range (treeShake s).nodes.length) (edges (treeShake s))).1.map (place s) ∧
      (drain (List.range s.nodes.length) (edges s)).2 =
        (drain (List.range (treeShake s).nodes.length) (edges (treeShake s))).2.map (place s) := by
  have hrange : (List.range s.nodes.length).filter (stays s) =
      (List.range (treeShake s).nodes.length).map (place s) := by
    rw [← count_stays]
    exact filter_range_eq_map_nth (stays s) s.nodes.length
  have hfilter := drain_filter (stays s) (List.range s.nodes.length) (edges s) fun _ => stays_of_edge
  have hmap := drain_map (place_injective s) (List.range (treeShake s).nodes.length) (edges (treeShake s))
  rw [← hrange, ← edges_place, hfilter] at hmap
  exact Prod.mk.inj hmap

theorem treeShake_treeShake (s : Scene) : treeShake (treeShake s) = treeShake s := by
  have hused : isUsed (treeShake s) = isUsed s := rfl
  have hnodes : (treeShake s).nodes.filter (fun n => isUsed s n.id) = (treeShake s).nodes := by
    simp [treeShake]
  rw [treeShake, hused, hnodes]

/-- Whatever the scene, an order of what is left when it is shaken is found exactly if one of the whole scene is, and
is that one without the nodes that were left out. If there is none, the same nodes are reported. Shaking once more
changes nothing. -/
theorem topologicalOrder_treeShake (s : Scene) :
    topologicalOrder (treeShake s) =
        (topologicalOrder s).map (fun order => order.filter fun id => id ∈ (treeShake s).nodeIds) ∧
      treeShake (treeShake s) = treeShake s := by
  refine ⟨?_, treeShake_treeShake s⟩
  obtain ⟨htaken, hrest⟩ := drain_shaken s
  have hfilter : ∀ positions, (idsAt s positions).filter (fun id => id ∈ (treeShake s).nodeIds) =
      idsAt s (positions.filter (stays s)) := by
    intro positions
    rw [← filter_idsAt]
    refine List.filter_congr fun id hid => ?_
    obtain ⟨i, -, hid⟩ := mem_idsAt.1 hid
    simp [mem_nodeIds_treeShake, List.mem_of_getElem? hid]
  unfold topologicalOrder
  generalize drain (List.range s.nodes.length) (edges s) = run at htaken hrest ⊢
  generalize drain (List.range (treeShake s).nodes.length) (edges (treeShake s)) = run' at htaken hrest ⊢
  obtain ⟨taken, rest⟩ := run
  obtain ⟨taken', rest'⟩ := run'
  obtain rfl : rest = rest'.map (place s) := hrest
  have htaken : taken.filter (stays s) = taken'.map (place s) := htaken
  cases rest' with
  | nil =>
    have horder : idsAt (treeShake s) taken' = (idsAt s taken).filter fun id => id ∈ (treeShake s).nodeIds := by
      rw [hfilter, htaken, idsAt_place]
    exact congrArg Except.ok horder
  | cons i rest' => exact congrArg (fun ids => Except.error (CycleError.mk ids)) (idsAt_place (i :: rest')).symm

end SceneGraph.Graph
