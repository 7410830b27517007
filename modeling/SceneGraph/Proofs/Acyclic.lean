import Mathlib.Data.Set.Finite.List
import Mathlib.Order.WellFoundedSet
import SceneGraph.Proofs.Order
import SceneGraph.Proofs.Reachability

/-!
# Orders and cycles

The nodes of a scene can be ordered exactly when no chain of connections leads from a node back to itself. A
position that is never taken waits for another one that is never taken either, and among finitely many such
positions some chain of waiting comes back to where it began. The other way round, a chain goes forward in an
order, so it cannot come back.

Where there is no order, the report lists what could not be ordered: the nodes that lie on a cycle, and those to
which something on a cycle leads. What could be ordered has only nodes before it that could be ordered too, and going
back from a node that could not be, from one that it waits for to the next, comes round in the end.

Many orders of a scene without cycles let every connection go forward. The one that is found comes first among them
when orders are compared by the positions of their nodes in the scene, place by place: the first place where another
order differs holds a later node of the scene there. So the order depends on which nodes are joined and on nothing
else about the connections.

* `Graph.Joins`: a connection leads from one node of the scene to another.
* `Graph.exists_joins_of_mem_remaining`: what could not be ordered waits for more of its kind.
* `Graph.idxOf_lt_of_chain`: chains go forward in an order.
* `Graph.topologicalOrder_complete`: an order is found exactly where there is no cycle, and it is one.
* `Graph.exists_cycle_above`: going back through a finite list comes to a cycle.
* `Graph.taken_of_chain`: a chain of connections to a node that is taken comes from one that is taken before it.
* `Graph.remaining_exact`: the nodes that a report lists.
* `Graph.Forward`: an order of the nodes in which every connection between nodes goes forward.
* `Graph.drain_first`: the positions taken come first among the lists in which edges run forward.
* `Graph.topologicalOrder_least`: the order of a scene comes first among the forward orders.
-/
set_option autoImplicit false

namespace SceneGraph.Graph

/-! ## Cycles in finite lists -/

theorem exists_cycle {α : Type} {r : α → α → Prop} {l : List α} (hne : l ≠ [])
    (hwaits : ∀ b ∈ l, ∃ a ∈ l, r a b) : ∃ a, Relation.TransGen r a a := by
  by_contra hnone
  have htrans : IsTrans α (Relation.TransGen r) := ⟨fun _ _ _ => Relation.TransGen.trans⟩
  have hirrefl : Std.Irrefl (Relation.TransGen r) := ⟨fun a ha => hnone ⟨a, ha⟩⟩
  have horder : IsStrictOrder α (Relation.TransGen r) := { }
  have hwf := (List.finite_toSet l).wellFoundedOn (r := Relation.TransGen r)
  obtain ⟨b, hb⟩ := List.exists_mem_of_ne_nil l hne
  -- Without a cycle the chains in the list are well-founded, so nothing in it can wait for ever.
  refine hwf.induction (P := fun _ => False) hb fun b hb ih => ?_
  obtain ⟨a, ha, hab⟩ := hwaits b hb
  exact ih a ha (.single hab)

/-! ## What is left over -/

/-- A position that is left over waits for one that was not taken. -/
theorem drain_blocked {remaining : List Nat} {edges : List (Nat × Nat)} {j : Nat}
    (h : j ∈ (drain remaining edges).2) : ∃ i, (i, j) ∈ edges ∧ i ∉ (drain remaining edges).1 := by
  induction remaining, edges using drain_induction with
  | stop remaining edges hfound =>
    rw [drain_none _ _ hfound] at h ⊢
    have hready : ¬ isReady edges j = true := List.find?_eq_none.1 hfound j h
    simp only [isReady, List.all_eq_true, bne_iff_ne, not_forall, not_not] at hready
    obtain ⟨⟨i, j'⟩, hedge, rfl⟩ := hready
    exact ⟨i, hedge, List.not_mem_nil⟩
  | take remaining edges k hfound ih =>
    rw [drain_some _ _ _ hfound] at h ⊢
    obtain ⟨i, hedge, hi⟩ := ih h
    obtain ⟨hedge, hik⟩ := List.mem_filter.1 hedge
    have hik : i ≠ k := by simpa using hik
    exact ⟨i, hedge, by simp [hik, hi]⟩

variable {s : Scene}

theorem mem_edges {i j : Nat} : (i, j) ∈ edges s ↔ ∃ c ∈ s.connections,
    position? s.nodeIds c.source.node = some i ∧ position? s.nodeIds c.target.node = some j := by
  simp only [edges, List.mem_filterMap]
  refine exists_congr fun c => and_congr_right fun _ => ?_
  split
  · rename_i i' j' hi hj
    rw [hi, hj, Option.some.injEq, Option.some.injEq, Option.some.injEq, Prod.mk.injEq]
  · rename_i hnone
    constructor
    · intro h
      cases h
    · rintro ⟨hi, hj⟩
      exact (hnone i j hi hj).elim

theorem mem_idsAt {positions : List Nat} {id : String} :
    id ∈ idsAt s positions ↔ ∃ i ∈ positions, s.nodeIds[i]? = some id := List.mem_filterMap

theorem topologicalOrder_eq_error {err : CycleError} (h : topologicalOrder s = .error err) :
    err.remaining = idsAt s (drain (List.range s.nodes.length) (edges s)).2 ∧
      (drain (List.range s.nodes.length) (edges s)).2 ≠ [] := by
  unfold topologicalOrder at h
  generalize drain (List.range s.nodes.length) (edges s) = d at h ⊢
  obtain ⟨taken, rest⟩ := d
  cases rest with
  | nil => simp at h
  | cons i rest =>
    simp only [List.isEmpty_cons, Bool.false_eq_true, if_false, Except.error.injEq] at h
    exact ⟨h ▸ rfl, List.cons_ne_nil i rest⟩

/-! ## Nodes that are joined -/

/-- A connection leads from one node of the scene to another. -/
def Joins (s : Scene) (a b : String) : Prop :=
  ∃ c ∈ s.connections, c.source.node = a ∧ c.target.node = b ∧ a ∈ s.nodeIds ∧ b ∈ s.nodeIds

theorem exists_joins_of_mem_remaining {err : CycleError} (h : topologicalOrder s = .error err) {b : String}
    (hb : b ∈ err.remaining) : ∃ a ∈ err.remaining, Joins s a b := by
  obtain ⟨hrest, -⟩ := topologicalOrder_eq_error h
  rw [hrest] at hb ⊢
  obtain ⟨j, hj, hb⟩ := mem_idsAt.1 hb
  obtain ⟨i, hedge, hi⟩ := drain_blocked hj
  obtain ⟨c, hc, hsource, htarget⟩ := mem_edges.1 hedge
  have hsource := getElem?_of_position? _ _ _ hsource
  have htarget := getElem?_of_position? _ _ _ htarget
  obtain rfl : c.target.node = b := Option.some.inj (htarget.symm.trans hb)
  -- The position that is waited for is one of the scene and was not taken, so it is left over.
  have hrange : i ∈ List.range s.nodes.length := by
    obtain ⟨hlt, -⟩ := List.getElem?_eq_some_iff.1 hsource
    simpa [Scene.nodeIds] using hlt
  have hleft := (drain_perm (List.range s.nodes.length) (edges s)).mem_iff.2 hrange
  have hi := (List.mem_append.1 hleft).resolve_left hi
  exact ⟨c.source.node, mem_idsAt.2 ⟨i, hi, hsource⟩, c, hc, rfl, rfl, List.mem_of_getElem? hsource,
    List.mem_of_getElem? htarget⟩

theorem remaining_ne_nil {err : CycleError} (h : topologicalOrder s = .error err) : err.remaining ≠ [] := by
  obtain ⟨hrest, hne⟩ := topologicalOrder_eq_error h
  obtain ⟨i, hi⟩ := List.exists_mem_of_ne_nil _ hne
  have hrange : i ∈ List.range s.nodes.length :=
    (drain_perm (List.range s.nodes.length) (edges s)).mem_iff.1 (List.mem_append_right _ hi)
  have hlt : i < s.nodeIds.length := by simpa [Scene.nodeIds] using hrange
  rw [hrest]
  exact List.ne_nil_of_mem (mem_idsAt.2 ⟨i, hi, List.getElem?_eq_getElem hlt⟩)

theorem exists_cycle_of_error {err : CycleError} (h : topologicalOrder s = .error err) :
    ∃ id, Relation.TransGen (Joins s) id id :=
  exists_cycle (remaining_ne_nil h) fun _ => exists_joins_of_mem_remaining h

variable {order : List String}

theorem idxOf_lt_of_chain (h : topologicalOrder s = .ok order) (hdistinct : s.nodeIds.Nodup) {a b : String}
    (hchain : Relation.TransGen (Joins s) a b) : order.idxOf a < order.idxOf b := by
  have hstep : ∀ {a b}, Joins s a b → order.idxOf a < order.idxOf b := by
    rintro a b ⟨c, hc, rfl, rfl, hsource, htarget⟩
    exact idxOf_lt_idxOf h hdistinct c hc hsource htarget
  induction hchain with
  | single hab => exact hstep hab
  | tail _ hbc ih => exact ih.trans (hstep hbc)

/-- In a scene of distinct ids, whatever else its connections lead to, an order is found exactly when no chain of
connections between nodes comes back to where it began. The order that is found holds every node, and every such
connection goes forward in it. -/
theorem topologicalOrder_complete (hdistinct : s.nodeIds.Nodup) :
    ((∃ order, topologicalOrder s = .ok order) ↔ ∀ id, ¬ Relation.TransGen (Joins s) id id) ∧
      ∀ order, topologicalOrder s = .ok order →
        order.Perm s.nodeIds ∧ ∀ a b, Joins s a b → order.idxOf a < order.idxOf b := by
  refine ⟨⟨?_, ?_⟩, ?_⟩
  · rintro ⟨order, h⟩ id hcycle
    exact Nat.lt_irrefl _ (idxOf_lt_of_chain h hdistinct hcycle)
  · intro hacyclic
    cases h : topologicalOrder s with
    | ok order => exact ⟨order, rfl⟩
    | error err =>
      obtain ⟨id, hcycle⟩ := exists_cycle_of_error h
      exact (hacyclic id hcycle).elim
  · intro order h
    exact ⟨topologicalOrder_perm h, fun a b hab => idxOf_lt_of_chain h hdistinct (.single hab)⟩

/-- Three nodes out of order: two connections in parallel, one behind them, one from nowhere, and, where `loop` is
set, one from the last node to the first. -/
def braided (loop : Bool) : Scene where
  nodes := [{ id := "c", type := "Mul" }, { id := "a", type := "Float" }, { id := "b", type := "Add" }]
  connections := [{ id := "ab", source := ⟨"a", "value"⟩, target := ⟨"b", "a"⟩ },
      { id := "ab'", source := ⟨"a", "value"⟩, target := ⟨"b", "b"⟩ },
      { id := "bc", source := ⟨"b", "value"⟩, target := ⟨"c", "a"⟩ },
      { id := "xc", source := ⟨"x", "value"⟩, target := ⟨"c", "b"⟩ }] ++
    if loop then [{ id := "ca", source := ⟨"c", "value"⟩, target := ⟨"a", "value"⟩ }] else []

theorem braided_orders : topologicalOrder (braided false) = .ok ["a", "b", "c"] ∧
    (∀ id, ¬ Relation.TransGen (Joins (braided false)) id id) ∧
    (∀ a b, Joins (braided false) a b → ["a", "b", "c"].idxOf a < ["a", "b", "c"].idxOf b) ∧
    ∃ id, Relation.TransGen (Joins (braided true)) id id := by
  have horder : topologicalOrder (braided false) = .ok ["a", "b", "c"] := by decide +kernel
  have hrefused : (topologicalOrder (braided true)).toOption = none := by decide +kernel
  obtain ⟨hacyclic, hsound⟩ := topologicalOrder_complete (s := braided false) (by decide)
  refine ⟨horder, hacyclic.1 ⟨_, horder⟩, (hsound _ horder).2, ?_⟩
  by_contra hnone
  obtain ⟨order, h⟩ := (topologicalOrder_complete (s := braided true) (by decide)).1.2 (not_exists.1 hnone)
  rw [h] at hrefused
  cases hrefused

/-! ## Going back -/

/-- Where everything in a list waits for something in the list, a chain leads to each from a cycle. -/
theorem exists_cycle_above {α : Type} {r : α → α → Prop} {l : List α} (hwaits : ∀ b ∈ l, ∃ a ∈ l, r a b) {b : α}
    (hb : b ∈ l) : ∃ a, Relation.TransGen r a a ∧ Relation.ReflTransGen r a b := by
  classical
  -- The chains that lead to `b`, as a relation of their own.
  let above (x y : α) : Prop := r x y ∧ Relation.ReflTransGen r y b
  have hmem : ∀ {y}, y ∈ l.filter (fun y => Relation.ReflTransGen r y b) ↔ y ∈ l ∧ Relation.ReflTransGen r y b := by
    simp
  obtain ⟨a, hcycle⟩ := exists_cycle (r := above) (l := l.filter fun y => Relation.ReflTransGen r y b)
    (List.ne_nil_of_mem (hmem.2 ⟨hb, .refl⟩)) fun y hy => by
      obtain ⟨hy, hyb⟩ := hmem.1 hy
      obtain ⟨x, hx, hxy⟩ := hwaits y hy
      exact ⟨x, hmem.2 ⟨hx, .head hxy hyb⟩, hxy, hyb⟩
  obtain ⟨_, -, -, hab⟩ := Relation.TransGen.tail'_iff.1 hcycle
  exact ⟨a, hcycle.lift id fun _ _ h => h.1, hab⟩

/-! ## What is taken and what is left -/

theorem drain_rest_sublist (remaining : List Nat) (edges : List (Nat × Nat)) :
    (drain remaining edges).2.Sublist remaining := by
  induction remaining, edges using drain_induction with
  | stop remaining edges hfound => rw [drain_none _ _ hfound]
  | take remaining edges k hfound ih =>
    rw [drain_some _ _ _ hfound]
    exact ih.trans List.erase_sublist

variable {err : CycleError} {a b : String}

theorem remaining_sublist (h : topologicalOrder s = .error err) : err.remaining.Sublist s.nodeIds := by
  obtain ⟨hrest, -⟩ := topologicalOrder_eq_error h
  rw [hrest, ← idsAt_range s]
  exact (drain_rest_sublist _ _).filterMap _

theorem taken_append_remaining (h : topologicalOrder s = .error err) : (taken s ++ err.remaining).Perm s.nodeIds := by
  obtain ⟨hrest, -⟩ := topologicalOrder_eq_error h
  rw [hrest, taken, idsAt, idsAt, ← List.filterMap_append]
  exact idsAt_perm s _ (drain_perm _ _)

theorem mem_remaining (h : topologicalOrder s = .error err) (hdistinct : s.nodeIds.Nodup) :
    a ∈ err.remaining ↔ a ∈ s.nodeIds ∧ a ∉ taken s := by
  have hperm := taken_append_remaining h
  have hapart := (List.nodup_append.1 (hperm.nodup_iff.2 hdistinct)).2.2
  constructor
  · intro ha
    exact ⟨hperm.mem_iff.1 (List.mem_append_right _ ha), fun htaken => hapart a htaken a ha rfl⟩
  · rintro ⟨ha, htaken⟩
    exact (List.mem_append.1 (hperm.mem_iff.2 ha)).resolve_left htaken

/-- A chain of connections to a node that is taken comes from one that is taken before it. -/
theorem taken_of_chain (hdistinct : s.nodeIds.Nodup) (hchain : Relation.TransGen (Joins s) a b) (hb : b ∈ taken s) :
    a ∈ taken s ∧ (taken s).idxOf a < (taken s).idxOf b := by
  have hstep : ∀ {a b}, Joins s a b → b ∈ taken s → a ∈ taken s ∧ (taken s).idxOf a < (taken s).idxOf b := by
    rintro a b ⟨c, hc, rfl, rfl, hsource, -⟩ hb
    have hlt := idxOf_lt_of_taken hdistinct c hc hsource hb
    exact ⟨List.idxOf_lt_length_iff.1 (hlt.trans (List.idxOf_lt_length_of_mem hb)), hlt⟩
  induction hchain with
  | single hab => exact hstep hab hb
  | tail _ hcb ih =>
    obtain ⟨hc, hlt⟩ := hstep hcb hb
    obtain ⟨ha, hlt'⟩ := ih hc
    exact ⟨ha, hlt'.trans hlt⟩

/-! ## The report -/

theorem wired_iff_joins (hends : ∀ c ∈ s.connections, c.source.node ∈ s.nodeIds ∧ c.target.node ∈ s.nodeIds) :
    Wired s = Joins s := by
  funext a b
  refine propext ⟨?_, ?_⟩
  · rintro ⟨c, hc, rfl, rfl⟩
    exact ⟨c, hc, rfl, rfl, hends c hc⟩
  · rintro ⟨c, hc, hsource, htarget, -⟩
    exact ⟨c, hc, hsource, htarget⟩

/-- In a scene of distinct ids whose connections join nodes, a report of a cycle lists some nodes, each once and in
scene order: those that lie on a cycle, which are the ones among their own ancestors, and those with an ancestor
that does. -/
theorem remaining_exact (hdistinct : s.nodeIds.Nodup)
    (hends : ∀ c ∈ s.connections, c.source.node ∈ s.nodeIds ∧ c.target.node ∈ s.nodeIds)
    (h : topologicalOrder s = .error err) :
    err.remaining.Sublist s.nodeIds ∧ err.remaining.Nodup ∧ err.remaining ≠ [] ∧
      ∀ n, n ∈ err.remaining ↔ n ∈ s.nodeIds ∧ ∃ m, (m = n ∨ m ∈ ancestors s n) ∧ m ∈ ancestors s m := by
  have hsublist := remaining_sublist h
  refine ⟨hsublist, hdistinct.sublist hsublist, remaining_ne_nil h, fun n => ⟨fun hn => ?_, ?_⟩⟩
  · obtain ⟨m, hcycle, hchain⟩ := exists_cycle_above (fun _ => exists_joins_of_mem_remaining h) hn
    rw [← wired_iff_joins hends] at hcycle hchain
    refine ⟨hsublist.subset hn, m, ?_, mem_ancestors.2 hcycle⟩
    exact (Relation.reflTransGen_iff_eq_or_transGen.1 hchain).imp Eq.symm mem_ancestors.2
  · rintro ⟨hn, m, habove, hcycle⟩
    refine (mem_remaining h hdistinct).2 ⟨hn, fun htaken => ?_⟩
    have hcycle := mem_ancestors.1 hcycle
    rw [wired_iff_joins hends] at hcycle
    have hm : m ∈ taken s := by
      rcases habove with rfl | habove
      · exact htaken
      · have hchain := mem_ancestors.1 habove
        rw [wired_iff_joins hends] at hchain
        exact (taken_of_chain hdistinct hchain htaken).1
    exact Nat.lt_irrefl _ (taken_of_chain hdistinct hcycle hm).2

/-- A cycle of two nodes, one of them wired twice, with a node before it and one behind it, and a node that is wired
to itself with a node behind it. -/
def knotted : Scene where
  nodes := [{ id := "behind", type := "Abs" }, { id := "a", type := "Add" }, { id := "b", type := "Add" },
    { id := "last", type := "Add" }, { id := "self", type := "Abs" }, { id := "before", type := "Time" }]
  connections := [{ id := "1", source := ⟨"a", "value"⟩, target := ⟨"b", "a"⟩ },
    { id := "2", source := ⟨"a", "value"⟩, target := ⟨"b", "b"⟩ },
    { id := "3", source := ⟨"b", "value"⟩, target := ⟨"a", "a"⟩ },
    { id := "4", source := ⟨"before", "value"⟩, target := ⟨"a", "b"⟩ },
    { id := "5", source := ⟨"b", "value"⟩, target := ⟨"behind", "value"⟩ },
    { id := "6", source := ⟨"self", "value"⟩, target := ⟨"self", "value"⟩ },
    { id := "7", source := ⟨"self", "value"⟩, target := ⟨"last", "a"⟩ },
    { id := "8", source := ⟨"before", "value"⟩, target := ⟨"last", "b"⟩ }]

theorem knotted_remaining : topologicalOrder knotted = .error ⟨["behind", "a", "b", "last", "self"]⟩ ∧
    (∃ m, (m = "last" ∨ m ∈ ancestors knotted "last") ∧ m ∈ ancestors knotted m) ∧
    ¬ ∃ m, (m = "before" ∨ m ∈ ancestors knotted "before") ∧ m ∈ ancestors knotted m := by
  have hreport : topologicalOrder knotted = .error ⟨["behind", "a", "b", "last", "self"]⟩ := by decide +kernel
  obtain ⟨-, -, -, hexact⟩ := remaining_exact (by decide) (by decide) hreport
  refine ⟨hreport, ((hexact "last").1 (by decide)).2, fun hcycle => ?_⟩
  exact absurd ((hexact "before").2 ⟨by decide, hcycle⟩) (by decide)

/-! ## Positions taken -/

/-- No edge runs into the head of a list in which edges run forward. -/
theorem isReady_head {edges : List (Nat × Nat)} {i : Nat} {rest : List Nat}
    (hforward : ∀ a b, (a, b) ∈ edges → b ∈ i :: rest → (i :: rest).idxOf a < (i :: rest).idxOf b) :
    isReady edges i = true := by
  refine List.all_eq_true.2 fun e he => bne_iff_ne.2 ?_
  intro htarget
  have hlt := hforward e.1 i (htarget ▸ he) List.mem_cons_self
  rw [List.idxOf_cons_self] at hlt
  exact Nat.not_lt_zero _ hlt

/-- The first ready one of ascending positions is the least. -/
theorem le_of_find?_ready {remaining : List Nat} {edges : List (Nat × Nat)} {k i : Nat}
    (hsorted : remaining.Pairwise (· < ·)) (hfound : remaining.find? (isReady edges) = some k)
    (hi : i ∈ remaining) (hready : isReady edges i = true) : k ≤ i := by
  obtain ⟨-, before, after, rfl, hbefore⟩ := List.find?_eq_some_iff_append.1 hfound
  rcases List.mem_append.1 hi with hi | hi
  · have hnot := hbefore i hi
    rw [hready] at hnot
    cases hnot
  · rcases List.mem_cons.1 hi with rfl | hi
    · exact Nat.le_refl _
    · exact Nat.le_of_lt ((List.pairwise_cons.1 (List.pairwise_append.1 hsorted).2.1).1 i hi)

theorem drain_first {remaining : List Nat} {edges : List (Nat × Nat)} {order : List Nat}
    (hsorted : remaining.Pairwise (· < ·)) (hperm : order.Perm remaining)
    (hforward : ∀ a b, (a, b) ∈ edges → b ∈ order → order.idxOf a < order.idxOf b) :
    ¬ List.Lex (· < ·) order (drain remaining edges).1 := by
  induction remaining, edges using drain_induction generalizing order with
  | stop remaining edges hfound =>
    rw [drain_none _ _ hfound]
    exact List.not_lex_nil
  | take remaining edges k hfound ih =>
    have hk : k ∈ remaining := List.mem_of_find?_eq_some hfound
    cases order with
    | nil => exact absurd (hperm.mem_iff.2 hk) List.not_mem_nil
    | cons i rest =>
      rw [drain_some _ _ _ hfound, List.cons_lex_cons_iff]
      have hki : k ≤ i :=
        le_of_find?_ready hsorted hfound (hperm.mem_iff.1 List.mem_cons_self) (isReady_head hforward)
      rintro (hlt | ⟨rfl, hlex⟩)
      · exact Nat.not_lt.2 hki hlt
      · -- Both begin with the same position, so the edges that are left run forward in what follows it.
        have hrest : rest.Perm (remaining.erase i) := (hperm.trans (List.perm_cons_erase hk)).cons_inv
        refine ih (hsorted.sublist List.erase_sublist) hrest (fun a b hedge hb => ?_) hlex
        obtain ⟨hedge, hai⟩ := List.mem_filter.1 hedge
        have hlt := hforward a b hedge (List.mem_cons_of_mem i hb)
        have hai : a ≠ i := by simpa using hai
        have hbi : b ≠ i := by
          rintro rfl
          rw [List.idxOf_cons_self] at hlt
          exact Nat.not_lt_zero _ hlt
        rw [List.idxOf_cons_ne _ hai.symm, List.idxOf_cons_ne _ hbi.symm] at hlt
        exact Nat.lt_of_succ_lt_succ hlt

/-! ## Orders of a scene -/

/-- An order of the nodes of a scene in which every connection between nodes goes forward. -/
structure Forward (s : Scene) (order : List String) : Prop where
  perm : order.Perm s.nodeIds
  joins : ∀ a b, Joins s a b → order.idxOf a < order.idxOf b

/-- The positions in the scene of the nodes of an order. -/
def positions (s : Scene) (order : List String) : List Nat := order.map s.nodeIds.idxOf

variable {s : Scene} {order other : List String}

theorem idsAt_positions (h : ∀ id ∈ order, id ∈ s.nodeIds) : idsAt s (positions s order) = order := by
  induction order with
  | nil => rfl
  | cons id rest ih =>
    obtain ⟨hid, hrest⟩ := List.forall_mem_cons.1 h
    have hget : s.nodeIds[s.nodeIds.idxOf id]? = some id := by
      rw [List.getElem?_eq_getElem (List.idxOf_lt_length_of_mem hid), List.getElem_idxOf]
    exact (idsAt_cons hget).trans (congrArg (List.cons id) (ih hrest))

theorem positions_idsAt (hdistinct : s.nodeIds.Nodup) {places : List Nat} (h : ∀ i ∈ places, i < s.nodeIds.length) :
    positions s (idsAt s places) = places := by
  induction places with
  | nil => rfl
  | cons i rest ih =>
    obtain ⟨hi, hrest⟩ := List.forall_mem_cons.1 h
    rw [idsAt_cons (List.getElem?_eq_getElem hi)]
    exact congrArg₂ List.cons (hdistinct.idxOf_getElem i hi) (ih hrest)

theorem positions_perm (h : order.Perm s.nodeIds) (hdistinct : s.nodeIds.Nodup) :
    (positions s order).Perm (List.range s.nodes.length) := by
  have hall : positions s s.nodeIds = List.range s.nodes.length := by
    have hlength : s.nodeIds.length = s.nodes.length := List.length_map ..
    refine List.ext_getElem (by simp [positions, hlength]) fun i hi _ => ?_
    have hi : i < s.nodeIds.length := by simpa [positions] using hi
    simpa [positions] using hdistinct.idxOf_getElem i hi
  exact hall ▸ h.map _

/-- Edges run forward in the positions of a forward order. -/
theorem Forward.idxOf_positions (h : Forward s other) (hdistinct : s.nodeIds.Nodup) {i j : Nat}
    (hedge : (i, j) ∈ edges s) :
    (positions s other).idxOf i < (positions s other).idxOf j := by
  obtain ⟨c, hc, hsource, htarget⟩ := mem_edges.1 hedge
  have hsource := getElem?_of_position? _ _ _ hsource
  have htarget := getElem?_of_position? _ _ _ htarget
  have hlt := h.joins c.source.node c.target.node
    ⟨c, hc, rfl, rfl, List.mem_of_getElem? hsource, List.mem_of_getElem? htarget⟩
  have hplaces : ∀ k ∈ positions s other, k < s.nodeIds.length := fun k hk => by
    simpa [Scene.nodeIds] using (positions_perm h.perm hdistinct).mem_iff.1 hk
  have hids : idsAt s (positions s other) = other := idsAt_positions fun id hid => h.perm.mem_iff.1 hid
  rw [← idxOf_idsAt s hdistinct _ hplaces i _ hsource, ← idxOf_idsAt s hdistinct _ hplaces j _ htarget, hids]
  exact hlt

theorem topologicalOrder_forward (hdistinct : s.nodeIds.Nodup) (h : topologicalOrder s = .ok order) :
    Forward s order :=
  ⟨topologicalOrder_perm h, fun _ _ hab => idxOf_lt_of_chain h hdistinct (.single hab)⟩

/-- No forward order comes before the one that is found. -/
theorem topologicalOrder_first (hdistinct : s.nodeIds.Nodup) (h : topologicalOrder s = .ok order)
    (hother : Forward s other) : ¬ List.Lex (· < ·) (positions s other) (positions s order) := by
  obtain ⟨rfl, hperm⟩ := topologicalOrder_eq_ok h
  rw [positions_idsAt hdistinct fun _ => drain_lt]
  exact drain_first List.pairwise_lt_range (positions_perm hother.perm hdistinct)
    fun i j hedge _ => hother.idxOf_positions hdistinct hedge

/-- Two forward orders of which neither comes before the other are the same. -/
theorem Forward.eq_of_not_lex (horder : Forward s order) (hother : Forward s other)
    (hle : ¬ List.Lex (· < ·) (positions s order) (positions s other))
    (hge : ¬ List.Lex (· < ·) (positions s other) (positions s order)) : order = other := by
  have htotal : Std.Trichotomous (List.Lex fun a b : Nat => a < b) := inferInstance
  have hsame : positions s order = positions s other := htotal.trichotomous _ _ hle hge
  rw [← idsAt_positions fun id hid => horder.perm.mem_iff.1 hid, hsame]
  exact idsAt_positions fun id hid => hother.perm.mem_iff.1 hid

/-- In a scene of distinct ids without a cycle the order that is found is a forward one, and by the positions of
its nodes it comes before all others. Every scene of the same ids in which the same nodes are joined, by whichever
and however many connections, has the same order. -/
theorem topologicalOrder_least (hdistinct : s.nodeIds.Nodup) (hacyclic : ∀ id, ¬ Relation.TransGen (Joins s) id id) :
    ∃ order, topologicalOrder s = .ok order ∧ Forward s order ∧
      (∀ other, Forward s other → other ≠ order → List.Lex (· < ·) (positions s order) (positions s other)) ∧
      ∀ t : Scene, t.nodeIds = s.nodeIds → (∀ a b, Joins t a b ↔ Joins s a b) → topologicalOrder t = .ok order := by
  cases h : topologicalOrder s with
  | error err =>
    obtain ⟨id, hcycle⟩ := exists_cycle_of_error h
    exact (hacyclic id hcycle).elim
  | ok order =>
    have hforward := topologicalOrder_forward hdistinct h
    refine ⟨order, rfl, hforward, fun other hother hne => ?_, fun t hids hjoins => ?_⟩
    · by_contra hnot
      exact hne (hother.eq_of_not_lex hforward (topologicalOrder_first hdistinct h hother) hnot)
    · have hsame : Joins t = Joins s := funext fun a => funext fun b => propext (hjoins a b)
      cases ht : topologicalOrder t with
      | error err =>
        obtain ⟨id, hcycle⟩ := exists_cycle_of_error ht
        exact (hacyclic id (hsame ▸ hcycle)).elim
      | ok other =>
        -- The two scenes have the same forward orders, and each of the two orders comes first among them.
        have hdistinct' : t.nodeIds.Nodup := hids ▸ hdistinct
        have hother := topologicalOrder_forward hdistinct' ht
        have hother' : Forward s other := ⟨hids ▸ hother.perm, hsame ▸ hother.joins⟩
        have hforward' : Forward t order := ⟨hids.symm ▸ hforward.perm, hsame.symm ▸ hforward.joins⟩
        have hfirst := topologicalOrder_first hdistinct' ht hforward'
        unfold positions at hfirst
        rw [hids] at hfirst
        exact congrArg _ (hother'.eq_of_not_lex hforward (topologicalOrder_first hdistinct h hother') hfirst)

/-- Two nodes that can begin, of which the first releases a node that stands before both: it comes next. -/
def released : Scene where
  nodes := [{ id := "c", type := "Add" }, { id := "a", type := "Float" }, { id := "b", type := "Time" }]
  connections := [{ id := "ac", source := ⟨"a", "value"⟩, target := ⟨"c", "a"⟩ },
    { id := "ac'", source := ⟨"a", "value"⟩, target := ⟨"c", "b"⟩ },
    { id := "xb", source := ⟨"x", "value"⟩, target := ⟨"b", "value"⟩ }]

theorem released_least : topologicalOrder released = .ok ["a", "c", "b"] ∧ Forward released ["a", "b", "c"] ∧
    List.Lex (· < ·) (positions released ["a", "c", "b"]) (positions released ["a", "b", "c"]) ∧
    topologicalOrder { released with connections := [{ source := ⟨"a", ""⟩, target := ⟨"c", ""⟩ }] } =
      .ok ["a", "c", "b"] := by
  have hfound : topologicalOrder released = .ok ["a", "c", "b"] := by decide +kernel
  have hdistinct : released.nodeIds.Nodup := by decide
  have hjoins : ∀ a b, Joins released a b ↔ a = "a" ∧ b = "c" := by
    intro a b
    constructor
    · rintro ⟨c, hc, rfl, rfl, hsource, -⟩
      simp only [released, List.mem_cons, List.not_mem_nil, or_false] at hc
      rcases hc with rfl | rfl | rfl
      · exact ⟨rfl, rfl⟩
      · exact ⟨rfl, rfl⟩
      · exact absurd hsource (by decide)
    · rintro ⟨rfl, rfl⟩
      exact ⟨_, List.mem_cons_self, rfl, rfl, by decide, by decide⟩
  have hother : Forward released ["a", "b", "c"] := by
    refine ⟨by decide, fun a b hab => ?_⟩
    obtain ⟨rfl, rfl⟩ := (hjoins a b).1 hab
    decide
  obtain ⟨order, horder, -, hleast, hsame⟩ := topologicalOrder_least hdistinct fun _ hcycle =>
    Nat.lt_irrefl _ (idxOf_lt_of_chain hfound hdistinct hcycle)
  obtain rfl : ["a", "c", "b"] = order := Except.ok.inj (hfound.symm.trans horder)
  refine ⟨hfound, hother, hleast _ hother (by decide), hsame _ rfl fun a b => ?_⟩
  rw [hjoins]
  constructor
  · rintro ⟨c, hc, rfl, rfl, -⟩
    obtain rfl := List.mem_singleton.1 hc
    exact ⟨rfl, rfl⟩
  · rintro ⟨rfl, rfl⟩
    exact ⟨_, List.mem_singleton_self _, rfl, rfl, by decide, by decide⟩

end SceneGraph.Graph
