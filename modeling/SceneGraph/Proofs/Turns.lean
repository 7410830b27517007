import Mathlib.Order.Lattice.Nat
import SceneGraph.Proofs.Nesting

/-!
# Turns

The nodes of a scene take turns in topological order. A node drawn by compositions gets drawn at the
first turn of a node that it is drawn with, and at no other.

* `PlanContext.TurnOf`: a node is planned at its place in the order.
* `PlanContext.turn`: the place at which a node is drawn.
* `PlanContext.Traced`: the events of the turns so far, each with its place.
* `PlanContext.nodes_traced`: planning all nodes leaves a trace.
* `PlanContext.Traced.at_turn`: events happen at the turn of their subject.
-/
set_option autoImplicit false

namespace SceneGraph

open PlanState

/-- Nothing has been planned yet. -/
structure PlanState.Fresh (st : PlanState) : Prop where
  passes : st.plan.passes = []
  drawn : st.drawn = []
  copied : st.copied = []
  written : st.written = []

namespace PlanContext

variable {c : PlanContext} {st₀ st st' : PlanState} {n : Node}

/-- The node is planned at this place in the order. -/
def TurnOf (c : PlanContext) (i : Nat) (n : Node) : Prop :=
  c.prepared.order[i]? = some n.id ∧ c.prepared.node? n.id = some n ∧ c.Root n

/-- The place at which a node is drawn. -/
noncomputable def turn (c : PlanContext) (x : String) : Nat := sInf {i | ∃ n, c.TurnOf i n ∧ c.Below x n.id}

/-- The events of the first turns, each with the place of its turn. -/
structure Traced (c : PlanContext) (st₀ st : PlanState) (k : Nat) (tr : List (Nat × Event)) : Prop where
  emits : Emits c st₀ st (tr.map Prod.snd)
  sorted : tr.Pairwise fun a b => a.1 ≤ b.1
  early : ∀ x ∈ tr, x.1 < k
  placed : ∀ x ∈ tr, ∃ n, c.TurnOf x.1 n ∧ c.Below x.2.subject n.id
  /-- No event could have happened at an earlier turn. -/
  first : ∀ x ∈ tr, ∀ i < x.1, ∀ n, c.TurnOf i n → ¬ c.Below x.2.subject n.id
  complete : c.Complete [] st
  drawn : ∀ i < k, ∀ n, c.TurnOf i n → isTargetType n.type = false → n.id ∈ st.drawn
  written : ∀ i < k, ∀ n, c.TurnOf i n → isTargetType n.type = true →
    ∃ x ∈ tr, x.1 ≤ i ∧ ∃ q ∈ x.2.passes, q.target = (Route.domainAt c.routes.textures n.id).texture

theorem Traced.start (hst : Ready c st₀) (hfresh : st₀.Fresh) : c.Traced st₀ st₀ 0 [] where
  emits := .refl hst
  sorted := .nil
  early := by simp
  placed := by simp
  first := by simp
  complete := by simp [Complete, hfresh.drawn]
  drawn := by simp
  written := by simp

/-! ## Targets -/

theorem Below.target {x m : String} (hn : c.prepared.node? x = some n) (htype : isTargetType n.type = true)
    (h : c.Below x m) : x = m := by
  rcases Relation.ReflTransGen.cases_head h with heq | ⟨y, ⟨_, _, ln, _, _, hln, _, _, hkind⟩, _⟩
  · exact heq
  · rw [hn] at hln
    cases hln
    unfold isTargetType at htype
    simp only [Bool.or_eq_true, beq_iff_eq] at htype
    rcases htype with htype | htype <;> rw [htype] at hkind <;>
      exact absurd hkind (by simp [compositeType, screenType, isDrawType])

theorem Below.to_target (hc : c.Valid) {x m : String} (hn : c.prepared.node? m = some n)
    (htype : isTargetType n.type = true) (h : c.Below x m) : x = m := by
  rcases Relation.ReflTransGen.cases_tail h with heq | ⟨y, _, hplace⟩
  · exact heq.symm
  · obtain ⟨m', hm', hmtype⟩ := hplace.composite hc
    rw [hn] at hm'
    cases hm'
    rw [hmtype] at htype
    exact absurd htype (by decide)

/-! ## Single turns -/

theorem TurnOf.rank (hc : c.Valid) (hnodup : c.prepared.scene.nodeIds.Nodup) {i : Nat} (h : c.TurnOf i n) :
    c.prepared.rank n.id = i := by
  obtain ⟨hi, hget⟩ := List.getElem?_eq_some_iff.1 h.1
  rw [Prepared.rank, ← hget]
  exact (hc.routes.prepared.order_nodup hnodup).idxOf_getElem i hi

/-- A node with a turn of its own has it at its rank. -/
theorem turnOf_rank (hc : c.Valid) {n : Node} (hn : c.prepared.node? n.id = some n) (hroot : c.Root n) :
    c.TurnOf (c.prepared.rank n.id) n := by
  have hlt := hc.routes.prepared.rank_lt hn
  refine ⟨?_, hn, hroot⟩
  rw [List.getElem?_eq_getElem hlt]
  exact congrArg some (List.getElem_idxOf hlt)

/-- At a turn nothing happens that could have happened before. -/
theorem Traced.not_below (hc : c.Valid) (hnodup : c.prepared.scene.nodeIds.Nodup) {k : Nat}
    {tr : List (Nat × Event)} (htr : c.Traced st₀ st k tr) (hn : c.TurnOf k n) {x : String} (hbelow : c.Below x n.id)
    (hx : x ∉ st.drawn ∨ isTargetType n.type = true ∧ x = n.id) {i : Nat} (hi : i < k) {m : Node}
    (hm : c.TurnOf i m) : ¬ c.Below x m.id := by
  intro h
  have hrank := hm.rank hc hnodup
  have hrank' := hn.rank hc hnodup
  -- targets are drawn with no other node, so both turns would be theirs
  have htarget : ∀ t, c.prepared.node? x = some t → isTargetType t.type = true → False := by
    intro t ht htype
    have := hbelow.target ht htype
    rw [h.target ht htype] at this
    rw [this] at hrank
    omega
  cases htype : isTargetType m.type with
  | true =>
    obtain rfl := h.to_target hc hm.2.1 htype
    exact htarget m hm.2.1 htype
  | false =>
    rcases hx with hnew | ⟨hntype, rfl⟩
    · exact hnew (htr.complete.below (htr.drawn i hi m hm htype) h)
    · exact htarget n hn.2.1 hntype

theorem TurnOf.eq {i : Nat} {m : Node} (h : c.TurnOf i m) (hi : c.prepared.order[i]? = some n.id)
    (hn : c.prepared.node? n.id = some n) : m = n := by
  have hid := Option.some.inj (hi.symm.trans h.1)
  have hm := h.2.1
  rw [← hid, hn] at hm
  exact (Option.some.inj hm).symm

/-- What is written by the end of a trace is written in it. -/
theorem exists_write (hfresh : st₀.Fresh) {tr : List (Nat × Event)} (h : Emits c st₀ st (tr.map Prod.snd))
    {name : String} (hname : name ∈ st.written) : ∃ x ∈ tr, ∃ q ∈ x.2.passes, q.target = name := by
  rcases (h.written name).1 hname with hold | ⟨q, hq, htarget⟩
  · rw [hfresh.written] at hold
    cases hold
  · rw [List.flatMap_map] at hq
    obtain ⟨x, hx, hqx⟩ := List.mem_flatMap.1 hq
    exact ⟨x, hx, q, hqx, htarget⟩

theorem Traced.turn (hc : c.Valid) (hnodup : c.prepared.scene.nodeIds.Nodup) (hfresh : st₀.Fresh) {k : Nat}
    {tr : List (Nat × Event)} (htr : c.Traced st₀ st k tr) (hk : c.prepared.order[k]? = some n.id)
    (hn : c.prepared.node? n.id = some n) {u : Unit} (h : Yields (c.node n) st u st') :
    ∃ tr', c.Traced st₀ st' (k + 1) tr' := by
  obtain ⟨es, hemits, hes⟩ := node_emits hc hn htr.emits.ready h
  obtain ⟨hcomplete, hdone, hwritten⟩ := node_complete hc hnodup hn htr.emits.ready h htr.complete
  have hall : Emits c st₀ st' ((tr ++ es.map (Prod.mk k)).map Prod.snd) := by
    have := htr.emits.trans hemits
    rwa [List.map_append, List.map_map, show Prod.snd ∘ Prod.mk k = (id : Event → Event) from rfl, List.map_id]
  have hnew : ∀ x ∈ tr ++ es.map (Prod.mk k), x ∈ tr ∨ ∃ e ∈ es, x = (k, e) := by
    intro x hx
    rcases List.mem_append.1 hx with hx | hx
    · exact .inl hx
    · obtain ⟨e, he, rfl⟩ := List.mem_map.1 hx
      exact .inr ⟨e, he, rfl⟩
  have hle : ∀ x ∈ tr ++ es.map (Prod.mk k), x.1 ≤ k := by
    intro x hx
    rcases hnew x hx with hx | ⟨e, _, rfl⟩
    · exact (htr.early x hx).le
    · exact le_rfl
  refine ⟨tr ++ es.map (Prod.mk k), hall, ?_, fun x hx => Nat.lt_succ_of_le (hle x hx), ?_, ?_, hcomplete, ?_, ?_⟩
  · refine List.pairwise_append.2 ⟨htr.sorted, ?_, ?_⟩
    · rw [List.pairwise_map]
      exact List.pairwise_of_forall fun _ _ => le_rfl
    · intro a ha b hb
      obtain ⟨e, _, rfl⟩ := List.mem_map.1 hb
      exact (htr.early a ha).le
  · intro x hx
    rcases hnew x hx with hx | ⟨e, he, rfl⟩
    · exact htr.placed x hx
    · exact ⟨n, ⟨hk, hn, (hes e he).1⟩, (hes e he).2.1⟩
  · intro x hx i hi m hm
    rcases hnew x hx with hx | ⟨e, he, rfl⟩
    · exact htr.first x hx i hi m hm
    · exact htr.not_below hc hnodup ⟨hk, hn, (hes e he).1⟩ (hes e he).2.1 (hes e he).2.2 hi hm
  · intro i hi m hm htype
    rcases Nat.lt_succ_iff_lt_or_eq.1 hi with hi | rfl
    · exact hemits.drawn_subset (htr.drawn i hi m hm htype)
    · obtain rfl := hm.eq hk hn
      exact hdone hm.2.2 htype
  · intro i hi m hm htype
    rcases Nat.lt_succ_iff_lt_or_eq.1 hi with hi | rfl
    · obtain ⟨x, hx, hle, hq⟩ := htr.written i hi m hm htype
      exact ⟨x, List.mem_append_left _ hx, hle, hq⟩
    · obtain rfl := hm.eq hk hn
      obtain ⟨x, hx, hq⟩ := exists_write hfresh hall (hwritten htype)
      exact ⟨x, hx, hle x hx, hq⟩

/-! ## All turns -/

theorem Traced.skip {k : Nat} {tr : List (Nat × Event)} (htr : c.Traced st₀ st k tr)
    (hk : ∀ n, ¬ c.TurnOf k n) : c.Traced st₀ st (k + 1) tr where
  emits := htr.emits
  sorted := htr.sorted
  early x hx := (htr.early x hx).trans (Nat.lt_succ_self k)
  placed := htr.placed
  first := htr.first
  complete := htr.complete
  drawn i hi m hm := by
    rcases Nat.lt_succ_iff_lt_or_eq.1 hi with hi | rfl
    · exact htr.drawn i hi m hm
    · exact absurd hm (hk m)
  written i hi m hm := by
    rcases Nat.lt_succ_iff_lt_or_eq.1 hi with hi | rfl
    · exact htr.written i hi m hm
    · exact absurd hm (hk m)

theorem nodes_traced_from (hc : c.Valid) (hnodup : c.prepared.scene.nodeIds.Nodup) (hfresh : st₀.Fresh)
    {done rest : List String} (horder : c.prepared.order = done ++ rest) {tr : List (Nat × Event)}
    (htr : c.Traced st₀ st done.length tr) {u : Unit} (h : Yields (c.nodes rest) st u st') :
    ∃ tr', c.Traced st₀ st' c.prepared.order.length tr' := by
  induction rest generalizing done st tr with
  | nil =>
    obtain ⟨_, rfl⟩ := (yields_pure _ _ _ _).1 h
    rw [List.append_nil] at horder
    exact ⟨tr, by rwa [horder]⟩
  | cons id rest ih =>
    have hk : c.prepared.order[done.length]? = some id := by simp [horder]
    have hnext : c.prepared.order = (done ++ [id]) ++ rest := by simp [horder]
    have hlength : (done ++ [id]).length = done.length + 1 := by simp
    unfold nodes at h
    split at h
    · rename_i n hn
      obtain ⟨_, st₁, hfirst, hrest⟩ := (yields_bind _ _ _ _ _).1 h
      obtain ⟨rfl, _⟩ := Prepared.node?_eq_some hn
      obtain ⟨tr₁, htr₁⟩ := htr.turn hc hnodup hfresh hk hn hfirst
      exact ih hnext (hlength ▸ htr₁) hrest
    · rename_i hn
      refine ih hnext (hlength ▸ htr.skip fun n hn' => ?_) h
      rw [hn'.1] at hk
      rw [← Option.some.inj hk, hn'.2.1] at hn
      cases hn

theorem nodes_traced (hc : c.Valid) (hnodup : c.prepared.scene.nodeIds.Nodup) (hst : Ready c st₀)
    (hfresh : st₀.Fresh) {u : Unit} (h : Yields (c.nodes c.prepared.order) st₀ u st') :
    ∃ tr, c.Traced st₀ st' c.prepared.order.length tr :=
  nodes_traced_from hc hnodup hfresh (List.nil_append _).symm (.start hst hfresh) h

/-! ## Places of events -/

namespace Traced

variable {k : Nat} {tr : List (Nat × Event)}

theorem at_turn (htr : c.Traced st₀ st k tr) {x : Nat × Event} (hx : x ∈ tr) : c.turn x.2.subject = x.1 := by
  obtain ⟨n, hn, hbelow⟩ := htr.placed x hx
  refine le_antisymm (Nat.sInf_le ⟨n, hn, hbelow⟩) ?_
  obtain ⟨m, hm, hbelow'⟩ := Nat.sInf_mem (s := {i | ∃ n, c.TurnOf i n ∧ c.Below x.2.subject n.id})
    ⟨x.1, n, hn, hbelow⟩
  by_contra hlt
  exact htr.first x hx _ (not_le.1 hlt) m hm hbelow'

end Traced

end PlanContext

/-! ## Places of passes -/

theorem getElem?_flatMap {α β : Type} {f : α → List β} {l : List α} {i : Nat} {b : β} (h : (l.flatMap f)[i]? = some b) :
    ∃ x ∈ l, ∃ o k, i = o + k ∧ (f x)[k]? = some b ∧
      ∀ k' b', (f x)[k']? = some b' → (l.flatMap f)[o + k']? = some b' := by
  induction l generalizing i with
  | nil => simp at h
  | cons x rest ih =>
    rw [List.flatMap_cons] at h
    rcases Nat.lt_or_ge i (f x).length with hlt | hge
    · rw [List.getElem?_append_left hlt] at h
      refine ⟨x, List.mem_cons_self, 0, i, (Nat.zero_add i).symm, h, fun k' b' hk' => ?_⟩
      obtain ⟨hlt', _⟩ := List.getElem?_eq_some_iff.1 hk'
      rw [Nat.zero_add, List.flatMap_cons, List.getElem?_append_left hlt', hk']
    · rw [List.getElem?_append_right hge] at h
      obtain ⟨y, hy, o, k, hi, hk, hall⟩ := ih h
      refine ⟨y, List.mem_cons_of_mem x hy, (f x).length + o, k, by omega, hk, fun k' b' hk' => ?_⟩
      rw [List.flatMap_cons, List.getElem?_append_right (by omega),
        show (f x).length + o + k' - (f x).length = o + k' by omega]
      exact hall k' b' hk'

/-- The passes of a trace. -/
def tracePasses (tr : List (Nat × Event)) : List Pass := tr.flatMap fun x => x.2.passes

/-- The passes of a trace, each with the place of its turn. -/
def placedPasses (tr : List (Nat × Event)) : List (Nat × Pass) := tr.flatMap fun x => x.2.passes.map (Prod.mk x.1)

theorem placedPasses_map (tr : List (Nat × Event)) : (placedPasses tr).map Prod.snd = tracePasses tr := by
  unfold placedPasses tracePasses
  rw [List.map_flatMap]
  simp

/-- The pass at a position belongs to an event, whose other passes stand around it. -/
structure PassAt (tr : List (Nat × Event)) (i : Nat) (q : Pass) (x : Nat × Event) : Prop where
  mem : x ∈ tr
  place : (placedPasses tr)[i]? = some (x.1, q)
  around : ∃ o k, i = o + k ∧ x.2.passes[k]? = some q ∧
    ∀ k' q', x.2.passes[k']? = some q' → (tracePasses tr)[o + k']? = some q'

theorem PassAt.mem_passes {tr : List (Nat × Event)} {i : Nat} {q : Pass} {x : Nat × Event} (h : PassAt tr i q x) :
    q ∈ x.2.passes := by
  obtain ⟨o, k, _, hk, _⟩ := h.around
  exact List.mem_of_getElem? hk

theorem passAt_of_getElem? {tr : List (Nat × Event)} {i : Nat} {q : Pass} (h : (tracePasses tr)[i]? = some q) :
    ∃ x, PassAt tr i q x := by
  rw [← placedPasses_map, List.getElem?_map] at h
  obtain ⟨⟨a, q'⟩, hplaced, rfl⟩ := Option.map_eq_some_iff.1 h
  obtain ⟨x, hx, o, k, hi, hk, hall⟩ := getElem?_flatMap hplaced
  rw [List.getElem?_map] at hk
  obtain ⟨q'', hq'', heq⟩ := Option.map_eq_some_iff.1 hk
  cases heq
  refine ⟨x, hx, hplaced, o, k, hi, hq'', fun k' w hw => ?_⟩
  have := hall k' (x.1, w) (by simp [hw])
  rw [← placedPasses_map, List.getElem?_map]
  exact congrArg (Option.map Prod.snd) this

theorem exists_passAt {tr : List (Nat × Event)} {x : Nat × Event} {q : Pass} (hx : x ∈ tr) (hq : q ∈ x.2.passes) :
    ∃ i y, PassAt tr i q y ∧ y.1 = x.1 := by
  have hmem : (x.1, q) ∈ placedPasses tr := List.mem_flatMap.2 ⟨x, hx, List.mem_map_of_mem hq⟩
  obtain ⟨i, hi⟩ := List.mem_iff_getElem?.1 hmem
  have hpass : (tracePasses tr)[i]? = some q := by
    rw [← placedPasses_map, List.getElem?_map, hi]
    rfl
  obtain ⟨y, hy⟩ := passAt_of_getElem? hpass
  have hplace := hy.place
  rw [hi] at hplace
  exact ⟨i, y, hy, (congrArg Prod.fst (Option.some.inj hplace)).symm⟩

theorem PassAt.getElem? {tr : List (Nat × Event)} {i : Nat} {q : Pass} {x : Nat × Event} (h : PassAt tr i q x) :
    (tracePasses tr)[i]? = some q := by
  rw [← placedPasses_map, List.getElem?_map, h.place]
  rfl

namespace PlanContext.Traced

variable {c : PlanContext} {st₀ st : PlanState} {k : Nat} {tr : List (Nat × Event)}

/-- Passes of an earlier turn stand before those of a later one. -/
theorem lt_of_lt (htr : c.Traced st₀ st k tr) {i j : Nat} {q w : Pass} {x y : Nat × Event} (hq : PassAt tr i q x)
    (hw : PassAt tr j w y) (hlt : y.1 < x.1) : j < i := by
  have hsorted : (placedPasses tr).Pairwise fun a b => a.1 ≤ b.1 := by
    unfold placedPasses
    rw [List.pairwise_flatMap]
    refine ⟨fun a _ => ?_, ?_⟩
    · rw [List.pairwise_map]
      exact List.pairwise_of_forall fun _ _ => le_rfl
    · refine htr.sorted.imp fun hab p hp p' hp' => ?_
      obtain ⟨_, _, rfl⟩ := List.mem_map.1 hp
      obtain ⟨_, _, rfl⟩ := List.mem_map.1 hp'
      exact hab
  obtain ⟨hi, hget⟩ := List.getElem?_eq_some_iff.1 hq.place
  obtain ⟨hj, hget'⟩ := List.getElem?_eq_some_iff.1 hw.place
  by_contra hle
  rcases Nat.lt_or_eq_of_le (not_lt.1 hle) with hlt' | rfl
  · have := List.pairwise_iff_getElem.1 hsorted i j hi hj hlt'
    rw [hget, hget'] at this
    simp only at this
    omega
  · rw [hget] at hget'
    have := congrArg Prod.fst hget'
    simp only at this
    omega

end PlanContext.Traced

end SceneGraph
