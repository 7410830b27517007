import SceneGraph.Proofs.Copies
import SceneGraph.Proofs.Landing
import SceneGraph.Scene.Structure

/-!
# Drawing everything once

Every composition gets drawn: one that is nested is drawn by an outer one, and the outermost at its own turn. So
does every draw node, by its own turn or by a composition that it feeds. Nothing is drawn twice, and no layer is
copied twice to one texture.

* `PlanContext.History.composite_drawn`, `PlanContext.History.draw_drawn`: everything is drawn.
* `PlanContext.PlannedOnce`: the plan has the passes of a draw node exactly once.
* `Pass.copied?`: the layer that a pass copies, with the texture that it copies to.
* `Scene.PlannedAs.draws_planned_once`: every draw node is planned once, and every copy is made once.
* `Scene.stray`: a draw node that is lost behind a connection that validation has left out.
-/
set_option autoImplicit false

namespace SceneGraph

open PlanState

theorem mem_layersOf {p : Prepared} {conn : Connection} {m : Node} (hconn : conn ∈ p.scene.connections)
    (hm : p.node? conn.target.node = some m) (htype : m.type = compositeType) (hport : Layer.IsPort conn.target.port) :
    Layer.ofConnection conn ∈ p.layersOf m.id := by
  obtain ⟨hid, _⟩ := Prepared.node?_eq_some hm
  have hlanding : Layer.ofConnection conn ∈
      (p.scene.connections.filter fun k => k.target.node == m.id).map Layer.ofConnection :=
    List.mem_map_of_mem (List.mem_filter.2 ⟨hconn, by simp [hid]⟩)
  unfold Prepared.layersOf Layer.ordered
  rw [Prepared.node?_self hm]
  simp only [htype, if_true]
  rcases hport with hpass | hdynamic
  · exact List.mem_append_left _ (List.mem_filter.2 ⟨hlanding, by simp [Layer.ofConnection, hpass]⟩)
  · exact List.mem_append_right _ (List.mem_mergeSort.2 (List.mem_filter.2 ⟨hlanding, hdynamic⟩))

namespace PlanContext

variable {c : PlanContext} {n : Node}

/-! ## Everything is drawn -/

theorem inPlace_of_nested (hc : c.Valid) (hn : c.prepared.node? n.id = some n) (htype : n.type = compositeType)
    (h : c.isNested n.id = true) : ∃ m, c.InPlace n.id m := by
  unfold isNested at h
  split at h
  · cases h
  · rename_i r hr
    obtain ⟨parent, hparent, h⟩ := List.any_eq_true.1 h
    split at h
    · rename_i q hq
      unfold Prepared.compositesOf at hparent
      obtain ⟨id, _, hmem⟩ := List.mem_flatMap.1 hparent
      obtain ⟨l, hl, rfl⟩ := List.mem_map.1 hmem
      obtain ⟨hl, hid⟩ := List.mem_filter.1 hl
      rw [← (hc.routes.route_placed hq).layers] at hl
      exact ⟨id, q, r, n, hq, ⟨l, hl, beq_iff_eq.1 hid⟩, hn, hr, (beq_iff_eq.1 h).symm, .inl htype⟩
    · cases h

/-- A draw node without a target of its own is drawn in place by a composition that it feeds. -/
theorem inPlace_of_inherited (hc : c.Valid) (hnodup : c.prepared.scene.nodeIds.Nodup)
    (hlanded : c.prepared.scene.Landed) (hn : c.prepared.node? n.id = some n) (hdraw : isDrawType n.type = true)
    {r : Route} (hr : c.routes.route? n.id = some r) (hexp : r.isExplicit = false) : ∃ m, c.InPlace n.id m := by
  obtain ⟨m, q, ⟨conn, hconn, hsource, hm, _⟩, htype, hq, hdomain⟩ := hc.routes.route_inherited hnodup hr hexp
  have hl := mem_layersOf hconn hm htype (hlanded conn hconn m hm htype)
  rw [← (hc.routes.route_placed hq).layers] at hl
  exact ⟨m.id, q, r, n, hq, ⟨_, hl, hsource⟩, hn, hr, by rw [hdomain], .inr ⟨hdraw, hexp⟩⟩

namespace History

variable {plan : Plan} {st₀ st : PlanState} {tr : List (Nat × Event)} {ps : List Pass}

theorem root_drawn (hc : c.Valid) (h : c.History plan st₀ st tr ps) (hn : c.prepared.node? n.id = some n)
    (hroot : c.Root n) (htarget : isTargetType n.type = false) : n.id ∈ st.drawn :=
  h.traced.drawn _ (hc.routes.prepared.rank_lt hn) n (turnOf_rank hc hn hroot) htarget

/-- Every composition gets drawn, by the outermost one around it. -/
theorem composite_drawn (hc : c.Valid) (hnodup : c.prepared.scene.nodeIds.Nodup) (h : c.History plan st₀ st tr ps)
    (hn : c.prepared.node? n.id = some n) (htype : n.type = compositeType) : n.id ∈ st.drawn := by
  -- outer compositions stand later in the order
  induction hk : c.prepared.order.length - c.prepared.rank n.id using Nat.strongRecOn generalizing n with
  | ind k ih =>
    cases hnested : c.isNested n.id with
    | false =>
      refine h.root_drawn hc hn (.inl ⟨htype, hnested⟩) ?_
      rw [htype]
      decide
    | true =>
      obtain ⟨m, hplace⟩ := inPlace_of_nested hc hn htype hnested
      obtain ⟨m', hm', hmtype⟩ := hplace.composite hc
      obtain ⟨rfl, _⟩ := Prepared.node?_eq_some hm'
      have hlt := hplace.rank_lt hc hnodup
      have hlen := hc.routes.prepared.rank_lt hm'
      exact h.traced.complete _ (ih _ (by omega) hm' hmtype rfl) (by simp) _ hplace

theorem draw_drawn (hc : c.Valid) (hnodup : c.prepared.scene.nodeIds.Nodup) (hlanded : c.prepared.scene.Landed)
    (h : c.History plan st₀ st tr ps) (hn : c.prepared.node? n.id = some n) (hdraw : isDrawType n.type = true)
    {r : Route} (hr : c.routes.route? n.id = some r) : n.id ∈ st.drawn := by
  cases hexp : r.isExplicit with
  | true => exact h.root_drawn hc hn (.inr (.inl ⟨hdraw, r, hr, hexp⟩)) (isTargetType_of_draw hdraw)
  | false =>
    obtain ⟨m, hplace⟩ := inPlace_of_inherited hc hnodup hlanded hn hdraw hr hexp
    obtain ⟨m', hm', hmtype⟩ := hplace.composite hc
    obtain ⟨rfl, _⟩ := Prepared.node?_eq_some hm'
    exact h.traced.complete _ (h.composite_drawn hc hnodup hm' hmtype) (by simp) _ hplace

end History

end PlanContext

/-! ## Everything is drawn once -/

/-- The passes that belong to a node alone. -/
def Plan.passesOf (plan : Plan) (id : String) : List Pass := plan.passes.filter fun w => decide (w.nodes = [id])

/-- The layer that a pass copies, with the texture that it copies to. -/
def Pass.copied? (w : Pass) : Option (String × String) :=
  if w.kind = .compose then w.nodes.head?.map fun layer => (layer, w.target) else none

namespace PlanContext

variable {c : PlanContext} {n : Node}

/-- The plan has the passes of a draw node exactly once: those that its type says, of which the last one draws
into its target and the others into scratch textures. -/
structure PlannedOnce (c : PlanContext) (plan : Plan) (n : Node) (r : Route) : Prop where
  sketches : ∃ sources, (plan.passesOf n.id).map Pass.sketch = c.drawSketches n r.domain.texture sources
  last : ∃ init last, plan.passesOf n.id = init ++ [last] ∧ last.target = r.domain.texture ∧
    ∀ w ∈ init, w.target ∈ c.scratchNames n

/-- The layer of a copy with the texture that it is copied to. -/
def copyTexture (c : PlanContext) (k : String × String) : String × String :=
  (k.1, (Route.domainAt c.routes.textures k.2).texture)

namespace History

variable {plan : Plan} {st₀ st : PlanState} {tr : List (Nat × Event)} {ps : List Pass}

theorem event_formed (h : c.History plan st₀ st tr ps) {e : Event} (he : e ∈ tr.map Prod.snd) : e.Formed c plan := by
  obtain ⟨x, hx, rfl⟩ := List.mem_map.1 he
  exact h.formed x hx

/-- A node that is drawn has a single event that marks it. -/
theorem marked (h : c.History plan st₀ st tr ps) {x : String} (hx : x ∈ st.drawn) :
    ∃ before e after, tr.map Prod.snd = before ++ e :: after ∧ e.mark? = some x ∧
      (∀ e' ∈ before, e'.mark? ≠ some x) ∧ ∀ e' ∈ after, e'.mark? ≠ some x := by
  have hdrawn : st.drawn = ((tr.map Prod.snd).filterMap Event.mark?).reverse := by
    rw [h.traced.emits.drawn, h.fresh.drawn, List.append_nil]
  have hnodup : ((tr.map Prod.snd).filterMap Event.mark?).Nodup := by
    rw [← List.nodup_reverse, ← hdrawn]
    refine h.traced.emits.drawnOnce ?_
    rw [h.fresh.drawn]
    exact List.nodup_nil
  rw [hdrawn, List.mem_reverse, List.mem_filterMap] at hx
  obtain ⟨e, he, hmark⟩ := hx
  obtain ⟨before, after, hsplit⟩ := List.append_of_mem he
  rw [hsplit, List.filterMap_append, List.filterMap_cons, hmark, List.nodup_middle, List.nodup_cons] at hnodup
  have hnone : ∀ e' ∈ before ++ after, e'.mark? ≠ some x := by
    intro e' he' hmark'
    rw [← List.filterMap_append] at hnodup
    exact hnodup.1 (List.mem_filterMap.2 ⟨e', he', hmark'⟩)
  exact ⟨before, e, after, hsplit, hmark, fun e' he' => hnone e' (List.mem_append_left _ he'),
    fun e' he' => hnone e' (List.mem_append_right _ he')⟩

/-- Events that do not mark a node add no passes that belong to it alone. -/
theorem filter_of_unmarked {es : List Event} (hformed : ∀ e ∈ es, e.Formed c plan)
    (hn : c.prepared.node? n.id = some n) (htarget : isTargetType n.type = false)
    (hnone : ∀ e ∈ es, e.mark? ≠ some n.id) :
    (es.flatMap Event.passes).filter (fun w => decide (w.nodes = [n.id])) = [] := by
  refine List.filter_eq_nil_iff.2 fun w hw => ?_
  obtain ⟨e, he, hw⟩ := List.mem_flatMap.1 hw
  simp only [decide_eq_true_eq]
  intro hnodes
  obtain ⟨m, qs, rfl, hid⟩ := draw_of_nodes (hformed e he) hw hnodes hn htarget
  exact hnone _ he (congrArg some hid)

/-- A draw node that is drawn has a single event with passes that belong to it alone. -/
theorem marked_draw (h : c.History plan st₀ st tr ps) (hn : c.prepared.node? n.id = some n)
    (hdraw : isDrawType n.type = true) {r : Route} (hr : c.routes.route? n.id = some r) (hmem : n.id ∈ st.drawn) :
    ∃ before qs after sources, tr.map Prod.snd = before ++ .draw n qs :: after ∧
      qs.map Pass.sketch = c.drawSketches n r.domain.texture sources ∧
      (∀ e ∈ before, e.mark? ≠ some n.id) ∧ ∀ e ∈ after, e.mark? ≠ some n.id := by
  obtain ⟨before, e, after, hsplit, hmark, hbefore, hafter⟩ := h.marked hmem
  have hself := h.event_formed (hsplit ▸ List.mem_append_right before List.mem_cons_self)
  cases e with
  | copy layer m target q => cases hmark
  | clear m q => cases hmark
  | enter m =>
    obtain ⟨hm, htype⟩ := hself
    rw [show m.id = n.id from Option.some.inj hmark, hn] at hm
    cases hm
    exact absurd htype (isDrawType_ne_composite hdraw)
  | draw m qs =>
    obtain ⟨hm, _, r', sources, hr', _, hsketch⟩ := hself
    rw [show m.id = n.id from Option.some.inj hmark] at hm hr'
    rw [hn] at hm
    rw [hr] at hr'
    cases hm
    cases hr'
    exact ⟨before, qs, after, sources, hsplit, hsketch, hbefore, hafter⟩

/-- The passes that belong to a draw node alone are those of its event. -/
theorem passesOf_draw (hc : c.Valid) (h : c.History plan st₀ st tr ps) (hn : c.prepared.node? n.id = some n)
    (hdraw : isDrawType n.type = true) {r : Route} (hr : c.routes.route? n.id = some r) (hmem : n.id ∈ st.drawn) :
    ∃ sources, (plan.passesOf n.id).map Pass.sketch = c.drawSketches n r.domain.texture sources := by
  have htarget := isTargetType_of_draw hdraw
  obtain ⟨before, qs, after, sources, hsplit, hsketch, hbefore, hafter⟩ := h.marked_draw hn hdraw hr hmem
  have hformed : ∀ e ∈ before ++ .draw n qs :: after, e.Formed c plan :=
    fun e he => h.event_formed (hsplit ▸ he)
  have hqs : qs.filter (fun w => decide (w.nodes = [n.id])) = qs := by
    refine List.filter_eq_self.2 fun w hw => decide_eq_true ?_
    have hsk : w.sketch ∈ c.drawSketches n r.domain.texture sources := hsketch ▸ List.mem_map_of_mem hw
    exact (drawSketches_nodes hsk).1
  have htrace : tracePasses tr = before.flatMap Event.passes ++ (qs ++ after.flatMap Event.passes) := by
    rw [tracePasses, ← List.flatMap_map (f := Prod.snd) (g := Event.passes), hsplit]
    simp [Event.passes]
  have hrest : ps.filter (fun w => decide (w.nodes = [n.id])) = [] := by
    refine List.filter_eq_nil_iff.2 fun w hw => ?_
    simpa using presentSketch_nodes hc (h.shown w hw) hn htarget
  refine ⟨sources, ?_⟩
  rw [Plan.passesOf, h.passes, htrace, List.filter_append, List.filter_append, List.filter_append,
    filter_of_unmarked (fun e he => hformed e (by simp [he])) hn htarget hbefore,
    filter_of_unmarked (fun e he => hformed e (by simp [he])) hn htarget hafter, hrest, hqs]
  simpa using hsketch

theorem planned_once (hc : c.Valid) (h : c.History plan st₀ st tr ps) (hn : c.prepared.node? n.id = some n)
    (hdraw : isDrawType n.type = true) {r : Route} (hr : c.routes.route? n.id = some r) (hmem : n.id ∈ st.drawn) :
    c.PlannedOnce plan n r := by
  obtain ⟨sources, hsketch⟩ := h.passesOf_draw hc hn hdraw hr hmem
  refine ⟨⟨sources, hsketch⟩, ?_⟩
  obtain ⟨init, last, hsplit, hlast, hscratch⟩ := drawSketches_target (c := c) r.domain.texture sources hdraw
  rw [hsplit] at hsketch
  obtain ⟨init', tail, hpasses, hinit, htail⟩ := List.map_eq_append_iff.1 hsketch
  obtain ⟨last', rest, rfl, hlast', hnil⟩ := List.map_eq_cons_iff.1 htail
  rw [List.map_eq_nil_iff] at hnil
  subst hnil
  refine ⟨init', last', hpasses, (congrArg Sketch.target hlast').trans hlast, fun w hw => ?_⟩
  exact hscratch w.sketch (hinit ▸ List.mem_map_of_mem hw)

/-! ## Copies -/

theorem copied_target (hc : c.Valid) {e : Event} (hformed : e.Formed c plan) {k : String × String}
    (hk : e.copied? = some k) : ∃ d, c.routes.textures.get? k.2 = some d := by
  cases e with
  | enter m => cases hk
  | draw m qs => cases hk
  | clear m q => cases hk
  | copy layer m target q =>
    obtain ⟨_, _, _, _, r, _, hr, _, _, rfl, _⟩ := hformed
    cases hk
    exact ⟨_, (hc.routes.route_placed hr).domain⟩

theorem passes_copied (hc : c.Valid) {e : Event} (hformed : e.Formed c plan) :
    e.passes.filterMap Pass.copied? = (e.copied?.map c.copyTexture).toList := by
  cases e with
  | enter m => rfl
  | draw m qs =>
    obtain ⟨_, _, r, sources, _, _, hsketch⟩ := hformed
    refine List.filterMap_eq_nil_iff.2 fun w hw => ?_
    have hmem : w.sketch ∈ c.drawSketches m r.domain.texture sources := hsketch ▸ List.mem_map_of_mem hw
    have hkind : w.kind ≠ .compose := by
      intro hcompose
      have := (drawSketches_nodes hmem).2
      simp only [Pass.sketch, hcompose, reduceCtorEq, or_self] at this
    simp [Pass.copied?, hkind]
  | copy layer m target q =>
    obtain ⟨_, _, _, _, r, _, hr, _, _, rfl, hsketch⟩ := hformed
    have hkind : q.kind = .compose := congrArg Sketch.kind hsketch
    have hnodes : q.nodes = [layer.id, m.id] := congrArg Sketch.nodes hsketch
    have htarget : q.target = r.domain.texture := congrArg Sketch.target hsketch
    have hdomain := (hc.routes.route_placed hr).domain
    simp [Event.passes, Event.copied?, Pass.copied?, copyTexture, Route.domainAt, hkind, hnodes, htarget, hdomain]
  | clear m q =>
    obtain ⟨_, _, hsketch⟩ := hformed
    have hkind : q.kind = .clear := congrArg Sketch.kind hsketch
    simp [Event.passes, Event.copied?, Pass.copied?, hkind]

theorem copied_once (hc : c.Valid) (h : c.History plan st₀ st tr ps) : (plan.passes.filterMap Pass.copied?).Nodup := by
  have htrace : (tracePasses tr).filterMap Pass.copied? =
      ((tr.map Prod.snd).filterMap Event.copied?).map c.copyTexture := by
    rw [tracePasses, ← List.flatMap_map (f := Prod.snd) (g := Event.passes), List.filterMap_flatMap,
      List.map_filterMap, List.filterMap_eq_flatMap_toList]
    exact List.flatMap_congr fun e he => passes_copied hc (h.event_formed he)
  have hrest : ps.filterMap Pass.copied? = [] := by
    refine List.filterMap_eq_nil_iff.2 fun w hw => ?_
    have hkind : w.kind = .present := congrArg Sketch.kind (h.shown w hw)
    simp [Pass.copied?, hkind]
  have hnodup : ((tr.map Prod.snd).filterMap Event.copied?).Nodup := by
    have hcopied := h.traced.emits.copiedOnce (by rw [h.fresh.copied]; exact List.nodup_nil)
    rw [h.traced.emits.copied, h.fresh.copied, List.append_nil, List.nodup_reverse] at hcopied
    exact hcopied
  rw [h.passes, List.filterMap_append, hrest, List.append_nil, htrace]
  refine hnodup.map_on fun a ha b hb heq => ?_
  obtain ⟨e, he, hek⟩ := List.mem_filterMap.1 ha
  obtain ⟨e', he', hek'⟩ := List.mem_filterMap.1 hb
  obtain ⟨d, hd⟩ := copied_target hc (h.event_formed he) hek
  obtain ⟨d', hd'⟩ := copied_target hc (h.event_formed he') hek'
  simp only [copyTexture, Route.domainAt, hd, hd', Option.getD_some, Prod.mk.injEq] at heq
  exact Prod.ext heq.1 (hc.routes.texture_injective hd hd' heq.2)

end History

end PlanContext

/-- Under the built-in schema every draw node with a route is planned exactly once, and no layer is copied twice to
one texture. Validation does not see connections from missing nodes; in the scene with its groups expanded, those
into compositions have to land on ports of layers. -/
theorem Scene.PlannedAs.draws_planned_once {source s : Scene} {options : PrepareOptions} {env : Environment}
    {p : Prepared} {r : Routes} {plan : Plan} {expanded : Scene} (hvalid : Schema.builtin.validate source = .ok s)
    (h : s.PlannedAs Schema.builtin options env p r plan) (hnodup : p.scene.nodeIds.Nodup)
    (hexpanded : (Groups.expand options.maxGroupDepth s).result = .ok expanded) (hmissing : expanded.MissingLanded) :
    (∀ n route, p.node? n.id = some n → isDrawType n.type = true → r.route? n.id = some route →
      (p.context r env).PlannedOnce plan n route) ∧ (plan.passes.filterMap Pass.copied?).Nodup := by
  obtain ⟨expanded', inlined, wrapped, hprepared⟩ := Scene.prepare_eq_ok h.prepare
  have hsame : expanded' = expanded := Except.ok.inj (hprepared.expand.symm.trans hexpanded)
  have hlanded := hprepared.landed (Schema.checkConnections_of_validate hvalid) (hsame ▸ hmissing)
  obtain ⟨st₀, st, tr, ps, hhistory⟩ := h.history hnodup
  refine ⟨fun n route hn hdraw hroute => ?_, hhistory.copied_once h.valid⟩
  exact hhistory.planned_once h.valid hn hdraw hroute (hhistory.draw_drawn h.valid hnodup hlanded hn hdraw hroute)

/-- The blurred scene is valid, its connections start at its nodes, and the blur has a route. -/
theorem Scene.blurred_valid : (Schema.builtin.validate Scene.blurred).toOption.any (fun s =>
    (Groups.expand ({} : PrepareOptions).maxGroupDepth s).result.toOption.any (fun expanded =>
      expanded.connections.all fun conn => (expanded.indexed? conn.source.node).isSome) &&
    (s.planned? Schema.builtin {} {}).any fun (p, r, _) => decide p.scene.nodeIds.Nodup &&
      (p.node? "soft").any fun n => isDrawType n.type && (r.route? "soft").isSome) = true := by
  simp only [Scene.planned?_builtin]
  rw [Schema.builtin_eq]
  decide +kernel

theorem Scene.missingLanded_of_sources {s : Scene}
    (h : s.connections.all (fun conn => (s.indexed? conn.source.node).isSome) = true) : s.MissingLanded := by
  intro conn hconn hnone
  have hsome := List.all_eq_true.1 h conn hconn
  rw [hnone] at hsome
  cases hsome

theorem Scene.blurred_once : ∃ s p r plan expanded n route, Schema.builtin.validate Scene.blurred = .ok s ∧
    s.PlannedAs Schema.builtin {} {} p r plan ∧ p.scene.nodeIds.Nodup ∧
    (Groups.expand ({} : PrepareOptions).maxGroupDepth s).result = .ok expanded ∧ expanded.MissingLanded ∧
    p.node? n.id = some n ∧ n.id = "soft" ∧ isDrawType n.type = true ∧ r.route? n.id = some route ∧
    (p.context r {}).PlannedOnce plan n route ∧ (plan.passes.filterMap Pass.copied?).Nodup := by
  obtain ⟨s, hs, hchecks⟩ := Option.any_eq_true _ _ |>.1 Scene.blurred_valid
  obtain ⟨hexpand, hplan⟩ := Bool.and_eq_true_iff.1 hchecks
  obtain ⟨expanded, hexpanded, hsources⟩ := Option.any_eq_true _ _ |>.1 hexpand
  obtain ⟨⟨p, r, plan⟩, hsome, hroute⟩ := Option.any_eq_true _ _ |>.1 hplan
  obtain ⟨hnodup, hroute⟩ := Bool.and_eq_true_iff.1 hroute
  obtain ⟨n, hn, hroute⟩ := Option.any_eq_true _ _ |>.1 hroute
  obtain ⟨hdraw, hroute⟩ := Bool.and_eq_true_iff.1 hroute
  obtain ⟨route, hroute⟩ := Option.isSome_iff_exists.1 hroute
  have hvalid := eq_ok_of_toOption hs
  have hexpanded' := eq_ok_of_toOption hexpanded
  have hplanned := (Scene.planned?_eq_some _ _ _ _ _ _ _).1 hsome
  have hmissing := Scene.missingLanded_of_sources hsources
  have hid := (Prepared.node?_eq_some hn).1
  rw [← hid] at hn hroute
  have hnodup' : p.scene.nodeIds.Nodup := of_decide_eq_true hnodup
  obtain ⟨honce, hcopied⟩ := Scene.PlannedAs.draws_planned_once hvalid hplanned hnodup' hexpanded' hmissing
  exact ⟨s, p, r, plan, expanded, n, route, hvalid, hplanned, hnodup', hexpanded', hmissing, hn, hid, hdraw, hroute,
    honce n route hn hdraw hroute, hcopied⟩

/-- A group in which a connection starts at a node that only wrapping makes. It was left out by validation and
lands on a composition at a port without a layer. -/
def Scene.stray : Scene where
  nodes := [{ id := "screen", type := "Screen" }, { id := "inst", type := "Group", params := [("groupId", .str "g")] }]
  connections := [{ id := "a", source := ⟨"inst", "out"⟩, target := ⟨"screen", "pass"⟩ }]
  outputs := [("main", "screen")]
  groups := [{
    id := "g"
    nodes := [{ id := "stack", type := "Composite" }, { id := "base", type := "RenderPass" },
      { id := "tint", type := "Color" },
      { id := "code", type := "Expression", params := [("source", .str "1.0")],
        inputs := [{ id := "p", type := "pass" }] }]
    connections := [{ id := "b", source := ⟨"base", "pass"⟩, target := ⟨"stack", "pass"⟩ },
      { id := "c", source := ⟨"tint", "color"⟩, target := ⟨"code", "p"⟩ },
      { id := "d", source := ⟨"tint~wrap~inst/code.p", "pass"⟩, target := ⟨"stack", "foo"⟩ }]
    outputs := [{ id := "out", node := "stack", port := "pass" }] }]

theorem Scene.stray_passes : (Schema.builtin.validate Scene.stray).toOption.any (fun s =>
    Scene.stray.checkStructure.toOption.isSome && (s.planned? Schema.builtin {} {}).any fun (p, r, plan) =>
      decide p.scene.nodeIds.Nodup && (p.node? "inst/tint~wrap~inst/code.p").any fun n => isDrawType n.type &&
        (r.route? "inst/tint~wrap~inst/code.p").isSome &&
          (plan.passesOf "inst/tint~wrap~inst/code.p").isEmpty) = true := by
  simp only [Scene.planned?_builtin]
  rw [Schema.builtin_eq]
  decide +kernel

/-- A draw node with a route whose passes are missing from the plan, in a scene that is accepted throughout. -/
theorem Scene.stray_lost : ∃ s p r plan n route, Scene.stray.checkStructure = .ok () ∧
    Schema.builtin.validate Scene.stray = .ok s ∧ s.PlannedAs Schema.builtin {} {} p r plan ∧
    p.scene.nodeIds.Nodup ∧ p.node? n.id = some n ∧ isDrawType n.type = true ∧ r.route? n.id = some route ∧
    plan.passesOf n.id = [] := by
  obtain ⟨s, hs, hchecks⟩ := Option.any_eq_true _ _ |>.1 Scene.stray_passes
  obtain ⟨hstructure, hplan⟩ := Bool.and_eq_true_iff.1 hchecks
  obtain ⟨⟨p, r, plan⟩, hsome, hroute⟩ := Option.any_eq_true _ _ |>.1 hplan
  obtain ⟨hnodup, hroute⟩ := Bool.and_eq_true_iff.1 hroute
  obtain ⟨n, hn, hroute⟩ := Option.any_eq_true _ _ |>.1 hroute
  obtain ⟨hroute, hpasses⟩ := Bool.and_eq_true_iff.1 hroute
  obtain ⟨hdraw, hroute⟩ := Bool.and_eq_true_iff.1 hroute
  obtain ⟨route, hroute⟩ := Option.isSome_iff_exists.1 hroute
  obtain ⟨u, hu⟩ := Option.isSome_iff_exists.1 hstructure
  have hid := (Prepared.node?_eq_some hn).1
  rw [← hid] at hn hroute hpasses
  refine ⟨s, p, r, plan, n, route, eq_ok_of_toOption hu, eq_ok_of_toOption hs,
    (Scene.planned?_eq_some _ _ _ _ _ _ _).1 hsome, of_decide_eq_true hnodup, hn, hdraw, hroute,
    List.isEmpty_iff.1 hpasses⟩

end SceneGraph
