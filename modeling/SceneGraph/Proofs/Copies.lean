import SceneGraph.Proofs.Reads

/-!
# Copies of layers

A layer on another target is copied into a composition at the turn of the composition, while the layer gets
drawn at its own turn. Both turns together say whether a copy comes after what it copies.

* `PlanContext.DrawnFor`: the layers of a node that share its texture, and theirs.
* `Scene.PlannedAs.copied_after_drawn`: a copy comes after a pass drawn for its layer exactly when the turn of
  the composition comes after that of the node of the pass; for layers with a turn of their own it does.
* `Scene.deferred`: a copy that comes too early.
-/
set_option autoImplicit false

namespace SceneGraph

namespace PlanContext

variable {c : PlanContext}

/-- The first node is a layer of the second one and shares its texture. -/
def SharesTexture (c : PlanContext) (x m : String) : Prop :=
  ∃ r lr, c.routes.route? m = some r ∧ (∃ l ∈ r.layers, l.node = x) ∧ c.routes.route? x = some lr ∧
    lr.domain.node = r.domain.node

/-- The first node is the second one, or it shares the texture with it as a layer of it at some depth. -/
def DrawnFor (c : PlanContext) (x m : String) : Prop := Relation.ReflTransGen c.SharesTexture x m

theorem DrawnFor.domain {x m : String} (h : c.DrawnFor x m) {r : Route} (hr : c.routes.route? m = some r) :
    ∃ lr, c.routes.route? x = some lr ∧ lr.domain.node = r.domain.node := by
  induction h using Relation.ReflTransGen.head_induction_on with
  | refl => exact ⟨r, hr, rfl⟩
  | head hshares _ ih =>
    obtain ⟨r₁, lr₁, hr₁, _, hlr₁, hsame⟩ := hshares
    obtain ⟨r₂, hr₂, hdomain⟩ := ih
    rw [hr₁] at hr₂
    cases hr₂
    exact ⟨lr₁, hlr₁, hsame.trans hdomain⟩

/-! ## Passes of single nodes -/

/-- A pass of a single node that is no target belongs to the drawing of it. -/
theorem draw_of_nodes {plan : Plan} {e : Event} (h : e.Formed c plan) {w : Pass}
    (hw : w ∈ e.passes) {x : String} (hnodes : w.nodes = [x]) {n : Node} (hn : c.prepared.node? x = some n)
    (htarget : isTargetType n.type = false) : ∃ m qs, e = .draw m qs ∧ m.id = x := by
  cases e with
  | enter m => cases hw
  | draw m qs =>
    obtain ⟨_, _, r, sources, _, _, hsketch⟩ := h
    have hmem : w.sketch ∈ c.drawSketches m r.domain.texture sources := hsketch ▸ List.mem_map_of_mem hw
    have hself : w.nodes = [m.id] := (drawSketches_nodes hmem).1
    rw [hnodes] at hself
    exact ⟨m, qs, rfl, (List.singleton_inj.1 hself).symm⟩
  | copy layer m target q =>
    obtain rfl := List.mem_singleton.1 hw
    obtain ⟨_, _, _, _, _, _, _, _, _, _, hsketch⟩ := h
    rw [show w.nodes = [layer.id, m.id] from congrArg Sketch.nodes hsketch] at hnodes
    simp at hnodes
  | clear m q =>
    obtain rfl := List.mem_singleton.1 hw
    obtain ⟨hm, htype, hsketch⟩ := h
    rw [show w.nodes = [m.id] from congrArg Sketch.nodes hsketch, List.singleton_inj] at hnodes
    rw [hnodes, hn] at hm
    cases hm
    rw [htarget] at htype
    cases htype

theorem presentSketch_nodes (hc : c.Valid) {w : Pass} (hsketch : w.sketch = c.presentSketch) {x : String} {n : Node}
    (hn : c.prepared.node? x = some n) (htarget : isTargetType n.type = false) : w.nodes ≠ [x] := by
  intro hnodes
  rw [show w.nodes = [c.prepared.output.node] from congrArg Sketch.nodes hsketch, List.singleton_inj] at hnodes
  obtain ⟨m, hm, htype⟩ := hc.routes.prepared.output_node
  rw [hnodes, hn] at hm
  cases hm
  rw [htype] at htarget
  exact absurd htarget (by decide)

namespace History

variable {plan : Plan} {st₀ st : PlanState} {tr : List (Nat × Event)} {ps : List Pass}

theorem copy_at (h : c.History plan st₀ st tr ps) {i : Nat} {q : Pass} (hq : plan.passes[i]? = some q)
    (hkind : q.kind = .compose) : ∃ x layer n target, PassAt tr i q x ∧ x.2 = .copy layer n target q := by
  rcases h.pass_cases hq with ⟨⟨k, e⟩, hx⟩ | ⟨hsketch, _⟩
  · have hformed := h.formed _ hx.mem
    have hmem := hx.mem_passes
    cases e with
    | enter m => cases hmem
    | draw m qs =>
      obtain ⟨_, _, r, sources, _, _, hsketch⟩ := hformed
      have hsk : q.sketch ∈ c.drawSketches m r.domain.texture sources := hsketch ▸ List.mem_map_of_mem hmem
      have := (drawSketches_nodes hsk).2
      simp only [Pass.sketch, hkind, reduceCtorEq, or_self] at this
    | copy layer m target w =>
      obtain rfl := List.mem_singleton.1 hmem
      exact ⟨_, layer, m, target, hx, rfl⟩
    | clear m w =>
      obtain rfl := List.mem_singleton.1 hmem
      obtain ⟨_, _, hsketch⟩ := hformed
      rw [show q.kind = .clear from congrArg Sketch.kind hsketch] at hkind
      cases hkind
  · rw [show q.kind = .present from congrArg Sketch.kind hsketch] at hkind
    cases hkind

theorem draw_at (hc : c.Valid) (h : c.History plan st₀ st tr ps) {j : Nat} {w : Pass}
    (hw : plan.passes[j]? = some w) {x : String} (hnodes : w.nodes = [x]) {n : Node}
    (hn : c.prepared.node? x = some n) (htarget : isTargetType n.type = false) :
    ∃ y m qs, PassAt tr j w y ∧ y.2 = .draw m qs ∧ m.id = x := by
  rcases h.pass_cases hw with ⟨y, hy⟩ | ⟨hsketch, _⟩
  · obtain ⟨m, qs, heq, hid⟩ := draw_of_nodes (h.formed y hy.mem) hy.mem_passes hnodes hn htarget
    exact ⟨y, m, qs, hy, heq, hid⟩
  · exact absurd hnodes (presentSketch_nodes hc hsketch hn htarget)

/-- Nodes that are drawn for a layer are drawn at other turns than the compositions that copy it. -/
theorem turn_ne (hc : c.Valid) (h : c.History plan st₀ st tr ps)
    {x y : Nat × Event} (hx : x ∈ tr) (hy : y ∈ tr) {r lr : Route} (hr : c.routes.route? x.2.subject = some r)
    (hlr : c.routes.route? y.2.subject = some lr) (hne : lr.domain.node ≠ r.domain.node) : y.1 ≠ x.1 := by
  -- at one turn everything is drawn into the domain of the node whose turn it is
  intro heq
  obtain ⟨root, q, hroot, hq, hdomain⟩ := h.root_domain hc hx hr
  obtain ⟨root', q', hroot', hq', hdomain'⟩ := h.root_domain hc hy hlr
  have hid : root'.id = root.id := by
    have hget := hroot'.1
    rw [heq, hroot.1] at hget
    exact (Option.some.inj hget).symm
  rw [hid, hq] at hq'
  cases hq'
  rw [← hdomain, ← hdomain'] at hne
  exact hne rfl

end History

/-! ## Layers with a turn of their own -/

/-- What is drawn for a node is drawn with it, or it is a draw node with a target of its own. -/
theorem DrawnFor.below (hc : c.Valid) (hnodup : c.prepared.scene.nodeIds.Nodup) {x m : String}
    (h : c.DrawnFor x m) :
    c.Below x m ∨ ∃ n, n.id = x ∧ c.prepared.node? x = some n ∧ isDrawType n.type = true ∧ c.Root n ∧
      c.prepared.rank x ≤ c.prepared.rank m := by
  induction h using Relation.ReflTransGen.head_induction_on with
  | refl => exact .inl .refl
  | @head a b hshares hrest ih =>
    obtain ⟨r₁, lr, hr₁, ⟨l, hl, rfl⟩, hlr, hsame⟩ := hshares
    obtain ⟨n, hn, hrouted, _⟩ := (hc.routes.route_placed hlr).node
    have hrank := layer_rank_lt hc hnodup hr₁ hl hn
    have hcomposite : ∃ m', c.prepared.node? b = some m' ∧ m'.type = compositeType := by
      rw [(hc.routes.route_placed hr₁).layers] at hl
      exact (layersOf_connection hl).1
    rcases ih with hbelow | ⟨m', _, hm', hdraw, _⟩
    · have hle := hbelow.rank_le hc hnodup
      have hinplace : (n.type = compositeType ∨ isDrawType n.type = true ∧ lr.isExplicit = false) → c.Below l.node m :=
        fun hkind => .head ⟨r₁, lr, n, hr₁, ⟨l, hl, rfl⟩, hn, hlr, hsame, hkind⟩ hbelow
      rcases Bool.or_eq_true_iff.1 hrouted with hdraw | htype
      · cases hexp : lr.isExplicit with
        | false => exact .inl (hinplace (.inr ⟨hdraw, hexp⟩))
        | true =>
          obtain ⟨hid, _⟩ := Prepared.node?_eq_some hn
          exact .inr ⟨n, hid, hn, hdraw, .inr (.inl ⟨hdraw, lr, by rwa [hid], hexp⟩), by omega⟩
      · exact .inl (hinplace (.inl (beq_iff_eq.1 htype)))
    · obtain ⟨m'', hm'', htype⟩ := hcomposite
      rw [hm'] at hm''
      cases hm''
      exact absurd htype (isDrawType_ne_composite hdraw)

theorem DrawnFor.turn_le (hc : c.Valid) (hnodup : c.prepared.scene.nodeIds.Nodup) {x : String} {m : Node}
    (h : c.DrawnFor x m.id) (hm : c.prepared.node? m.id = some m)
    (hroot : c.Root m) : c.turn x ≤ c.prepared.rank m.id := by
  rcases h.below hc hnodup with hbelow | ⟨n, rfl, hn, _, hself, hrank⟩
  · exact Nat.sInf_le ⟨m, turnOf_rank hc hm hroot, hbelow⟩
  · have hle : c.turn n.id ≤ c.prepared.rank n.id := Nat.sInf_le ⟨n, turnOf_rank hc hn hself, .refl⟩
    exact hle.trans hrank

end PlanContext

/-- A copy of a layer comes after a pass that is drawn for the layer exactly when the turn of the composition
that copies comes after the turn of the node that the pass belongs to. For a layer that is planned at its own
turn this is always so. -/
theorem Scene.PlannedAs.copied_after_drawn {s : Scene} {schema : Schema} {options : PrepareOptions}
    {env : Environment} {p : Prepared} {r : Routes} {plan : Plan} (h : s.PlannedAs schema options env p r plan)
    (hnodup : p.scene.nodeIds.Nodup) {i j : Nat} {q w : Pass} {source copier drawn : String}
    (hq : plan.passes[i]? = some q) (hkind : q.kind = .compose) (hnodes : q.nodes = [source, copier])
    (hw : plan.passes[j]? = some w) (hsingle : w.nodes = [drawn])
    (hdrawn : (p.context r env).DrawnFor drawn source) :
    (j < i ↔ (p.context r env).turn drawn < (p.context r env).turn copier) ∧
      ((∃ n, p.node? source = some n ∧ (p.context r env).Root n) → j < i) := by
  obtain ⟨st₀, st, tr, ps, hhistory⟩ := h.history hnodup
  have hc := h.valid
  obtain ⟨x, layer, n, target, hx, hcopy⟩ := hhistory.copy_at hq hkind
  have hformed := hhistory.formed x hx.mem
  rw [hcopy] at hformed
  obtain ⟨hlayer, hn, _, lr, nr, hlr, hnr, ⟨l, hl, hlid⟩, hother, _, hsketch⟩ := hformed
  have hids : q.nodes = [layer.id, n.id] := congrArg Sketch.nodes hsketch
  rw [hnodes] at hids
  obtain ⟨rfl, rfl⟩ : source = layer.id ∧ copier = n.id := by simpa using hids
  have hsubject : x.2.subject = n.id := by rw [hcopy, Event.subject]
  have hcopier : (p.context r env).turn n.id = x.1 := hsubject ▸ hhistory.traced.at_turn hx.mem
  obtain ⟨dr, hdr, hsame⟩ := hdrawn.domain hlr
  obtain ⟨dn, hdn, hrouted, _⟩ := (hc.routes.route_placed hdr).node
  obtain ⟨y, d, qs, hy, hdraw, rfl⟩ := hhistory.draw_at hc hw hsingle hdn (PlanContext.isTargetType_of_routed hrouted)
  have hsubject' : y.2.subject = d.id := by rw [hdraw, Event.subject]
  have hturn : (p.context r env).turn d.id = y.1 := hsubject' ▸ hhistory.traced.at_turn hy.mem
  have hne : y.1 ≠ x.1 := hhistory.turn_ne hc hx.mem hy.mem (hsubject ▸ hnr) (hsubject' ▸ hdr) (hsame ▸ hother)
  have hiff : j < i ↔ (p.context r env).turn d.id < (p.context r env).turn n.id := by
    rw [hturn, hcopier]
    constructor
    · intro hlt
      by_contra hge
      have := hhistory.traced.lt_of_lt hy hx (lt_of_le_of_ne (not_lt.1 hge) hne.symm)
      omega
    · exact hhistory.traced.lt_of_lt hx hy
  refine ⟨hiff, ?_⟩
  rintro ⟨m, hm, hroot⟩
  refine hiff.2 ?_
  rw [hlayer] at hm
  cases hm
  have hdrawnturn := hdrawn.turn_le hc hnodup hlayer hroot
  have hrank := PlanContext.layer_rank_lt hc hnodup hnr hl (by rw [hlid]; exact hlayer)
  rw [hlid] at hrank
  obtain ⟨root, hrootturn, hbelow⟩ := hhistory.traced.placed x hx.mem
  rw [hsubject] at hbelow
  have hle := hbelow.rank_le hc hnodup
  rw [hrootturn.rank hc hnodup, ← hcopier] at hle
  omega

/-- A composition that is nested in a later one on its target, and copied to the screen before that one's turn. -/
def Scene.deferred : Scene where
  nodes := [{ id := "screen", type := "Screen" }, { id := "rt", type := "RenderTexture" },
    { id := "rp", type := "RenderPass" }, { id := "inner", type := "Composite" },
    { id := "outer", type := "Composite" }, { id := "late", type := "Composite" }]
  connections := [{ id := "c0", source := ⟨"rp", "pass"⟩, target := ⟨"inner", "pass"⟩ },
    { id := "c1", source := ⟨"inner", "pass"⟩, target := ⟨"rt", "pass"⟩ },
    { id := "c2", source := ⟨"inner", "pass"⟩, target := ⟨"outer", "dynamic_0"⟩ },
    { id := "c3", source := ⟨"inner", "pass"⟩, target := ⟨"late", "pass"⟩ },
    { id := "c4", source := ⟨"late", "pass"⟩, target := ⟨"rt", "pass"⟩ },
    { id := "c5", source := ⟨"outer", "pass"⟩, target := ⟨"screen", "pass"⟩ }]
  outputs := [("main", "screen")]

theorem Scene.deferred_passes : (Scene.deferred.planned? Schema.builtin {} {}).any (fun (p, r, plan) =>
    decide p.scene.nodeIds.Nodup &&
      decide (plan.passes.map Pass.sketch =
        [⟨"compose:inner->outer", .compose, ["inner", "outer"], "scene", ["rt"]⟩,
          ⟨"draw:rp", .draw, ["rp"], "rt", []⟩]) &&
      (r.route? "inner").any fun ir => (ir.layers.any fun l => l.node == "rp") &&
        (r.route? "rp").any fun dr => dr.domain.node == ir.domain.node) = true := by
  rw [Scene.planned?_builtin]
  decide +kernel

/-- The copy of the inner composition and the only pass that is drawn for it. -/
theorem Scene.deferred_plan : ∃ p r plan q w, Scene.deferred.PlannedAs Schema.builtin {} {} p r plan ∧
    p.scene.nodeIds.Nodup ∧ plan.passes[0]? = some q ∧ q.kind = .compose ∧ q.nodes = ["inner", "outer"] ∧
    plan.passes[1]? = some w ∧ w.nodes = ["rp"] ∧ (p.context r {}).DrawnFor "rp" "inner" := by
  obtain ⟨⟨p, r, plan⟩, hsome, hchecks⟩ := Option.any_eq_true _ _ |>.1 Scene.deferred_passes
  have hplanned := (Scene.planned?_eq_some _ _ _ _ _ _ _).1 hsome
  simp only [Bool.and_eq_true, decide_eq_true_eq] at hchecks
  obtain ⟨⟨hnodup, hpasses⟩, hroutes⟩ := hchecks
  obtain ⟨ir, hir, hroutes⟩ := Option.any_eq_true _ _ |>.1 hroutes
  obtain ⟨hlayer, hroutes⟩ := Bool.and_eq_true_iff.1 hroutes
  obtain ⟨l, hl, hid⟩ := List.any_eq_true.1 hlayer
  obtain ⟨dr, hdr, hsame⟩ := Option.any_eq_true _ _ |>.1 hroutes
  have hdrawn : (p.context r {}).DrawnFor "rp" "inner" :=
    .single ⟨ir, dr, hir, ⟨l, hl, beq_iff_eq.1 hid⟩, hdr, beq_iff_eq.1 hsame⟩
  obtain ⟨q, w, hplan, hq, hw⟩ : ∃ q w, plan.passes = [q, w] ∧
      q.sketch = ⟨"compose:inner->outer", .compose, ["inner", "outer"], "scene", ["rt"]⟩ ∧
      w.sketch = ⟨"draw:rp", .draw, ["rp"], "rt", []⟩ := by
    obtain ⟨q, rest, hplan, hq, hrest⟩ := List.map_eq_cons_iff.1 hpasses
    obtain ⟨w, rest, rfl, hw, hrest⟩ := List.map_eq_cons_iff.1 hrest
    rw [List.map_eq_nil_iff] at hrest
    exact ⟨q, w, by rw [hplan, hrest], hq, hw⟩
  exact ⟨p, r, plan, q, w, hplanned, hnodup, by simp [hplan], congrArg Sketch.kind hq, congrArg Sketch.nodes hq,
    by simp [hplan], congrArg Sketch.nodes hw, hdrawn⟩

/-- Copies do not always come after the passes that are drawn for the copied layer. -/
theorem Scene.deferred_copied_early : ¬ ∀ p r plan, Scene.deferred.PlannedAs Schema.builtin {} {} p r plan →
    p.scene.nodeIds.Nodup → ∀ (i j : Nat) (q w : Pass) (source copier drawn : String),
      plan.passes[i]? = some q → q.kind = .compose → q.nodes = [source, copier] → plan.passes[j]? = some w →
      w.nodes = [drawn] → (p.context r {}).DrawnFor drawn source → j < i := by
  intro hall
  obtain ⟨p, r, plan, q, w, hplanned, hnodup, hq, hkind, hnodes, hw, hsingle, hdrawn⟩ := Scene.deferred_plan
  exact absurd (hall p r plan hplanned hnodup 0 1 q w _ _ _ hq hkind hnodes hw hsingle hdrawn) (by omega)

theorem Scene.deferred_turns : ∃ p r plan q w, Scene.deferred.PlannedAs Schema.builtin {} {} p r plan ∧
    p.scene.nodeIds.Nodup ∧ plan.passes[0]? = some q ∧ q.kind = .compose ∧ q.nodes = ["inner", "outer"] ∧
    plan.passes[1]? = some w ∧ w.nodes = ["rp"] ∧ (p.context r {}).DrawnFor "rp" "inner" ∧
    (p.context r {}).turn "outer" ≤ (p.context r {}).turn "rp" := by
  obtain ⟨p, r, plan, q, w, hplanned, hnodup, hq, hkind, hnodes, hw, hsingle, hdrawn⟩ := Scene.deferred_plan
  refine ⟨p, r, plan, q, w, hplanned, hnodup, hq, hkind, hnodes, hw, hsingle, hdrawn, ?_⟩
  have hiff := (hplanned.copied_after_drawn hnodup hq hkind hnodes hw hsingle hdrawn).1
  by_contra hlt
  exact absurd (hiff.2 (not_le.1 hlt)) (by omega)

end SceneGraph
