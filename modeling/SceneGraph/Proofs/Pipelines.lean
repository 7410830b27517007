import SceneGraph.Proofs.Built
import SceneGraph.Proofs.SamePlan
import SceneGraph.Proofs.Stream

/-!
# Edits keep pipelines

Compiling two scenes one edit apart gives plans with the same textures, samplers and passes and one
signature, provided that the edit leaves alone what lies upstream of a grid of instances: how often a
grid draws its shape is a number of the plan.

* `Prepared.FeedsGrid`: a node lies upstream of a grid.
* `Plan.Alike.stream`: plans that differ in the contents of buffers only have one stream.
* `Compiler.edit_keeps_pipelines`: the statement above.
-/
set_option autoImplicit false

namespace SceneGraph

/-! ## Preparation -/

/-- The node is a grid of instances, or lies upstream of one. -/
def Prepared.FeedsGrid (p : Prepared) (id : String) : Prop :=
  ∃ grid n, p.Reaches id grid ∧ p.node? grid = some n ∧ n.type = "Instances"

theorem Prepared.FeedsGrid.node {p : Prepared} {id : String} (h : p.FeedsGrid id) : ∃ n, p.node? id = some n := by
  obtain ⟨grid, n, hreach, hn, _⟩ := h
  rcases Relation.ReflTransGen.cases_head hreach with rfl | ⟨_, ⟨_, _, _, _, hnode, _⟩, _⟩
  · exact ⟨n, hn⟩
  · exact hnode

theorem Prepared.FeedsGrid.source {p : Prepared} {c : Connection} (hc : c ∈ p.scene.connections)
    (h : p.FeedsGrid c.target.node) (hsource : ∃ n, p.node? c.source.node = some n) : p.FeedsGrid c.source.node := by
  have htarget := h.node
  obtain ⟨grid, n, hreach, hn, htype⟩ := h
  exact ⟨grid, n, .head ⟨c, hc, rfl, rfl, hsource, htarget⟩ hreach, hn, htype⟩

/-- A set of nodes that holds all grids, and with a node every node wired into it, holds what feeds a grid. -/
theorem Prepared.FeedsGrid.mem {p : Prepared} {ids : List String}
    (hgrids : ∀ n ∈ p.scene.nodes, n.type = "Instances" → n.id ∈ ids)
    (hclosed : ∀ c ∈ p.scene.connections, c.target.node ∈ ids → c.source.node ∈ ids) {id : String}
    (h : p.FeedsGrid id) : id ∈ ids := by
  obtain ⟨grid, n, hreach, hn, htype⟩ := h
  obtain ⟨rfl, hmem⟩ := Prepared.node?_eq_some hn
  induction hreach using Relation.ReflTransGen.head_induction_on with
  | refl => exact hgrids n hmem htype
  | head hstep _ ih =>
    obtain ⟨c, hc, rfl, rfl, _⟩ := hstep
    exact hclosed c hc ih

theorem Node.Edited.eq_of_constantKeys {n m : Node} (h : n.Edited m) (hfree : Node.constantKeys n.type = []) :
    n = m := by
  have hparams : n.params = m.params := by
    have heq := h.params
    unfold TableRel Node.ValueEdit at heq
    simp only [hfree, List.not_mem_nil, false_and, or_false] at heq
    have hpairs : List.Forall₂ Eq n.params m.params := heq.imp fun p q hpq => Prod.ext hpq.1 hpq.2
    exact List.forall₂_eq_eq_eq ▸ hpairs
  obtain ⟨id, type, _, inputs, outputs⟩ := n
  obtain ⟨rfl, rfl, _, rfl, rfl⟩ := h
  simp only at hparams
  subst hparams
  rfl

namespace Scene.PreparedFrom

variable {s t expanded expanded' inlined inlined' wrapped wrapped' : Scene} {schema : Schema} {options : PrepareOptions}
  {p q : Prepared}

theorem scene_edited (h : s.Edited t) (hp : s.PreparedFrom schema options p expanded inlined wrapped)
    (hq : t.PreparedFrom schema options q expanded' inlined' wrapped') : p.scene.Edited q.scene := by
  have hexpanded := Groups.expand_edited _ h _ _ hp.expand hq.expand
  have hinlined := Images.inline_edited schema hexpanded _ _ hp.inline hq.inline
  have hwrapped := Wrap.autoWrap_edited schema hinlined _ _ hp.wrap hq.wrap
  rw [hp.scene, hq.scene]
  exact Graph.treeShake_edited hwrapped

/-- Preparation keeps scenes one edit apart, where no node that feeds a grid is edited. -/
theorem edited (h : s.Edited t) (hp : s.PreparedFrom schema options p expanded inlined wrapped)
    (hq : t.PreparedFrom schema options q expanded' inlined' wrapped')
    (hgrids : ∀ id, p.node? id ≠ q.node? id → ¬ p.FeedsGrid id) : p.Edited q := by
  have hscene := hp.scene_edited h hq
  have horder : p.order = q.order := by
    have heq := Graph.topologicalOrder_edited hscene
    rw [hp.order, hq.order] at heq
    exact Except.ok.inj heq
  have houtput : p.output = q.output := by
    have heq := Output.resolve_edited hscene options.resolution
    rw [hp.output, hq.output] at heq
    exact Except.ok.inj heq
  have hnames : p.names = q.names := by
    rw [hp.names, hq.names, houtput]
    exact Names.ofScene_edited hscene _
  have hfrozen : p.scene.Frozen q.scene p.FeedsGrid :=
    { edited := hscene
      same := fun id hid => by
        by_contra hne
        exact hgrids id hne hid
      grids := fun id n hn htype => ⟨id, n, .refl, hn, htype⟩
      upstream := fun c hc htarget hsource => htarget.source hc hsource }
  have hbaked := hq.baked
  rw [← horder] at hbaked
  exact ⟨hscene, horder, hnames, houtput, _, Bake.constants_alike _ hfrozen _ _ _ hp.baked hbaked⟩

end Scene.PreparedFrom

/-! ## Signatures -/

/-- The stream holds neither the contents nor the lengths of buffers. -/
theorem Plan.Alike.stream {p q : Plan} (h : p.Alike q) :
    Signature.ofSpace (Space.assemble p) = Signature.ofSpace (Space.assemble q) := by
  have htextures : (Space.assemble p).textures = (Space.assemble q).textures := by
    unfold Space.assemble Space.textureSpec
    simp only [h.textures]
  have hbuffers : (Space.assemble p).buffers.map Signature.buffer =
      (Space.assemble q).buffers.map Signature.buffer := by
    simp only [Space.assemble, List.map_map]
    exact map_eq_of_forall₂ h.buffers fun b b' hb => by
      simp only [Function.comp_apply, Signature.buffer, Space.bufferSpec, hb.name, hb.kind, hb.stride]
  refine Signature.ofSpace_eq htextures hbuffers ?_ ?_ h.sceneTexture h.presentTexture
  · simp only [Space.assemble, h.samplers]
  · simp only [Space.assemble, h.passes]

namespace Compiler

variable {c : Compiler} {s t : Scene} {a b : Compiled} {routes routes' : Routes}

namespace CompiledFrom

theorem scene_edited (ha : c.CompiledFrom s a routes) (hb : c.CompiledFrom t b routes') (h : s.Edited t) :
    a.prepared.scene.Edited b.prepared.scene := by
  obtain ⟨_, _, _, hfrom⟩ := Scene.prepare_eq_ok ha.prepare
  obtain ⟨_, _, _, hfrom'⟩ := Scene.prepare_eq_ok hb.prepare
  exact hfrom.scene_edited (Schema.validate_edited h _ _ ha.validate hb.validate) hfrom'

theorem alike (ha : c.CompiledFrom s a routes) (hb : c.CompiledFrom t b routes') (h : s.Edited t)
    (hgrids : ∀ id, a.prepared.node? id ≠ b.prepared.node? id → ¬ a.prepared.FeedsGrid id) : a.plan.Alike b.plan := by
  have hvalid := Schema.validate_edited h _ _ ha.validate hb.validate
  obtain ⟨_, _, _, hfrom⟩ := Scene.prepare_eq_ok ha.prepare
  obtain ⟨_, _, _, hfrom'⟩ := Scene.prepare_eq_ok hb.prepare
  have hprepared := hfrom.edited hvalid hfrom' hgrids
  have hroutes := Prepared.resolve_alike hprepared (Scene.prepare_valid ha.prepare) (Scene.prepare_valid hb.prepare)
    ha.resolve hb.resolve
  have hcontext : PlanContext.Edited
      { prepared := a.prepared, routes, registry := c.registry, environment := c.environment }
      { prepared := b.prepared, routes := routes', registry := c.registry, environment := c.environment } :=
    ⟨hprepared, hroutes, rfl, rfl⟩
  exact PlanContext.build_same hcontext ha.build hb.build

/-- An edit leaves grids alone if no node upstream of them holds constants. -/
theorem grids_kept (ha : c.CompiledFrom s a routes) (hb : c.CompiledFrom t b routes') (h : s.Edited t)
    {ids : List String} (hgrids : ∀ n ∈ a.prepared.scene.nodes, n.type = "Instances" → n.id ∈ ids)
    (hclosed : ∀ conn ∈ a.prepared.scene.connections, conn.target.node ∈ ids → conn.source.node ∈ ids)
    (hfree : ∀ n ∈ a.prepared.scene.nodes, n.id ∈ ids → Node.constantKeys n.type = []) :
    ∀ id, a.prepared.node? id ≠ b.prepared.node? id → ¬ a.prepared.FeedsGrid id := by
  intro id hne hfeeds
  obtain ⟨n, hn⟩ := hfeeds.node
  obtain ⟨rfl, hmem⟩ := Prepared.node?_eq_some hn
  have hedited : Option.Rel Node.Edited (a.prepared.node? n.id) (b.prepared.node? n.id) :=
    (ha.scene_edited hb h).indexed? n.id
  rw [hn] at hedited hne
  generalize b.prepared.node? n.id = m? at hedited hne
  cases hedited with
  | some hnm =>
    have hid := Prepared.FeedsGrid.mem hgrids hclosed hfeeds
    exact hne (congrArg some (hnm.eq_of_constantKeys (hfree n hmem hid)))

end CompiledFrom

/-- Editing constants keeps the textures, samplers and passes of a plan, shaders, bindings, blend and load states
included, and its signature, if no edited node lies upstream of a grid of instances. -/
theorem edit_keeps_pipelines (hs : (c.compile s).outcome.1 = .ok a) (ht : (c.compile t).outcome.1 = .ok b)
    (h : s.Edited t) (hgrids : ∀ id, a.prepared.node? id ≠ b.prepared.node? id → ¬ a.prepared.FeedsGrid id) :
    a.plan.Alike b.plan ∧ Signature.ofSpace a.space = Signature.ofSpace b.space ∧
      a.space.signature = b.space.signature := by
  obtain ⟨_, ha⟩ := compile_eq_ok hs
  obtain ⟨_, hb⟩ := compile_eq_ok ht
  have halike := ha.alike hb h hgrids
  have hstream : Signature.ofSpace a.space = Signature.ofSpace b.space := by
    rw [ha.space, hb.space]
    exact halike.stream
  exact ⟨halike, hstream, congrArg Bytes.fnvOfList hstream⟩

end Compiler

/-- A grid of rectangles in a color that comes from a clock or from a level. -/
def Scene.tuned (speed level : Float) (on : Bool) (place : List Float) : Scene where
  nodes := [{ id := "screen", type := "Screen" },
    { id := "shape", type := "RenderPass", params := [("transform", .list (place.map .num))] },
    { id := "box", type := "Rect" }, { id := "grid", type := "Instances", params := [("count", .num 2)] },
    { id := "clock", type := "Time", params := [("speed", .num speed)] },
    { id := "level", type := "Float", params := [("value", .num level)] },
    { id := "on", type := "Bool", params := [("value", .bool on)] }, { id := "pick", type := "Select" }]
  connections := [{ id := "a", source := ⟨"clock", "time"⟩, target := ⟨"pick", "a"⟩ },
    { id := "b", source := ⟨"level", "value"⟩, target := ⟨"pick", "b"⟩ },
    { id := "c", source := ⟨"on", "value"⟩, target := ⟨"pick", "cond"⟩ },
    { id := "d", source := ⟨"pick", "value"⟩, target := ⟨"shape", "color"⟩ },
    { id := "e", source := ⟨"box", "geometry"⟩, target := ⟨"grid", "geometry"⟩ },
    { id := "f", source := ⟨"grid", "geometry"⟩, target := ⟨"shape", "geometry"⟩ },
    { id := "g", source := ⟨"shape", "pass"⟩, target := ⟨"screen", "pass"⟩ }]
  outputs := [("main", "screen")]

theorem Scene.tuned_edited (speed speed' level level' : Float) (on on' : Bool) {place place' : List Float}
    (h : place.length = place'.length) : (tuned speed level on place).Edited (tuned speed' level' on' place') where
  nodes := by
    have hset : ∀ {id type key : String} {v w : Value}, key ∈ Node.constantKeys type → v.Alike w →
        Node.Edited { id, type, params := [(key, v)] } { id, type, params := [(key, w)] } :=
      fun hkey hvw => ⟨rfl, rfl, .cons ⟨rfl, .inr ⟨hkey, hvw⟩⟩ .nil, rfl, rfl⟩
    refine .cons (.refl _) (.cons (hset (by decide) (.list _ _ h)) (.cons (.refl _) (.cons (.refl _) ?_)))
    refine .cons (hset (by decide) (.num _ _)) (.cons (hset (by decide) (.num _ _)) ?_)
    exact .cons (hset (by decide) (.bool _ _)) (.cons (.refl _) .nil)
  connections := rfl
  outputs := rfl
  groups := .nil

/-- The scene before the edit. -/
def Scene.early : Scene := .tuned 1 0.25 false [1, 0, 0, 0, 0, 1, 0, 0, 0, 0, 1, 0, 0, 0, 0, 1]

/-- The scene after the edit. -/
def Scene.late : Scene := .tuned 2 0.75 true [2, 0, 0, 0, 0, 2, 0, 0, 0, 0, 1, 0, 0, 0, 0, 1]

theorem Scene.tuned_checks : (({} : Compiler).compile early).outcome.1.toOption.any (fun r =>
    let ids := ["box", "grid"]
    r.prepared.scene.nodes.all (fun n => n.type != "Instances" || ids.contains n.id) &&
      r.prepared.scene.connections.all (fun conn => !ids.contains conn.target.node || ids.contains conn.source.node) &&
      r.prepared.scene.nodes.all (fun n => !ids.contains n.id || (Node.constantKeys n.type).isEmpty)) = true ∧
    (({} : Compiler).compile late).outcome.1.toOption.isSome = true := by
  rw [Schema.builtin_eq, Registry.builtin_eq]
  decide +kernel

theorem Scene.tuned_kept : ∃ a b, (({} : Compiler).compile early).outcome.1 = .ok a ∧
    (({} : Compiler).compile late).outcome.1 = .ok b ∧ a.plan.Alike b.plan ∧ a.space.signature = b.space.signature := by
  obtain ⟨hearly, hlate⟩ := Scene.tuned_checks
  obtain ⟨a, ha, hchecks⟩ := Option.any_eq_true _ _ |>.1 hearly
  obtain ⟨b, hb⟩ := Option.isSome_iff_exists.1 hlate
  have ha' := eq_ok_of_toOption ha
  have hb' := eq_ok_of_toOption hb
  have hedited : Scene.early.Edited .late := by
    unfold Scene.early Scene.late
    exact Scene.tuned_edited _ _ _ _ _ _ (by simp)
  simp only [Bool.and_eq_true, List.all_eq_true, Bool.or_eq_true, bne_iff_ne, Bool.not_eq_true',
    List.contains_eq_mem, decide_eq_true_eq, decide_eq_false_iff_not, ← imp_iff_not_or, List.isEmpty_iff] at hchecks
  obtain ⟨⟨hgrids, hclosed⟩, hfree⟩ := hchecks
  obtain ⟨_, hfrom⟩ := Compiler.compile_eq_ok ha'
  obtain ⟨_, hfrom'⟩ := Compiler.compile_eq_ok hb'
  have hkept := hfrom.grids_kept hfrom' hedited hgrids hclosed hfree
  obtain ⟨halike, _, hsignature⟩ := Compiler.edit_keeps_pipelines ha' hb' hedited hkept
  exact ⟨a, b, ha', hb', halike, hsignature⟩

end SceneGraph
