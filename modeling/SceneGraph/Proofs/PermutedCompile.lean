import SceneGraph.Proofs.Built
import SceneGraph.Proofs.PermutedCode

/-!
# Plans of reordered scenes

Planning goes along the order of the nodes and along the layers of compositions, neither of which depends on the order
of the connections. It takes the same steps in both scenes, with the same outcome.

So the plan of a scene does not depend on the order of its connections, provided that no source of an image is given an
image itself. Images are inlined in one go along the connections, so that along a chain of sources the order tells how
far an image gets. The sources of the built-in schema have no inputs.

* `PlanState.Twin`: two states of planning that differ in what has been reported.
* `PlanContext.build_permuted`: planning a scene with reordered connections.
* `Compiler.compile_permuted`: the plan of a scene with reordered connections.
* `Scene.unchained_of_builtin`: scenes of the built-in schema have no such chains.
* `Compiler.compile_not_permuted`: an image that gets further along a chain in another order.
-/
set_option autoImplicit false

namespace SceneGraph

/-- Two states of planning that differ in what has been reported only. -/
def PlanState.Twin (st st' : PlanState) : Prop := ∃ log, st' = { st with session := { st.session with log } }

/-- Two computations that plan with the same outcome, whatever has been reported. -/
abbrev PlanM.Matched {α : Type} (x y : PlanM α) : Prop := Tandem PlanState.Twin x y

/-! ## Steps of planning -/

namespace PlanM

theorem ofSession_matched {α : Type} {x y : SessionM α} (h : SessionM.Matched x y) :
    Matched (ofSession x) (ofSession y) := by
  rintro st _ ⟨log, rfl⟩
  obtain ⟨hsame, log', hleft⟩ := h st.session { st.session with log } ⟨log, rfl⟩
  refine ⟨congrArg (Except.mapError PlanError.expr) hsame, log', ?_⟩
  exact congrArg (fun session => ({ st with session } : PlanState)) hleft

theorem declare_matched (f : Plan → Except ResourceConflict Plan) : Matched (declare f) (declare f) := by
  refine .get_bind ?_
  rintro st _ ⟨log, rfl⟩
  dsimp only
  split
  · exact .set ⟨log, rfl⟩
  · exact .throw _

theorem report_matched (e : LogEntry) : Matched (report e) (report e) := by
  refine .modify ?_
  rintro st _ ⟨log, rfl⟩
  exact ⟨_, rfl⟩

theorem addPass_matched (ps : Pass) : Matched (addPass ps) (addPass ps) := by
  refine .get_bind ?_
  rintro st _ ⟨log, rfl⟩
  dsimp only
  split
  · exact .throw _
  · exact .throwIf fun _ => .bind (.set ⟨log, rfl⟩) fun _ => report_matched _

end PlanM

/-- What planning two scenes works on that differ in the order of connections. -/
structure PlanContext.Permuted (c c' : PlanContext) : Prop where
  prepared : c.prepared.Permuted c'.prepared
  routes : c.routes.Same c'.routes
  registry : c.registry = c'.registry
  environment : c.environment = c'.environment

open PlanM

namespace PlanContext

variable {c c' : PlanContext}

/-! ## Uploaded textures and bindings -/

theorem upload_matched (hc : c.Permuted c') (n : Node) (i : Image) : Matched (c.upload n i) (c'.upload n i) := by
  unfold upload
  rw [hc.prepared.nameOf]
  exact .bind (declare_matched _) fun _ => .bind (declare_matched _) fun _ => .pure _

theorem sourceTexture_matched (hc : c.Permuted c') (id : String) :
    Matched (c.sourceTexture id) (c'.sourceTexture id) := by
  have himage (n : Node) : Matched (c.imageTexture n) (c'.imageTexture n) := by
    unfold imageTexture
    rw [imageBytes?_congr hc.environment, decodeImage_congr hc.environment]
    dsimp only
    split
    · exact .bind (report_matched _) fun _ => upload_matched hc n _
    · split
      · exact upload_matched hc n _
      · exact .throw _
      · exact .throw _
  have htext (n : Node) : Matched (c.textTexture n) (c'.textTexture n) := by
    unfold textTexture
    rw [hc.prepared.baked, hc.environment]
    split
    · exact upload_matched hc n _
    · split
      · exact upload_matched hc n _
      · exact .throw _
  unfold sourceTexture
  rw [hc.routes.textures, hc.prepared.node?]
  split
  · exact .pure _
  · split
    · exact .throw _
    · split
      · exact himage _
      · exact htext _
      · exact .throw _

theorem exprs_permuted (hc : c.Permuted c') : c.exprs.inputs.Permuted c'.exprs.inputs :=
  ExprContext.inputs_permuted hc.prepared hc.registry (congrArg Environment.accepts hc.environment)

theorem wiredTexture_matched (hc : c.Permuted c') (n : Node) : Matched (c.wiredTexture n) (c'.wiredTexture n) :=
  .bind (ofSession_matched ((exprs_permuted hc).require n _)) fun e =>
    .throwIf fun _ => sourceTexture_matched hc e.source

theorem bindingsFrom_matched (hc : c.Permuted c') (i : Nat) (keys : List String) :
    Matched (c.bindingsFrom i keys) (c'.bindingsFrom i keys) := by
  induction keys generalizing i with
  | nil => exact .pure _
  | cons key rest ih =>
    refine .get_bind ?_
    rintro st _ ⟨log, rfl⟩
    have hfound : Session.binding? { st.session with log } key = st.session.binding? key := rfl
    simp only [hfound]
    split
    · exact ih (i + 1)
    · refine .bind (sourceTexture_matched hc _) fun texture => .bind (declare_matched _) fun _ => ?_
      exact .bind (ih (i + 1)) fun more => .pure _

/-! ## Draw passes -/

theorem drawColor_matched (hc : c.Permuted c') (n : Node) : SessionM.Matched (c.drawColor n) (c'.drawColor n) := by
  refine .bind ((exprs_permuted hc).input? n _) fun e? => ?_
  cases e? with
  | none => exact .pure _
  | some e => exact e.convert_matched n "color" .vec4

theorem drawTransform_matched (hc : c.Permuted c') (n : Node) :
    SessionM.Matched (c.drawTransform n) (c'.drawTransform n) := by
  refine .bind ((exprs_permuted hc).input? n _) fun e? => ?_
  cases e? with
  | none =>
    dsimp only
    split
    · exact .pure _
    · exact .ite (SessionM.constant_matched _ _ _ _) (.throw _)
  | some e => exact .bind (e.convert_matched n "transform" .mat4) fun t => .throwIf fun _ => .pure _

theorem withGeometry_matched (hc : c.Permuted c') (g : Geometry) (ps : Pass) :
    Matched (c.withGeometry g ps) (c'.withGeometry g ps) := by
  unfold withGeometry
  rw [hc.prepared.nameOf]
  refine .ite (.pure _) (.bind (declare_matched _) fun _ => .ite (.pure _) ?_)
  exact .bind (declare_matched _) fun _ => .pure _

theorem renderPass_matched (hc : c.Permuted c') (n : Node) (r : Route) :
    Matched (c.renderPass n r) (c'.renderPass n r) := by
  refine .bind (ofSession_matched (drawColor_matched hc n)) fun color => ?_
  refine .bind (ofSession_matched (drawTransform_matched hc n)) fun transform => .bind (.result _) fun blend => ?_
  refine .bind (bindingsFrom_matched hc 0 _) fun bindings => .bind (withGeometry_matched hc r.geometry _) fun ps => ?_
  refine .get_bind ?_
  rintro st _ ⟨log, rfl⟩
  exact addPass_matched _

/-! ## Effect passes -/

theorem effect_matched (e : Effect) : Matched e.plan e.plan := by
  have hsamplers (inputs : List EffectInput) :
      Matched (Effect.declareSamplers inputs) (Effect.declareSamplers inputs) := by
    induction inputs with
    | nil => exact .pure _
    | cons i rest ih => exact .bind (declare_matched _) fun _ => ih
  exact .bind (hsamplers _) fun _ => addPass_matched _

theorem blit_matched (hc : c.Permuted c') (n : Node) (r : Route) : Matched (c.blit n r) (c'.blit n r) :=
  .bind (wiredTexture_matched hc n) fun _ => .bind (.result _) fun _ => effect_matched _

theorem scratch_matched (n : Node) (name : String) (r : Route) (divisor : Int) :
    Matched (scratch n name r divisor) (scratch n name r divisor) := by
  unfold scratch
  split
  · exact .throw _
  · exact declare_matched _

theorem blurRounds_matched (n : Node) (first second : String) (radius : Code) (rounds i : Nat) (source : String) :
    Matched (blurRounds n first second radius rounds i source) (blurRounds n first second radius rounds i source) := by
  induction rounds generalizing i source with
  | zero => exact .pure _
  | succ rounds ih => exact .bind (effect_matched _) fun _ => .bind (effect_matched _) fun _ => ih _ _

theorem blur_matched (hc : c.Permuted c') (n : Node) (r : Route) : Matched (c.blur n r) (c'.blur n r) := by
  unfold blur
  rw [hc.prepared.nameOf]
  refine .bind (wiredTexture_matched hc n) fun source => .bind (.result _) fun blend => ?_
  refine .bind (ofSession_matched (SessionM.constant_matched _ _ _ _)) fun radius => ?_
  refine .bind (scratch_matched _ _ _ _) fun _ => .bind (scratch_matched _ _ _ _) fun _ => ?_
  exact .bind (blurRounds_matched _ _ _ _ _ _ _) fun _ => effect_matched _

theorem planAll_matched (effects : List Effect) : Matched (planAll effects) (planAll effects) := by
  induction effects with
  | nil => exact .pure _
  | cons e rest ih => exact .bind (effect_matched e) fun _ => ih

theorem bloomLevels_matched (n : Node) (name : String) (r : Route) (levels : List Nat) :
    Matched (bloomLevels n name r levels) (bloomLevels n name r levels) := by
  induction levels with
  | nil => exact .pure _
  | cons i rest ih => exact .bind (scratch_matched _ _ _ _) fun _ => ih

theorem bloom_matched (hc : c.Permuted c') (n : Node) (r : Route) : Matched (c.bloom n r) (c'.bloom n r) := by
  unfold bloom
  rw [hc.prepared.nameOf]
  refine .bind (wiredTexture_matched hc n) fun source => .bind (.result _) fun blend => ?_
  refine .bind (ofSession_matched (SessionM.constant_matched _ _ _ _)) fun threshold => ?_
  refine .bind (ofSession_matched (SessionM.constant_matched _ _ _ _)) fun intensity => ?_
  refine .bind (bloomLevels_matched _ _ _ _) fun _ => .bind (effect_matched _) fun _ => ?_
  exact .bind (planAll_matched _) fun _ => .bind (planAll_matched _) fun _ => effect_matched _

/-! ## Nodes -/

theorem declareTarget_matched (n : Node) (d : Domain) : Matched (declareTarget n d) (declareTarget n d) := by
  unfold declareTarget
  split
  · exact .throw _
  · exact declare_matched _

theorem markDrawn_matched (id : String) : Matched (markDrawn id) (markDrawn id) := by
  refine .get_bind ?_
  rintro st _ ⟨log, rfl⟩
  exact .ite (.pure _) (.bind (.set ⟨log, rfl⟩) fun _ => .pure _)

theorem routeOf_matched (hc : c.Permuted c') (id : String) : Matched (c.routeOf id) (c'.routeOf id) := by
  unfold routeOf Routes.route?
  rw [hc.routes.byNode]
  split
  · exact .pure _
  · exact .throw _

theorem draw_matched (hc : c.Permuted c') (n : Node) : Matched (c.draw n) (c'.draw n) := by
  refine .bind (markDrawn_matched n.id) fun drawn => .ite (.pure _) ?_
  refine .bind (routeOf_matched hc n.id) fun r => ?_
  split
  · exact renderPass_matched hc n r
  · exact blit_matched hc n r
  · exact blur_matched hc n r
  · exact bloom_matched hc n r
  · exact .throw _

theorem isNested_permuted (hc : c.Permuted c') (id : String) : c.isNested id = c'.isNested id := by
  unfold isNested Routes.route?
  rw [hc.routes.byNode, hc.prepared.compositesOf]

theorem compose_matched (layer : String) (source : Domain) (n : Node) (target : Domain) :
    Matched (compose layer source n target) (compose layer source n target) := by
  refine .get_bind ?_
  rintro st _ ⟨log, rfl⟩
  refine .ite (report_matched _) (.bind (.set ⟨log, rfl⟩) fun _ => ?_)
  exact .bind (.result _) fun _ => effect_matched _

theorem layers_matched (hc : c.Permuted c') {inner inner' : Node → PlanM Unit}
    (hinner : ∀ n, Matched (inner n) (inner' n)) (n : Node) (r : Route) (ls : List Layer) :
    Matched (c.layers inner n r ls) (c'.layers inner' n r ls) := by
  have hlayer (l : Layer) : Matched (c.layer inner n r l) (c'.layer inner' n r l) := by
    unfold layer Routes.route?
    rw [hc.prepared.node?, hc.routes.byNode]
    split
    · exact .ite (.ite (hinner _) (.ite (draw_matched hc _) (.pure _))) (compose_matched _ _ _ _)
    · exact .pure _
  induction ls with
  | nil => exact .pure _
  | cons l rest ih => exact .bind (hlayer l) fun _ => ih

theorem composite_matched (hc : c.Permuted c') (n : Node) : Matched (c.composite n) (c'.composite n) := by
  have hwithin (depth : Nat) (n : Node) : Matched (c.compositeWithin depth n) (c'.compositeWithin depth n) := by
    induction depth generalizing n with
    | zero => exact .pure _
    | succ depth ih =>
      refine .bind (markDrawn_matched n.id) fun drawn => .ite (.pure _) ?_
      exact .bind (routeOf_matched hc n.id) fun r => layers_matched hc ih n r r.layers
  unfold composite
  rw [hc.prepared.scene.nodes]
  exact hwithin _ n

theorem clearUnwritten_matched (hc : c.Permuted c') (n : Node) :
    Matched (c.clearUnwritten n) (c'.clearUnwritten n) := by
  unfold clearUnwritten
  rw [hc.routes.textures]
  refine .get_bind ?_
  rintro st _ ⟨log, rfl⟩
  exact .ite (.pure _) (addPass_matched _)

theorem node_matched (hc : c.Permuted c') (n : Node) : Matched (c.node n) (c'.node n) := by
  unfold node Routes.route?
  rw [isNested_permuted hc, hc.routes.byNode]
  refine .ite (.ite (.pure _) (composite_matched hc n)) (.ite ?_ (.ite (clearUnwritten_matched hc n) (.pure _)))
  split
  · exact .ite (draw_matched hc n) (.pure _)
  · exact .pure _

theorem declareTargets_matched (hc : c.Permuted c') (ids : List String) :
    Matched (c.declareTargets ids) (c'.declareTargets ids) := by
  induction ids with
  | nil => exact .pure _
  | cons id rest ih =>
    unfold declareTargets
    rw [hc.routes.textures, hc.prepared.node?]
    dsimp only
    split
    · exact .bind (declareTarget_matched _ _) fun _ => ih
    · exact ih

theorem nodes_matched (hc : c.Permuted c') (ids : List String) : Matched (c.nodes ids) (c'.nodes ids) := by
  induction ids with
  | nil => exact .pure _
  | cons id rest ih =>
    unfold nodes
    rw [hc.prepared.node?]
    dsimp only
    split
    · exact .bind (node_matched hc _) fun _ => ih
    · exact ih

theorem present_matched (hc : c.Permuted c') : Matched c.present c'.present := by
  unfold present
  rw [hc.prepared.output]
  refine .ite (.pure _) (.bind (declare_matched _) fun _ => .bind (.modify ?_) fun _ => effect_matched _)
  rintro st _ ⟨log, rfl⟩
  exact ⟨log, rfl⟩

theorem declareParams_matched : Matched declareParams declareParams := by
  refine .get_bind ?_
  rintro st _ ⟨log, rfl⟩
  exact .bind (.set ⟨log, rfl⟩) fun _ => declare_matched _

/-- Planning a scene with reordered connections gives the same plan. -/
theorem build_permuted (hc : c.Permuted c') {plan : Plan} (h : c.build.outcome.1 = .ok plan) :
    c'.build.outcome.1 = .ok plan := by
  have hempty : c.emptyPlan = c'.emptyPlan := by
    unfold emptyPlan
    rw [hc.prepared.output]
  have hall : Matched c.buildAll c'.buildAll := by
    unfold buildAll
    rw [hc.prepared.order]
    refine .bind (declareTargets_matched hc _) fun _ => .bind (nodes_matched hc _) fun _ => ?_
    refine .bind (present_matched hc) fun _ => .bind declareParams_matched fun _ => .get_bind ?_
    rintro st _ ⟨log, rfl⟩
    exact report_matched _
  obtain ⟨st, hrun, rfl⟩ := (build_eq_ok c plan).1 h
  obtain ⟨hsame, log, hleft⟩ := hall { plan := c.emptyPlan } { plan := c'.emptyPlan } ⟨[], by rw [hempty]⟩
  have hrun' : c.buildAll.run.run { plan := c.emptyPlan } = (.ok (), st) := hrun
  rw [hrun'] at hsame hleft
  refine (build_eq_ok c' st.plan).2 ⟨_, yields_run hsame.symm, ?_⟩
  rw [hleft]

end PlanContext

/-! ## Image sources of the built-in schema -/

theorem Schema.builtin_image {name : String} {t : NodeType} (ht : builtin.nodeType? name = some t)
    (hcategory : t.category = "image") : t.inputs = [] ∧ t.declaredPorts = false ∧ t.openInputs = false := by
  have hall : builtin.types.all (fun e => e.2.category != "image" ||
      e.2.inputs.isEmpty && !e.2.declaredPorts && !e.2.openInputs) = true := by
    rw [builtin_eq]
    decide +kernel
  have hentry := List.all_eq_true.1 hall _ (Table.mem_of_get? ht)
  simpa [hcategory, and_assoc] using hentry

/-- In a valid scene of the built-in schema whose images can be inlined, no source of an image is given an image. -/
theorem Scene.unchained_of_builtin {s t : Scene} (hwires : Schema.builtin.checkConnections s = .ok ())
    (hends : ∀ c ∈ s.connections, c.source.node ∈ s.nodeIds ∧ c.target.node ∈ s.nodeIds)
    (ht : (Images.inline Schema.builtin s).result = .ok t) : s.Unchained := by
  intro c hc d hd hcport hdport hchain
  obtain ⟨n, hn⟩ := Scene.indexed?_isSome.2 (hends d hd).2
  obtain ⟨m, hm, hcategory⟩ := Images.foldlM_inlined?_source (Images.inlineAll_eq_ok.1 ht) hd hdport hn
  obtain ⟨a, ha⟩ := Scene.indexed?_isSome.2 (hends c hc).1
  rw [← hchain] at hm
  obtain ⟨given, wanted, -, htakes, -⟩ :=
    Schema.checkAll_iff.1 hwires c hc a m (Schema.lastWithId?_iff.1 ha) (Schema.lastWithId?_iff.1 hm)
  have hinput := Schema.inputType?_iff.2 htakes
  cases hknown : Schema.builtin.nodeType? m.type with
  | none => simp [Schema.inputType?, hknown] at hinput
  | some type =>
    have hcategory' : type.category = "image" := by simpa [Schema.category, hknown] using hcategory
    obtain ⟨hinputs, hdeclared, hopen⟩ := Schema.builtin_image hknown hcategory'
    simp [Schema.inputType?, hknown, hinputs, hdeclared, hopen, NodeType.input?, PortSpec.find?] at hinput

/-! ## Compilation -/

namespace Compiler

variable {c : Compiler} {s : Scene} {r : Compiled}

/-- A scene without instances of groups, in which every input takes one connection, those for passes take passes and no
source of an image is given an image, has the same plan whatever the order of its connections. Under the built-in schema
no compiled scene gives an image to a source. -/
theorem compile_permuted {conns : List Connection} (hr : (c.compile s).outcome.1 = .ok r) (hgroups : s.Groupless)
    (hsingle : s.SingleFed) (hpass : s.PassFed c.schema) (hchain : c.schema = Schema.builtin ∨ s.Unchained)
    (hperm : s.connections.Perm conns) :
    ∃ r', (c.compile { s with connections := conns }).outcome.1 = .ok r' ∧ r'.plan = r.plan := by
  obtain ⟨routes, hfrom⟩ := compile_eq_ok hr
  have hstructure := checkStructure_of_compile hr
  obtain ⟨hids, hconns, -, -⟩ := Schema.validate_keeps hfrom.validate
  have hbare := Schema.validate_bare hfrom.validate
  have hgroups' := hgroups.of_bare hbare
  have hchain' : r.scene.Unchained := by
    rcases hchain with hbuiltin | hchain
    · obtain ⟨expanded, inlined, wrapped, hprepared⟩ := Scene.prepare_eq_ok hfrom.prepare
      have hexpand := congrArg Groups.Expansion.result (Groups.expand_groupless hgroups'
        c.options.maxGroupDepth)
      obtain rfl : r.scene = expanded := Except.ok.inj (hexpand.symm.trans hprepared.expand)
      have hwires := Schema.checkConnections_of_validate hfrom.validate
      have hinline := hprepared.inline
      rw [hbuiltin] at hwires hinline
      refine Scene.unchained_of_builtin hwires (fun d hd => ?_) hinline
      rw [hids]
      exact (Scene.checkStructure_eq_ok hstructure).2.1 d (hconns ▸ hd)
    · unfold Scene.Unchained
      rwa [hconns]
  have h : s.Permuted { s with connections := conns } := ⟨rfl, rfl, rfl, hperm, hsingle⟩
  obtain ⟨w, hw, hvw⟩ := Schema.validate_permuted h hfrom.validate
  obtain ⟨q, hq, hpq⟩ := Scene.prepare_permuted hvw hgroups' (hpass.of_bare hbare fun d hd => hconns ▸ hd) hchain'
    hfrom.prepare
  obtain ⟨routes', hroutes', hsame⟩ := Prepared.resolve_permuted hpq hfrom.resolve
  have hcontext : PlanContext.Permuted ⟨r.prepared, routes, c.registry, c.environment⟩
      ⟨q, routes', c.registry, c.environment⟩ :=
    ⟨hpq, hsame, rfl, rfl⟩
  have hfrom' : c.CompiledFrom { s with connections := conns } { r with scene := w, prepared := q } routes' :=
    ⟨hw, hq, hroutes', PlanContext.build_permuted hcontext hfrom.build, hfrom.space⟩
  exact ⟨_, hfrom'.compile (Scene.checkStructure_permuted h hstructure), rfl⟩

end Compiler

/-- Two layers, one of them an image, on a screen. -/
def Scene.layered : Scene where
  nodes := [{ id := "screen", type := "Screen" }, { id := "stack", type := "Composite" },
    { id := "under", type := "RenderPass" }, { id := "over", type := "RenderPass" },
    { id := "file", type := "ImageFile" }, { id := "picture", type := "ImageTexture" }]
  connections := [{ id := "c0", source := ⟨"file", "image"⟩, target := ⟨"picture", "image"⟩ },
    { id := "c1", source := ⟨"picture", "color"⟩, target := ⟨"over", "color"⟩ },
    { id := "c2", source := ⟨"under", "pass"⟩, target := ⟨"stack", "pass"⟩ },
    { id := "c3", source := ⟨"over", "pass"⟩, target := ⟨"stack", "dynamic_over"⟩ },
    { id := "c4", source := ⟨"stack", "pass"⟩, target := ⟨"screen", "pass"⟩ }]
  outputs := [("main", "screen")]

theorem Scene.layered_checks : (({} : Compiler).compile Scene.layered).outcome.1.toOption.isSome = true ∧
    Scene.layered.PassFed Schema.builtin := by
  unfold Scene.PassFed
  rw [Schema.builtin_eq, Registry.builtin_eq]
  decide +kernel

theorem Scene.layered_permuted : ∃ r, ((({} : Compiler).compile Scene.layered).outcome.1 = .ok r ∧
    Scene.layered.Groupless ∧ Scene.layered.SingleFed ∧ Scene.layered.PassFed Schema.builtin ∧
    (({} : Compiler).schema = Schema.builtin ∨ Scene.layered.Unchained) ∧
    Scene.layered.connections.Perm Scene.layered.connections.reverse) ∧
    ∃ r', (({} : Compiler).compile { Scene.layered with connections := Scene.layered.connections.reverse }).outcome.1 =
      .ok r' ∧ r'.plan = r.plan := by
  obtain ⟨hcompiles, hpass⟩ := Scene.layered_checks
  obtain ⟨r, hr⟩ := Option.isSome_iff_exists.1 hcompiles
  have hr := eq_ok_of_toOption hr
  have hgroups : Scene.layered.Groupless := by
    unfold Scene.Groupless
    decide
  have hsingle : Scene.layered.SingleFed := by
    unfold Scene.SingleFed
    decide
  have hperm := (List.reverse_perm Scene.layered.connections).symm
  exact ⟨r, ⟨hr, hgroups, hsingle, hpass, .inl rfl, hperm⟩,
    Compiler.compile_permuted hr hgroups hsingle hpass (.inl rfl) hperm⟩

/-! ## A chain of image sources -/

/-- An image source that takes an image. -/
def Schema.imageLink : NodeType where
  name := "ImageLink"
  category := "image"
  params := Builtin.paramTable [{ name := "dataUrl", type := .string }]
  inputs := [Builtin.port "image" "image"]
  outputs := [Builtin.port "image" "image"]

/-- Screens, copies, textures of images, and the image source that takes an image. -/
def Schema.linking : Schema where
  types := Table.ofList [
    ("Screen", { name := "Screen", inputs := [Builtin.port "pass" "pass"] }),
    ("Blit", { name := "Blit", inputs := [Builtin.port "texture" "texture"], outputs := [Builtin.port "pass" "pass"] }),
    ("ImageTexture", {
      name := "ImageTexture"
      inputs := [Builtin.port "image" "image"]
      outputs := [Builtin.port "texture" "texture"] }),
    ("ImageLink", imageLink)]

/-- A link between a texture and a file whose bytes are no image. -/
def Scene.linked : Scene where
  nodes := [{ id := "screen", type := "Screen" }, { id := "blit", type := "Blit" },
    { id := "texture", type := "ImageTexture" }, { id := "link", type := "ImageLink" },
    { id := "file", type := "ImageLink", params := [("dataUrl", .str "data:,x")] }]
  connections := [{ id := "c0", source := ⟨"link", "image"⟩, target := ⟨"texture", "image"⟩ },
    { id := "c1", source := ⟨"file", "image"⟩, target := ⟨"link", "image"⟩ },
    { id := "c2", source := ⟨"texture", "texture"⟩, target := ⟨"blit", "texture"⟩ },
    { id := "c3", source := ⟨"blit", "pass"⟩, target := ⟨"screen", "pass"⟩ }]
  outputs := [("main", "screen")]

/-- In the order given the texture finds the link empty. The other way round it gets what the file holds. -/
theorem Scene.linked_checks : (({ schema := .linking } : Compiler).compile .linked).outcome.1.toOption.isSome = true ∧
    (({ schema := .linking } : Compiler).compile { Scene.linked with connections := Scene.linked.connections.reverse }
      ).outcome.1.toOption.isNone = true ∧ Scene.linked.PassFed .linking := by
  unfold Scene.PassFed
  rw [Registry.builtin_eq]
  decide +kernel

/-- Along a chain of image sources, a scene that compiles may fail with its connections in another order. -/
theorem Compiler.compile_not_permuted : ∃ r, (({ schema := .linking } : Compiler).compile .linked).outcome.1 = .ok r ∧
    Scene.linked.Groupless ∧ Scene.linked.SingleFed ∧ Scene.linked.PassFed .linking ∧
    Scene.linked.connections.Perm Scene.linked.connections.reverse ∧
    ∀ r', (({ schema := .linking } : Compiler).compile
      { Scene.linked with connections := Scene.linked.connections.reverse }).outcome.1 ≠ .ok r' := by
  obtain ⟨hcompiles, hfails, hpass⟩ := Scene.linked_checks
  obtain ⟨r, hr⟩ := Option.isSome_iff_exists.1 hcompiles
  refine ⟨r, eq_ok_of_toOption hr, ?_, ?_, hpass, (List.reverse_perm _).symm, fun r' hr' => ?_⟩
  · unfold Scene.Groupless
    decide
  · unfold Scene.SingleFed
    decide
  · rw [hr'] at hfails
    cases hfails

end SceneGraph
