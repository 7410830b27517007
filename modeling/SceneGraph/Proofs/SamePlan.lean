import SceneGraph.Proofs.Built
import SceneGraph.Proofs.SameCode

/-!
# Plans of edited scenes

Two scenes one edit apart have the same textures, samplers and passes. Their buffers have the same names,
kinds, strides and lengths and differ in contents only.

* `Route.Alike`: two routes that differ in the coordinates of their shapes only.
* `Plan.Alike`: two plans that differ in the contents of their buffers only.
* `PlanContext.build_same`: planning scenes one edit apart.
-/
set_option autoImplicit false

namespace SceneGraph

/-! ## Routes -/

/-- Two shapes with the same numbers of vertices and instances. -/
structure Geometry.Alike (g g' : Geometry) : Prop where
  source : g.source = g'.source
  vertices : g.vertices.length = g'.vertices.length
  instances : g.instances.length = g'.instances.length

/-- Two routes that differ in the coordinates of their shapes only. -/
structure Route.Alike (r r' : Route) : Prop where
  node : r.node = r'.node
  type : r.type = r'.type
  domain : r.domain = r'.domain
  geometry : r.geometry.Alike r'.geometry
  isExplicit : r.isExplicit = r'.isExplicit
  layers : r.layers = r'.layers

/-- The routes of two scenes one edit apart. -/
structure Routes.Alike (r r' : Routes) : Prop where
  byNode : TableRel (fun _ => Route.Alike) r.byNode r'.byNode
  textures : r.textures = r'.textures

namespace Prepared.Edited

variable {p q : Prepared}

theorem node? (h : p.Edited q) (id : String) : Option.Rel Node.Edited (p.node? id) (q.node? id) :=
  h.scene.indexed? id

theorem typeOf (h : p.Edited q) (id : String) : p.typeOf id = q.typeOf id := by
  unfold Prepared.typeOf
  have hn := h.node? id
  generalize p.node? id = n? at hn
  generalize q.node? id = m? at hn
  cases hn with
  | none => rfl
  | some hn => exact hn.type

theorem layersOf (h : p.Edited q) (id : String) : p.layersOf id = q.layersOf id := by
  unfold Prepared.layersOf
  have hn := h.node? id
  generalize p.node? id = n? at hn
  generalize q.node? id = m? at hn
  cases hn with
  | none => rfl
  | @some n m hn =>
    have hle : ∀ a b, Layer.portLe n a b = Layer.portLe m a b := by
      intro a b
      unfold Layer.portLe Node.inputIndex?
      rw [hn.inputs]
    simp only [hn.type, Layer.ordered, h.scene.connections, hn.id, hle]

theorem compositesOf (h : p.Edited q) (layer : String) : p.compositesOf layer = q.compositesOf layer := by
  unfold Prepared.compositesOf Prepared.composites
  simp only [h.order, h.typeOf, h.layersOf]

end Prepared.Edited

namespace Route

variable {p q : Prepared} {n m : Node}

theorem targetDomain_edited (h : p.Edited q) (hn : n.Edited m) (htype : isTargetType n.type = true) :
    targetDomain p n = targetDomain q m := by
  have hfree : Node.constantKeys n.type = [] := by
    unfold isTargetType screenType at htype
    simp only [Bool.or_eq_true, beq_iff_eq] at htype
    rcases htype with htype | htype <;> rw [htype] <;> rfl
  have hfloat : ∀ key, n.float? key = m.float? key := fun key => hn.float? (by simp [hfree])
  have hint : ∀ key default, n.intOr key default = m.intOr key default := fun key => hn.intOr (by simp [hfree])
  unfold targetDomain Node.floatOr
  simp only [h.output, h.nameOf, hn.id, hn.type, hn.stringOr, hint, hfloat]

theorem targetDomains_edited (h : p.Edited q) : targetDomains p = targetDomains q := by
  unfold targetDomains
  rw [h.order]
  congr 1
  funext t id
  have hn := h.node? id
  generalize p.node? id = n? at hn
  generalize q.node? id = m? at hn
  cases hn with
  | none => rfl
  | @some n m hn =>
    simp only [← hn.type]
    split
    · rename_i htype
      rw [targetDomain_edited h hn htype]
    · rfl

theorem passConsumers_edited (h : p.Edited q) (id : String) :
    List.Forall₂ Node.Edited (passConsumers p id) (passConsumers q id) := by
  unfold passConsumers
  rw [h.scene.outgoingFrom]
  refine List.rel_filterMap (R := Eq) (fun c c' hc => ?_) (List.forall₂_eq_eq_eq ▸ rfl)
  subst hc
  split
  · exact h.node? _
  · exact .none

theorem explicitTargets_edited {ns ms : List Node} (h : List.Forall₂ Node.Edited ns ms) :
    explicitTargets ns = explicitTargets ms := by
  have htargets := forall₂_filter (p := fun n => isTargetType n.type) (q := fun n => isTargetType n.type) h
    fun n m hn => by rw [hn.type]
  unfold explicitTargets
  rw [map_eq_of_forall₂ htargets fun n m hn => hn.id]

theorem inheritedTargets_edited {found found' : Table Route} (hfound : TableRel (fun _ => Alike) found found')
    {ns ms : List Node} (h : List.Forall₂ Node.Edited ns ms) :
    inheritedTargets found ns = inheritedTargets found' ms := by
  have hcomposites := forall₂_filter (p := fun n => !isTargetType n.type && n.type == compositeType)
    (q := fun n => !isTargetType n.type && n.type == compositeType) h fun n m hn => by rw [hn.type]
  unfold inheritedTargets
  have hdomains := filterMap_eq_of_forall₂ (f := fun n => (found.get? n.id).map fun r => r.domain.node)
    (g := fun n => (found'.get? n.id).map fun r => r.domain.node) hcomposites fun n m hn => by
      rw [hn.id]
      exact map_eq_of_rel (hfound.get? m.id) fun r r' hr => by rw [hr.domain]
  simp only [hdomains]

theorem shape_alike (h : p.Edited q) (hn : n.Edited m) : Agree Geometry.Alike (shape p n) (shape q m) := by
  unfold shape
  rw [hn.type, hn.id, h.scene.inputAt?]
  split
  · exact .ok ⟨rfl, rfl, rfl⟩
  · split
    · exact .ok ⟨rfl, rfl, rfl⟩
    · rename_i c _
      obtain ⟨frozen, hbaked⟩ := h.baked
      have hmesh := hbaked.mesh? c.source
      have hinst := hbaked.instances? c.source
      generalize p.baked.mesh? c.source = g? at hmesh
      generalize q.baked.mesh? c.source = g?' at hmesh
      cases hmesh with
      | none => exact .error_left
      | some hlen =>
        refine .ok ⟨rfl, hlen, ?_⟩
        simp only
        generalize p.baked.instances? c.source = os? at hinst
        generalize q.baked.instances? c.source = os?' at hinst
        cases hinst with
        | none => rfl
        | some hos => exact hos

theorem ofNode_alike (h : p.Edited q) (textures : Table Domain) {found found' : Table Route}
    (hfound : TableRel (fun _ => Alike) found found') (hn : n.Edited m) :
    Agree Alike (ofNode p textures found n) (ofNode q textures found' m) := by
  have hconsumers := passConsumers_edited h m.id
  unfold ofNode
  simp only [hn.id, explicitTargets_edited hconsumers, inheritedTargets_edited hfound hconsumers, h.layersOf, hn.type]
  refine (Agree.of_eq rfl).bind fun t _ ht => (shape_alike h hn).bind fun g g' hg => .ok ?_
  subst ht
  exact ⟨rfl, rfl, rfl, hg, rfl, rfl⟩

theorem findAll_alike (h : p.Edited q) (textures : Table Domain) (order : List String) {found found' : Table Route}
    (hfound : TableRel (fun _ => Alike) found found') :
    Agree (TableRel fun _ => Alike) (findAll p textures order found) (findAll q textures order found') := by
  induction order generalizing found found' with
  | nil => exact .ok hfound
  | cons id rest ih =>
    unfold findAll
    have hn := h.node? id
    generalize p.node? id = n? at hn
    generalize q.node? id = m? at hn
    cases hn with
    | none => exact ih hfound
    | @some n m hn =>
      simp only [hn.type]
      split
      · have hroute := ofNode_alike h textures hfound hn
        cases hp : ofNode p textures found n with
        | error e => exact .error_left
        | ok r =>
          cases hq : ofNode q textures found' m with
          | error e => exact .error_right
          | ok r' =>
            rw [hn.id]
            exact ih (hfound.insert (hroute r r' hp hq))
      · exact ih hfound

end Route

theorem Prepared.resolve_alike {p q : Prepared} (h : p.Edited q) (hp : p.Valid) (hq : q.Valid) {r r' : Routes}
    (hr : p.resolve.outcome.1 = .ok r) (hr' : q.resolve.outcome.1 = .ok r') : r.Alike r' := by
  have hvalid := Prepared.resolve_valid hp hr
  have hvalid' := Prepared.resolve_valid hq hr'
  refine ⟨?_, ?_⟩
  · have hroutes' := hvalid'.routes
    rw [← h.order, ← Route.targetDomains_edited h] at hroutes'
    exact Route.findAll_alike h _ _ .nil _ _ hvalid.routes hroutes'
  · rw [hvalid.textures, hvalid'.textures, Route.targetDomains_edited h]

/-! ## Resources -/

/-- Two buffers that differ in their contents only. -/
structure BufferDecl.Alike (b b' : BufferDecl) : Prop where
  name : b.name = b'.name
  kind : b.kind = b'.kind
  stride : b.stride = b'.stride
  size : b.data.size = b'.data.size

/-- Two plans that differ in the contents of their buffers only. -/
structure Plan.Alike (p q : Plan) : Prop where
  textures : p.textures = q.textures
  buffers : List.Forall₂ BufferDecl.Alike p.buffers q.buffers
  samplers : p.samplers = q.samplers
  passes : p.passes = q.passes
  params : p.params.length = q.params.length
  sceneTexture : p.sceneTexture = q.sceneTexture
  presentTexture : p.presentTexture = q.presentTexture
  size : p.size = q.size
  isAnimated : p.isAnimated = q.isAnimated

namespace Plan.Alike

variable {p q : Plan}

theorem texture? (h : p.Alike q) (name : String) : p.texture? name = q.texture? name := by
  unfold Plan.texture?
  rw [h.textures]

theorem declareTexture (h : p.Alike q) (t : TextureDecl) :
    Agree Plan.Alike (p.declareTexture t) (q.declareTexture t) := by
  unfold Plan.declareTexture
  rw [h.texture?]
  split
  · refine .ok ⟨?_, h.buffers, h.samplers, h.passes, h.params, h.sceneTexture, h.presentTexture, h.size, h.isAnimated⟩
    simp only [h.textures]
  · split
    · exact .ok h
    · exact .error_left

theorem declareSampler (h : p.Alike q) (s : SamplerDecl) :
    Agree Plan.Alike (p.declareSampler s) (q.declareSampler s) := by
  unfold Plan.declareSampler Plan.sampler?
  rw [h.samplers]
  split
  · exact .ok ⟨h.textures, h.buffers, rfl, h.passes, h.params, h.sceneTexture, h.presentTexture, h.size, h.isAnimated⟩
  · split
    · exact .ok h
    · exact .error_left

theorem declareBuffer (h : p.Alike q) {b b' : BufferDecl} (hb : b.Alike b') :
    Agree Plan.Alike (p.declareBuffer b) (q.declareBuffer b') := by
  unfold Plan.declareBuffer Plan.buffer?
  rw [hb.name]
  have hfound := find?_rel (p := fun x => x.name == b'.name) (q := fun x => x.name == b'.name) h.buffers
    fun x y hxy => by rw [hxy.name]
  generalize (p.buffers.find? fun x => x.name == b'.name) = old? at hfound
  generalize (q.buffers.find? fun x => x.name == b'.name) = old?' at hfound
  cases hfound with
  | none =>
    exact .ok ⟨h.textures, forall₂_append h.buffers (.cons hb .nil), h.samplers, h.passes, h.params, h.sceneTexture,
      h.presentTexture, h.size, h.isAnimated⟩
  | some hold =>
    intro p' q' hp hq
    dsimp only at hp hq
    split at hp
    · split at hq
      · cases hp
        cases hq
        exact h
      · cases hq
    · cases hp

end Plan.Alike

/-! ## Steps of planning -/

/-- Two states of planning that differ in the contents of slots and buffers only. -/
structure PlanState.Alike (st st' : PlanState) : Prop where
  session : st.session.Alike st'.session
  plan : st.plan.Alike st'.plan
  written : st.written = st'.written
  drawn : st.drawn = st'.drawn
  copied : st.copied = st'.copied

/-- Two computations that plan the same passes. -/
abbrev PlanM.Same {α : Type} (x y : PlanM α) : Prop := Lockstep PlanState.Alike Eq x y

namespace PlanM.Same

variable {α β : Type}

theorem pure (a : α) : PlanM.Same (Pure.pure a) (Pure.pure a) := Lockstep.pure rfl

theorem bind {x y : PlanM α} {f g : α → PlanM β} (hxy : PlanM.Same x y) (hfg : ∀ a, PlanM.Same (f a) (g a)) :
    PlanM.Same (x >>= f) (y >>= g) :=
  Lockstep.bind hxy fun a _ hab => hab ▸ hfg a

theorem ofSession {x y : SessionM α} (h : SessionM.Same x y) : PlanM.Same (PlanM.ofSession x) (PlanM.ofSession y) := by
  intro st st' a b u u' hst hx hy
  obtain ⟨s, hs, rfl⟩ := (PlanM.yields_ofSession _ _ _ _).1 hx
  obtain ⟨s', hs', rfl⟩ := (PlanM.yields_ofSession _ _ _ _).1 hy
  obtain ⟨hab, hsession⟩ := h _ _ _ _ _ _ hst.session hs hs'
  exact ⟨hab, hsession, hst.plan, hst.written, hst.drawn, hst.copied⟩

theorem ofExpr (r : Except ExprError α) : PlanM.Same (PlanM.ofExpr r) (PlanM.ofExpr r) :=
  Lockstep.result (.of_eq rfl)

theorem declare {f g : Plan → Except ResourceConflict Plan} (h : ∀ p q, p.Alike q → Agree Plan.Alike (f p) (g q)) :
    PlanM.Same (PlanM.declare f) (PlanM.declare g) := by
  intro st st' _ _ u u' hst hx hy
  obtain ⟨p, hp, rfl⟩ := (PlanM.yields_declare _ _ _ _).1 hx
  obtain ⟨q, hq, rfl⟩ := (PlanM.yields_declare _ _ _ _).1 hy
  exact ⟨rfl, hst.session, h _ _ hst.plan p q hp hq, hst.written, hst.drawn, hst.copied⟩

theorem declareTexture (t : TextureDecl) :
    PlanM.Same (PlanM.declare fun p => p.declareTexture t) (PlanM.declare fun p => p.declareTexture t) :=
  declare fun _ _ hpq => hpq.declareTexture t

theorem declareSampler (s : SamplerDecl) :
    PlanM.Same (PlanM.declare fun p => p.declareSampler s) (PlanM.declare fun p => p.declareSampler s) :=
  declare fun _ _ hpq => hpq.declareSampler s

theorem declareBuffer {b b' : BufferDecl} (hb : b.Alike b') :
    PlanM.Same (PlanM.declare fun p => p.declareBuffer b) (PlanM.declare fun p => p.declareBuffer b') :=
  declare fun _ _ hpq => hpq.declareBuffer hb

theorem report (e e' : LogEntry) : PlanM.Same (PlanM.report e) (PlanM.report e') :=
  Lockstep.modify fun _ _ h => ⟨h.session.report e e', h.plan, h.written, h.drawn, h.copied⟩

theorem addPass (ps : Pass) : PlanM.Same (PlanM.addPass ps) (PlanM.addPass ps) := by
  unfold PlanM.addPass
  refine Lockstep.bind Lockstep.get fun st st' hst => ?_
  rw [hst.plan.texture?]
  split
  · exact Lockstep.throw_left
  · rename_i t _
    have hload : PlanM.loadOf st t = PlanM.loadOf st' t := by
      unfold PlanM.loadOf
      rw [hst.written]
    refine Lockstep.ite Iff.rfl Lockstep.throw_bind ?_
    rw [hload, hst.written, hst.plan.passes, hst.plan.isAnimated]
    refine Same.bind (Lockstep.set ?_) fun _ => report _ _
    exact ⟨hst.session, ⟨hst.plan.textures, hst.plan.buffers, hst.plan.samplers, rfl, hst.plan.params,
      hst.plan.sceneTexture, hst.plan.presentTexture, hst.plan.size, rfl⟩, rfl, hst.drawn, hst.copied⟩

end PlanM.Same

/-! ## Uploaded textures and bindings -/

/-- What planning two scenes one edit apart works on. -/
structure PlanContext.Edited (c c' : PlanContext) : Prop where
  prepared : c.prepared.Edited c'.prepared
  routes : c.routes.Alike c'.routes
  registry : c.registry = c'.registry
  environment : c.environment = c'.environment

open PlanM

theorem BufferDecl.Alike.refl (b : BufferDecl) : b.Alike b := ⟨rfl, rfl, rfl, rfl⟩

theorem Blend.ofNode_edited {n m : Node} (h : n.Edited m) (default : String) :
    Blend.ofNode n default = Blend.ofNode m default := by
  unfold Blend.ofNode Blend.override Blend.factorOr Blend.operationOr
  simp only [h.stringOr, h.string?, h.id]

theorem Images.source?_edited {n m : Node} (h : n.Edited m) : Images.source? n = Images.source? m := by
  unfold Images.source?
  simp only [Images.nonEmpty?_edited h]

namespace PlanContext

variable {c c' : PlanContext} {n m : Node}

theorem upload_same (hc : c.Edited c') (hn : n.Edited m) (i : Image) : Same (c.upload n i) (c'.upload m i) := by
  unfold upload
  rw [hn.id, hc.prepared.nameOf]
  refine Same.bind (Same.declareBuffer (.refl _)) fun _ => ?_
  exact Same.bind (Same.declareTexture _) fun _ => Same.pure _

theorem textTexture_same (hc : c.Edited c') (hn : n.Edited m) : Same (c.textTexture n) (c'.textTexture m) := by
  obtain ⟨frozen, hbaked⟩ := hc.prepared.baked
  unfold textTexture
  rw [hn.id, hbaked.pixels?, hn.stringOr, hc.environment]
  split
  · exact upload_same hc hn _
  · split
    · exact upload_same hc hn _
    · exact Lockstep.throw_left

theorem imageTexture_same (hc : c.Edited c') (hn : n.Edited m) : Same (c.imageTexture n) (c'.imageTexture m) := by
  unfold imageTexture
  rw [Images.source?_edited hn, imageBytes?_congr hc.environment, decodeImage_congr hc.environment]
  dsimp only
  split
  · exact Same.bind (Same.report _ _) fun _ => upload_same hc hn _
  · split
    · exact upload_same hc hn _
    · exact Lockstep.throw_left
    · exact Lockstep.throw_left

theorem sourceTexture_same (hc : c.Edited c') (id : String) : Same (c.sourceTexture id) (c'.sourceTexture id) := by
  unfold sourceTexture
  rw [hc.routes.textures]
  split
  · exact Same.pure _
  · have hn := hc.prepared.node? id
    generalize c.prepared.node? id = n? at hn
    generalize c'.prepared.node? id = m? at hn
    cases hn with
    | none => exact Lockstep.throw_left
    | some hn =>
      simp only [hn.type]
      split
      · exact imageTexture_same hc hn
      · exact textTexture_same hc hn
      · exact Lockstep.throw_left

theorem exprs_edited (hc : c.Edited c') : c.exprs.inputs.Edited c'.exprs.inputs :=
  ExprContext.inputs_edited hc.prepared hc.registry (congrArg Environment.accepts hc.environment)

theorem wiredTexture_same (hc : c.Edited c') (hn : n.Edited m) : Same (c.wiredTexture n) (c'.wiredTexture m) := by
  unfold wiredTexture
  refine Same.bind (Same.ofSession ((exprs_edited hc).require hn _)) fun e => ?_
  exact Lockstep.ite Iff.rfl Lockstep.throw_bind (sourceTexture_same hc e.source)

theorem bindingsFrom_same (hc : c.Edited c') (i : Nat) (keys : List String) :
    Same (c.bindingsFrom i keys) (c'.bindingsFrom i keys) := by
  induction keys generalizing i with
  | nil => exact Same.pure _
  | cons key rest ih =>
    unfold bindingsFrom
    refine Lockstep.bind Lockstep.get fun st st' hst => ?_
    have hfound : st.session.binding? key = st'.session.binding? key := by
      unfold Session.binding?
      rw [hst.session.bindings]
    rw [hfound]
    split
    · exact ih (i + 1)
    · refine Same.bind (sourceTexture_same hc _) fun texture => Same.bind (Same.declareSampler _) fun _ => ?_
      exact Same.bind (ih (i + 1)) fun more => Same.pure _

/-! ## Draw passes -/

theorem drawColor_same (hc : c.Edited c') (hn : n.Edited m) : SessionM.Same (c.drawColor n) (c'.drawColor m) := by
  unfold drawColor
  refine SessionM.Same.bind ((exprs_edited hc).input? hn _) fun e? => ?_
  cases e? with
  | none => exact SessionM.Same.pure _
  | some e => exact e.convert_same hn "color" .vec4

theorem drawTransform_same (hc : c.Edited c') (hn : n.Edited m) :
    SessionM.Same (c.drawTransform n) (c'.drawTransform m) := by
  unfold drawTransform
  refine SessionM.Same.bind ((exprs_edited hc).input? hn _) fun e? => ?_
  cases e? with
  | none =>
    have hfloats := hn.floats? "transform"
    rw [hn.id]
    generalize n.floats? "transform" = xs? at hfloats
    generalize m.floats? "transform" = ys? at hfloats
    cases hfloats with
    | none => exact SessionM.Same.pure _
    | some hlen => exact Lockstep.ite (by rw [hlen]) (SessionM.constant_same _ _ hlen _) Lockstep.throw_left
  | some e =>
    refine SessionM.Same.bind (e.convert_same hn "transform" .mat4) fun t => ?_
    exact Lockstep.ite Iff.rfl Lockstep.throw_bind (SessionM.Same.pure _)

theorem isFullscreen_alike {g g' : Geometry} (hg : g.Alike g') : g.isFullscreen = g'.isFullscreen := by
  unfold Geometry.isFullscreen
  rw [Bool.eq_iff_iff, List.isEmpty_iff_length_eq_zero, List.isEmpty_iff_length_eq_zero, hg.vertices]

theorem instances_isEmpty {g g' : Geometry} (hg : g.Alike g') : g.instances.isEmpty = g'.instances.isEmpty := by
  rw [Bool.eq_iff_iff, List.isEmpty_iff_length_eq_zero, List.isEmpty_iff_length_eq_zero, hg.instances]

theorem withGeometry_same (hc : c.Edited c') {g g' : Geometry} (hg : g.Alike g') (ps : Pass) :
    Same (c.withGeometry g ps) (c'.withGeometry g' ps) := by
  have hcount : g.instanceCount = g'.instanceCount := by
    unfold Geometry.instanceCount
    rw [hg.instances]
  unfold withGeometry
  rw [isFullscreen_alike hg, instances_isEmpty hg, hg.source, hc.prepared.nameOf, hg.vertices, hcount]
  refine Lockstep.ite Iff.rfl (Same.pure _) ?_
  have hvertices : ∀ ps : List Vertex, (ps.flatMap Vertex.toList).length = 4 * ps.length :=
    fun ps => length_flatMap_of_forall _ _ 4 fun _ _ => rfl
  have hoffsets : ∀ os : List Offset, (os.flatMap Offset.toList).length = 2 * os.length :=
    fun os => length_flatMap_of_forall _ _ 2 fun _ _ => rfl
  refine Same.bind (Same.declareBuffer ⟨rfl, rfl, rfl, ?_⟩) fun _ => ?_
  · simp only [ofFloats_size, hvertices, hg.vertices]
  · refine Lockstep.ite Iff.rfl (Same.pure _) ?_
    refine Same.bind (Same.declareBuffer ⟨rfl, rfl, rfl, ?_⟩) fun _ => Same.pure _
    simp only [ofFloats_size, hoffsets, hg.instances]

theorem renderPass_same (hc : c.Edited c') (hn : n.Edited m) {r r' : Route} (hr : r.Alike r') :
    Same (c.renderPass n r) (c'.renderPass m r') := by
  have hvertex : vertexProgram r.geometry = vertexProgram r'.geometry := by
    funext transform
    unfold vertexProgram
    rw [isFullscreen_alike hr.geometry, instances_isEmpty hr.geometry]
  unfold renderPass
  rw [Blend.ofNode_edited hn, hn.id, hr.domain, hvertex]
  refine Same.bind (Same.ofSession (drawColor_same hc hn)) fun color => ?_
  refine Same.bind (Same.ofSession (drawTransform_same hc hn)) fun transform => ?_
  refine Same.bind (Same.ofExpr _) fun blend => Same.bind (bindingsFrom_same hc 0 _) fun bindings => ?_
  refine Same.bind (withGeometry_same hc hr.geometry _) fun ps => ?_
  refine Lockstep.bind Lockstep.get fun st st' hst => ?_
  have hhelpers : st.session.helpersNamed = st'.session.helpersNamed := by
    funext names
    unfold Session.helpersNamed
    rw [hst.session.helpers]
  rw [hhelpers]
  exact Same.addPass _

/-! ## Effect passes -/

theorem effect_same (e : Effect) : Same e.plan e.plan := by
  have hsamplers : ∀ inputs, Same (Effect.declareSamplers inputs) (Effect.declareSamplers inputs) := by
    intro inputs
    induction inputs with
    | nil => exact Same.pure _
    | cons i rest ih => exact Same.bind (Same.declareSampler _) fun _ => ih
  exact Same.bind (hsamplers _) fun _ => Same.addPass _

theorem blit_same (hc : c.Edited c') (hn : n.Edited m) {r r' : Route} (hr : r.Alike r') :
    Same (c.blit n r) (c'.blit m r') := by
  unfold blit
  rw [Blend.ofNode_edited hn, hn.id, CompileNode.samplerKind_edited hn, hr.domain]
  exact Same.bind (wiredTexture_same hc hn) fun source => Same.bind (Same.ofExpr _) fun blend => effect_same _

theorem scratch_same (hn : n.Edited m) {r r' : Route} (hr : r.Alike r') (name : String) (divisor : Int) :
    Same (scratch n name r divisor) (scratch m name r' divisor) := by
  unfold scratch
  rw [hr.domain, hn.id]
  split
  · exact Lockstep.throw_left
  · exact Same.declareTexture _

theorem stage_edited (hn : n.Edited m) : stage n = stage m := by
  funext kind label source target body blend
  unfold stage
  rw [hn.id]

theorem blurRounds_same (hn : n.Edited m) (first second : String) (radius : Code) (rounds i : Nat) (source : String) :
    Same (blurRounds n first second radius rounds i source) (blurRounds m first second radius rounds i source) := by
  induction rounds generalizing i source with
  | zero => exact Same.pure _
  | succ rounds ih =>
    unfold blurRounds
    rw [stage_edited hn]
    exact Same.bind (effect_same _) fun _ => Same.bind (effect_same _) fun _ => ih _ _

theorem blur_same (hc : c.Edited c') (hn : n.Edited m) {r r' : Route} (hr : r.Alike r') :
    Same (c.blur n r) (c'.blur m r') := by
  have hint : ∀ key, key ∉ Node.constantNames → ∀ d, n.intOr key d = m.intOr key d :=
    fun key hkey => hn.intOr (Node.notMem_constantKeys hkey _)
  unfold blur
  rw [Blend.ofNode_edited hn, hint "iterations" (by decide), hint "downscale" (by decide), hn.id, hc.prepared.nameOf,
    stage_edited hn, hr.domain]
  refine Same.bind (wiredTexture_same hc hn) fun source => Same.bind (Same.ofExpr _) fun blend => ?_
  refine Same.bind (Same.ofSession (SessionM.constant_same _ _ (by simp) _)) fun radius => ?_
  refine Same.bind (scratch_same hn hr _ _) fun _ => Same.bind (scratch_same hn hr _ _) fun _ => ?_
  exact Same.bind (blurRounds_same hn _ _ _ _ _ _) fun _ => effect_same _

theorem planAll_same (es : List Effect) : Same (planAll es) (planAll es) := by
  induction es with
  | nil => exact Same.pure _
  | cons e rest ih => exact Same.bind (effect_same e) fun _ => ih

theorem bloomLevels_same (hn : n.Edited m) {r r' : Route} (hr : r.Alike r') (name : String) (levels : List Nat) :
    Same (bloomLevels n name r levels) (bloomLevels m name r' levels) := by
  induction levels with
  | nil => exact Same.pure _
  | cons i rest ih => exact Same.bind (scratch_same hn hr _ _) fun _ => ih

theorem bloom_same (hc : c.Edited c') (hn : n.Edited m) {r r' : Route} (hr : r.Alike r') :
    Same (c.bloom n r) (c'.bloom m r') := by
  have hlevels : n.intOr "levels" 4 = m.intOr "levels" 4 := hn.intOr (Node.notMem_constantKeys (by decide) _) 4
  unfold bloom
  rw [Blend.ofNode_edited hn, hlevels, hn.id, hc.prepared.nameOf, stage_edited hn, hr.domain]
  refine Same.bind (wiredTexture_same hc hn) fun source => Same.bind (Same.ofExpr _) fun blend => ?_
  refine Same.bind (Same.ofSession (SessionM.constant_same _ _ (by simp) _)) fun threshold => ?_
  refine Same.bind (Same.ofSession (SessionM.constant_same _ _ (by simp) _)) fun intensity => ?_
  refine Same.bind (bloomLevels_same hn hr _ _) fun _ => Same.bind (effect_same _) fun _ => ?_
  exact Same.bind (planAll_same _) fun _ => Same.bind (planAll_same _) fun _ => effect_same _

/-! ## Nodes -/

theorem markDrawn_same (id : String) : Same (markDrawn id) (markDrawn id) := by
  unfold markDrawn
  refine Lockstep.bind Lockstep.get fun st st' hst => ?_
  rw [hst.drawn]
  refine Lockstep.ite Iff.rfl (Same.pure _) (Same.bind (Lockstep.set ?_) fun _ => Same.pure _)
  exact ⟨hst.session, hst.plan, hst.written, rfl, hst.copied⟩

theorem route?_alike (hc : c.Edited c') (id : String) :
    Option.Rel Route.Alike (c.routes.route? id) (c'.routes.route? id) :=
  hc.routes.byNode.get? id

theorem routeOf_alike (hc : c.Edited c') (id : String) :
    Lockstep PlanState.Alike Route.Alike (c.routeOf id) (c'.routeOf id) := by
  unfold routeOf
  have hr := route?_alike hc id
  generalize c.routes.route? id = r? at hr
  generalize c'.routes.route? id = r?' at hr
  cases hr with
  | none => exact Lockstep.throw_left
  | some hr => exact Lockstep.pure hr

theorem draw_same (hc : c.Edited c') (hn : n.Edited m) : Same (c.draw n) (c'.draw m) := by
  unfold draw
  rw [hn.id]
  refine Same.bind (markDrawn_same _) fun isDrawn => Lockstep.ite Iff.rfl (Same.pure _) ?_
  refine Lockstep.bind (routeOf_alike hc _) fun r r' hr => ?_
  rw [hn.type]
  split
  · exact renderPass_same hc hn hr
  · exact blit_same hc hn hr
  · exact blur_same hc hn hr
  · exact bloom_same hc hn hr
  · exact Lockstep.throw_left

theorem isNested_edited (hc : c.Edited c') (id : String) : c.isNested id = c'.isNested id := by
  unfold isNested
  have hr := route?_alike hc id
  generalize c.routes.route? id = r? at hr
  generalize c'.routes.route? id = r?' at hr
  cases hr with
  | none => rfl
  | some hr =>
    simp only [hc.prepared.compositesOf, hr.domain]
    congr 1
    funext parent
    have hq := route?_alike hc parent
    generalize c.routes.route? parent = q? at hq
    generalize c'.routes.route? parent = q?' at hq
    cases hq with
    | none => rfl
    | some hq => simp only [hq.domain]

theorem compose_same (layer : String) (source : Domain) (hn : n.Edited m) (target : Domain) :
    Same (compose layer source n target) (compose layer source m target) := by
  unfold compose
  refine Lockstep.bind Lockstep.get fun st st' hst => ?_
  rw [hst.copied, Blend.ofNode_edited hn, hn.id]
  refine Lockstep.ite Iff.rfl (Same.report _ _) (Same.bind (Lockstep.set ?_) fun _ => ?_)
  · exact ⟨hst.session, hst.plan, hst.written, hst.drawn, rfl⟩
  · exact Same.bind (Same.ofExpr _) fun blend => effect_same _

theorem layer_same (hc : c.Edited c') {inner inner' : Node → PlanM Unit}
    (hinner : ∀ k k', k.Edited k' → Same (inner k) (inner' k')) (hn : n.Edited m) {r r' : Route} (hr : r.Alike r')
    (l : Layer) : Same (c.layer inner n r l) (c'.layer inner' m r' l) := by
  unfold layer
  have hnode := hc.prepared.node? l.node
  have hroute := route?_alike hc l.node
  generalize c.prepared.node? l.node = n? at hnode
  generalize c'.prepared.node? l.node = m? at hnode
  generalize c.routes.route? l.node = r? at hroute
  generalize c'.routes.route? l.node = r?' at hroute
  cases hnode with
  | none => exact Same.pure _
  | some hln =>
    cases hroute with
    | none => exact Same.pure _
    | some hlr =>
      simp only [hlr.domain, hr.domain, hln.type, hlr.isExplicit, hln.id]
      refine Lockstep.ite Iff.rfl ?_ (compose_same _ _ hn _)
      refine Lockstep.ite Iff.rfl (hinner _ _ hln) (Lockstep.ite Iff.rfl (draw_same hc hln) (Same.pure _))

theorem layers_same (hc : c.Edited c') {inner inner' : Node → PlanM Unit}
    (hinner : ∀ k k', k.Edited k' → Same (inner k) (inner' k')) (hn : n.Edited m) {r r' : Route} (hr : r.Alike r')
    (ls : List Layer) : Same (c.layers inner n r ls) (c'.layers inner' m r' ls) := by
  induction ls with
  | nil => exact Same.pure _
  | cons l rest ih => exact Same.bind (layer_same hc hinner hn hr l) fun _ => ih

theorem compositeWithin_same (hc : c.Edited c') (depth : Nat) (hn : n.Edited m) :
    Same (c.compositeWithin depth n) (c'.compositeWithin depth m) := by
  induction depth generalizing n m with
  | zero => exact Same.pure _
  | succ depth ih =>
    unfold compositeWithin
    rw [hn.id]
    refine Same.bind (markDrawn_same _) fun isDrawn => Lockstep.ite Iff.rfl (Same.pure _) ?_
    refine Lockstep.bind (routeOf_alike hc _) fun r r' hr => ?_
    rw [hr.layers]
    exact layers_same hc (fun _ _ hk => ih hk) hn hr _

theorem clearUnwritten_same (hc : c.Edited c') (hn : n.Edited m) : Same (c.clearUnwritten n) (c'.clearUnwritten m) := by
  unfold clearUnwritten
  rw [hc.routes.textures, hn.id]
  refine Lockstep.bind Lockstep.get fun st st' hst => ?_
  rw [hst.written]
  exact Lockstep.ite Iff.rfl (Same.pure _) (Same.addPass _)

theorem node_same (hc : c.Edited c') (hn : n.Edited m) : Same (c.node n) (c'.node m) := by
  unfold node composite
  rw [hn.type, hn.id, isNested_edited hc, hc.prepared.scene.nodes.length_eq]
  refine Lockstep.ite Iff.rfl (Lockstep.ite Iff.rfl (Same.pure _) (compositeWithin_same hc _ hn)) ?_
  refine Lockstep.ite Iff.rfl ?_ (Lockstep.ite Iff.rfl (clearUnwritten_same hc hn) (Same.pure _))
  have hr := route?_alike hc m.id
  generalize c.routes.route? m.id = r? at hr
  generalize c'.routes.route? m.id = r?' at hr
  cases hr with
  | none => exact Same.pure _
  | some hr => exact Lockstep.ite (by rw [hr.isExplicit]) (draw_same hc hn) (Same.pure _)

/-! ## The whole plan -/

theorem clearColor_edited (hn : n.Edited m) : clearColor n = clearColor m := by
  have hfloats : n.floats? "clearColor" = m.floats? "clearColor" := by
    unfold Node.floats?
    rw [hn.param_eq (Node.notMem_constantKeys (by decide) _)]
  unfold clearColor
  rw [hfloats, hn.type]

theorem declareTargets_same (hc : c.Edited c') (ids : List String) :
    Same (c.declareTargets ids) (c'.declareTargets ids) := by
  induction ids with
  | nil => exact Same.pure _
  | cons id rest ih =>
    unfold declareTargets
    rw [hc.routes.textures]
    have hn := hc.prepared.node? id
    generalize c.prepared.node? id = n? at hn
    generalize c'.prepared.node? id = m? at hn
    cases c'.routes.textures.get? id with
    | none => exact ih
    | some d =>
      cases hn with
      | none => exact ih
      | some hn =>
        refine Same.bind ?_ fun _ => ih
        unfold declareTarget
        rw [clearColor_edited hn, hn.id]
        split
        · exact Lockstep.throw_left
        · exact Same.declareTexture _

theorem nodes_same (hc : c.Edited c') (ids : List String) : Same (c.nodes ids) (c'.nodes ids) := by
  induction ids with
  | nil => exact Same.pure _
  | cons id rest ih =>
    unfold nodes
    have hn := hc.prepared.node? id
    generalize c.prepared.node? id = n? at hn
    generalize c'.prepared.node? id = m? at hn
    cases hn with
    | none => exact ih
    | some hn => exact Same.bind (node_same hc hn) fun _ => ih

theorem present_same (hc : c.Edited c') : Same c.present c'.present := by
  unfold present
  rw [hc.prepared.output]
  refine Lockstep.ite Iff.rfl (Same.pure _) ?_
  refine Same.bind (Same.declareTexture _) fun _ =>
    Same.bind (Lockstep.modify fun st st' hst => ?_) fun _ => effect_same _
  exact ⟨hst.session, ⟨hst.plan.textures, hst.plan.buffers, hst.plan.samplers, hst.plan.passes, hst.plan.params,
    hst.plan.sceneTexture, rfl, hst.plan.size, hst.plan.isAnimated⟩, hst.written, hst.drawn, hst.copied⟩

theorem length_paramsOf (params : List Float32) : (paramsOf params).length = params.length + (4 - params.length) := by
  unfold paramsOf
  simp only [List.length_append, List.length_replicate]

theorem declareParams_same : Same declareParams declareParams := by
  unfold declareParams
  refine Lockstep.bind Lockstep.get fun st st' hst => ?_
  have hlen : (paramsOf st.session.params).length = (paramsOf st'.session.params).length := by
    rw [length_paramsOf, length_paramsOf, hst.session.params]
  refine Same.bind (Lockstep.set ?_) fun _ => Same.declareBuffer ⟨rfl, rfl, rfl, ?_⟩
  · exact ⟨hst.session, ⟨hst.plan.textures, hst.plan.buffers, hst.plan.samplers, hst.plan.passes, hlen,
      hst.plan.sceneTexture, hst.plan.presentTexture, hst.plan.size, hst.plan.isAnimated⟩, hst.written, hst.drawn,
      hst.copied⟩
  · simp only [ofFloats_size, hlen]

theorem build_same (hc : c.Edited c') {plan plan' : Plan} (h : c.build.outcome.1 = .ok plan)
    (h' : c'.build.outcome.1 = .ok plan') : plan.Alike plan' := by
  obtain ⟨st, hrun, rfl⟩ := (build_eq_ok c plan).1 h
  obtain ⟨st', hrun', rfl⟩ := (build_eq_ok c' plan').1 h'
  have hempty : c.emptyPlan = c'.emptyPlan := by
    unfold emptyPlan
    rw [hc.prepared.output]
  have hsame : Same c.buildAll c'.buildAll := by
    unfold buildAll
    rw [hc.prepared.order]
    refine Same.bind (declareTargets_same hc _) fun _ => Same.bind (nodes_same hc _) fun _ => ?_
    refine Same.bind (present_same hc) fun _ => Same.bind declareParams_same fun _ => ?_
    exact Lockstep.bind Lockstep.get fun _ _ _ => Same.report _ _
  have hstart : PlanState.Alike { plan := c.emptyPlan } { plan := c'.emptyPlan } := by
    rw [hempty]
    exact ⟨⟨rfl, rfl, rfl, rfl, rfl, rfl⟩, ⟨rfl, .nil, rfl, rfl, rfl, rfl, rfl, rfl, rfl⟩, rfl, rfl, rfl⟩
  exact (hsame _ _ _ _ _ _ hstart hrun hrun').2.plan

end PlanContext

end SceneGraph
