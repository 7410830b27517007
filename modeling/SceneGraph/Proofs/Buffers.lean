import SceneGraph.Proofs.Built

/-!
# Buffers of plans

Every buffer of a plan is there for something: a texture is filled from it, a pass draws its vertices or
instances, or it holds the constants.

* `Plan.Uses`: a texture or a pass takes the contents of a buffer.
* `PlanM.Extending`: a step of planning that adds used buffers only.
* `PlanContext.build_accounted`: every buffer of a plan is used or holds the constants.
-/
set_option autoImplicit false

namespace SceneGraph

/-! ## Used buffers -/

/-- A texture or a pass of the plan takes the contents of the buffer. -/
inductive Plan.Uses (plan : Plan) (b : BufferDecl) : Prop where
  | pixels (t : TextureDecl) (ht : t ∈ plan.textures) (hname : t.upload = b.name) (hkind : b.kind = .pixels)
  | vertices (ps : Pass) (hps : ps ∈ plan.passes) (hname : ps.vertexBuffer = b.name) (hkind : b.kind = .vertex)
  | instances (ps : Pass) (hps : ps ∈ plan.passes) (hname : ps.instanceBuffer = b.name) (hkind : b.kind = .instances)

/-- The textures and passes of a plan are the first ones of another, in which further buffers are used. -/
structure Plan.Extends (p q : Plan) : Prop where
  textures : p.textures <+: q.textures
  passes : p.passes <+: q.passes
  buffers : ∀ b ∈ q.buffers, b ∈ p.buffers ∨ b.name ≠ "" ∧ q.Uses b

namespace Plan

variable {p q r : Plan} {b : BufferDecl}

theorem Uses.mono (h : p.Uses b) (htextures : p.textures <+: q.textures) (hpasses : p.passes <+: q.passes) :
    q.Uses b := by
  cases h with
  | pixels t ht hname hkind => exact .pixels t (htextures.subset ht) hname hkind
  | vertices ps hps hname hkind => exact .vertices ps (hpasses.subset hps) hname hkind
  | instances ps hps hname hkind => exact .instances ps (hpasses.subset hps) hname hkind

/-- The buffers of a plan are those that a texture or a pass uses and the one of the constants. -/
structure Accounted (plan : Plan) : Prop where
  uses : ∀ b ∈ plan.buffers, b.name ≠ "" ∧ plan.Uses b ∨ b.kind = .params ∧ b.data = Bytes.ofFloats plan.params
  params : ∃ b ∈ plan.buffers, b.name = paramsBufferName ∧ b.kind = .params ∧ b.data = Bytes.ofFloats plan.params

namespace Extends

theorem of_buffers (htextures : p.textures <+: q.textures) (hpasses : p.passes <+: q.passes)
    (hbuffers : q.buffers = p.buffers) : p.Extends q :=
  ⟨htextures, hpasses, fun _ hb => .inl (hbuffers ▸ hb)⟩

theorem refl (p : Plan) : p.Extends p := of_buffers List.prefix_rfl List.prefix_rfl rfl

theorem trans (h : p.Extends q) (h' : q.Extends r) : p.Extends r := by
  refine ⟨h.textures.trans h'.textures, h.passes.trans h'.passes, fun b hb => ?_⟩
  rcases h'.buffers b hb with hb | hb
  · rcases h.buffers b hb with hb | ⟨hne, huses⟩
    · exact .inl hb
    · exact .inr ⟨hne, huses.mono h'.textures h'.passes⟩
  · exact .inr hb

theorem of_declareBuffer (hp : p.declareBuffer b = .ok q) (hne : b.name ≠ "") (huses : r.Uses b) (h : q.Extends r) :
    p.Extends r := by
  rcases declareBuffer_eq_ok hp with ⟨_, _, _, rfl⟩ | ⟨_, rfl⟩
  · exact h
  · refine ⟨h.textures, h.passes, fun x hx => ?_⟩
    rcases h.buffers x hx with hx | hx
    · rcases List.mem_append.1 hx with hx | hx
      · exact .inl hx
      · obtain rfl := List.mem_singleton.1 hx
        exact .inr ⟨hne, huses⟩
    · exact .inr hx

end Extends

/-- Declaring the constants, where all other buffers are used, accounts for all of them. -/
theorem Accounted.of_params {stride : UInt32} (hused : ∀ b ∈ p.buffers, b.name ≠ "" ∧ p.Uses b)
    (h : p.declareBuffer
        { name := paramsBufferName, kind := .params, data := Bytes.ofFloats p.params, stride } = .ok q) :
    q.Accounted := by
  rcases declareBuffer_eq_ok h with ⟨old, hold, hsame, rfl⟩ | ⟨_, rfl⟩
  · have hname : old.name = paramsBufferName := by simpa using List.find?_some hold
    exact ⟨fun b hb => .inl (hused b hb), old, List.mem_of_find?_eq_some hold, hname, eq_of_sameBuffer hsame⟩
  · refine ⟨fun b hb => ?_, _, List.mem_append_right _ (List.mem_singleton_self _), rfl, rfl, rfl⟩
    rcases List.mem_append.1 hb with hb | hb
    · obtain ⟨hne, huses⟩ := hused b hb
      exact .inl ⟨hne, huses.mono List.prefix_rfl List.prefix_rfl⟩
    · obtain rfl := List.mem_singleton.1 hb
      exact .inr ⟨rfl, rfl⟩

end Plan

/-! ## Steps of planning -/

/-- A step of planning that adds used buffers only. -/
def PlanM.Extending {α : Type} (x : PlanM α) : Prop :=
  ∀ st a st', Yields x st a st' → st.plan.Extends st'.plan

namespace PlanM

variable {α β : Type}

namespace Extending

theorem of_plan {x : PlanM α} (h : ∀ st a st', Yields x st a st' → st'.plan = st.plan) : Extending x :=
  fun st a st' hx => h st a st' hx ▸ .refl _

theorem pure (a : α) : Extending (Pure.pure a) :=
  of_plan fun _ _ _ h => ((yields_pure _ _ _ _).1 h).2 ▸ rfl

theorem throw (e : PlanError) : Extending (throw e : PlanM α) :=
  fun _ _ _ h => absurd h (yields_throw _ _ _ _)

theorem bind {x : PlanM α} {f : α → PlanM β} (hx : Extending x) (hf : ∀ a, Extending (f a)) : Extending (x >>= f) := by
  intro st b st' h
  obtain ⟨a, mid, ha, hb⟩ := (yields_bind _ _ _ _ _).1 h
  exact (hx _ _ _ ha).trans (hf a _ _ _ hb)

theorem ite {p : Prop} [Decidable p] {x y : PlanM α} (hx : Extending x) (hy : Extending y) :
    Extending (if p then x else y) := by
  split
  · exact hx
  · exact hy

theorem get : Extending get :=
  of_plan fun _ _ _ h => ((yields_get _ _ _).1 h).2 ▸ rfl

theorem ofSession (x : SessionM α) : Extending (PlanM.ofSession x) :=
  of_plan fun st a st' h => by
    obtain ⟨_, _, rfl⟩ := (yields_ofSession _ _ _ _).1 h
    rfl

theorem ofExpr (r : Except ExprError α) : Extending (PlanM.ofExpr r) :=
  of_plan fun _ _ _ h => ((yields_ofExpr _ _ _ _).1 h).2 ▸ rfl

theorem report (e : LogEntry) : Extending (PlanM.report e) :=
  of_plan fun _ _ _ h => (yields_report _ _ _ _).1 h ▸ rfl

theorem declareTexture (t : TextureDecl) : Extending (PlanM.declare fun p => p.declareTexture t) := by
  intro st _ st' h
  obtain ⟨p, hp, rfl⟩ := (yields_declare _ _ _ _).1 h
  rcases Plan.declareTexture_eq_ok hp with ⟨_, _, _, rfl⟩ | ⟨_, rfl⟩
  · exact .refl _
  · exact .of_buffers (List.prefix_append _ _) List.prefix_rfl rfl

theorem declareSampler (s : SamplerDecl) : Extending (PlanM.declare fun p => p.declareSampler s) := by
  intro st _ st' h
  obtain ⟨p, hp, rfl⟩ := (yields_declare _ _ _ _).1 h
  rcases Plan.declareSampler_eq_ok hp with ⟨_, rfl⟩ | ⟨_, rfl⟩
  · exact .refl _
  · exact .of_buffers List.prefix_rfl List.prefix_rfl rfl

end Extending

/-- An added pass draws from the buffers that were asked for. -/
theorem addPass_extends {ps : Pass} {u : Unit} {st st' : PlanState} (h : Yields (addPass ps) st u st') :
    st.plan.Extends st'.plan ∧
      ∃ q ∈ st'.plan.passes, q.vertexBuffer = ps.vertexBuffer ∧ q.instanceBuffer = ps.instanceBuffer := by
  unfold addPass at h
  simp only [yields_bind, yields_get] at h
  obtain ⟨_, _, ⟨rfl, rfl⟩, h⟩ := h
  split at h
  · exact absurd h (yields_throw _ _ _ _)
  · simp only [yields_ite, yields_bind, yields_throw, false_and, exists_false, and_false, false_or, yields_set,
      PlanM.yields_debug] at h
    obtain ⟨_, _, _, rfl, rfl⟩ := h
    exact ⟨.of_buffers List.prefix_rfl (List.prefix_append _ _) rfl, _,
      List.mem_append_right _ (List.mem_singleton_self _), rfl, rfl⟩

theorem Extending.addPass (ps : Pass) : Extending (addPass ps) := fun _ _ _ h => (addPass_extends h).1

end PlanM

open PlanM

namespace Effect

theorem declareSamplers_extending (inputs : List EffectInput) : Extending (declareSamplers inputs) := by
  induction inputs with
  | nil => exact .pure _
  | cons i rest ih => exact .bind (.declareSampler _) fun _ => ih

theorem plan_extending (e : Effect) : Extending e.plan :=
  .bind (declareSamplers_extending _) fun _ => .addPass _

end Effect

namespace PlanContext

variable (c : PlanContext) (n : Node)

theorem upload_extending (i : Image) : Extending (c.upload n i) := by
  intro st name st' h
  unfold upload at h
  simp only [yields_bind, yields_pure] at h
  obtain ⟨_, st₁, hbuffer, _, st₂, htexture, _, rfl⟩ := h
  have hextends := Extending.declareTexture _ _ _ _ htexture
  obtain ⟨p, hp, rfl⟩ := (yields_declare _ _ _ _).1 hbuffer
  obtain ⟨q, hq, rfl⟩ := (yields_declare _ _ _ _).1 htexture
  obtain ⟨_, _, t, ht, _, _, hupload⟩ := Plan.declareTexture_texture? hq
  exact .of_declareBuffer hp (append_ne_empty _ _ (by decide))
    (.pixels t (List.mem_of_find?_eq_some ht) hupload rfl) hextends

theorem sourceTexture_extending (id : String) : Extending (c.sourceTexture id) := by
  have himage : ∀ n, Extending (c.imageTexture n) := by
    intro n
    unfold imageTexture
    dsimp only
    split
    · exact .bind (.report _) fun _ => c.upload_extending n _
    · split
      · exact c.upload_extending n _
      · exact .throw _
      · exact .throw _
  have htext : ∀ n, Extending (c.textTexture n) := by
    intro n
    unfold textTexture
    split
    · exact c.upload_extending n _
    · split
      · exact c.upload_extending n _
      · exact .throw _
  unfold sourceTexture
  split
  · exact .pure _
  · split
    · exact .throw _
    · split
      · exact himage _
      · exact htext _
      · exact .throw _

theorem wiredTexture_extending : Extending (c.wiredTexture n) := by
  refine .bind (.ofSession _) fun e => .ite (.bind (.throw _) fun _ => ?_) (c.sourceTexture_extending _)
  exact c.sourceTexture_extending _

theorem bindingsFrom_extending (i : Nat) (keys : List String) : Extending (c.bindingsFrom i keys) := by
  induction keys generalizing i with
  | nil => exact .pure _
  | cons key rest ih =>
    unfold bindingsFrom
    refine .bind .get fun st => ?_
    split
    · exact ih _
    · refine .bind (c.sourceTexture_extending _) fun _ => .bind (.declareSampler _) fun _ => ?_
      exact .bind (ih _) fun _ => .pure _

/-- The buffers of a shape extend the plan once a pass draws from them. -/
theorem withGeometry_extends {g : Geometry} {ps ps' : Pass} {st st' : PlanState} {plan : Plan}
    (h : Yields (c.withGeometry g ps) st ps' st') (hplan : st'.plan.Extends plan)
    (hdrawn : ∃ q ∈ plan.passes, q.vertexBuffer = ps'.vertexBuffer ∧ q.instanceBuffer = ps'.instanceBuffer) :
    st.plan.Extends plan := by
  obtain ⟨q, hq, hvertex, hinstance⟩ := hdrawn
  unfold withGeometry at h
  simp only [yields_ite, yields_bind, yields_pure, yields_declare] at h
  rcases h with ⟨_, _, rfl⟩ | ⟨_, _, st₁, ⟨p₁, hp₁, rfl⟩, h⟩
  · exact hplan
  · rcases h with ⟨_, rfl, rfl⟩ | ⟨_, _, st₂, ⟨p₂, hp₂, rfl⟩, rfl, rfl⟩
    · exact .of_declareBuffer hp₁ (append_ne_empty _ _ (by decide)) (.vertices q hq hvertex rfl) hplan
    · have hinstances := Plan.Extends.of_declareBuffer hp₂ (append_ne_empty _ _ (by decide))
        (.instances q hq hinstance rfl) hplan
      exact .of_declareBuffer hp₁ (append_ne_empty _ _ (by decide)) (.vertices q hq hvertex rfl) hinstances

theorem renderPass_extending (r : Route) : Extending (c.renderPass n r) := by
  intro st u st' h
  unfold renderPass at h
  simp only [yields_bind, yields_ofSession, yields_ofExpr, yields_get] at h
  obtain ⟨_, _, ⟨_, _, rfl⟩, _, _, ⟨_, _, rfl⟩, _, _, ⟨_, rfl⟩, bindings, st₁, hbindings, ps, st₂, hgeometry, _, _,
    ⟨rfl, rfl⟩, hadd⟩ := h
  obtain ⟨hextends, q, hq, hvertex, hinstance⟩ := addPass_extends hadd
  have hshape := c.withGeometry_extends hgeometry hextends ⟨q, hq, hvertex, hinstance⟩
  exact (c.bindingsFrom_extending _ _ _ _ _ hbindings).trans hshape

theorem blit_extending (r : Route) : Extending (c.blit n r) :=
  .bind (c.wiredTexture_extending n) fun _ => .bind (.ofExpr _) fun _ => Effect.plan_extending _

theorem scratch_extending (name : String) (r : Route) (divisor : Int) : Extending (scratch n name r divisor) := by
  unfold scratch
  split
  · exact .throw _
  · exact .declareTexture _

theorem blurRounds_extending (first second : String) (radius : Code) (rounds i : Nat) (source : String) :
    Extending (blurRounds n first second radius rounds i source) := by
  induction rounds generalizing i source with
  | zero => exact .pure _
  | succ rounds ih => exact .bind (Effect.plan_extending _) fun _ => .bind (Effect.plan_extending _) fun _ => ih _ _

theorem blur_extending (r : Route) : Extending (c.blur n r) := by
  refine .bind (c.wiredTexture_extending n) fun _ => .bind (.ofExpr _) fun _ => .bind (.ofSession _) fun _ => ?_
  refine .bind (scratch_extending n _ _ _) fun _ => .bind (scratch_extending n _ _ _) fun _ => ?_
  exact .bind (blurRounds_extending n _ _ _ _ _ _) fun _ => Effect.plan_extending _

theorem planAll_extending (es : List Effect) : Extending (planAll es) := by
  induction es with
  | nil => exact .pure _
  | cons e rest ih => exact .bind (Effect.plan_extending e) fun _ => ih

theorem bloomLevels_extending (name : String) (r : Route) (levels : List Nat) :
    Extending (bloomLevels n name r levels) := by
  induction levels with
  | nil => exact .pure _
  | cons i rest ih => exact .bind (scratch_extending n _ _ _) fun _ => ih

theorem bloom_extending (r : Route) : Extending (c.bloom n r) := by
  refine .bind (c.wiredTexture_extending n) fun _ => .bind (.ofExpr _) fun _ => .bind (.ofSession _) fun _ => ?_
  refine .bind (.ofSession _) fun _ => .bind (bloomLevels_extending n _ _ _) fun _ => ?_
  refine .bind (Effect.plan_extending _) fun _ => .bind (planAll_extending _) fun _ => ?_
  exact .bind (planAll_extending _) fun _ => Effect.plan_extending _

/-! ## Turns of nodes -/

theorem markDrawn_extending (id : String) : Extending (markDrawn id) :=
  .of_plan fun st isDrawn st' h => by
    rcases (yields_markDrawn id isDrawn).1 h with ⟨_, _, rfl⟩ | ⟨_, _, rfl⟩ <;> rfl

theorem routeOf_extending (id : String) : Extending (c.routeOf id) :=
  .of_plan fun _ r _ h => ((yields_routeOf id r).1 h).2 ▸ rfl

theorem draw_extending : Extending (c.draw n) := by
  refine .bind (markDrawn_extending _) fun isDrawn => .ite (.pure _) (.bind (c.routeOf_extending _) fun r => ?_)
  split
  · exact c.renderPass_extending n r
  · exact c.blit_extending n r
  · exact c.blur_extending n r
  · exact c.bloom_extending n r
  · exact .throw _

theorem compose_extending (layer : String) (source target : Domain) : Extending (compose layer source n target) := by
  intro st u st' h
  unfold compose at h
  simp only [yields_bind, yields_get, yields_ite, yields_set, PlanM.yields_debug, yields_ofExpr] at h
  obtain ⟨_, _, ⟨rfl, rfl⟩, ⟨_, rfl⟩ | ⟨_, _, _, rfl, _, _, ⟨_, rfl⟩, hplan⟩⟩ := h
  · exact .refl _
  · have hextends := Effect.plan_extending _ _ _ _ hplan
    exact hextends

theorem layers_extending {inner : Node → PlanM Unit} (hinner : ∀ n, Extending (inner n)) (r : Route)
    (ls : List Layer) : Extending (c.layers inner n r ls) := by
  have hlayer : ∀ l, Extending (c.layer inner n r l) := by
    intro l
    unfold layer
    split
    · exact .ite (.ite (hinner _) (.ite (c.draw_extending _) (.pure _))) (compose_extending n _ _ _)
    · exact .pure _
  induction ls with
  | nil => exact .pure _
  | cons l rest ih => exact .bind (hlayer l) fun _ => ih

theorem compositeWithin_extending (depth : Nat) : ∀ n, Extending (c.compositeWithin depth n) := by
  induction depth with
  | zero => exact fun _ => .pure _
  | succ depth ih =>
    intro n
    refine .bind (markDrawn_extending _) fun isDrawn => .ite (.pure _) (.bind (c.routeOf_extending _) fun r => ?_)
    exact c.layers_extending n ih r _

theorem node_extending : Extending (c.node n) := by
  unfold node
  refine .ite (.ite (.pure _) (c.compositeWithin_extending _ n)) (.ite ?_ (.ite ?_ (.pure _)))
  · split
    · exact .ite (c.draw_extending n) (.pure _)
    · exact .pure _
  · exact .bind .get fun st => .ite (.pure _) (.addPass _)

theorem nodes_extending (ids : List String) : Extending (c.nodes ids) := by
  induction ids with
  | nil => exact .pure _
  | cons id rest ih =>
    unfold nodes
    cases c.prepared.node? id with
    | none => exact ih
    | some n => exact .bind (c.node_extending n) fun _ => ih

theorem declareTargets_extending (ids : List String) : Extending (c.declareTargets ids) := by
  induction ids with
  | nil => exact .pure _
  | cons id rest ih =>
    unfold declareTargets
    cases c.routes.textures.get? id with
    | none => exact ih
    | some d =>
      cases c.prepared.node? id with
      | none => exact ih
      | some n =>
        refine .bind ?_ fun _ => ih
        unfold declareTarget
        split
        · exact .throw _
        · exact .declareTexture _

theorem present_extending : Extending c.present := by
  refine .ite (.pure _) (.bind (.declareTexture _) fun _ => .bind ?_ fun _ => Effect.plan_extending _)
  intro st u st' h
  obtain rfl := (yields_modify _ _ _ _).1 h
  exact .of_buffers List.prefix_rfl List.prefix_rfl rfl

/-! ## Plans -/

/-- Every buffer of a plan is used or holds the constants. -/
theorem build_accounted {plan : Plan} (h : c.build.outcome.1 = .ok plan) : plan.Accounted := by
  obtain ⟨st, hrun, rfl⟩ := (build_eq_ok c plan).1 h
  unfold buildAll declareParams at hrun
  simp only [yields_bind, yields_get, yields_set, yields_declare, PlanM.yields_debug] at hrun
  obtain ⟨_, st₁, htargets, _, st₂, hnodes, _, st₃, hpresent, _, _, ⟨_, st, ⟨rfl, rfl⟩, _, _, rfl, plan, hplan, rfl⟩,
    _, _, ⟨rfl, rfl⟩, rfl⟩ := hrun
  have hextends := (c.declareTargets_extending _ _ _ _ htargets).trans
    ((c.nodes_extending _ _ _ _ hnodes).trans (c.present_extending _ _ _ hpresent))
  refine .of_params (fun b hb => ?_) hplan
  rcases hextends.buffers b hb with hb | ⟨hne, huses⟩
  · simp [emptyPlan] at hb
  · exact ⟨hne, huses.mono List.prefix_rfl List.prefix_rfl⟩

end PlanContext

end SceneGraph
