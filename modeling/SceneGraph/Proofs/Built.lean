import SceneGraph.Compile
import SceneGraph.Proofs.Tables
import SceneGraph.Proofs.Turns

/-!
# Built plans and compiled scenes

The stages of building a plan: the targets are declared, the nodes take their turns, the scene may be
encoded for display, and the constants are declared.

The stages of a compilation: the scene is validated, prepared, routed, planned and assembled. The stages
write to one log, and none of them reads what is in it.

* `PlanContext.BuiltFrom`: the stages of a successful build.
* `Plan.Complete`: the plan is consistent and the textures that it shows are declared.
* `Plan.Closed`: besides, its passes draw all vertices and instances of their buffers. `Plan.Complete.closed_iff` says
  that this asks for no more than numbers that fit in a word.
* `Scene.PlannedAs`: the plan of a scene.
* `Scene.PlannedAs.plan_closed`: every plan is closed whose buffers hold fewer than 2³² vertices and instances.
* `Logged.Blind`: a computation that succeeds in the same way whatever the log holds.
* `Compiler.CompiledFrom`: the stages of a successful compilation.
* `Compiler.compile_eq_ok`: every compiled scene has gone through them.
-/
set_option autoImplicit false

namespace SceneGraph

open PlanState

namespace Plan

/-- The plan is consistent, and the textures of the scene and of the display are declared. -/
structure Complete (plan : Plan) : Prop extends plan.Consistent where
  scene : ∃ t, plan.texture? plan.sceneTexture = some t
  shown : ∃ t, plan.texture? plan.presentTexture = some t

/-- The plan is complete, and every pass draws as many vertices and instances as its buffers hold. -/
structure Closed (plan : Plan) : Prop extends plan.Complete where
  vertices : ∀ q ∈ plan.passes, q.vertexBuffer ≠ "" → ∃ b, plan.buffer? q.vertexBuffer = some b ∧ b.kind = .vertex ∧
    b.data.size = 16 * q.vertices.toNat
  instances : ∀ q ∈ plan.passes, q.instanceBuffer ≠ "" → ∃ b, plan.buffer? q.instanceBuffer = some b ∧
    b.kind = .instances ∧ b.data.size = 8 * q.instances.toNat

/-- The buffers of passes hold fewer than 2³² vertices and instances, so that a word holds their numbers. -/
structure Countable (plan : Plan) : Prop where
  vertices : ∀ q ∈ plan.passes, q.vertexBuffer ≠ "" → ∀ b, plan.buffer? q.vertexBuffer = some b →
    b.data.size < 16 * UInt32.size
  instances : ∀ q ∈ plan.passes, q.instanceBuffer ≠ "" → ∀ b, plan.buffer? q.instanceBuffer = some b →
    b.data.size < 8 * UInt32.size

/-- The numbers of passes are words, and from 2³² on they start over: a complete plan is closed exactly if its buffers
hold fewer vertices and instances than that. -/
theorem Complete.closed_iff {plan : Plan} (h : plan.Complete) : plan.Closed ↔ plan.Countable := by
  constructor
  · intro hclosed
    refine ⟨fun q hq hv b hb => ?_, fun q hq hi b hb => ?_⟩
    · obtain ⟨b', hb', -, hsize⟩ := hclosed.vertices q hq hv
      obtain rfl := Option.some.inj (hb'.symm.trans hb)
      have hword := q.vertices.toNat_lt_size
      omega
    · obtain ⟨b', hb', -, hsize⟩ := hclosed.instances q hq hi
      obtain rfl := Option.some.inj (hb'.symm.trans hb)
      have hword := q.instances.toNat_lt_size
      omega
  · intro hcount
    refine ⟨h, fun q hq hv => ?_, fun q hq hi => ?_⟩
    · obtain ⟨b, n, hb, hkind, hsize, hn⟩ := (h.passes q hq).vertices hv
      have hsmall := hcount.vertices q hq hv b hb
      have hword : n < UInt32.size := by omega
      exact ⟨b, hb, hkind, by rw [hn, Nat.toUInt32_eq, UInt32.toNat_ofNat_of_lt' hword, hsize]⟩
    · obtain ⟨b, n, hb, hkind, hsize, hn⟩ := (h.passes q hq).instances hi
      have hsmall := hcount.instances q hq hi b hb
      have hword : n < UInt32.size := by omega
      exact ⟨b, hb, hkind, by rw [hn, Nat.toUInt32_eq, UInt32.toNat_ofNat_of_lt' hword, hsize]⟩

end Plan

namespace PlanContext

variable {c : PlanContext} {st st' : PlanState} {n : Node}

/-! ## Declaring the targets -/

/-- Declaring targets adds textures to the plan and changes nothing else. -/
structure DeclaresTargets (c : PlanContext) (st st' : PlanState) (ids : List String) : Prop where
  session : st'.session = st.session
  consistent : st'.plan.Consistent
  grows : st.plan.Grows st'.plan
  targets : ∀ id ∈ ids, ∀ d, c.routes.textures.get? id = some d →
    ∃ t, st'.plan.texture? d.texture = some t ∧ t.upload = ""
  others : st' = { st with plan := { st.plan with textures := st'.plan.textures } }

theorem declareTarget_plan {d : Domain} {u : Unit} (h : Yields (declareTarget n d) st u st') :
    ∃ t plan, st.plan.declareTexture t = .ok plan ∧ st' = { st with plan := plan } ∧ t.name = d.texture ∧
      t.upload = "" := by
  unfold declareTarget at h
  split at h
  · exact absurd h (yields_throw _ _ _ _)
  · obtain ⟨plan, hplan, rfl⟩ := (PlanM.yields_declare _ _ _ _).1 h
    exact ⟨_, plan, hplan, rfl, rfl, rfl⟩

theorem declareTargets_declares (hc : c.Valid) {ids : List String} (hst : st.plan.Consistent) {u : Unit}
    (h : Yields (c.declareTargets ids) st u st') : c.DeclaresTargets st st' ids := by
  induction ids generalizing st with
  | nil =>
    obtain ⟨_, rfl⟩ := (yields_pure _ _ _ _).1 h
    exact ⟨rfl, hst, .refl _, by simp, rfl⟩
  | cons id rest ih =>
    unfold declareTargets at h
    split at h
    · rename_i d n hd hn
      obtain ⟨_, st₁, hfirst, hrest⟩ := (yields_bind _ _ _ _ _).1 h
      obtain ⟨t, plan, hplan, rfl, hname, hupload⟩ := declareTarget_plan hfirst
      have h₁ := ih (hst.declareTexture hplan fun hne => absurd hupload hne) hrest
      obtain ⟨hgrows, _, t', ht', _, _, hup⟩ := Plan.declareTexture_texture? hplan
      refine ⟨h₁.session, h₁.consistent, hgrows.trans h₁.grows, ?_, ?_⟩
      · intro id' hid' d' hd'
        rcases List.mem_cons.1 hid' with rfl | hid'
        · rw [hd] at hd'
          cases hd'
          rw [hname] at ht'
          exact ⟨t', h₁.grows.texture? ht', hup.trans hupload⟩
        · exact h₁.targets id' hid' d' hd'
      · rw [h₁.others]
        rcases Plan.declareTexture_eq_ok hplan with ⟨_, _, _, rfl⟩ | ⟨_, rfl⟩ <;> rfl
    · rename_i hnone
      have h₁ := ih hst h
      refine ⟨h₁.session, h₁.consistent, h₁.grows, ?_, h₁.others⟩
      intro id' hid' d' hd'
      rcases List.mem_cons.1 hid' with rfl | hid'
      · obtain ⟨n, hn, _⟩ := (hc.routes.get?_textures _ _).1 hd'
        exact absurd hn (hnone d' n hd')
      · exact h₁.targets id' hid' d' hd'

theorem declareTargets_ready (hc : c.Valid) {u : Unit}
    (h : Yields (c.declareTargets c.prepared.order) { plan := c.emptyPlan } u st) :
    Ready c st ∧ st.Fresh ∧ st.plan.sceneTexture = c.prepared.output.texture ∧
      st.plan.presentTexture = c.prepared.output.texture := by
  have hempty : c.emptyPlan.Consistent := by
    constructor <;> simp [emptyPlan]
  have hdeclares := declareTargets_declares hc hempty h
  refine ⟨⟨?_, hdeclares.consistent, ?_⟩, ?_, ?_, ?_⟩
  · rw [hdeclares.session]
    exact .empty c.prepared
  · intro id d hd
    obtain ⟨n, hn, _⟩ := (hc.routes.get?_textures id d).1 hd
    exact hdeclares.targets id ((hc.routes.prepared.mem_order id).2 ⟨n, hn⟩) d hd
  · rw [hdeclares.others]
    exact ⟨rfl, rfl, rfl, rfl⟩
  · rw [hdeclares.others]
    rfl
  · rw [hdeclares.others]
    rfl

/-! ## The turns of all nodes -/

theorem nodes_emits (hc : c.Valid) {ids : List String} (hst : Ready c st) {u : Unit}
    (h : Yields (c.nodes ids) st u st') : ∃ es, Emits c st st' es := by
  induction ids generalizing st with
  | nil =>
    obtain ⟨_, rfl⟩ := (yields_pure _ _ _ _).1 h
    exact ⟨[], .refl hst⟩
  | cons id rest ih =>
    unfold nodes at h
    split at h
    · rename_i n hn
      obtain ⟨_, st₁, hfirst, hrest⟩ := (yields_bind _ _ _ _ _).1 h
      obtain ⟨es, h₁, _⟩ := node_emits hc (Prepared.node?_self hn) hst hfirst
      obtain ⟨es', h₂⟩ := ih h₁.ready hrest
      exact ⟨es ++ es', h₁.trans h₂⟩
    · exact ih hst h

/-! ## Showing the scene -/

/-- The pass that encodes the scene for display. -/
def presentSketch (c : PlanContext) : Sketch :=
  ⟨"present:" ++ c.prepared.output.node, .present, [c.prepared.output.node], presentTextureName,
    [c.prepared.output.texture]⟩

/-- The scene is shown as it is, or by a last pass into a texture of its own. -/
structure Shows (c : PlanContext) (st st' : PlanState) (ps : List Pass) : Prop where
  ready : Ready c st'
  passes : st'.plan.passes = st.plan.passes ++ ps
  grows : st.plan.Grows st'.plan
  scene : st'.plan.sceneTexture = st.plan.sceneTexture
  shown : ps = [] ∧ st'.plan.presentTexture = st.plan.presentTexture ∨
    (∃ q, ps = [q] ∧ q.sketch = c.presentSketch) ∧ ∃ t, st'.plan.texture? st'.plan.presentTexture = some t

theorem present_shows (hc : c.Valid) (hst : Ready c st) {u : Unit} (h : Yields c.present st u st') :
    ∃ ps, c.Shows st st' ps := by
  unfold present at h
  simp only [yields_ite, yields_bind, yields_pure, yields_modify] at h
  rcases h with ⟨_, _, rfl⟩ | ⟨_, _, st₁, htexture, _, _, rfl, hplan⟩
  · exact ⟨[], hst, by simp, .refl _, rfl, .inl ⟨rfl, rfl⟩⟩
  · obtain ⟨h₁, t, ht, hupload⟩ := PlanM.declareTexture_planned hst (fun hne => absurd rfl hne) htexture
    have hgrows : st₁.plan.Grows { st₁.plan with presentTexture := presentTextureName } :=
      ⟨List.prefix_rfl, List.prefix_rfl, List.prefix_rfl⟩
    have hready : Ready c { st₁ with plan := { st₁.plan with presentTexture := presentTextureName } } :=
      ⟨h₁.ready.sound, ⟨h₁.ready.consistent.textures, h₁.ready.consistent.buffers, h₁.ready.consistent.samplers,
        h₁.ready.consistent.uploads, fun q hq => (h₁.ready.consistent.passes q hq).mono hgrows⟩, h₁.ready.targets⟩
    obtain ⟨d, hd, houtput⟩ := hc.routes.get?_output
    obtain ⟨t', ht', _⟩ := h₁.ready.targets _ _ hd
    rw [houtput] at ht'
    obtain ⟨q, h₂, hq⟩ := Effect.plan_planned hready
      ⟨⟨t, hgrows.texture? ht, hupload⟩, by simpa using ⟨t', hgrows.texture? ht'⟩, by simp⟩ hplan
    refine ⟨[q], h₂.ready, ?_, h₁.adds.grows.trans (hgrows.trans h₂.adds.grows), ?_, .inr ⟨⟨q, rfl, hq⟩, t, ?_⟩⟩
    · rw [h₂.adds.passes, h₁.adds.passes, List.append_nil]
    · rw [h₂.adds.scene, h₁.adds.scene]
    · rw [h₂.adds.shown]
      exact h₂.adds.grows.texture? (hgrows.texture? ht)

/-! ## Stages -/

theorem declareParams_keeps (hst : Ready c st) {u : Unit} (h : Yields declareParams st u st') :
    Ready c st' ∧ st.plan.Grows st'.plan ∧ st'.plan.passes = st.plan.passes ∧
      st'.plan.sceneTexture = st.plan.sceneTexture ∧ st'.plan.presentTexture = st.plan.presentTexture := by
  unfold declareParams at h
  simp only [yields_bind, yields_get, yields_set] at h
  obtain ⟨_, st, ⟨rfl, rfl⟩, _, _, rfl, hbuffer⟩ := h
  have hgrows : st.plan.Grows { st.plan with params := paramsOf st.session.params } :=
    ⟨List.prefix_rfl, List.prefix_rfl, List.prefix_rfl⟩
  have hready : Ready c { st with plan := { st.plan with params := paramsOf st.session.params } } :=
    ⟨hst.sound, ⟨hst.consistent.textures, hst.consistent.buffers, hst.consistent.samplers, hst.consistent.uploads,
      fun q hq => (hst.consistent.passes q hq).mono hgrows⟩, hst.targets⟩
  obtain ⟨h₁, _⟩ := PlanM.declareBuffer_planned hready hbuffer
  refine ⟨h₁.ready, hgrows.trans h₁.adds.grows, ?_, h₁.adds.scene, h₁.adds.shown⟩
  rw [h₁.adds.passes, List.append_nil]

/-- The stages of a successful build: the state in which the turns begin, the one in which they end, and the
passes that follow. -/
structure BuiltFrom (c : PlanContext) (plan : Plan) (st₀ st₁ : PlanState) (ps : List Pass) : Prop where
  ready : Ready c st₀
  fresh : st₀.Fresh
  nodes : Yields (c.nodes c.prepared.order) st₀ () st₁
  passes : plan.passes = st₁.plan.passes ++ ps
  grows : st₁.plan.Grows plan
  shown : ∀ q ∈ ps, q.sketch = c.presentSketch
  once : ps.length ≤ 1
  complete : plan.Complete

theorem build_stages (hc : c.Valid) {plan : Plan} (h : c.build.outcome.1 = .ok plan) :
    ∃ st₀ st₁ ps, c.BuiltFrom plan st₀ st₁ ps := by
  obtain ⟨st₃, hrun, rfl⟩ := (build_eq_ok c plan).1 h
  unfold buildAll at hrun
  simp only [yields_bind, yields_get, PlanM.yields_debug] at hrun
  obtain ⟨_, st₀, htargets, _, st₁, hnodes, _, st₂, hpresent, _, _, hparams, _, _, ⟨rfl, rfl⟩, rfl⟩ := hrun
  obtain ⟨hready, hfresh, hscene₀, hshown₀⟩ := declareTargets_ready hc htargets
  obtain ⟨es, h₁⟩ := nodes_emits hc hready hnodes
  obtain ⟨ps, h₂⟩ := present_shows hc h₁.ready hpresent
  obtain ⟨hready', hgrows, hpasses, hscene, hshown⟩ := declareParams_keeps h₂.ready hparams
  have hall := (h₁.grows.trans h₂.grows).trans hgrows
  obtain ⟨d, hd, houtput⟩ := hc.routes.get?_output
  obtain ⟨t, ht, _⟩ := hready'.targets _ _ hd
  rw [houtput] at ht
  refine ⟨st₀, st₁, ps, hready, hfresh, hnodes, hpasses.trans h₂.passes, h₂.grows.trans hgrows, ?_, ?_,
    hready'.consistent, ⟨t, ?_⟩, ?_⟩
  · rcases h₂.shown with ⟨rfl, _⟩ | ⟨⟨q, rfl, hq⟩, _⟩
    · simp
    · simpa using hq
  · rcases h₂.shown with ⟨rfl, _⟩ | ⟨⟨q, rfl, _⟩, _⟩ <;> simp
  · exact hscene.trans (h₂.scene.trans (h₁.scene.trans hscene₀)) ▸ ht
  · rcases h₂.shown with ⟨_, heq⟩ | ⟨_, t', ht'⟩
    · exact ⟨t, hshown.trans (heq.trans (h₁.shown.trans hshown₀)) ▸ ht⟩
    · exact ⟨t', hshown ▸ hgrows.texture? ht'⟩

/-- A plan with the trace of its turns and the passes that follow them. -/
structure History (c : PlanContext) (plan : Plan) (st₀ st : PlanState) (tr : List (Nat × Event)) (ps : List Pass) :
    Prop where
  fresh : st₀.Fresh
  traced : c.Traced st₀ st c.prepared.order.length tr
  passes : plan.passes = tracePasses tr ++ ps
  formed : ∀ x ∈ tr, x.2.Formed c plan
  shown : ∀ q ∈ ps, q.sketch = c.presentSketch
  once : ps.length ≤ 1

theorem BuiltFrom.history (hc : c.Valid) (hnodup : c.prepared.scene.nodeIds.Nodup) {plan : Plan}
    {st₀ st₁ : PlanState} {ps : List Pass} (h : c.BuiltFrom plan st₀ st₁ ps) : ∃ tr, c.History plan st₀ st₁ tr ps := by
  obtain ⟨tr, htr⟩ := nodes_traced hc hnodup h.ready h.fresh h.nodes
  refine ⟨tr, h.fresh, htr, ?_, ?_, h.shown, h.once⟩
  · rw [h.passes, htr.emits.passes, h.fresh.passes, List.flatMap_map]
    rfl
  · intro x hx
    exact (htr.emits.formed x.2 (List.mem_map_of_mem hx)).mono h.grows

end PlanContext

/-! ## Plans of scenes -/

/-- What the plan of a prepared scene is built from, with the built-in compilers. -/
abbrev Prepared.context (p : Prepared) (r : Routes) (env : Environment) : PlanContext :=
  { prepared := p, routes := r, environment := env }

/-- What planning a scene goes through with the built-in compilers: the prepared scene, its routes and its
plan. -/
structure Scene.PlannedAs (s : Scene) (schema : Schema) (options : PrepareOptions) (env : Environment)
    (p : Prepared) (r : Routes) (plan : Plan) : Prop where
  prepare : (s.prepare schema options).outcome.1 = .ok p
  resolve : p.resolve.outcome.1 = .ok r
  build : (p.context r env).build.outcome.1 = .ok plan

/-- The prepared scene, the routes and the plan of a scene, if there is a plan. -/
def Scene.planned? (s : Scene) (schema : Schema) (options : PrepareOptions) (env : Environment) :
    Option (Prepared × Routes × Plan) :=
  match (s.prepare schema options).outcome.1 with
  | .error _ => none
  | .ok p =>
    match p.resolve.outcome.1 with
    | .error _ => none
    | .ok r =>
      match (p.context r env).build.outcome.1 with
      | .error _ => none
      | .ok plan => some (p, r, plan)

theorem Scene.planned?_eq_some (s : Scene) (schema : Schema) (options : PrepareOptions) (env : Environment)
    (p : Prepared) (r : Routes) (plan : Plan) :
    s.planned? schema options env = some (p, r, plan) ↔ s.PlannedAs schema options env p r plan := by
  unfold planned?
  constructor
  · intro h
    split at h
    · cases h
    · rename_i hp
      split at h
      · cases h
      · rename_i hr
        split at h
        · cases h
        · rename_i hplan
          cases h
          exact ⟨hp, hr, hplan⟩
  · rintro ⟨hp, hr, hplan⟩
    simp only [hp, hr, hplan]

theorem Scene.planned?_builtin (s : Scene) (options : PrepareOptions) (env : Environment) :
    s.planned? Schema.builtin options env =
      match (s.prepare Schema.listed options).outcome.1 with
      | .error _ => none
      | .ok p =>
        match p.resolve.outcome.1 with
        | .error _ => none
        | .ok r =>
          match ({ prepared := p, routes := r, registry := Registry.listed, environment := env } :
            PlanContext).build.outcome.1 with
          | .error _ => none
          | .ok plan => some (p, r, plan) := by
  rw [planned?, Schema.builtin_eq, ← Registry.builtin_eq]

namespace Scene.PlannedAs

variable {s : Scene} {schema : Schema} {options : PrepareOptions} {env : Environment} {p : Prepared} {r : Routes}
  {plan : Plan}

theorem valid (h : s.PlannedAs schema options env p r plan) :
    (p.context r env).Valid :=
  ⟨Prepared.resolve_valid (Scene.prepare_valid h.prepare) h.resolve, fun _ _ hk => Registry.builtin_makesValues hk⟩

theorem history (h : s.PlannedAs schema options env p r plan) (hnodup : p.scene.nodeIds.Nodup) :
    ∃ st₀ st tr ps, (p.context r env).History plan st₀ st tr ps := by
  obtain ⟨st₀, st, ps, hbuilt⟩ := PlanContext.build_stages h.valid h.build
  obtain ⟨tr, htr⟩ := hbuilt.history h.valid hnodup
  exact ⟨st₀, st, tr, ps, htr⟩

end Scene.PlannedAs

/-- A pass that is drawn into a texture, blurred from there into a composition, and shown. -/
def Scene.blurred : Scene where
  nodes := [{ id := "screen", type := "Screen" }, { id := "glow", type := "RenderTexture" },
    { id := "shape", type := "RenderPass" }, { id := "soft", type := "Blur" }, { id := "stack", type := "Composite" }]
  connections := [{ id := "a", source := ⟨"shape", "pass"⟩, target := ⟨"glow", "pass"⟩ },
    { id := "b", source := ⟨"glow", "texture"⟩, target := ⟨"soft", "texture"⟩ },
    { id := "c", source := ⟨"soft", "pass"⟩, target := ⟨"stack", "pass"⟩ },
    { id := "d", source := ⟨"stack", "pass"⟩, target := ⟨"screen", "pass"⟩ }]
  outputs := [("main", "screen")]

theorem Scene.blurred_planned : (Scene.blurred.planned? Schema.builtin {} {}).isSome = true := by
  rw [Scene.planned?_builtin]
  decide +kernel

/-- A computation that succeeds with a value does so from every log. -/
def Logged.Blind {ε α : Type} (x : Logged ε α) : Prop :=
  ∀ log a log', Yields x log a log' → ∀ start, ∃ stop, Yields x start a stop

namespace Logged.Blind

variable {ε ε' α β : Type}

theorem pure (a : α) : Blind (Pure.pure a : Logged ε α) := by
  intro log b log' h start
  obtain ⟨rfl, _⟩ := (yields_pure _ _ _ _).1 h
  exact ⟨start, (yields_pure _ _ _ _).2 ⟨rfl, rfl⟩⟩

theorem throw (e : ε) : Blind (throw e : Logged ε α) :=
  fun _ _ _ h => absurd h (yields_throw _ _ _ _)

theorem ofExcept (r : Except ε α) : Blind (Logged.ofExcept r) := by
  intro log a log' h start
  obtain ⟨hr, _⟩ := (yields_ofExcept _ _ _ _).1 h
  exact ⟨start, (yields_ofExcept _ _ _ _).2 ⟨hr, rfl⟩⟩

theorem modify (f : List LogEntry → List LogEntry) : Blind (modify f : Logged ε Unit) :=
  fun _ _ _ _ start => ⟨f start, (yields_modify _ _ _ _).2 rfl⟩

theorem bind {x : Logged ε α} {f : α → Logged ε β} (hx : Blind x) (hf : ∀ a, Blind (f a)) : Blind (x >>= f) := by
  intro log b log' h start
  obtain ⟨a, mid, ha, hb⟩ := (yields_bind _ _ _ _ _).1 h
  obtain ⟨mid', ha'⟩ := hx log a mid ha start
  obtain ⟨stop, hb'⟩ := hf a mid b log' hb mid'
  exact ⟨stop, (yields_bind _ _ _ _ _).2 ⟨a, mid', ha', hb'⟩⟩

theorem outcome {x : Logged ε α} (hx : Blind x) {a : α} {log log' : List LogEntry} (h : Yields x log a log') :
    x.outcome.1 = .ok a :=
  (outcome_eq_ok x a).2 (hx log a log' h [])

end Logged.Blind

theorem yields_adapt {ε ε' α : Type} (f : ε → ε') (x : Logged ε α) (s t : List LogEntry) (a : α) :
    Yields (x.adapt f) s a t ↔ Yields x s a t := by
  have hrun : (x.adapt f).run.run s = ((x.run.run s).1.mapError f, (x.run.run s).2) := rfl
  unfold Yields
  rw [hrun]
  rcases x.run.run s with ⟨e | b, u⟩
  · constructor <;> intro h <;> cases h
  · constructor
    · intro h
      cases h
      rfl
    · intro h
      cases h
      rfl

open Logged

theorem Scene.prepare_blind (s : Scene) (schema : Schema) (options : PrepareOptions) :
    Blind (s.prepare schema options) := by
  have hstep : ∀ {α : Type} (r : Except StepError α), Blind (Prepare.stepped r) := by
    intro α r
    cases r with
    | ok a => exact .pure a
    | error e => exact .throw _
  have hcount : ∀ what count, Blind (Prepare.counted what count) := fun _ _ => .modify _
  unfold Scene.prepare
  refine .bind (hstep _) fun _ => .bind (.ofExcept _) fun _ => .bind (hcount _ _) fun _ => ?_
  refine .bind (hstep _) fun _ => .bind (hcount _ _) fun _ => ?_
  refine .bind (hstep _) fun _ => .bind (hcount _ _) fun _ => ?_
  refine .bind (.ofExcept _) fun _ => .bind (.ofExcept _) fun _ => .bind (hcount _ _) fun _ => ?_
  exact .bind (.ofExcept _) fun _ => .bind (.modify _) fun _ => .pure _

theorem Prepared.resolve_blind (p : Prepared) : Blind p.resolve :=
  .bind (.ofExcept _) fun _ => .bind (.modify _) fun _ => .pure _

theorem PlanContext.build_blind (c : PlanContext) : Blind c.build :=
  .bind (.modify _) fun _ => .ofExcept _

/-! ## Stages -/

namespace Compiler

/-- The stages of a successful compilation. -/
structure CompiledFrom (c : Compiler) (s : Scene) (r : Compiled) (routes : Routes) : Prop where
  validate : c.schema.validate s = .ok r.scene
  prepare : (r.scene.prepare c.schema c.options).outcome.1 = .ok r.prepared
  resolve : r.prepared.resolve.outcome.1 = .ok routes
  build : ({ prepared := r.prepared, routes, registry := c.registry, environment := c.environment } :
    PlanContext).build.outcome.1 = .ok r.plan
  space : r.space = Space.assemble r.plan

/-- Every compiled scene has gone through all stages. -/
theorem compile_eq_ok {c : Compiler} {s : Scene} {r : Compiled} (h : (c.compile s).outcome.1 = .ok r) :
    ∃ routes, c.CompiledFrom s r routes := by
  obtain ⟨log, hrun⟩ := (outcome_eq_ok _ _).1 h
  unfold Compiler.compile assemble at hrun
  simp only [yields_bind, yields_adapt, yields_ofExcept, yields_pure] at hrun
  obtain ⟨_, _, _, scene, _, ⟨hvalidate, _⟩, prepared, _, hprepare, ⟨plan, space⟩, _,
    ⟨routes, _, hresolve, plan', _, hbuild, _, _, _, hpair, _⟩, _, _, _, rfl, _⟩ := hrun
  obtain ⟨rfl, rfl⟩ := Prod.mk.inj hpair
  exact ⟨routes, hvalidate, (Scene.prepare_blind _ _ _).outcome hprepare,
    (Prepared.resolve_blind _).outcome hresolve, (PlanContext.build_blind _).outcome hbuild, rfl⟩

theorem checkStructure_of_compile {c : Compiler} {s : Scene} {r : Compiled}
    (h : (c.compile s).outcome.1 = .ok r) : s.checkStructure = .ok () := by
  obtain ⟨log, hrun⟩ := (outcome_eq_ok _ _).1 h
  unfold Compiler.compile at hrun
  simp only [yields_bind, yields_adapt, yields_ofExcept] at hrun
  obtain ⟨_, _, ⟨hstructure, _⟩, _⟩ := hrun
  exact hstructure

/-- A structurally sound scene that goes through all stages compiles. -/
theorem CompiledFrom.compile {c : Compiler} {s : Scene} {r : Compiled} {routes : Routes} (h : c.CompiledFrom s r routes)
    (hs : s.checkStructure = .ok ()) : (c.compile s).outcome.1 = .ok r := by
  obtain ⟨_, hprepare⟩ := (outcome_eq_ok _ _).1 h.prepare
  obtain ⟨_, hresolve⟩ := (outcome_eq_ok _ _).1 h.resolve
  obtain ⟨_, hbuild⟩ := (outcome_eq_ok _ _).1 h.build
  obtain ⟨log, hprepare⟩ := Scene.prepare_blind _ _ _ _ _ _ hprepare []
  obtain ⟨log', hresolve⟩ := Prepared.resolve_blind _ _ _ _ hresolve log
  obtain ⟨log'', hbuild⟩ := PlanContext.build_blind _ _ _ _ hbuild log'
  have hrun : ∃ stop, Yields (c.compile s) [] r stop := by
    unfold Compiler.compile assemble
    simp only [yields_bind, yields_adapt, yields_ofExcept, yields_pure]
    refine ⟨_, (), [], ⟨hs, rfl⟩, r.scene, [], ⟨h.validate, rfl⟩, r.prepared, log, hprepare, (r.plan, r.space), _,
      ⟨routes, log', hresolve, r.plan, log'', hbuild, (), _, (yields_modify _ _ _ _).2 rfl, ?_, rfl⟩, (), _,
      (yields_debug _ _ _ _ _).2 rfl, rfl, rfl⟩
    rw [h.space]
  exact (outcome_eq_ok _ _).2 hrun

theorem CompiledFrom.planned {c : Compiler} {s : Scene} {r : Compiled} {routes : Routes}
    (h : c.CompiledFrom s r routes) (hc : c.registry = Registry.builtin) :
    r.scene.PlannedAs c.schema c.options c.environment r.prepared routes r.plan :=
  ⟨h.prepare, h.resolve, by have hbuild := h.build; rwa [hc] at hbuild⟩

end Compiler

end SceneGraph
