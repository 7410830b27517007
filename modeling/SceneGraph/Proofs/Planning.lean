import Mathlib.Logic.Relation
import SceneGraph.Proofs.Built

/-!
# Elementary steps of planning

A plan is built in elementary steps: an expression is compiled, a resource is declared, a pass is added. Every step
says where its data comes from, so a property of all plans is shown by going through the steps once.

* `PlanStage`: a state of planning with the expressions compiled so far.
* `PlanContext.Step`: the elementary steps, `PlanContext.Canvas` and `PlanContext.Plans`: the textures and passes
  that they add.
* `PlanContext.Runs`: a computation whose successful runs are made of elementary steps.
* `PlanContext.steps_of_build`: building a plan is such a computation.
* `PlanContext.Steps.preserves`: what every step keeps, all of them keep.
-/
set_option autoImplicit false

namespace SceneGraph

/-- A state of planning, and the expressions compiled so far, each with the computation that gave it. -/
structure PlanStage where
  state : PlanState
  compiled : List (SessionM ShaderExpr × ShaderExpr) := []

/-- The pass of an effect. -/
def Effect.pass (e : Effect) : Pass :=
  let bindings := e.inputs.zipIdx.map fun (input, i) => binding i input
  { id := e.id
    kind := e.kind
    nodes := e.nodes
    target := e.target
    shader := .generated (moduleOf bindings e.body)
    bindings
    blend := e.blend
    vertices := 3
    instances := 1 }

/-- The bodies of effects, whose numbers are constants compiled before. -/
inductive Effect.Body (compiled : List (SessionM ShaderExpr × ShaderExpr)) : List ShaderStatement → Prop where
  | copy : Body compiled copyBody
  | display : Body compiled displayBody
  | down : Body compiled downBody
  | blur {node param : String} {values : List Float} {radius : ShaderExpr} {direction : Code}
      (hdirection : direction = horizontal ∨ direction = vertical)
      (hradius : (SessionM.constant node param values .float, radius) ∈ compiled) :
      Body compiled (blurBody direction radius.code)
  | extract {node param : String} {values : List Float} {threshold : ShaderExpr}
      (hthreshold : (SessionM.constant node param values .float, threshold) ∈ compiled) :
      Body compiled (extractBody threshold.code)
  | combine {node param : String} {values : List Float} {intensity : ShaderExpr}
      (hintensity : (SessionM.constant node param values .float, intensity) ∈ compiled) :
      Body compiled (combineBody intensity.code)

theorem Effect.Body.mono {compiled compiled' : List (SessionM ShaderExpr × ShaderExpr)} (h : compiled ⊆ compiled')
    {body : List ShaderStatement} (hbody : Effect.Body compiled body) : Effect.Body compiled' body := by
  cases hbody with
  | copy => exact .copy
  | display => exact .display
  | down => exact .down
  | blur hdirection hradius => exact .blur hdirection (h hradius)
  | extract hthreshold => exact .extract (h hthreshold)
  | combine hintensity => exact .combine (h hintensity)

namespace PlanContext

/-! ## Steps -/

/-- The computations that give planning its expressions. -/
inductive Compiles (c : PlanContext) : SessionM ShaderExpr → Prop where
  | texture (n : Node) : Compiles c (c.exprs.inputs.require n ["texture"])
  | color (n : Node) : Compiles c (c.drawColor n)
  | transform (n : Node) : Compiles c (c.drawTransform n)
  | constant (node : String) {param : String} (hparam : param ∈ ["radius", "threshold", "intensity"])
      (values : List Float) : Compiles c (SessionM.constant node param values .float)

/-- The images that are uploaded. -/
inductive Pictures (c : PlanContext) : Image → Prop where
  | baked {k : Endpoint} {i : Image} (h : c.prepared.baked.pixels? k = some i) : Pictures c i
  | text {t : String} {i : Image} (h : Text.rasterize c.environment.face t ⟨255, 255, 255, 255⟩ 1 = .ok i) :
      Pictures c i
  | placeholder : Pictures c placeholder
  | decoded {bytes : ByteArray} {i : Image} (h : c.decodeImage bytes = .ok i) : Pictures c i

/-- The textures that are declared for passes to draw into. -/
inductive Canvas (c : PlanContext) : TextureDecl → Prop where
  | target {id : String} {n : Node} {d : Domain} (hd : c.routes.textures.get? id = some d)
      (hn : c.prepared.node? id = some n) (format : TextureFormat) :
      Canvas c { name := d.texture, node := n.id, size := d.size, format, clear := clearColor n }
  | scratch {n : Node} {r : Route} (hr : c.routes.route? n.id = some r) {divisor : Int} (hdivisor : 1 ≤ divisor)
      (name : String) (format : TextureFormat) :
      Canvas c { name, node := n.id, format, size :=
        ⟨dividedLength r.domain.size.width divisor, dividedLength r.domain.size.height divisor⟩ }
  | present : Canvas c { name := presentTextureName, node := c.prepared.output.node, size := c.prepared.output.size,
                         format := .rgba8Unorm }

/-- The passes that are added in a session, from expressions compiled before. -/
inductive Plans (c : PlanContext) (session : Session) (compiled : List (SessionM ShaderExpr × ShaderExpr)) :
    Pass → Prop where
  | clear {q : Pass} (hshader : q.shader = .absent) (hanimated : q.isAnimated = false) : Plans c session compiled q
  | effect {e : Effect} (hbody : Effect.Body compiled e.body) : Plans c session compiled e.pass
  | draw {n : Node} {r : Route} {color transform : ShaderExpr} {q : Pass} (hr : c.routes.route? n.id = some r)
      (hcolor : (c.drawColor n, color) ∈ compiled) (htransform : (c.drawTransform n, transform) ∈ compiled)
      (hanimated : q.isAnimated = (color.isAnimated || transform.isAnimated))
      (hshader : q.shader = .generated {
        bindings := q.bindings
        helpers := session.helpersNamed color.helpers
        vertex := vertexProgram r.geometry transform.code
        fragment := [.result color.code] }) : Plans c session compiled q

/-- The elementary steps of planning. -/
inductive Step (c : PlanContext) : PlanStage → PlanStage → Prop where
  | compile {g : PlanStage} {x : SessionM ShaderExpr} {e : ShaderExpr} {s : Session} (hx : c.Compiles x)
      (h : Yields x g.state.session e s) : Step c g ⟨{ g.state with session := s }, (x, e) :: g.compiled⟩
  | report (g : PlanStage) (entry : LogEntry) :
      Step c g { g with state := { g.state with session := g.state.session.report entry } }
  | texture {g : PlanStage} {t : TextureDecl} {plan : Plan} (ht : c.Canvas t)
      (h : g.state.plan.declareTexture t = .ok plan) : Step c g { g with state := { g.state with plan } }
  | upload {g : PlanStage} {n : Node} {i : Image} {stride : UInt32} {mid plan : Plan}
      (hn : c.prepared.node? n.id = some n) (hi : c.Pictures i)
      (hbuffer : g.state.plan.declareBuffer
        { name := c.prepared.nameOf n.id ++ "_pixels", kind := .pixels, data := i.pixels, stride } = .ok mid)
      (htexture : mid.declareTexture
        { name := c.prepared.nameOf n.id, node := n.id, size := ⟨i.width, i.height⟩, format := .rgba8Unorm,
          upload := c.prepared.nameOf n.id ++ "_pixels" } = .ok plan) :
      Step c g { g with state := { g.state with plan } }
  | buffer {g : PlanStage} {b : BufferDecl} {plan : Plan} (h : g.state.plan.declareBuffer b = .ok plan) :
      Step c g { g with state := { g.state with plan } }
  | sampler {g : PlanStage} {s : SamplerDecl} {plan : Plan} (h : g.state.plan.declareSampler s = .ok plan) :
      Step c g { g with state := { g.state with plan } }
  | mark (g : PlanStage) (drawn : List String) (copied : List (String × String)) :
      Step c g { g with state := { g.state with drawn, copied } }
  | shown (g : PlanStage) :
      Step c g { g with state := { g.state with plan := { g.state.plan with presentTexture := presentTextureName } } }
  | params (g : PlanStage) :
      Step c g
        { g with state := { g.state with plan := { g.state.plan with params := paramsOf g.state.session.params } } }
  | pass {g : PlanStage} {q : Pass} {t : TextureDecl} {written : List String}
      (hq : c.Plans g.state.session g.compiled q) (ht : g.state.plan.texture? q.target = some t) :
      Step c g { g with state := { g.state with
        written
        plan := { g.state.plan with
          passes := g.state.plan.passes ++ [{ q with
            size := t.size
            format := t.format
            load := (PlanM.loadOf g.state t).1
            clear := (PlanM.loadOf g.state t).2 }]
          isAnimated := g.state.plan.isAnimated || q.isAnimated } } }

/-- A step keeps the passes or adds one, which has its size, format and load from the texture it draws into. -/
theorem Step.passes {c : PlanContext} {g g' : PlanStage} (h : c.Step g g') :
    g'.state.plan.passes = g.state.plan.passes ∨ ∃ q size format op color,
      c.Plans g.state.session g.compiled q ∧
        g'.state.plan.passes = g.state.plan.passes ++ [{ q with size, format, load := op, clear := color }] := by
  cases h with
  | compile | report | mark | shown | params => exact .inl rfl
  | texture _ hplan => rcases Plan.declareTexture_eq_ok hplan with ⟨_, _, _, rfl⟩ | ⟨_, rfl⟩ <;> exact .inl rfl
  | upload _ _ hbuffer htexture =>
    rcases Plan.declareBuffer_eq_ok hbuffer with ⟨_, _, _, rfl⟩ | ⟨_, rfl⟩ <;>
      rcases Plan.declareTexture_eq_ok htexture with ⟨_, _, _, rfl⟩ | ⟨_, rfl⟩ <;> exact .inl rfl
  | buffer hplan => rcases Plan.declareBuffer_eq_ok hplan with ⟨_, _, _, rfl⟩ | ⟨_, rfl⟩ <;> exact .inl rfl
  | sampler hplan => rcases Plan.declareSampler_eq_ok hplan with ⟨_, rfl⟩ | ⟨_, rfl⟩ <;> exact .inl rfl
  | pass hq => exact .inr ⟨_, _, _, _, _, hq, rfl⟩

/-- Any number of steps. -/
abbrev Steps (c : PlanContext) : PlanStage → PlanStage → Prop := Relation.ReflTransGen c.Step

variable {c : PlanContext}

theorem Steps.preserves {I : PlanStage → Prop} (hI : ∀ g g', c.Step g g' → I g → I g') {g g' : PlanStage}
    (h : c.Steps g g') (hg : I g) : I g' := by
  induction h with
  | refl => exact hg
  | tail _ hstep ih => exact hI _ _ hstep ih

theorem Steps.compiled {g g' : PlanStage} (h : c.Steps g g') : g.compiled ⊆ g'.compiled := by
  refine h.preserves (I := fun g' => g.compiled ⊆ g'.compiled) (fun _ _ hstep hg => ?_) (List.Subset.refl _)
  cases hstep with
  | compile => exact List.Subset.trans hg (List.subset_cons_self _ _)
  | _ => exact hg

/-! ## Computations in steps -/

/-- Every successful run of the computation from the stage goes through elementary steps to a stage where the result
is as described. -/
def Runs (c : PlanContext) {α : Type} (g : PlanStage) (x : PlanM α) (Q : α → PlanStage → Prop) : Prop :=
  ∀ a st, Yields x g.state a st → ∃ g', g'.state = st ∧ c.Steps g g' ∧ Q a g'

namespace Runs

variable {α β : Type} {g : PlanStage} {x : PlanM α} {Q R : α → PlanStage → Prop}

theorem pure {a : α} (h : Q a g) : c.Runs g (Pure.pure a) Q := by
  intro b st hx
  obtain ⟨rfl, rfl⟩ := (yields_pure _ _ _ _).1 hx
  exact ⟨g, rfl, .refl, h⟩

theorem throw {e : PlanError} : c.Runs g (throw e) Q := fun _ _ hx => absurd hx (yields_throw _ _ _ _)

theorem bind {Q : β → PlanStage → Prop} {f : α → PlanM β} (hx : c.Runs g x R)
    (hf : ∀ a g', c.Steps g g' → R a g' → c.Runs g' (f a) Q) : c.Runs g (x >>= f) Q := by
  intro b st h
  obtain ⟨a, mid, ha, hb⟩ := (yields_bind _ _ _ _ _).1 h
  obtain ⟨g', rfl, hsteps, hR⟩ := hx a mid ha
  obtain ⟨g'', hst, hsteps', hQ⟩ := hf a g' hsteps hR b st hb
  exact ⟨g'', hst, hsteps.trans hsteps', hQ⟩

theorem ite {p : Prop} [Decidable p] {x y : PlanM α} (hx : p → c.Runs g x Q) (hy : ¬p → c.Runs g y Q) :
    c.Runs g (if p then x else y) Q := by
  split
  · rename_i hp
    exact hx hp
  · rename_i hp
    exact hy hp

theorem get : c.Runs g get fun st g' => g' = g ∧ st = g.state := by
  intro a st hx
  obtain ⟨rfl, rfl⟩ := (yields_get _ _ _).1 hx
  exact ⟨g, rfl, .refl, rfl, rfl⟩

theorem ofExpr {r : Except ExprError α} : c.Runs g (PlanM.ofExpr r) fun _ g' => g' = g := by
  intro a st hx
  obtain ⟨_, rfl⟩ := (PlanM.yields_ofExpr _ _ _ _).1 hx
  exact ⟨g, rfl, .refl, rfl⟩

theorem report (e : LogEntry) : c.Runs g (PlanM.report e) fun _ _ => True := by
  intro a st hx
  obtain rfl := (PlanM.yields_report _ _ _ _).1 hx
  exact ⟨_, rfl, .single (.report g e), trivial⟩

/-- Compiling an expression puts it to those compiled so far. -/
theorem compile {x : SessionM ShaderExpr} (hx : c.Compiles x) :
    c.Runs g (PlanM.ofSession x) fun e g' => (x, e) ∈ g'.compiled := by
  intro e st h
  obtain ⟨s, hs, rfl⟩ := (PlanM.yields_ofSession _ _ _ _).1 h
  exact ⟨_, rfl, .single (.compile hx hs), List.mem_cons_self⟩

theorem texture {t : TextureDecl} (ht : c.Canvas t) :
    c.Runs g (PlanM.declare fun p => p.declareTexture t) fun _ _ => True := by
  intro a st h
  obtain ⟨plan, hplan, rfl⟩ := (PlanM.yields_declare _ _ _ _).1 h
  exact ⟨_, rfl, .single (.texture ht hplan), trivial⟩

theorem buffer (b : BufferDecl) : c.Runs g (PlanM.declare fun p => p.declareBuffer b) fun _ _ => True := by
  intro a st h
  obtain ⟨plan, hplan, rfl⟩ := (PlanM.yields_declare _ _ _ _).1 h
  exact ⟨_, rfl, .single (.buffer hplan), trivial⟩

theorem sampler (s : SamplerDecl) : c.Runs g (PlanM.declare fun p => p.declareSampler s) fun _ _ => True := by
  intro a st h
  obtain ⟨plan, hplan, rfl⟩ := (PlanM.yields_declare _ _ _ _).1 h
  exact ⟨_, rfl, .single (.sampler hplan), trivial⟩

theorem addPass {q : Pass} (hq : c.Plans g.state.session g.compiled q) :
    c.Runs g (PlanM.addPass q) fun _ _ => True := by
  intro a st h
  unfold PlanM.addPass at h
  simp only [yields_bind, yields_get] at h
  obtain ⟨_, _, ⟨rfl, rfl⟩, h⟩ := h
  split at h
  · exact absurd h (yields_throw _ _ _ _)
  · rename_i t ht
    simp only [yields_ite, yields_bind, yields_throw, false_and, exists_false, and_false, false_or, yields_set,
      PlanM.yields_debug] at h
    obtain ⟨_, _, _, rfl, rfl⟩ := h
    exact ⟨_, rfl, (Relation.ReflTransGen.single (.pass hq ht)).tail (.report _ _), trivial⟩

end Runs

/-! ## Textures -/

variable {g : PlanStage} {n : Node}

theorem upload_runs (hn : c.prepared.node? n.id = some n) {i : Image} (hi : c.Pictures i) :
    c.Runs g (c.upload n i) fun _ _ => True := by
  intro a st h
  unfold upload at h
  simp only [yields_bind, PlanM.yields_declare, yields_pure] at h
  obtain ⟨_, _, ⟨mid, hbuffer, rfl⟩, _, _, ⟨plan, htexture, rfl⟩, rfl, rfl⟩ := h
  exact ⟨_, rfl, .single (.upload hn hi hbuffer htexture), trivial⟩

theorem textTexture_runs (hn : c.prepared.node? n.id = some n) : c.Runs g (c.textTexture n) fun _ _ => True := by
  unfold textTexture
  split
  · rename_i i hi
    exact upload_runs hn (.baked hi)
  · split
    · rename_i i hi
      exact upload_runs hn (.text hi)
    · exact .throw

theorem imageTexture_runs (hn : c.prepared.node? n.id = some n) : c.Runs g (c.imageTexture n) fun _ _ => True := by
  unfold imageTexture
  dsimp only
  split
  · exact .bind (.report _) fun _ _ _ _ => upload_runs hn .placeholder
  · split
    · rename_i i hi
      exact upload_runs hn (.decoded hi)
    · exact .throw
    · exact .throw

theorem sourceTexture_runs (id : String) : c.Runs g (c.sourceTexture id) fun _ _ => True := by
  unfold sourceTexture
  split
  · exact .pure trivial
  · split
    · exact .throw
    · rename_i m hm
      have hself := Prepared.node?_self hm
      split
      · exact imageTexture_runs hself
      · exact textTexture_runs hself
      · exact .throw

theorem wiredTexture_runs : c.Runs g (c.wiredTexture n) fun _ _ => True := by
  refine .bind (.compile (.texture n)) fun e _ _ _ => .ite (fun _ => ?_) fun _ => sourceTexture_runs _
  exact .bind (R := fun _ _ => False) .throw fun _ _ _ h => h.elim

theorem bindingsFrom_runs (keys : List String) (i : Nat) : c.Runs g (c.bindingsFrom i keys) fun _ _ => True := by
  induction keys generalizing g i with
  | nil => exact .pure trivial
  | cons key rest ih =>
    unfold bindingsFrom
    refine .bind .get fun st g' _ _ => ?_
    split
    · exact ih _
    · exact .bind (sourceTexture_runs _) fun _ _ _ _ => .bind (.sampler _) fun _ _ _ _ =>
        .bind (ih _) fun _ _ _ _ => .pure trivial

/-! ## Draw passes -/

theorem withGeometry_runs (geometry : Geometry) (q : Pass) : c.Runs g (c.withGeometry geometry q) fun q' _ =>
    q'.bindings = q.bindings ∧ q'.isAnimated = q.isAnimated := by
  refine .ite (fun _ => .pure ⟨rfl, rfl⟩) fun _ => .bind (.buffer _) fun _ _ _ _ => ?_
  exact .ite (fun _ => .pure ⟨rfl, rfl⟩) fun _ => .bind (.buffer _) fun _ _ _ _ => .pure ⟨rfl, rfl⟩

theorem renderPass_runs {r : Route} (hr : c.routes.route? n.id = some r) :
    c.Runs g (c.renderPass n r) fun _ _ => True := by
  refine .bind (.compile (.color n)) fun color g₁ _ hcolor => ?_
  refine .bind (.compile (.transform n)) fun transform g₂ h₂ htransform => ?_
  refine .bind .ofExpr fun blend g₃ h₃ _ => .bind (bindingsFrom_runs _ _) fun bindings g₄ h₄ _ => ?_
  refine .bind (withGeometry_runs _ _) fun q g₅ h₅ hq => .bind .get fun st g₆ _ hst => ?_
  obtain ⟨rfl, rfl⟩ := hst
  have hkept : c.Steps g₂ g₆ := (h₃.trans h₄).trans h₅
  refine .addPass (.draw hr (hkept.compiled (h₂.compiled hcolor)) (hkept.compiled htransform) hq.2 ?_)
  simp only [hq.1]

/-! ## Effect passes -/

theorem effect_runs {e : Effect} (hbody : Effect.Body g.compiled e.body) : c.Runs g e.plan fun _ _ => True := by
  have hsamplers : ∀ (inputs : List EffectInput) (g : PlanStage),
      c.Runs g (Effect.declareSamplers inputs) fun _ _ => True := by
    intro inputs
    induction inputs with
    | nil => exact fun _ => .pure trivial
    | cons i rest ih => exact fun _ => .bind (.sampler _) fun _ _ _ _ => ih _
  exact .bind (hsamplers _ _) fun _ _ hsteps _ => .addPass (.effect (hbody.mono hsteps.compiled))

theorem scratch_runs {r : Route} (hr : c.routes.route? n.id = some r) (name : String) {divisor : Int}
    (hdivisor : 1 ≤ divisor) : c.Runs g (scratch n name r divisor) fun _ _ => True := by
  unfold scratch
  split
  · exact .throw
  · exact .texture (.scratch hr hdivisor name _)

theorem blit_runs (r : Route) : c.Runs g (c.blit n r) fun _ _ => True :=
  .bind wiredTexture_runs fun _ _ _ _ => .bind .ofExpr fun _ _ _ _ => effect_runs .copy

theorem blurRounds_runs {node param : String} {values : List Float} {radius : ShaderExpr} (first second : String)
    (rounds i : Nat) (source : String) (h : (SessionM.constant node param values .float, radius) ∈ g.compiled) :
    c.Runs g (blurRounds n first second radius.code rounds i source) fun _ _ => True := by
  induction rounds generalizing g i source with
  | zero => exact .pure trivial
  | succ rounds ih =>
    refine .bind (effect_runs (.blur (.inl rfl) h)) fun _ _ h₁ _ => ?_
    have hrows := h₁.compiled h
    exact .bind (effect_runs (.blur (.inr rfl) hrows)) fun _ _ h₂ _ => ih _ _ (h₂.compiled hrows)

theorem blur_runs {r : Route} (hr : c.routes.route? n.id = some r) : c.Runs g (c.blur n r) fun _ _ => True := by
  refine .bind wiredTexture_runs fun _ _ _ _ => .bind .ofExpr fun _ _ _ _ => ?_
  refine .bind (.compile (.constant _ (by simp) _)) fun radius g₁ _ hradius => ?_
  have hdivisor : 1 ≤ max (n.intOr "downscale" 1) 1 := le_max_right _ _
  refine .bind (scratch_runs hr _ hdivisor) fun _ _ h₁ _ => .bind (scratch_runs hr _ hdivisor) fun _ _ h₂ _ => ?_
  refine .bind (blurRounds_runs _ _ _ _ _ (h₂.compiled (h₁.compiled hradius))) fun _ _ _ _ => ?_
  exact effect_runs .copy

theorem planAll_runs {es : List Effect} (h : ∀ e ∈ es, Effect.Body g.compiled e.body) :
    c.Runs g (planAll es) fun _ _ => True := by
  induction es generalizing g with
  | nil => exact .pure trivial
  | cons e rest ih =>
    rw [List.forall_mem_cons] at h
    exact .bind (effect_runs h.1) fun _ _ hsteps _ => ih fun e he => (h.2 e he).mono hsteps.compiled

theorem bloomLevels_runs {r : Route} (hr : c.routes.route? n.id = some r) (name : String) (levels : List Nat) :
    c.Runs g (bloomLevels n name r levels) fun _ _ => True := by
  induction levels generalizing g with
  | nil => exact .pure trivial
  | cons i rest ih =>
    have hdivisor : (1 : Int) ≤ (Nat.pow 2 (i + 1) : Nat) := by exact_mod_cast Nat.two_pow_pos (i + 1)
    exact .bind (scratch_runs hr _ hdivisor) fun _ _ _ _ => ih

theorem bloom_runs {r : Route} (hr : c.routes.route? n.id = some r) : c.Runs g (c.bloom n r) fun _ _ => True := by
  refine .bind wiredTexture_runs fun _ _ _ _ => .bind .ofExpr fun _ _ _ _ => ?_
  refine .bind (.compile (.constant _ (by simp) _)) fun threshold g₁ _ hthreshold => ?_
  refine .bind (.compile (.constant _ (by simp) _)) fun intensity g₂ h₂ hintensity => ?_
  refine .bind (bloomLevels_runs hr _ _) fun _ g₃ h₃ _ => ?_
  refine .bind (effect_runs (.extract (h₃.compiled (h₂.compiled hthreshold)))) fun _ g₄ h₄ _ => ?_
  refine .bind (planAll_runs ?_) fun _ g₅ h₅ _ => .bind (planAll_runs ?_) fun _ g₆ h₆ _ => ?_
  · simpa [stage] using fun _ _ => Effect.Body.down
  · simpa [stage] using fun _ _ => Effect.Body.copy
  · have hkept : c.Steps g₂ g₆ := ((h₃.trans h₄).trans h₅).trans h₆
    exact effect_runs (.combine (hkept.compiled hintensity))

/-! ## Turns of nodes -/

theorem markDrawn_runs (id : String) : c.Runs g (markDrawn id) fun _ _ => True := by
  intro isDrawn st h
  rcases (yields_markDrawn id isDrawn).1 h with ⟨_, _, rfl⟩ | ⟨_, _, rfl⟩
  · exact ⟨g, rfl, .refl, trivial⟩
  · exact ⟨_, rfl, .single (.mark g _ _), trivial⟩

theorem routeOf_runs (id : String) : c.Runs g (c.routeOf id) fun r _ => c.routes.route? id = some r := by
  intro r st h
  obtain ⟨hr, rfl⟩ := (yields_routeOf id r).1 h
  exact ⟨g, rfl, .refl, hr⟩

theorem draw_runs (n : Node) : c.Runs g (c.draw n) fun _ _ => True := by
  refine .bind (markDrawn_runs _) fun _ _ _ _ => .ite (fun _ => .pure trivial) fun _ => ?_
  refine .bind (routeOf_runs _) fun r _ _ hr => ?_
  split
  · exact renderPass_runs hr
  · exact blit_runs r
  · exact blur_runs hr
  · exact bloom_runs hr
  · exact .throw

theorem compose_runs (layer : String) (source target : Domain) :
    c.Runs g (compose layer source n target) fun _ _ => True := by
  refine .bind .get fun st g' _ hst => ?_
  obtain ⟨rfl, rfl⟩ := hst
  refine .ite (fun _ => .report _) fun _ => ?_
  have hmark : c.Runs g' (set { g'.state with copied := (layer, target.node) :: g'.state.copied }) fun _ _ => True := by
    intro _ st h
    obtain rfl := (yields_set _ _ _ _).1 h
    exact ⟨_, rfl, .single (.mark g' _ _), trivial⟩
  exact .bind hmark fun _ _ _ _ => .bind .ofExpr fun _ _ _ _ => effect_runs .copy

theorem layers_runs {inner : Node → PlanM Unit} (hinner : ∀ n g, c.Runs g (inner n) fun _ _ => True) (r : Route)
    (ls : List Layer) : c.Runs g (c.layers inner n r ls) fun _ _ => True := by
  have hlayer : ∀ l g, c.Runs g (c.layer inner n r l) fun _ _ => True := by
    intro l g
    unfold layer
    split
    · refine .ite (fun _ => .ite (fun _ => hinner _ _) fun _ => ?_) fun _ => compose_runs _ _ _
      exact .ite (fun _ => draw_runs _) fun _ => .pure trivial
    · exact .pure trivial
  induction ls generalizing g with
  | nil => exact .pure trivial
  | cons l rest ih => exact .bind (hlayer l g) fun _ _ _ _ => ih

theorem compositeWithin_runs (depth : Nat) (n : Node) : c.Runs g (c.compositeWithin depth n) fun _ _ => True := by
  induction depth generalizing g n with
  | zero => exact .pure trivial
  | succ depth ih =>
    refine .bind (markDrawn_runs _) fun _ _ _ _ => .ite (fun _ => .pure trivial) fun _ => ?_
    exact .bind (routeOf_runs _) fun r _ _ _ => layers_runs (fun n _ => ih n) r _

theorem node_runs (n : Node) : c.Runs g (c.node n) fun _ _ => True := by
  unfold node
  refine .ite (fun _ => .ite (fun _ => .pure trivial) fun _ => compositeWithin_runs _ n) fun _ => ?_
  refine .ite (fun _ => ?_) fun _ => ?_
  · split
    · exact .ite (fun _ => draw_runs n) fun _ => .pure trivial
    · exact .pure trivial
  · refine .ite (fun _ => .bind .get fun _ _ _ _ => .ite (fun _ => .pure trivial) fun _ => ?_) fun _ => .pure trivial
    exact .addPass (.clear rfl rfl)

theorem nodes_runs (ids : List String) : c.Runs g (c.nodes ids) fun _ _ => True := by
  induction ids generalizing g with
  | nil => exact .pure trivial
  | cons id rest ih =>
    unfold nodes
    cases c.prepared.node? id with
    | none => exact ih
    | some n => exact .bind (node_runs n) fun _ _ _ _ => ih

/-! ## Whole plans -/

theorem declareTargets_runs (ids : List String) : c.Runs g (c.declareTargets ids) fun _ _ => True := by
  induction ids generalizing g with
  | nil => exact .pure trivial
  | cons id rest ih =>
    unfold declareTargets
    split
    · rename_i d n hd hn
      have htarget : c.Runs g (declareTarget n d) fun _ _ => True := by
        unfold declareTarget
        split
        · exact .throw
        · exact .texture (.target hd hn _)
      exact .bind htarget fun _ _ _ _ => ih
    · exact ih

theorem present_runs : c.Runs g c.present fun _ _ => True := by
  refine .ite (fun _ => .pure trivial) fun _ => .bind (.texture .present) fun _ g' _ _ => ?_
  have hshow : c.Runs g' (modify fun st => { st with plan := { st.plan with presentTexture := presentTextureName } })
      fun _ _ => True := by
    intro _ st h
    obtain rfl := (yields_modify _ _ _ _).1 h
    exact ⟨_, rfl, .single (.shown g'), trivial⟩
  exact .bind hshow fun _ _ _ _ => effect_runs .display

/-- The plan has the constants of the session. -/
def HasParams (g : PlanStage) : Prop := g.state.plan.params = paramsOf g.state.session.params

theorem declareParams_runs : c.Runs g declareParams fun _ => HasParams := by
  intro a st h
  unfold declareParams at h
  simp only [yields_bind, yields_get, yields_set, PlanM.yields_declare] at h
  obtain ⟨_, _, ⟨rfl, rfl⟩, _, _, rfl, plan, hbuffer, rfl⟩ := h
  have hset : c.Step g { g with state := { g.state with plan := { g.state.plan with
      params := paramsOf g.state.session.params } } } := .params g
  refine ⟨⟨_, g.compiled⟩, rfl, (Relation.ReflTransGen.single hset).tail (.buffer hbuffer), ?_⟩
  rcases Plan.declareBuffer_eq_ok hbuffer with ⟨_, _, _, rfl⟩ | ⟨_, rfl⟩ <;> rfl

theorem buildAll_runs : c.Runs g c.buildAll fun _ => HasParams := by
  refine .bind (declareTargets_runs _) fun _ _ _ _ => .bind (nodes_runs _) fun _ _ _ _ => ?_
  refine .bind present_runs fun _ _ _ _ => .bind declareParams_runs fun _ g' _ hparams =>
    .bind .get fun st g'' _ hst => ?_
  obtain ⟨rfl, rfl⟩ := hst
  intro a st h
  obtain rfl := (PlanM.yields_report _ _ _ _).1 h
  exact ⟨_, rfl, .single (.report g'' _), hparams⟩

/-- Every plan is built in elementary steps, to a stage where it has the constants of the session. -/
theorem stages_of_build {plan : Plan} (h : c.build.outcome.1 = .ok plan) :
    ∃ g, g.state.plan = plan ∧ c.Steps ⟨{ plan := c.emptyPlan }, []⟩ g ∧ HasParams g := by
  obtain ⟨st, hrun, rfl⟩ := (build_eq_ok _ plan).1 h
  obtain ⟨g, rfl, hsteps, hparams⟩ := buildAll_runs (g := ⟨_, []⟩) _ _ hrun
  exact ⟨g, rfl, hsteps, hparams⟩

/-- Every plan is built in elementary steps. -/
theorem steps_of_build {plan : Plan} (h : c.build.outcome.1 = .ok plan) :
    ∃ g, g.state.plan = plan ∧ c.Steps ⟨{ plan := c.emptyPlan }, []⟩ g := by
  obtain ⟨g, hplan, hsteps, -⟩ := stages_of_build h
  exact ⟨g, hplan, hsteps⟩

end PlanContext

end SceneGraph
