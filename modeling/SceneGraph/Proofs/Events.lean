import SceneGraph.Proofs.Draws

/-!
# Events of planning

The passes that a draw node adds to the plan are a list of sketches that depends only on the node, its
route and the textures that it samples.

So planning the nodes of a scene is a sequence of events: a composition is begun, a draw node is drawn, a
layer is copied, a target is cleared.

* `Effect.plan_planned`: an effect over declared textures is one pass.
* `PlanContext.drawSketches`: the passes of a draw node.
* `PlanContext.draw_planned`: drawing a node adds exactly these, unless the node has been drawn.
* `Event`: what planning does at one point, with the passes that it adds.
* `Event.Formed`: the event fits the scene and its routes.
* `PlanState.Emits`: a run made of given events.
-/
set_option autoImplicit false

namespace SceneGraph

open PlanState

variable {c : PlanContext} {st st' : PlanState} {n : Node}

/-! ## Single effects -/

namespace Effect

/-- The textures of an effect are declared, and its inputs have different names. -/
structure Declared (plan : Plan) (e : Effect) : Prop where
  target : ∃ t, plan.texture? e.target = some t ∧ t.upload = ""
  inputs : ∀ i ∈ e.inputs, ∃ t, plan.texture? i.texture = some t
  names : (e.inputs.map EffectInput.name).Nodup

theorem Declared.mono {plan plan' : Plan} {e : Effect} (h : e.Declared plan) (hgrows : plan.Grows plan') :
    e.Declared plan' where
  target := by
    obtain ⟨t, ht, hupload⟩ := h.target
    exact ⟨t, hgrows.texture? ht, hupload⟩
  inputs i hi := by
    obtain ⟨t, ht⟩ := h.inputs i hi
    exact ⟨t, hgrows.texture? ht⟩
  names := h.names

theorem declareSamplers_planned {inputs : List EffectInput} {u : Unit} (hst : Ready c st)
    (h : Yields (declareSamplers inputs) st u st') :
    Planned c st st' [] ∧ ∀ i ∈ inputs, st'.plan.sampler? i.sampler.toDecl.name = some i.sampler.toDecl := by
  induction inputs generalizing st with
  | nil =>
    obtain ⟨_, rfl⟩ := (yields_pure _ _ _ _).1 h
    exact ⟨.refl hst, by simp⟩
  | cons i rest ih =>
    unfold declareSamplers at h
    simp only [yields_bind] at h
    obtain ⟨_, st₁, hi, hrest⟩ := h
    obtain ⟨h₁, hdeclared⟩ := PlanM.declareSampler_planned hst hi
    obtain ⟨h₂, hmore⟩ := ih h₁.ready hrest
    refine ⟨h₁.next h₂, ?_⟩
    intro j hj
    rcases List.mem_cons.1 hj with rfl | hj
    · exact h₂.adds.grows.sampler? hdeclared
    · exact hmore j hj

theorem map_bindings {γ : Type} (inputs : List EffectInput) (f : TextureBinding → γ) (g : EffectInput → γ)
    (h : ∀ i input, f (binding i input) = g input) :
    (inputs.zipIdx.map fun (input, i) => binding i input).map f = inputs.map g := by
  have hcomp : f ∘ (fun (input, i) => binding i input) = g ∘ Prod.fst := by
    funext ⟨input, i⟩
    exact h i input
  rw [List.map_map, hcomp, ← List.map_map, List.zipIdx_map_fst]

theorem bindings_fit {plan : Plan} {e : Effect} (hdeclared : e.Declared plan)
    (hsamplers : ∀ i ∈ e.inputs, plan.sampler? i.sampler.toDecl.name = some i.sampler.toDecl) {ps : Pass}
    (hbindings : ps.bindings = e.inputs.zipIdx.map fun (input, i) => binding i input)
    (hvertex : ps.vertexBuffer = "") (hinstance : ps.instanceBuffer = "") : plan.PassFits ps := by
  have hmem : ∀ b ∈ ps.bindings, ∃ i, ∃ input ∈ e.inputs, b = binding i input := by
    intro b hb
    rw [hbindings] at hb
    obtain ⟨⟨input, i⟩, hi, rfl⟩ := List.mem_map.1 hb
    exact ⟨i, input, List.fst_mem_of_mem_zipIdx hi, rfl⟩
  have hvars : ∀ x : String, (e.inputs.map fun i => x ++ i.name).Nodup := by
    intro x
    have hinj : Function.Injective fun y : String => x ++ y := fun a b hab => (String.append_right_inj x).1 hab
    have := List.Nodup.map hinj hdeclared.names
    rwa [List.map_map] at this
  refine ⟨?_, ?_, ?_, ?_, fun h => absurd hvertex h, fun h => absurd hinstance h⟩
  · intro b hb
    obtain ⟨i, input, hinput, rfl⟩ := hmem b hb
    exact hdeclared.inputs input hinput
  · intro b hb
    obtain ⟨i, input, hinput, rfl⟩ := hmem b hb
    exact ⟨_, hsamplers input hinput⟩
  · intro i b hb
    rw [hbindings] at hb
    simp only [List.getElem?_map, List.getElem?_zipIdx, Option.map_map, Option.map_eq_some_iff] at hb
    obtain ⟨input, _, rfl⟩ := hb
    simp [binding, PlanContext.bindingNumber]
  · rw [hbindings, map_bindings e.inputs TextureBinding.textureVar (fun i => Code.textureVar i.name) fun _ _ => rfl,
      map_bindings e.inputs TextureBinding.samplerVar (fun i => Code.samplerVar i.name) fun _ _ => rfl,
      List.nodup_append]
    refine ⟨hvars _, hvars _, ?_⟩
    intro x hx y hy
    obtain ⟨a, _, rfl⟩ := List.mem_map.1 hx
    obtain ⟨b, _, rfl⟩ := List.mem_map.1 hy
    exact PlanContext.textureVar_ne_samplerVar _ _

theorem plan_planned {e : Effect} {u : Unit} (hst : Ready c st) (hdeclared : e.Declared st.plan)
    (h : Yields e.plan st u st') : ∃ q, Planned c st st' [q] ∧ q.sketch = e.sketch := by
  unfold plan at h
  simp only [yields_bind] at h
  obtain ⟨_, st₁, hsamplers, hadd⟩ := h
  obtain ⟨h₁, hall⟩ := declareSamplers_planned hst hsamplers
  have hd := hdeclared.mono h₁.adds.grows
  obtain ⟨q, h₂, hq⟩ := PlanM.addPass_planned h₁.ready hadd (bindings_fit hd hall rfl rfl rfl) hd.target
  refine ⟨q, h₁.next h₂, hq.trans ?_⟩
  simp only [Pass.sketch, sketch, map_bindings e.inputs TextureBinding.texture EffectInput.texture fun _ _ => rfl]

end Effect

namespace PlanContext

/-! ## Lists of effects -/

theorem planAll_planned {es : List Effect} {u : Unit} (hst : Ready c st)
    (hdeclared : ∀ e ∈ es, e.Declared st.plan) (h : Yields (planAll es) st u st') :
    ∃ ps, Planned c st st' ps ∧ ps.map Pass.sketch = es.map Effect.sketch := by
  induction es generalizing st with
  | nil =>
    obtain ⟨_, rfl⟩ := (yields_pure _ _ _ _).1 h
    exact ⟨[], .refl hst, rfl⟩
  | cons e rest ih =>
    unfold planAll at h
    simp only [yields_bind] at h
    obtain ⟨_, st₁, he, hrest⟩ := h
    obtain ⟨q, h₁, hq⟩ := Effect.plan_planned hst (hdeclared e List.mem_cons_self) he
    obtain ⟨ps, h₂, hps⟩ := ih h₁.ready
      (fun e' he' => (hdeclared e' (List.mem_cons_of_mem e he')).mono h₁.adds.grows) hrest
    exact ⟨q :: ps, h₁.trans h₂, by rw [List.map_cons, List.map_cons, hq, hps]⟩

theorem scratch_planned {name : String} {r : Route} {divisor : Int} {u : Unit} (hst : Ready c st)
    (h : Yields (scratch n name r divisor) st u st') :
    Planned c st st' [] ∧ ∃ t, st'.plan.texture? name = some t ∧ t.upload = "" := by
  unfold scratch at h
  split at h
  · exact absurd h (yields_throw _ _ _ _)
  · exact PlanM.declareTexture_planned hst (fun hne => absurd rfl hne) h

theorem stage_declared {plan : Plan} {kind : PassKind} {label source target : String}
    {body : List ShaderStatement} {blend : Option BlendState}
    (hsource : ∃ t, plan.texture? source = some t) (htarget : ∃ t, plan.texture? target = some t ∧ t.upload = "") :
    (stage n kind label source target body blend).Declared plan :=
  ⟨htarget, by simpa [stage] using hsource, by simp [stage]⟩

/-! ## Blits -/

theorem blit_planned (hc : c.Valid) (hn : c.prepared.node? n.id = some n) (hst : Ready c st) {r : Route}
    (hr : c.routes.textures.get? r.domain.node = some r.domain) {u : Unit} (h : Yields (c.blit n r) st u st') :
    ∃ q source, Planned c st st' [q] ∧
      q.sketch = ⟨"blit:" ++ n.id, .blit, [n.id], r.domain.texture, [source]⟩ ∧
      c.Samples st'.plan n.id source := by
  unfold blit at h
  simp only [yields_bind, PlanM.yields_ofExpr] at h
  obtain ⟨source, st₁, hsource, blend, _, ⟨_, rfl⟩, hplan⟩ := h
  obtain ⟨h₁, hsamples⟩ := wiredTexture_planned hc hn hst hsource
  obtain ⟨q, h₂, hq⟩ := Effect.plan_planned h₁.ready
    ⟨h₁.ready.targets _ _ hr, by simpa using hsamples.declared h₁.ready, by simp⟩ hplan
  exact ⟨q, source, h₁.next h₂, hq, hsamples.mono h₂.adds.grows⟩

/-! ## Blurs -/

/-- The sketch of a pass of a node from some textures to another. -/
def stageSketch (n : Node) (kind : PassKind) (label : String) (reads : List String) (target : String) : Sketch :=
  ⟨kind.name ++ ":" ++ n.id ++ ":" ++ label, kind, [n.id], target, reads⟩

theorem stage_planned {kind : PassKind} {label source target : String} {body : List ShaderStatement}
    {blend : Option BlendState} {u : Unit} (hst : Ready c st) (hsource : ∃ t, st.plan.texture? source = some t)
    (htarget : ∃ t, st.plan.texture? target = some t ∧ t.upload = "")
    (h : Yields (stage n kind label source target body blend).plan st u st') :
    ∃ q, Planned c st st' [q] ∧ q.sketch = stageSketch n kind label [source] target :=
  Effect.plan_planned hst (stage_declared hsource htarget) h

/-- The passes of the rounds of a blur. -/
def blurRoundSketches (n : Node) (first second : String) : Nat → Nat → List String → List Sketch
  | 0, _, _ => []
  | rounds + 1, i, reads =>
    stageSketch n .blur s!"h{i}" reads first :: stageSketch n .blur s!"v{i}" [first] second ::
      blurRoundSketches n first second rounds (i + 1) [second]

theorem blurRounds_planned {first second source : String} {radius : Code} {rounds i : Nat} {u : Unit}
    (hst : Ready c st) (hfirst : ∃ t, st.plan.texture? first = some t ∧ t.upload = "")
    (hsecond : ∃ t, st.plan.texture? second = some t ∧ t.upload = "")
    (hsource : ∃ t, st.plan.texture? source = some t)
    (h : Yields (blurRounds n first second radius rounds i source) st u st') :
    ∃ ps, Planned c st st' ps ∧ ps.map Pass.sketch = blurRoundSketches n first second rounds i [source] := by
  induction rounds generalizing i source st with
  | zero =>
    obtain ⟨_, rfl⟩ := (yields_pure _ _ _ _).1 h
    exact ⟨[], .refl hst, rfl⟩
  | succ rounds ih =>
    unfold blurRounds at h
    simp only [yields_bind] at h
    obtain ⟨_, st₁, hrow, _, st₂, hcolumn, hrest⟩ := h
    obtain ⟨a, ha, hup⟩ := hfirst
    obtain ⟨b, hb, hup'⟩ := hsecond
    obtain ⟨q₁, h₁, hq₁⟩ := stage_planned hst hsource ⟨a, ha, hup⟩ hrow
    obtain ⟨q₂, h₂, hq₂⟩ := stage_planned h₁.ready ⟨a, h₁.adds.grows.texture? ha⟩
      ⟨b, h₁.adds.grows.texture? hb, hup'⟩ hcolumn
    have hgrows := (h₁.trans h₂).adds.grows
    obtain ⟨ps, h₃, hps⟩ := ih h₂.ready ⟨a, hgrows.texture? ha, hup⟩ ⟨b, hgrows.texture? hb, hup'⟩
      ⟨b, hgrows.texture? hb⟩ hrest
    refine ⟨q₁ :: q₂ :: ps, h₁.trans (h₂.trans h₃), ?_⟩
    simp only [List.map_cons, hq₁, hq₂, hps]
    rfl

def blurCount (n : Node) : Nat := (max (n.intOr "iterations" 2) 1).toNat

/-- The scratch texture of a blur for rows. -/
def blurFirst (c : PlanContext) (n : Node) : String := c.prepared.nameOf n.id ++ "_blur_a"

/-- The scratch texture of a blur for columns. -/
def blurSecond (c : PlanContext) (n : Node) : String := c.prepared.nameOf n.id ++ "_blur_b"

def blurSketches (c : PlanContext) (n : Node) (sources : List String) (target : String) : List Sketch :=
  blurRoundSketches n (c.blurFirst n) (c.blurSecond n) (blurCount n) 0 sources ++
    [stageSketch n .blur "out" [c.blurSecond n] target]

theorem constant_planned {node param : String} {values : List Float} {type : ValueType} {s : Session}
    {e : ShaderExpr} (hst : Ready c st) (htype : type ≠ .texture)
    (h : Yields (SessionM.constant node param values type) st.session e s) :
    Planned c st { st with session := s } [] := by
  have hcompiled := (Session.Compiled.refl node hst.sound).constant htype h
  exact PlanM.session_planned hst hcompiled.sound hcompiled.grows

theorem blur_planned (hc : c.Valid) (hn : c.prepared.node? n.id = some n) (hst : Ready c st) {r : Route}
    (hr : c.routes.textures.get? r.domain.node = some r.domain) {u : Unit} (h : Yields (c.blur n r) st u st') :
    ∃ ps source, Planned c st st' ps ∧ c.Samples st'.plan n.id source ∧
      ps.map Pass.sketch = c.blurSketches n [source] r.domain.texture := by
  unfold blur at h
  simp only [yields_bind, PlanM.yields_ofExpr, PlanM.yields_ofSession] at h
  obtain ⟨source, st₁, hsource, blend, _, ⟨_, rfl⟩, radius, _, ⟨s₂, hs₂, rfl⟩, _, st₃, hfirst, _, st₄, hsecond, _, st₅,
    hrounds, hout⟩ := h
  obtain ⟨h₁, hsamples⟩ := wiredTexture_planned hc hn hst hsource
  have h₂ := constant_planned h₁.ready (by simp) hs₂
  obtain ⟨h₃, t, ht, htup⟩ := scratch_planned h₂.ready hfirst
  obtain ⟨h₄, t', ht', htup'⟩ := scratch_planned h₃.ready hsecond
  have hsamples₄ := hsamples.mono (h₂.next (h₃.next h₄)).adds.grows
  obtain ⟨ps, h₅, hps⟩ := blurRounds_planned h₄.ready ⟨t, h₄.adds.grows.texture? ht, htup⟩ ⟨t', ht', htup'⟩
    (hsamples₄.declared h₄.ready) hrounds
  obtain ⟨q, h₆, hq⟩ := stage_planned h₅.ready ⟨t', h₅.adds.grows.texture? ht'⟩ (h₅.ready.targets _ _ hr) hout
  refine ⟨ps ++ [q], source, h₁.next (h₂.next (h₃.next (h₄.next (h₅.trans h₆)))),
    hsamples₄.mono (h₅.trans h₆).adds.grows, ?_⟩
  rw [List.map_append, hps, List.map_singleton, hq]
  rfl

/-! ## Blooms -/

def bloomCount (n : Node) : Nat := (min (max (n.intOr "levels" 4) 1) 8).toNat

/-- The scratch texture of a level of a bloom. -/
def bloomLevel (c : PlanContext) (n : Node) (i : Nat) : String := s!"{c.prepared.nameOf n.id}_bloom_{i}"

theorem bloomCount_pos (n : Node) : 0 < bloomCount n := by
  unfold bloomCount
  omega

theorem bloomLevels_planned {r : Route} {levels : List Nat} {u : Unit} (hst : Ready c st)
    (h : Yields (bloomLevels n (c.prepared.nameOf n.id) r levels) st u st') :
    Planned c st st' [] ∧ ∀ i ∈ levels, ∃ t, st'.plan.texture? (c.bloomLevel n i) = some t ∧ t.upload = "" := by
  induction levels generalizing st with
  | nil =>
    obtain ⟨_, rfl⟩ := (yields_pure _ _ _ _).1 h
    exact ⟨.refl hst, by simp⟩
  | cons i rest ih =>
    unfold bloomLevels at h
    simp only [yields_bind] at h
    obtain ⟨_, st₁, hi, hrest⟩ := h
    obtain ⟨h₁, t, ht, hupload⟩ := scratch_planned hst hi
    obtain ⟨h₂, hmore⟩ := ih h₁.ready hrest
    refine ⟨h₁.next h₂, ?_⟩
    intro j hj
    rcases List.mem_cons.1 hj with rfl | hj
    · exact ⟨t, h₂.adds.grows.texture? ht, hupload⟩
    · exact hmore j hj

/-- The passes of a bloom that go down the levels. -/
def bloomDown (c : PlanContext) (n : Node) : List Sketch :=
  (List.range (bloomCount n - 1)).map fun i =>
    stageSketch n .bloom s!"down{i + 1}" [c.bloomLevel n i] (c.bloomLevel n (i + 1))

/-- The passes of a bloom that go up the levels. -/
def bloomUp (c : PlanContext) (n : Node) : List Sketch :=
  (List.range (bloomCount n - 1)).reverse.map fun i =>
    stageSketch n .bloom s!"up{i + 1}" [c.bloomLevel n (i + 1)] (c.bloomLevel n i)

def bloomSketches (c : PlanContext) (n : Node) (sources : List String) (target : String) : List Sketch :=
  stageSketch n .bloom "extract" sources (c.bloomLevel n 0) :: (c.bloomDown n ++ c.bloomUp n ++
    [stageSketch n .bloom "combine" (sources ++ [c.bloomLevel n 0]) target])

theorem bloom_planned (hc : c.Valid) (hn : c.prepared.node? n.id = some n) (hst : Ready c st) {r : Route}
    (hr : c.routes.textures.get? r.domain.node = some r.domain) {u : Unit} (h : Yields (c.bloom n r) st u st') :
    ∃ ps source, Planned c st st' ps ∧ c.Samples st'.plan n.id source ∧
      ps.map Pass.sketch = c.bloomSketches n [source] r.domain.texture := by
  unfold bloom at h
  simp only [yields_bind, PlanM.yields_ofExpr, PlanM.yields_ofSession] at h
  obtain ⟨source, st₁, hsource, blend, _, ⟨_, rfl⟩, threshold, _, ⟨s₂, hs₂, rfl⟩, intensity, _, ⟨s₃, hs₃, rfl⟩, _, st₄,
    hlevels, _, st₅, hextract, _, st₆, hdown, _, st₇, hup, hcombine⟩ := h
  obtain ⟨h₁, hsamples⟩ := wiredTexture_planned hc hn hst hsource
  have h₂ := constant_planned h₁.ready (by simp) hs₂
  have h₃ := constant_planned h₂.ready (by simp) hs₃
  obtain ⟨h₄, hlevel⟩ := bloomLevels_planned h₃.ready hlevels
  have hlevel' : ∀ i < bloomCount n, ∃ t, st₄.plan.texture? (c.bloomLevel n i) = some t ∧ t.upload = "" :=
    fun i hi => hlevel i (List.mem_range.2 hi)
  have hplain : ∀ i < bloomCount n, ∃ t, st₄.plan.texture? (c.bloomLevel n i) = some t := by
    intro i hi
    obtain ⟨t, ht, _⟩ := hlevel' i hi
    exact ⟨t, ht⟩
  have hsamples₄ := hsamples.mono (h₂.next (h₃.next h₄)).adds.grows
  have hpos := bloomCount_pos n
  obtain ⟨q₅, h₅, hq₅⟩ := Effect.plan_planned h₄.ready
    (stage_declared (hsamples₄.declared h₄.ready) (hlevel' 0 hpos)) hextract
  obtain ⟨ps₆, h₆, hps₆⟩ := planAll_planned h₅.ready (by
    intro e he
    obtain ⟨i, hi, rfl⟩ := List.mem_map.1 he
    have hi' : i < bloomCount n - 1 := List.mem_range.1 hi
    exact (stage_declared (hplain i (by omega)) (hlevel' (i + 1) (by omega))).mono h₅.adds.grows) hdown
  obtain ⟨ps₇, h₇, hps₇⟩ := planAll_planned h₆.ready (by
    intro e he
    obtain ⟨i, hi, rfl⟩ := List.mem_map.1 he
    have hi' : i < bloomCount n - 1 := List.mem_range.1 (List.mem_reverse.1 hi)
    exact (stage_declared (hplain (i + 1) (by omega)) (hlevel' i (by omega))).mono
      (h₅.trans h₆).adds.grows) hup
  have hgrows := (h₅.trans (h₆.trans h₇)).adds.grows
  obtain ⟨q₈, h₈, hq₈⟩ := Effect.plan_planned h₇.ready ⟨h₇.ready.targets _ _ hr, by
    intro i hi
    simp only [stage, List.cons_append, List.nil_append, List.mem_cons, List.not_mem_nil, or_false] at hi
    rcases hi with rfl | rfl
    · exact (hsamples₄.mono hgrows).declared h₇.ready
    · obtain ⟨t, ht⟩ := hplain 0 hpos
      exact ⟨t, hgrows.texture? ht⟩, by simp [stage]⟩ hcombine
  have hall := h₁.next (h₂.next (h₃.next (h₄.next (h₅.trans (h₆.trans (h₇.trans h₈))))))
  refine ⟨_, source, hall, hsamples₄.mono (h₅.trans (h₆.trans (h₇.trans h₈))).adds.grows, ?_⟩
  simp only [List.map_append, List.map_cons, List.map_nil, hq₅, hps₆, hps₇, hq₈, List.map_map]
  rw [bloomSketches, List.append_assoc]
  rfl

/-! ## Draw nodes -/

/-- The passes of a draw node that samples given textures from upstream. -/
def drawSketches (c : PlanContext) (n : Node) (target : String) (sources : List String) : List Sketch :=
  match n.type with
  | "RenderPass" => [⟨"draw:" ++ n.id, .draw, [n.id], target, sources⟩]
  | "Blit" => [⟨"blit:" ++ n.id, .blit, [n.id], target, sources⟩]
  | "Blur" => c.blurSketches n sources target
  | "Bloom" => c.bloomSketches n sources target
  | _ => []

@[simp]
theorem yields_markDrawn (id : String) (isDrawn : Bool) :
    Yields (markDrawn id) st isDrawn st' ↔
      (id ∈ st.drawn ∧ isDrawn = true ∧ st' = st) ∨
        (id ∉ st.drawn ∧ isDrawn = false ∧ st' = { st with drawn := id :: st.drawn }) := by
  unfold markDrawn
  simp only [yields_bind, yields_get, yields_ite, yields_pure, yields_set, List.contains_iff_mem]
  constructor
  · rintro ⟨_, _, ⟨rfl, rfl⟩, ⟨hmem, h⟩ | ⟨hmem, _, _, rfl, rfl, rfl⟩⟩
    · exact .inl ⟨hmem, h⟩
    · exact .inr ⟨hmem, rfl, rfl⟩
  · rintro (⟨hmem, h⟩ | ⟨hmem, rfl, rfl⟩)
    · exact ⟨st, st, ⟨rfl, rfl⟩, .inl ⟨hmem, h⟩⟩
    · exact ⟨st, st, ⟨rfl, rfl⟩, .inr ⟨hmem, ⟨⟩, _, rfl, rfl, rfl⟩⟩

@[simp]
theorem yields_routeOf (id : String) (r : Route) :
    Yields (c.routeOf id) st r st' ↔ c.routes.route? id = some r ∧ st' = st := by
  unfold routeOf
  cases c.routes.route? id with
  | none => simp
  | some q => simp [eq_comm]

/-- What is begun once for a node: nothing where the node has been drawn; else it is marked, and its route says what is
done. -/
theorem yields_once {f : Route → PlanM Unit} {u : Unit} :
    Yields (markDrawn n.id >>= fun isDrawn => if isDrawn then pure () else c.routeOf n.id >>= f) st u st' ↔
      (n.id ∈ st.drawn ∧ st' = st) ∨ (n.id ∉ st.drawn ∧ ∃ r, c.routes.route? n.id = some r ∧
        Yields (f r) { st with drawn := n.id :: st.drawn } u st') := by
  simp only [yields_bind, yields_markDrawn, yields_ite, yields_pure, yields_routeOf]
  constructor
  · rintro ⟨_, _, ⟨hmem, rfl, rfl⟩ | ⟨hmem, rfl, rfl⟩, ⟨hdrawn, h⟩ | ⟨hdrawn, h⟩⟩
    · exact .inl ⟨hmem, h.2⟩
    · exact absurd rfl hdrawn
    · cases hdrawn
    · obtain ⟨r, _, ⟨hr, rfl⟩, h⟩ := h
      exact .inr ⟨hmem, r, hr, h⟩
  · rintro (⟨hmem, rfl⟩ | ⟨hmem, r, hr, h⟩)
    · exact ⟨true, _, .inl ⟨hmem, rfl, rfl⟩, .inl ⟨rfl, trivial, rfl⟩⟩
    · exact ⟨false, _, .inr ⟨hmem, rfl, rfl⟩, .inr ⟨Bool.false_ne_true, r, _, ⟨hr, rfl⟩, h⟩⟩

theorem ready_drawn (hst : Ready c st) (ids : List String) : Ready c { st with drawn := ids } :=
  ⟨hst.sound, hst.consistent, hst.targets⟩

/-- Drawing a node does nothing where it has been drawn, and adds its passes otherwise. -/
theorem draw_planned (hc : c.Valid) (hn : c.prepared.node? n.id = some n) (hst : Ready c st) {u : Unit}
    (h : Yields (c.draw n) st u st') :
    (n.id ∈ st.drawn ∧ st' = st) ∨
      (n.id ∉ st.drawn ∧ isDrawType n.type = true ∧ ∃ r ps sources, c.routes.route? n.id = some r ∧
        Planned c { st with drawn := n.id :: st.drawn } st' ps ∧
        ps.map Pass.sketch = c.drawSketches n r.domain.texture sources ∧
        ∀ name ∈ sources, c.Samples st'.plan n.id name) := by
  rcases yields_once.1 h with ⟨hmem, rfl⟩ | ⟨hmem, r, hroute, h⟩
  · exact .inl ⟨hmem, rfl⟩
  have hst₁ := ready_drawn hst (n.id :: st.drawn)
  have hr := (hc.routes.route_placed hroute).domain
  refine .inr ⟨hmem, ?_⟩
  split at h
  · rename_i htype
    obtain ⟨q, reads, hplanned, hsketch, hreads⟩ := renderPass_planned hc hn hst₁ hr h
    refine ⟨by simp [htype, isDrawType], r, [q], reads, hroute, hplanned, ?_, hreads⟩
    simp [drawSketches, htype, hsketch]
  · rename_i htype
    obtain ⟨q, source, hplanned, hsketch, hsource⟩ := blit_planned hc hn hst₁ hr h
    refine ⟨by simp [htype, isDrawType], r, [q], [source], hroute, hplanned, ?_, by simpa using hsource⟩
    simp [drawSketches, htype, hsketch]
  · rename_i htype
    obtain ⟨ps, source, hplanned, hsource, hsketch⟩ := blur_planned hc hn hst₁ hr h
    refine ⟨by simp [htype, isDrawType], r, ps, [source], hroute, hplanned, ?_, by simpa using hsource⟩
    simp [drawSketches, htype, hsketch]
  · rename_i htype
    obtain ⟨ps, source, hplanned, hsource, hsketch⟩ := bloom_planned hc hn hst₁ hr h
    refine ⟨by simp [htype, isDrawType], r, ps, [source], hroute, hplanned, ?_, by simpa using hsource⟩
    simp [drawSketches, htype, hsketch]
  · exact absurd h (yields_throw _ _ _ _)

end PlanContext

open PlanState PlanContext

/-- What planning does at one point. -/
inductive Event where
  /-- A composition is begun. -/
  | enter (n : Node)
  /-- A draw node is drawn by its passes. -/
  | draw (n : Node) (passes : List Pass)
  /-- A layer is copied from another target into a composition on the given one. -/
  | copy (layer n : Node) (target : String) (pass : Pass)
  | clear (n : Node) (pass : Pass)

namespace Event

/-- The passes of an event. -/
def passes : Event → List Pass
  | .enter _ => []
  | .draw _ ps => ps
  | .copy _ _ _ q => [q]
  | .clear _ q => [q]

/-- The node that the event belongs to; a copy belongs to the composition. -/
def subject : Event → String
  | .enter n => n.id
  | .draw n _ => n.id
  | .copy _ n _ _ => n.id
  | .clear n _ => n.id

/-- The node that the event marks as drawn. -/
def mark? : Event → Option String
  | .enter n => some n.id
  | .draw n _ => some n.id
  | _ => none

/-- The layer that the event copies, with the target. -/
def copied? : Event → Option (String × String)
  | .copy layer _ target _ => some (layer.id, target)
  | _ => none

/-- The event fits the scene and its routes, and its passes are those that it should have. -/
def Formed (c : PlanContext) (plan : Plan) : Event → Prop
  | .enter n => c.prepared.node? n.id = some n ∧ n.type = compositeType
  | .draw n ps => c.prepared.node? n.id = some n ∧ isDrawType n.type = true ∧
      ∃ r sources, c.routes.route? n.id = some r ∧ (∀ name ∈ sources, c.Samples plan n.id name) ∧
        ps.map Pass.sketch = c.drawSketches n r.domain.texture sources
  | .copy layer n target q => c.prepared.node? layer.id = some layer ∧ c.prepared.node? n.id = some n ∧
      n.type = compositeType ∧ ∃ lr r, c.routes.route? layer.id = some lr ∧ c.routes.route? n.id = some r ∧
        (∃ l ∈ r.layers, l.node = layer.id) ∧ lr.domain.node ≠ r.domain.node ∧ r.domain.node = target ∧
        q.sketch = ⟨"compose:" ++ layer.id ++ "->" ++ n.id, .compose, [layer.id, n.id], r.domain.texture,
          [lr.domain.texture]⟩
  | .clear n q => c.prepared.node? n.id = some n ∧ isTargetType n.type = true ∧
      q.sketch = ⟨"clear:" ++ n.id, .clear, [n.id], (Route.domainAt c.routes.textures n.id).texture, []⟩

theorem Formed.mono {c : PlanContext} {plan plan' : Plan} {e : Event} (h : e.Formed c plan)
    (hgrows : plan.Grows plan') : e.Formed c plan' := by
  cases e with
  | enter n => exact h
  | draw n ps =>
    obtain ⟨hn, htype, r, sources, hr, hsources, hsketch⟩ := h
    exact ⟨hn, htype, r, sources, hr, fun name hname => (hsources name hname).mono hgrows, hsketch⟩
  | copy layer n target q => exact h
  | clear n q => exact h

end Event

namespace PlanState

/-- A run made of given events. -/
structure Emits (c : PlanContext) (st st' : PlanState) (es : List Event) : Prop where
  ready : Ready c st'
  passes : st'.plan.passes = st.plan.passes ++ es.flatMap Event.passes
  grows : st.plan.Grows st'.plan
  drawn : st'.drawn = (es.filterMap Event.mark?).reverse ++ st.drawn
  copied : st'.copied = (es.filterMap Event.copied?).reverse ++ st.copied
  written : ∀ t, t ∈ st'.written ↔ t ∈ st.written ∨ ∃ q ∈ es.flatMap Event.passes, q.target = t
  drawnOnce : st.drawn.Nodup → st'.drawn.Nodup
  copiedOnce : st.copied.Nodup → st'.copied.Nodup
  formed : ∀ e ∈ es, e.Formed c st'.plan
  scene : st'.plan.sceneTexture = st.plan.sceneTexture
  shown : st'.plan.presentTexture = st.plan.presentTexture

namespace Emits

variable {c : PlanContext} {st st' st'' : PlanState} {es es' : List Event}

theorem refl (h : Ready c st) : Emits c st st [] :=
  ⟨h, by simp, .refl _, by simp, by simp, by simp, id, id, by simp, rfl, rfl⟩

theorem trans (h : Emits c st st' es) (h' : Emits c st' st'' es') : Emits c st st'' (es ++ es') where
  ready := h'.ready
  passes := by rw [h'.passes, h.passes, List.flatMap_append, List.append_assoc]
  grows := h.grows.trans h'.grows
  drawn := by rw [h'.drawn, h.drawn, List.filterMap_append, List.reverse_append, List.append_assoc]
  copied := by rw [h'.copied, h.copied, List.filterMap_append, List.reverse_append, List.append_assoc]
  written t := by
    rw [h'.written, h.written, List.flatMap_append]
    simp only [List.mem_append, or_and_right, exists_or, or_assoc]
  drawnOnce hnodup := h'.drawnOnce (h.drawnOnce hnodup)
  copiedOnce hnodup := h'.copiedOnce (h.copiedOnce hnodup)
  formed e he := by
    rcases List.mem_append.1 he with he | he
    · exact (h.formed e he).mono h'.grows
    · exact h'.formed e he
  scene := by rw [h'.scene, h.scene]
  shown := by rw [h'.shown, h.shown]

theorem drawn_subset (h : Emits c st st' es) {x : String} (hx : x ∈ st.drawn) : x ∈ st'.drawn := by
  rw [h.drawn]
  exact List.mem_append_right _ hx

/-- A run of passes that is one event, begun where the event has just left its marks, both of them new. -/
theorem of_planned {st₁ : PlanState} {e : Event} (h : Planned c st₁ st' e.passes) (hplan : st₁.plan = st.plan)
    (hwritten : st₁.written = st.written) (hdrawn : st₁.drawn = e.mark?.toList ++ st.drawn)
    (hcopied : st₁.copied = e.copied?.toList ++ st.copied) (hmark : ∀ x, e.mark? = some x → x ∉ st.drawn)
    (hcopy : ∀ x, e.copied? = some x → x ∉ st.copied) (hformed : e.Formed c st'.plan) : Emits c st st' [e] := by
  have hnodup : ∀ {α : Type} {o : Option α} {l : List α}, (∀ x, o = some x → x ∉ l) → l.Nodup →
      (o.toList ++ l).Nodup := fun {α o l} hnew hl => by
    cases o with
    | none => exact hl
    | some x => exact List.nodup_cons.2 ⟨hnew x rfl, hl⟩
  exact {
    ready := h.ready
    passes := by simpa [hplan] using h.adds.passes
    grows := hplan ▸ h.adds.grows
    drawn := by
      rw [h.adds.drawn, hdrawn]
      cases hm : e.mark? <;> simp [hm]
    copied := by
      rw [h.adds.copied, hcopied]
      cases hc : e.copied? <;> simp [hc]
    written := by simpa [hwritten] using h.adds.written
    drawnOnce := fun hl => by
      rw [h.adds.drawn, hdrawn]
      exact hnodup hmark hl
    copiedOnce := fun hl => by
      rw [h.adds.copied, hcopied]
      exact hnodup hcopy hl
    formed := by simpa using hformed
    scene := h.adds.scene.trans (congrArg Plan.sceneTexture hplan)
    shown := h.adds.shown.trans (congrArg Plan.presentTexture hplan) }

theorem enter {n : Node} (hst : Ready c st) (hn : c.prepared.node? n.id = some n) (htype : n.type = compositeType)
    (hmem : n.id ∉ st.drawn) : Emits c st { st with drawn := n.id :: st.drawn } [.enter n] :=
  of_planned (.refl (ready_drawn hst _)) rfl rfl rfl rfl (by simpa [Event.mark?] using hmem)
    (by simp [Event.copied?]) ⟨hn, htype⟩

end Emits

theorem Planned.emits_nil {c : PlanContext} {st st' : PlanState} (h : Planned c st st' []) :
    Emits c st st' [] where
  ready := h.ready
  passes := by simpa using h.adds.passes
  grows := h.adds.grows
  drawn := by simp [h.adds.drawn]
  copied := by simp [h.adds.copied]
  written := by simpa using h.adds.written
  drawnOnce := by rw [h.adds.drawn]; exact id
  copiedOnce := by rw [h.adds.copied]; exact id
  formed := by simp
  scene := h.adds.scene
  shown := h.adds.shown

end PlanState

namespace PlanContext

variable {c : PlanContext} {st st' : PlanState} {n : Node}

/-! ## Single events -/

theorem draw_emits (hc : c.Valid) (hn : c.prepared.node? n.id = some n) (hst : Ready c st) {u : Unit}
    (h : Yields (c.draw n) st u st') :
    ∃ es, Emits c st st' es ∧ n.id ∈ st'.drawn ∧ ∀ e ∈ es, e.subject = n.id ∧ n.id ∉ st.drawn := by
  rcases draw_planned hc hn hst h with ⟨hmem, rfl⟩ | ⟨hmem, htype, r, ps, sources, hr, hplanned, hsketch, hsources⟩
  · exact ⟨[], .refl hst, hmem, by simp⟩
  · refine ⟨[.draw n ps], .of_planned hplanned rfl rfl rfl rfl (by simpa [Event.mark?] using hmem)
      (by simp [Event.copied?]) ⟨hn, htype, r, sources, hr, hsources, hsketch⟩, ?_, ?_⟩
    · simp [hplanned.adds.drawn]
    · simpa [Event.subject] using hmem

theorem compose_emits {layer : Node} {lr r : Route} {l : Layer} (hc : c.Valid)
    (hlayer : c.prepared.node? layer.id = some layer) (hn : c.prepared.node? n.id = some n)
    (htype : n.type = compositeType) (hlr : c.routes.route? layer.id = some lr)
    (hr : c.routes.route? n.id = some r) (hl : l ∈ r.layers) (hlid : l.node = layer.id)
    (hne : lr.domain.node ≠ r.domain.node) (hst : Ready c st) {u : Unit}
    (h : Yields (compose layer.id lr.domain n r.domain) st u st') :
    ∃ es, Emits c st st' es ∧ st'.drawn = st.drawn ∧ ∀ e ∈ es, e.subject = n.id := by
  unfold compose at h
  simp only [yields_bind, yields_get, yields_ite, PlanM.yields_debug, yields_set, PlanM.yields_ofExpr,
    List.contains_iff_mem] at h
  obtain ⟨_, st, ⟨rfl, rfl⟩, ⟨_, rfl⟩ | ⟨hmem, _, _, rfl, blend, _, ⟨_, rfl⟩, hplan⟩⟩ := h
  · exact ⟨[], (PlanM.report_planned hst _).emits_nil, rfl, by simp⟩
  · have hst₁ : Ready c { st with copied := (layer.id, r.domain.node) :: st.copied } :=
      ⟨hst.sound, hst.consistent, hst.targets⟩
    have hplaced := (hc.routes.route_placed hr).domain
    have hlplaced := (hc.routes.route_placed hlr).domain
    obtain ⟨q, hplanned, hq⟩ := Effect.plan_planned hst₁ ⟨hst₁.targets _ _ hplaced, by
      obtain ⟨t, ht, _⟩ := hst₁.targets _ _ hlplaced
      simpa using ⟨t, ht⟩, by simp⟩ hplan
    refine ⟨[.copy layer n r.domain.node q], .of_planned hplanned rfl rfl rfl rfl (by simp [Event.mark?])
      (by simpa [Event.copied?] using hmem) ?_, hplanned.adds.drawn, by simp [Event.subject]⟩
    exact ⟨hlayer, hn, htype, lr, r, hlr, hr, ⟨l, hl, hlid⟩, hne, rfl, hq⟩

theorem clearUnwritten_emits (hc : c.Valid) (hn : c.prepared.node? n.id = some n)
    (htype : isTargetType n.type = true) (hst : Ready c st) {u : Unit}
    (h : Yields (c.clearUnwritten n) st u st') :
    ∃ es, Emits c st st' es ∧ st'.drawn = st.drawn ∧ (∀ e ∈ es, e.subject = n.id) ∧
      (Route.domainAt c.routes.textures n.id).texture ∈ st'.written ∧
      (es = [] ∨ (Route.domainAt c.routes.textures n.id).texture ∉ st.written ∧ ∃ q, es = [.clear n q]) := by
  unfold clearUnwritten at h
  simp only [yields_bind, yields_get, yields_ite, yields_pure, List.contains_iff_mem] at h
  obtain ⟨_, _, ⟨rfl, rfl⟩, ⟨hmem, _, rfl⟩ | ⟨hnew, hadd⟩⟩ := h
  · exact ⟨[], .refl hst, rfl, by simp, hmem, .inl rfl⟩
  · have hget := (hc.routes.get?_textures n.id _).2 ⟨n, hn, htype, rfl⟩
    have hdomain : Route.domainAt c.routes.textures n.id = Route.targetDomain c.prepared n := by
      simp [Route.domainAt, hget]
    obtain ⟨q, hplanned, hq⟩ := PlanM.addPass_planned hst hadd
      ⟨by simp, by simp, by simp, by simp, by simp, by simp⟩ (by rw [hdomain]; exact hst.targets _ _ hget)
    have htarget : q.target = (Route.domainAt c.routes.textures n.id).texture := congrArg Sketch.target hq
    refine ⟨[.clear n q], .of_planned hplanned rfl rfl rfl rfl (by simp [Event.mark?]) (by simp [Event.copied?])
      ⟨hn, htype, hq⟩, hplanned.adds.drawn, by simp [Event.subject], ?_, .inr ⟨hnew, q, rfl⟩⟩
    rw [hplanned.adds.written]
    exact .inr ⟨q, by simp, htarget⟩

end PlanContext

end SceneGraph
