import Mathlib.Data.List.Forall2
import SceneGraph.Proofs.Compilers
import SceneGraph.Proofs.Images
import SceneGraph.Proofs.Resources
import SceneGraph.Proofs.Routes

/-!
# Steps of planning

What the elementary steps of planning add to a plan. A step may declare resources and append passes;
it keeps the plan consistent and the session sound.

The textures that passes sample belong to targets or are filled with pixels, and they come from nodes
upstream. The pass of a draw node samples only such textures.

* `PlanContext.Valid`: the context comes from a prepared scene and its routes.
* `PlanState.Ready`: the session is sound, the plan consistent, and all targets are declared.
* `PlanState.Planned`: a run that appends given passes and stays ready.
* `Pass.sketch`: what a pass draws, into which texture and from which ones.
* `PlanContext.Samples`: a texture of a node upstream.
* `PlanContext.wiredTexture_planned`: the texture wired into a node is one.
* `PlanContext.renderPass_planned`: what the pass of a draw node is.
-/
set_option autoImplicit false

namespace SceneGraph

/-- The context comes from a prepared scene and its routes, with compilers that make values. -/
structure PlanContext.Valid (c : PlanContext) : Prop where
  routes : c.routes.Valid c.prepared
  registry : c.exprs.MakesValues

/-- What a pass draws, into which texture and from which ones. -/
structure Sketch where
  id : String
  kind : PassKind
  nodes : List String
  target : String
  reads : List String
deriving DecidableEq

/-- The sketch of a pass. -/
def Pass.sketch (q : Pass) : Sketch :=
  ⟨q.id, q.kind, q.nodes, q.target, q.bindings.map TextureBinding.texture⟩

/-- The sketch of an effect. -/
def Effect.sketch (e : Effect) : Sketch := ⟨e.id, e.kind, e.nodes, e.target, e.inputs.map EffectInput.texture⟩

namespace PlanState

/-! ## Runs that append passes -/

/-- The second state has more resources than the first and so many passes more. -/
structure Adds (st st' : PlanState) (ps : List Pass) : Prop where
  passes : st'.plan.passes = st.plan.passes ++ ps
  grows : st.plan.Grows st'.plan
  bindings : st.session.bindings <+: st'.session.bindings
  drawn : st'.drawn = st.drawn
  copied : st'.copied = st.copied
  written : ∀ t, t ∈ st'.written ↔ t ∈ st.written ∨ ∃ q ∈ ps, q.target = t
  scene : st'.plan.sceneTexture = st.plan.sceneTexture
  shown : st'.plan.presentTexture = st.plan.presentTexture

theorem Adds.refl (st : PlanState) : Adds st st [] :=
  ⟨by simp, .refl _, List.prefix_rfl, rfl, rfl, by simp, rfl, rfl⟩

theorem Adds.trans {st st' st'' : PlanState} {ps qs : List Pass} (h : Adds st st' ps) (h' : Adds st' st'' qs) :
    Adds st st'' (ps ++ qs) where
  passes := by rw [h'.passes, h.passes, List.append_assoc]
  grows := h.grows.trans h'.grows
  bindings := h.bindings.trans h'.bindings
  drawn := by rw [h'.drawn, h.drawn]
  copied := by rw [h'.copied, h.copied]
  written t := by
    rw [h'.written, h.written]
    simp [or_and_right, exists_or, or_assoc]
  scene := by rw [h'.scene, h.scene]
  shown := by rw [h'.shown, h.shown]

/-- The session is sound, the plan consistent, and the textures of all targets are declared. -/
structure Ready (c : PlanContext) (st : PlanState) : Prop where
  sound : st.session.Sound c.prepared
  consistent : st.plan.Consistent
  targets : ∀ id d, c.routes.textures.get? id = some d →
    ∃ t, st.plan.texture? d.texture = some t ∧ t.upload = ""

/-- A run that appends so many passes and stays ready. -/
structure Planned (c : PlanContext) (st st' : PlanState) (ps : List Pass) : Prop where
  ready : Ready c st'
  adds : Adds st st' ps

namespace Planned

variable {c : PlanContext} {st st' st'' : PlanState} {ps qs : List Pass}

theorem refl (h : Ready c st) : Planned c st st [] :=
  ⟨h, .refl st⟩

theorem trans (h : Planned c st st' ps) (h' : Planned c st' st'' qs) : Planned c st st'' (ps ++ qs) :=
  ⟨h'.ready, h.adds.trans h'.adds⟩

/-- A run that appends no pass, and another run. -/
theorem next (h : Planned c st st' []) (h' : Planned c st' st'' qs) : Planned c st st'' qs :=
  h.trans h'

end Planned

theorem Ready.mono {c : PlanContext} {st : PlanState} {id : String} {d : Domain} (h : Ready c st)
    {plan : Plan} (hgrows : st.plan.Grows plan) (hd : c.routes.textures.get? id = some d) :
    ∃ t, plan.texture? d.texture = some t ∧ t.upload = "" := by
  obtain ⟨t, ht, hupload⟩ := h.targets id d hd
  exact ⟨t, hgrows.texture? ht, hupload⟩

/-- A run that changes no more than the resources of the plan, keeping it consistent. -/
theorem Ready.declared {c : PlanContext} {st : PlanState} (h : Ready c st) {plan : Plan}
    (hconsistent : plan.Consistent) (hgrows : st.plan.Grows plan) (hpasses : plan.passes = st.plan.passes)
    (hscene : plan.sceneTexture = st.plan.sceneTexture) (hshown : plan.presentTexture = st.plan.presentTexture) :
    Planned c st { st with plan := plan } [] where
  ready := ⟨h.sound, hconsistent, fun _ _ hd => h.mono hgrows hd⟩
  adds := ⟨by simpa using hpasses, hgrows, List.prefix_rfl, rfl, rfl, by simp, hscene, hshown⟩

end PlanState

namespace PlanM

open PlanState

variable {c : PlanContext} {st st' : PlanState}

/-! ## Declarations -/

theorem declareTexture_planned (hst : Ready c st) {t : TextureDecl} {u : Unit}
    (hupload : t.upload ≠ "" → st.plan.Uploaded t)
    (h : Yields (PlanM.declare fun p => p.declareTexture t) st u st') :
    Planned c st st' [] ∧ ∃ t', st'.plan.texture? t.name = some t' ∧ t'.upload = t.upload := by
  obtain ⟨plan, hplan, rfl⟩ := (yields_declare _ _ _ _).1 h
  obtain ⟨hgrows, hpasses, t', ht', _, _, hup⟩ := Plan.declareTexture_texture? hplan
  refine ⟨hst.declared (hst.consistent.declareTexture hplan hupload) hgrows hpasses ?_ ?_, t', ht', hup⟩
  all_goals rcases Plan.declareTexture_eq_ok hplan with ⟨_, _, _, rfl⟩ | ⟨_, rfl⟩ <;> rfl

theorem declareBuffer_planned (hst : Ready c st) {b : BufferDecl} {u : Unit}
    (h : Yields (PlanM.declare fun p => p.declareBuffer b) st u st') :
    Planned c st st' [] ∧ ∃ b', st'.plan.buffer? b.name = some b' ∧ b'.kind = b.kind ∧ b'.data = b.data := by
  obtain ⟨plan, hplan, rfl⟩ := (yields_declare _ _ _ _).1 h
  obtain ⟨hgrows, hpasses, hdeclared⟩ := Plan.declareBuffer_buffer? hplan
  refine ⟨hst.declared (hst.consistent.declareBuffer hplan) hgrows hpasses ?_ ?_, hdeclared⟩
  all_goals rcases Plan.declareBuffer_eq_ok hplan with ⟨_, _, _, rfl⟩ | ⟨_, rfl⟩ <;> rfl

theorem declareSampler_planned (hst : Ready c st) {s : SamplerDecl} {u : Unit}
    (h : Yields (PlanM.declare fun p => p.declareSampler s) st u st') :
    Planned c st st' [] ∧ st'.plan.sampler? s.name = some s := by
  obtain ⟨plan, hplan, rfl⟩ := (yields_declare _ _ _ _).1 h
  obtain ⟨hgrows, hpasses, hdeclared⟩ := Plan.declareSampler_sampler? hplan
  refine ⟨hst.declared (hst.consistent.declareSampler hplan) hgrows hpasses ?_ ?_, hdeclared⟩
  all_goals rcases Plan.declareSampler_eq_ok hplan with ⟨_, rfl⟩ | ⟨_, rfl⟩ <;> rfl

/-! ## Sessions -/

/-- A change of the session that keeps it sound. -/
theorem session_planned (hst : Ready c st) {s : Session} (hsound : s.Sound c.prepared)
    (hgrows : st.session.bindings <+: s.bindings) : Planned c st { st with session := s } [] where
  ready := ⟨hsound, hst.consistent, hst.targets⟩
  adds := ⟨by simp, .refl _, hgrows, rfl, rfl, by simp, rfl, rfl⟩

theorem report_planned (hst : Ready c st) (e : LogEntry) :
    Planned c st { st with session := st.session.report e } [] :=
  session_planned hst ⟨hst.sound.bindings, hst.sound.memo⟩ List.prefix_rfl

/-! ## Passes -/

/-- A pass that fits is appended, with everything but size, format and load operation as given. -/
theorem addPass_planned (hst : Ready c st) {ps : Pass} {u : Unit} (h : Yields (addPass ps) st u st')
    (hfits : st.plan.PassFits ps) (hupload : ∃ t, st.plan.texture? ps.target = some t ∧ t.upload = "") :
    ∃ q, Planned c st st' [q] ∧ q.sketch = ps.sketch := by
  obtain ⟨t, ht, hup⟩ := hupload
  unfold addPass at h
  simp only [yields_bind, yields_get] at h
  obtain ⟨_, _, ⟨rfl, rfl⟩, h⟩ := h
  rw [ht] at h
  simp only [yields_ite, yields_bind, yields_throw, false_and, exists_false, and_false, false_or, yields_set,
    PlanM.yields_debug] at h
  obtain ⟨hforeign, _, mid, rfl, rfl⟩ := h
  have hname : t.name = ps.target := by simpa using List.find?_some ht
  refine ⟨{ ps with size := t.size, format := t.format, load := (loadOf _ t).1, clear := (loadOf _ t).2 },
    ⟨⟨⟨hst.sound.bindings, hst.sound.memo⟩, ⟨hst.consistent.textures, hst.consistent.buffers,
      hst.consistent.samplers, hst.consistent.uploads, ?_⟩, hst.targets⟩,
      ⟨rfl, ⟨List.prefix_rfl, List.prefix_rfl, List.prefix_rfl⟩, List.prefix_rfl, rfl, rfl, ?_, rfl, rfl⟩⟩, rfl⟩
  · intro q hq
    rcases List.mem_append.1 hq with hq | hq
    · exact (hst.consistent.passes q hq).mono ⟨List.prefix_rfl, List.prefix_rfl, List.prefix_rfl⟩
    · obtain rfl := List.mem_singleton.1 hq
      exact ⟨⟨hfits.textures, hfits.samplers, hfits.numbers, hfits.distinct, hfits.vertices, hfits.instances⟩,
        ⟨t, ht, hup, rfl, rfl⟩, by simpa using hforeign⟩
  · intro name
    simp only [List.mem_singleton, exists_eq_left]
    rw [← hname]
    split
    · rename_i hmem
      rw [List.contains_iff_mem] at hmem
      constructor
      · exact .inl
      · rintro (h | rfl)
        · exact h
        · exact hmem
    · rw [List.mem_cons, or_comm, eq_comm]

end PlanM

open PlanState

namespace PlanContext

/-- The texture is that of a target node, or it is filled with pixels. -/
def Provides (c : PlanContext) (plan : Plan) (id name : String) : Prop :=
  (∃ d, c.routes.textures.get? id = some d ∧ d.texture = name) ∨
    ∃ t, plan.texture? name = some t ∧ t.upload ≠ ""

/-- The texture is provided by a node upstream of the given one. -/
def Samples (c : PlanContext) (plan : Plan) (id name : String) : Prop :=
  ∃ source, c.prepared.Reaches source id ∧ c.Provides plan source name

variable {c : PlanContext} {st st' : PlanState} {n : Node}

theorem Provides.mono {plan plan' : Plan} {id name : String} (h : c.Provides plan id name)
    (hgrows : plan.Grows plan') : c.Provides plan' id name := by
  rcases h with h | ⟨t, ht, hupload⟩
  · exact .inl h
  · exact .inr ⟨t, hgrows.texture? ht, hupload⟩

theorem Samples.mono {plan plan' : Plan} {id name : String} (h : c.Samples plan id name)
    (hgrows : plan.Grows plan') : c.Samples plan' id name := by
  obtain ⟨source, hreach, hprovides⟩ := h
  exact ⟨source, hreach, hprovides.mono hgrows⟩

theorem Samples.declared (hst : Ready c st) {id name : String} (h : c.Samples st.plan id name) :
    ∃ t, st.plan.texture? name = some t := by
  obtain ⟨source, _, ⟨d, hd, rfl⟩ | ⟨t, ht, _⟩⟩ := h
  · obtain ⟨t, ht, _⟩ := hst.targets source d hd
    exact ⟨t, ht⟩
  · exact ⟨t, ht⟩

/-! ## Uploaded textures -/

theorem append_ne_empty (a b : String) (h : b ≠ "") : a ++ b ≠ "" := by
  intro hab
  apply h
  have := congrArg String.toList hab
  rw [String.toList_append] at this
  exact String.toList_inj.1 (List.append_eq_nil_iff.1 this).2

theorem upload_planned (hst : Ready c st) {i : Image} {name : String} (hi : i.Filled)
    (h : Yields (c.upload n i) st name st') :
    Planned c st st' [] ∧ ∃ t, st'.plan.texture? name = some t ∧ t.upload ≠ "" := by
  unfold upload at h
  simp only [yields_bind, yields_pure] at h
  obtain ⟨_, st₁, hbuffer, _, st₂, htexture, rfl, rfl⟩ := h
  obtain ⟨h₁, b, hb, hkind, hdata⟩ := PlanM.declareBuffer_planned hst hbuffer
  obtain ⟨h₂, t, ht, hupload⟩ := PlanM.declareTexture_planned h₁.ready (by
    intro _
    refine ⟨b, hb, hkind, ?_⟩
    rw [hdata]
    simp only [show i.pixels.size = 4 * i.width * i.height from hi, Nat.cast_mul, Nat.cast_ofNat]) htexture
  exact ⟨h₁.next h₂, t, ht, by rw [hupload]; exact append_ne_empty _ _ (by decide)⟩

theorem textTexture_planned (hc : c.Valid) (hst : Ready c st) {name : String}
    (h : Yields (c.textTexture n) st name st') :
    Planned c st st' [] ∧ ∃ t, st'.plan.texture? name = some t ∧ t.upload ≠ "" := by
  unfold textTexture at h
  split at h
  · rename_i i hi
    exact upload_planned hst (hc.routes.prepared.pixels?_filled hi) h
  · split at h
    · rename_i i hi
      exact upload_planned hst (Text.rasterize_filled hi) h
    · exact absurd h (yields_throw _ _ _ _)

theorem imageTexture_planned (hst : Ready c st) {name : String} (h : Yields (c.imageTexture n) st name st') :
    Planned c st st' [] ∧ ∃ t, st'.plan.texture? name = some t ∧ t.upload ≠ "" := by
  unfold imageTexture at h
  simp only at h
  split at h
  · obtain ⟨_, _, hreport, h⟩ := (yields_bind _ _ _ _ _).1 h
    obtain rfl := (PlanM.yields_report _ _ _ _).1 hreport
    have h₁ := PlanM.report_planned hst ⟨.warn, "plan: image unavailable, using placeholder",
      [("node", n.id), ("source", ((Images.source? n).map Prod.fst).getD "")]⟩
    obtain ⟨h₂, hdeclared⟩ := upload_planned h₁.ready placeholder_filled h
    exact ⟨h₁.next h₂, hdeclared⟩
  · split at h
    · rename_i i hi
      exact upload_planned hst (decodeImage_filled hi) h
    · exact absurd h (yields_throw _ _ _ _)
    · exact absurd h (yields_throw _ _ _ _)

/-! ## Textures wired into nodes -/

theorem sourceTexture_planned (hc : c.Valid) (hst : Ready c st) {id name : String}
    (h : Yields (c.sourceTexture id) st name st') :
    Planned c st st' [] ∧ c.Provides st'.plan id name := by
  unfold sourceTexture at h
  split at h
  · rename_i d hd
    obtain ⟨rfl, rfl⟩ := (yields_pure _ _ _ _).1 h
    exact ⟨.refl hst, .inl ⟨d, hd, rfl⟩⟩
  · split at h
    · exact absurd h (yields_throw _ _ _ _)
    · split at h
      · obtain ⟨hplanned, hdeclared⟩ := imageTexture_planned hst h
        exact ⟨hplanned, .inr hdeclared⟩
      · obtain ⟨hplanned, hdeclared⟩ := textTexture_planned hc hst h
        exact ⟨hplanned, .inr hdeclared⟩
      · exact absurd h (yields_throw _ _ _ _)

theorem wiredTexture_planned (hc : c.Valid) (hn : c.prepared.node? n.id = some n) (hst : Ready c st)
    {name : String} (h : Yields (c.wiredTexture n) st name st') :
    Planned c st st' [] ∧ c.Samples st'.plan n.id name := by
  unfold wiredTexture at h
  simp only [yields_bind, PlanM.yields_ofSession, yields_ite, yields_throw, false_and, exists_false, and_false,
    false_or] at h
  obtain ⟨e, _, ⟨s, hs, rfl⟩, htype, h⟩ := h
  have he := (Session.Compiled.refl n.id hst.sound).require (c.exprs.compile_sound hc.registry) hn hs
  have h₁ := PlanM.session_planned hst he.sound he.grows
  obtain ⟨h₂, hprovides⟩ := sourceTexture_planned hc h₁.ready h
  exact ⟨h₁.next h₂, e.source, (he.exprs e (by simp)).source (by simpa using htype), hprovides⟩

/-! ## Bindings of expressions -/

/-- The binding of a key that an expression of the node samples. -/
structure Bound (c : PlanContext) (plan : Plan) (id key : String) (b : TextureBinding) : Prop where
  node : ∃ n, c.prepared.node? key = some n
  textureVar : b.textureVar = Code.textureVar (c.prepared.nameOf key)
  samplerVar : b.samplerVar = Code.samplerVar (c.prepared.nameOf key)
  texture : c.Samples plan id b.texture
  sampler : ∃ s, plan.sampler? b.sampler = some s

theorem bindingsFrom_planned (hc : c.Valid) {id : String} {i : Nat} {keys : List String}
    {bs : List TextureBinding} (hst : Ready c st)
    (hkeys : ∀ key ∈ keys, Binding.Sampled c.prepared st.session.bindings id key)
    (h : Yields (c.bindingsFrom i keys) st bs st') :
    Planned c st st' [] ∧ List.Forall₂ (Bound c st'.plan id) keys bs ∧
      ∀ j b, bs[j]? = some b → b.binding = bindingNumber (i + j) := by
  induction keys generalizing i st bs with
  | nil =>
    obtain ⟨rfl, rfl⟩ := (yields_pure _ _ _ _).1 h
    exact ⟨.refl hst, .nil, by simp⟩
  | cons key rest ih =>
    unfold bindingsFrom at h
    simp only [yields_bind, yields_get] at h
    obtain ⟨_, _, ⟨rfl, rfl⟩, h⟩ := h
    obtain ⟨⟨b, hb⟩, hkey⟩ := hkeys key List.mem_cons_self
    simp only [Session.binding?, hb, yields_bind, yields_pure] at h
    obtain ⟨texture, st₁, hsource, _, st₂, hsampler, more, st₃, hmore, rfl, rfl⟩ := h
    obtain ⟨hnode, hname, hreach⟩ := hst.sound.bindings b (List.mem_of_find?_eq_some hb)
    have hbkey : b.key = key := by simpa using List.find?_some hb
    rw [hbkey] at hnode hname hreach
    obtain ⟨h₁, hprovides⟩ := sourceTexture_planned hc hst hsource
    obtain ⟨h₂, hdeclared⟩ := PlanM.declareSampler_planned h₁.ready hsampler
    have h₁₂ := h₁.next h₂
    obtain ⟨h₃, hbound, hnumbers⟩ := ih h₂.ready (fun k hk =>
      (hkeys k (List.mem_cons_of_mem key hk)).mono h₁₂.adds.bindings .refl) hmore
    refine ⟨h₁₂.next h₃, .cons ⟨hnode, by rw [hname], by rw [hname], ?_, _, h₃.adds.grows.sampler? hdeclared⟩
      hbound, ?_⟩
    · exact ⟨b.source, hreach.trans hkey, hprovides.mono (h₂.adds.grows.trans h₃.adds.grows)⟩
    · intro j b' hb'
      cases j with
      | zero =>
        obtain rfl : _ = b' := by simpa using hb'
        rfl
      | succ j =>
        have := hnumbers j b' (by simpa using hb')
        rwa [Nat.add_right_comm, Nat.add_assoc] at this

theorem Forall₂_map_eq {α β γ : Type} {R : α → β → Prop} {f : β → γ} {g : α → γ} {l : List α} {l' : List β}
    (h : List.Forall₂ R l l') (heq : ∀ a b, R a b → f b = g a) : l'.map f = l.map g := by
  induction h with
  | nil => rfl
  | cons hab _ ih => rw [List.map_cons, List.map_cons, heq _ _ hab, ih]

theorem Forall₂_exists_of_mem {α β : Type} {R : α → β → Prop} {l : List α} {l' : List β}
    (h : List.Forall₂ R l l') {a : α} (ha : a ∈ l) : ∃ b ∈ l', R a b := by
  induction h with
  | nil => simp at ha
  | cons hab _ ih =>
    rcases List.mem_cons.1 ha with rfl | ha
    · exact ⟨_, List.mem_cons_self, hab⟩
    · obtain ⟨b, hb, hR⟩ := ih ha
      exact ⟨b, List.mem_cons_of_mem _ hb, hR⟩

theorem textureVar_ne_samplerVar (a b : String) : Code.textureVar a ≠ Code.samplerVar b := by
  intro h
  have := congrArg String.toList h
  simp [Code.textureVar, Code.samplerVar, String.toList_append] at this

theorem variables_nodup (hc : c.Valid) {plan : Plan} {id : String} {keys : List String}
    {bs : List TextureBinding} (hkeys : keys.Nodup) (h : List.Forall₂ (Bound c plan id) keys bs) :
    (bs.map TextureBinding.textureVar ++ bs.map TextureBinding.samplerVar).Nodup := by
  have hnodes : ∀ key ∈ keys, ∃ n, c.prepared.node? key = some n := by
    intro key hkey
    obtain ⟨b, _, hbound⟩ := Forall₂_exists_of_mem h hkey
    exact hbound.node
  have hinj : ∀ a ∈ keys, ∀ b ∈ keys, c.prepared.nameOf a = c.prepared.nameOf b → a = b := by
    intro a ha b hb hab
    obtain ⟨n, hn⟩ := hnodes a ha
    obtain ⟨m, hm⟩ := hnodes b hb
    exact hc.routes.prepared.nameOf_injective hn hm hab
  rw [Forall₂_map_eq h fun key b hb => hb.textureVar, Forall₂_map_eq h fun key b hb => hb.samplerVar,
    List.nodup_append]
  refine ⟨?_, ?_, ?_⟩
  · refine hkeys.map_on fun a ha b hb hab => hinj a ha b hb ?_
    exact (String.append_right_inj _).1 hab
  · refine hkeys.map_on fun a ha b hb hab => hinj a ha b hb ?_
    exact (String.append_right_inj _).1 hab
  · intro x hx y hy
    obtain ⟨a, _, rfl⟩ := List.mem_map.1 hx
    obtain ⟨b, _, rfl⟩ := List.mem_map.1 hy
    exact textureVar_ne_samplerVar _ _

/-! ## Shapes -/

theorem ofFloats_size (xs : List Float32) : (Bytes.ofFloats xs).size = 4 * xs.length := by
  have hlength : (xs.flatMap fun x => Bytes.ofUInt32 x.toBits).length = 4 * xs.length :=
    length_flatMap_of_forall _ _ _ fun _ _ => rfl
  simpa [Bytes.ofFloats, ByteArray.size] using hlength

/-- The buffers of a shape hold its vertices and instances. -/
theorem withGeometry_planned (hst : Ready c st) {g : Geometry} {ps ps' : Pass} (hvertex : ps.vertexBuffer = "")
    (hinstance : ps.instanceBuffer = "") (hfits : st.plan.PassFits ps)
    (h : Yields (c.withGeometry g ps) st ps' st') :
    Planned c st st' [] ∧ st'.plan.PassFits ps' ∧ ps'.sketch = ps.sketch := by
  unfold withGeometry at h
  simp only [yields_ite, yields_bind, yields_pure] at h
  rcases h with ⟨_, rfl, rfl⟩ | ⟨_, _, st₁, hvertices, h⟩
  · exact ⟨.refl hst, hfits, rfl⟩
  · obtain ⟨h₁, b, hb, hkind, hdata⟩ := PlanM.declareBuffer_planned hst hvertices
    have hsize : b.data.size = 16 * g.vertices.length := by
      rw [hdata, ofFloats_size, length_flatMap_of_forall _ _ 4 fun _ _ => rfl]
      omega
    have hfits₁ := hfits.mono h₁.adds.grows
    rcases h with ⟨_, rfl, rfl⟩ | ⟨hne, _, st₂, hinstances, rfl, rfl⟩
    · exact ⟨h₁, ⟨hfits₁.textures, hfits₁.samplers, hfits₁.numbers, hfits₁.distinct,
      fun _ => ⟨b, _, hb, hkind, hsize, rfl⟩,
        fun hi => absurd hinstance hi⟩, rfl⟩
    · obtain ⟨h₂, b', hb', hkind', hdata'⟩ := PlanM.declareBuffer_planned h₁.ready hinstances
      have hcount : g.instanceCount = g.instances.length := by
        have : 0 < g.instances.length := List.length_pos_iff.2 (by simpa using hne)
        unfold Geometry.instanceCount
        omega
      have hsize' : b'.data.size = 8 * g.instanceCount := by
        rw [hdata', ofFloats_size, length_flatMap_of_forall _ _ 2 fun _ _ => rfl, hcount]
        omega
      have hfits₂ := hfits₁.mono h₂.adds.grows
      exact ⟨h₁.next h₂, ⟨hfits₂.textures, hfits₂.samplers, hfits₂.numbers, hfits₂.distinct,
        fun _ => ⟨b, _, h₂.adds.grows.buffer? hb, hkind, hsize, rfl⟩,
        fun _ => ⟨b', _, hb', hkind', hsize', rfl⟩⟩, rfl⟩

/-! ## Draw passes -/

theorem drawColor_compiled (hc : c.Valid) (hn : c.prepared.node? n.id = some n) {s t : Session} {e : ShaderExpr}
    (hs : s.Sound c.prepared) (h : Yields (c.drawColor n) s e t) :
    Session.Compiled c.prepared n.id s t [e] := by
  unfold drawColor at h
  obtain ⟨x?, u, hinput, hrest⟩ := (yields_bind _ _ _ _ _).1 h
  have hu := (Session.Compiled.refl n.id hs).input? (c.exprs.compile_sound hc.registry) hn hinput
  cases x? with
  | some x => exact (hu.convert (by simp) hrest).1.subset (by simp)
  | none =>
    obtain ⟨rfl, rfl⟩ := (yields_pure _ _ _ _).1 hrest
    exact hu.noTextures rfl (by simp)

theorem drawTransform_compiled (hc : c.Valid) (hn : c.prepared.node? n.id = some n) {s t : Session}
    {e : ShaderExpr} (hs : s.Sound c.prepared) (h : Yields (c.drawTransform n) s e t) :
    Session.Compiled c.prepared n.id s t [] := by
  unfold drawTransform at h
  obtain ⟨x?, u, hinput, hrest⟩ := (yields_bind _ _ _ _ _).1 h
  have hu := (Session.Compiled.refl n.id hs).input? (c.exprs.compile_sound hc.registry) hn hinput
  cases x? with
  | none =>
    simp only at hrest
    split at hrest
    · obtain ⟨rfl, rfl⟩ := (yields_pure _ _ _ _).1 hrest
      exact hu
    · simp only [yields_ite, yields_throw, and_false, or_false] at hrest
      exact (hu.constant (by simp) hrest.2).forget
  | some x =>
    simp only [yields_bind, yields_ite, yields_throw, false_and, exists_false, and_false, false_or,
      yields_pure] at hrest
    obtain ⟨y, v, hy, _, rfl, rfl⟩ := hrest
    exact (hu.convert (by simp) hy).1.forget

theorem renderPass_planned (hc : c.Valid) (hn : c.prepared.node? n.id = some n) (hst : Ready c st) {r : Route}
    (hr : c.routes.textures.get? r.domain.node = some r.domain) {u : Unit}
    (h : Yields (c.renderPass n r) st u st') :
    ∃ q reads, Planned c st st' [q] ∧ q.sketch = ⟨"draw:" ++ n.id, .draw, [n.id], r.domain.texture, reads⟩ ∧
      ∀ name ∈ reads, c.Samples st'.plan n.id name := by
  unfold renderPass at h
  simp only [yields_bind, PlanM.yields_ofSession, PlanM.yields_ofExpr, yields_get] at h
  obtain ⟨color, _, ⟨s₁, hs₁, rfl⟩, transform, _, ⟨s₂, hs₂, rfl⟩, blend, _, ⟨_, rfl⟩, bindings, st₃, hbindings, ps, st₄,
    hgeometry, _, _, ⟨rfl, rfl⟩, hadd⟩ := h
  have hcolor := drawColor_compiled hc hn hst.sound hs₁
  have htransform := drawTransform_compiled hc hn hcolor.sound hs₂
  have h₂ := PlanM.session_planned hst htransform.sound (hcolor.grows.trans htransform.grows)
  have hexpr := hcolor.exprs color (by simp)
  obtain ⟨h₃, hbound, hnumbers⟩ := bindingsFrom_planned hc h₂.ready
    (fun key hkey => (hexpr.sampled key hkey).mono htransform.grows .refl) hbindings
  have htextures : ∀ b ∈ bindings, c.Samples st₃.plan n.id b.texture := by
    intro b hb
    obtain ⟨key, _, hkey⟩ := Forall₂_exists_of_mem hbound.flip hb
    exact hkey.texture
  obtain ⟨h₄, hfits, hsketch⟩ := withGeometry_planned h₃.ready rfl rfl
    ⟨fun b hb => (htextures b hb).declared h₃.ready, fun b hb => by
      obtain ⟨key, _, hkey⟩ := Forall₂_exists_of_mem hbound.flip hb
      exact hkey.sampler, fun i b hb => by
      have := hnumbers i b hb
      rwa [Nat.zero_add] at this, variables_nodup hc hexpr.nodup hbound, by simp, by simp⟩ hgeometry
  have htarget : ps.target = r.domain.texture := congrArg Sketch.target hsketch
  obtain ⟨q, h₅, hq⟩ := PlanM.addPass_planned h₄.ready hadd
    ⟨hfits.textures, hfits.samplers, hfits.numbers, hfits.distinct, hfits.vertices, hfits.instances⟩
    (by simp only [htarget]; exact h₄.ready.targets _ _ hr)
  have hplanned := h₂.next (h₃.next (h₄.next h₅))
  refine ⟨q, _, hplanned, hq.trans hsketch, ?_⟩
  intro name hname
  obtain ⟨b, hb, rfl⟩ := List.mem_map.1 hname
  exact (htextures b hb).mono (h₄.adds.grows.trans h₅.adds.grows)

end PlanContext

end SceneGraph
