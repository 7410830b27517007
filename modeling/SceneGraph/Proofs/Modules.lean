import SceneGraph.Proofs.Built
import SceneGraph.Proofs.References

/-!
# Declarations of modules

A generated module declares every function and variable that its fragment program uses, and each once. Its
vertex program samples no textures, but it may call functions, and these are not collected: the module declares
those among them that the fragment program calls too. So a module is closed exactly when the fragment program
calls every function that the vertex program calls.

* `ShaderModule.Closed`: a module declares everything that its programs use, and each once.
* `ShaderModule.Furnished`: what all generated modules declare.
* `PlanM.Furnishes`: a step of planning that adds only passes with such modules.
* `Compiler.module_closed_iff`: the statement above, for every pass of a compiled scene.
-/
set_option autoImplicit false

namespace SceneGraph

open SessionM

/-! ## Modules and what they declare -/

namespace ShaderModule

/-- The module declares the texture and sampler variables that an expression uses, and each once. -/
def Binds (m : ShaderModule) (e : Code) : Prop := ∀ name ∈ e.textureNames,
  m.declaredVariables.count (Code.textureVar name) = 1 ∧ m.declaredVariables.count (Code.samplerVar name) = 1

/-- The module declares the functions and variables that an expression uses, and each once. -/
structure Declares (m : ShaderModule) (e : Code) : Prop where
  functions : ∀ f ∈ e.helpers, m.declaredHelpers.count f = 1
  textures : m.Binds e

/-- The module declares everything that its programs use, and each once. -/
def Closed (m : ShaderModule) : Prop := ∀ e ∈ m.codes, m.Declares e

/-- The module binds the textures of its programs and declares the functions of its fragment program. Those of
its vertex program are declared only where the fragment program calls them too. -/
structure Furnished (m : ShaderModule) : Prop where
  distinct : m.declaredHelpers.Nodup
  called : ∀ s ∈ m.fragment, ∀ f ∈ s.code.helpers, f ∈ m.declaredHelpers
  shared : ∀ f ∈ m.vertex.transform.helpers, f ∈ m.declaredHelpers → ∃ s ∈ m.fragment, f ∈ s.code.helpers
  bound : ∀ e ∈ m.codes, ∀ name ∈ e.textureNames,
    ∃ b ∈ m.bindings, b.textureVar = Code.textureVar name ∧ b.samplerVar = Code.samplerVar name

theorem declaredVariables_perm (m : ShaderModule) :
    m.declaredVariables.Perm
      (m.bindings.map TextureBinding.textureVar ++ m.bindings.map TextureBinding.samplerVar) := by
  unfold declaredVariables
  induction m.bindings with
  | nil => exact .refl _
  | cons b rest ih =>
    rw [List.flatMap_cons, List.map_cons, List.map_cons, List.cons_append]
    exact .cons _ (((List.Perm.cons _ ih).trans List.perm_middle.symm))

theorem Furnished.binds {m : ShaderModule} (h : m.Furnished)
    (hvars : (m.bindings.map TextureBinding.textureVar ++ m.bindings.map TextureBinding.samplerVar).Nodup)
    {e : Code} (he : e ∈ m.codes) : m.Binds e := by
  intro name hname
  obtain ⟨b, hb, htexture, hsampler⟩ := h.bound e he name hname
  have hnodup := m.declaredVariables_perm.nodup_iff.2 hvars
  have hmem : ∀ v ∈ [b.textureVar, b.samplerVar], v ∈ m.declaredVariables := fun v hv =>
    List.mem_flatMap.2 ⟨b, hb, hv⟩
  rw [← htexture, ← hsampler]
  exact ⟨List.count_eq_one_of_mem hnodup (hmem _ (by simp)), List.count_eq_one_of_mem hnodup (hmem _ (by simp))⟩

theorem Furnished.closed_iff {m : ShaderModule} (h : m.Furnished) (hbinds : ∀ e ∈ m.codes, m.Binds e) :
    (∀ s ∈ m.fragment, m.Declares s.code) ∧
      (m.Closed ↔ ∀ f ∈ m.vertex.transform.helpers, ∃ s ∈ m.fragment, f ∈ s.code.helpers) := by
  have hfragment : ∀ s ∈ m.fragment, m.Declares s.code := fun s hs =>
    ⟨fun f hf => List.count_eq_one_of_mem h.distinct (h.called s hs f hf),
      hbinds s.code (List.mem_cons_of_mem _ (List.mem_map_of_mem hs))⟩
  refine ⟨hfragment, fun hclosed f hf => h.shared f hf ?_, fun hshared e he => ?_⟩
  · have hcount := (hclosed _ List.mem_cons_self).functions f hf
    exact List.count_pos_iff.1 (by omega)
  · rcases List.mem_cons.1 he with rfl | hmem
    · refine ⟨fun f hf => ?_, hbinds _ he⟩
      obtain ⟨s, hs, hf⟩ := hshared f hf
      exact List.count_eq_one_of_mem h.distinct (h.called s hs f hf)
    · obtain ⟨s, hs, rfl⟩ := List.mem_map.1 hmem
      exact hfragment s hs

end ShaderModule

/-- The pass draws nothing, or it has a module over its own bindings. -/
def Pass.Furnished (q : Pass) : Prop :=
  q.shader = .absent ∨ ∃ m, q.shader = .generated m ∧ m.bindings = q.bindings ∧ m.Furnished

/-! ## Modules of effects -/

namespace Effect

/-- Statements that refer to textures only, and only to given ones. -/
def Reads (names : List String) (body : List ShaderStatement) : Prop :=
  ∀ s ∈ body, ∀ u ∈ s.code.references, ∃ name ∈ names, u = .sample name name (.verbatim "") ∨ u = .dimensions name

theorem references_identity : Code.identity.references = [] :=
  Code.references_of_sources PlanContext.sources_identity

theorem copyBody_reads : Reads ["src"] copyBody := by
  simp [Reads, copyBody, sampleHere, sampleAt, ShaderStatement.code, Code.references_eq]

theorem displayBody_reads : Reads ["src"] displayBody := by
  simp [Reads, displayBody, sampleHere, sampleAt, ShaderStatement.code, Code.construct, Code.references_eq]

theorem downBody_reads : Reads ["src"] downBody := by
  simp [Reads, downBody, sampleAt, ShaderStatement.code, Code.construct, Code.references_eq]

theorem blurBody_reads {direction radius : Code} (hdirection : direction.sources = []) (hradius : radius.sources = []) :
    Reads ["src"] (blurBody direction radius) := by
  simp [Reads, blurBody, blurPair, sideWeights, sampleHere, sampleAt, ShaderStatement.code, Code.construct, hdirection,
    hradius, Code.references_eq]

theorem extractBody_reads {threshold : Code} (h : threshold.sources = []) : Reads ["src"] (extractBody threshold) := by
  simp [Reads, extractBody, luma, sampleHere, sampleAt, ShaderStatement.code, Code.construct, h, Code.references_eq]

theorem combineBody_reads {intensity : Code} (h : intensity.sources = []) :
    Reads ["src", "bloom"] (combineBody intensity) := by
  simp [Reads, combineBody, sampleHere, sampleAt, ShaderStatement.code, h, Code.references_eq]

theorem moduleOf_furnished {e : Effect} (h : Reads (e.inputs.map EffectInput.name) e.body) :
    (moduleOf (e.inputs.zipIdx.map fun (input, i) => binding i input) e.body).Furnished where
  distinct := by simp [ShaderModule.declaredHelpers, moduleOf]
  called s hs f hf := by
    rcases Code.mem_helpers.1 hf with ⟨args, hu⟩ | ⟨rfl, -⟩
    · obtain ⟨name, -, hu | hu⟩ := h s hs _ hu <;> cases hu
    · simp [ShaderModule.declaredHelpers, moduleOf, CompileNode.flipHelper]
  shared f hf := by
    have hnone : f ∈ Code.identity.helpers := hf
    simp [Code.mem_helpers, references_identity] at hnone
  bound e' he' name hname := by
    rcases List.mem_cons.1 he' with rfl | he'
    · have hnone : name ∈ Code.identity.textureNames := hname
      simp [Code.mem_textureNames, references_identity] at hnone
    · obtain ⟨s, hs, rfl⟩ := List.mem_map.1 he'
      have hmem : name ∈ e.inputs.map EffectInput.name := by
        rcases Code.mem_textureNames.1 hname with ⟨key, position, hu⟩ | hu
        · obtain ⟨other, hother, hu | hu⟩ := h s hs _ hu <;> cases hu
          exact hother
        · obtain ⟨other, hother, hu | hu⟩ := h s hs _ hu <;> cases hu
          exact hother
      obtain ⟨input, hinput, rfl⟩ := List.mem_map.1 hmem
      obtain ⟨i, hi, rfl⟩ := List.getElem_of_mem hinput
      refine ⟨binding i e.inputs[i], List.mem_map.2 ⟨(e.inputs[i], i), ?_, rfl⟩, rfl, rfl⟩
      exact List.mk_mem_zipIdx_iff_getElem?.2 (List.getElem?_eq_getElem hi)

end Effect

/-! ## Steps of planning -/

/-- The code of the session is typed and listed, and the passes of the plan have furnished modules. -/
structure PlanState.Furnished (accepts : String → Bool) (p : Prepared) (st : PlanState) : Prop where
  typed : st.session.Typed accepts p
  listed : st.session.Listed
  passes : ∀ q ∈ st.plan.passes, q.Furnished

theorem SessionM.Keeps.of_yields {accepts : String → Bool} {p : Prepared} {α : Type} {x : SessionM α} {s t : Session}
    {a : α}
    {Q : α → Session → Prop} (h : Keeps accepts p x s Q) (hx : Yields x s a t) (hs : s.Typed accepts p) :
    t.Typed accepts p ∧ s.Extends t ∧ Q a t := by
  obtain ⟨ht, hext, hQ⟩ := h hs
  unfold Yields at hx
  rw [hx] at ht hext hQ
  exact ⟨ht, hext, hQ a rfl⟩

namespace PlanM

/-- A step of planning that adds only passes with furnished modules, and whose result is as described. -/
def Furnishes (accepts : String → Bool) (p : Prepared) {α : Type} (x : PlanM α) (Q : α → Prop) : Prop :=
  ∀ st a st', Yields x st a st' → st.Furnished accepts p →
    st'.Furnished accepts p ∧ st.session.Extends st'.session ∧ Q a

namespace Furnishes

variable {accepts : String → Bool} {p : Prepared} {α β : Type} {x : PlanM α} {Q R : α → Prop}

theorem pure {a : α} (h : Q a) : Furnishes accepts p (Pure.pure a) Q := by
  intro st b st' hx hst
  obtain ⟨rfl, rfl⟩ := (yields_pure _ _ _ _).1 hx
  exact ⟨hst, .refl _, h⟩

theorem throw {e : PlanError} : Furnishes accepts p (throw e) Q := fun _ _ _ hx => absurd hx (yields_throw _ _ _ _)

theorem bind {Q : β → Prop} {f : α → PlanM β} (hx : Furnishes accepts p x R)
    (hf : ∀ a, R a → Furnishes accepts p (f a) Q) :
    Furnishes accepts p (x >>= f) Q := by
  intro st b st' h hst
  obtain ⟨a, mid, ha, hb⟩ := (yields_bind _ _ _ _ _).1 h
  obtain ⟨hmid, hext, hR⟩ := hx st a mid ha hst
  obtain ⟨hst', hext', hQ⟩ := hf a hR mid b st' hb hmid
  exact ⟨hst', hext.trans hext', hQ⟩

theorem ite {c : Prop} [Decidable c] {x y : PlanM α} (hx : Furnishes accepts p x Q) (hy : Furnishes accepts p y Q) :
    Furnishes accepts p (if c then x else y) Q := by
  split
  · exact hx
  · exact hy

theorem get : Furnishes accepts p get fun _ => True := by
  intro st _ st' hx hst
  obtain ⟨rfl, rfl⟩ := (yields_get _ _ _).1 hx
  exact ⟨hst, .refl _, trivial⟩

theorem ofExpr {r : Except ExprError α} : Furnishes accepts p (PlanM.ofExpr r) fun _ => True := by
  intro st _ st' hx hst
  obtain ⟨_, rfl⟩ := (yields_ofExpr _ _ _ _).1 hx
  exact ⟨hst, .refl _, trivial⟩

/-- The plan may change where its passes stay, and the rest of the state where session and plan stay. -/
theorem of_keeps (h : ∀ st a st', Yields x st a st' → st'.session = st.session ∧ st'.plan.passes = st.plan.passes) :
    Furnishes accepts p x fun _ => True := by
  intro st a st' hx hst
  obtain ⟨hsession, hpasses⟩ := h st a st' hx
  refine ⟨⟨hsession ▸ hst.typed, hsession ▸ hst.listed, hpasses ▸ hst.passes⟩, ?_, trivial⟩
  rw [hsession]
  exact .refl _

theorem declare {f : Plan → Except ResourceConflict Plan}
    (hf : ∀ plan plan', f plan = .ok plan' → plan'.passes = plan.passes) :
    Furnishes accepts p (PlanM.declare f) fun _ => True := by
  refine of_keeps fun st _ st' hx => ?_
  obtain ⟨plan, hplan, rfl⟩ := (yields_declare _ _ _ _).1 hx
  exact ⟨rfl, hf _ _ hplan⟩

theorem declareTexture (t : TextureDecl) :
    Furnishes accepts p (PlanM.declare fun plan => plan.declareTexture t) fun _ => True :=
  .declare fun _ _ h => (Plan.declareTexture_texture? h).2.1

theorem declareBuffer (b : BufferDecl) :
    Furnishes accepts p (PlanM.declare fun plan => plan.declareBuffer b) fun _ => True :=
  .declare fun _ _ h => (Plan.declareBuffer_buffer? h).2.1

theorem declareSampler (s : SamplerDecl) :
    Furnishes accepts p (PlanM.declare fun plan => plan.declareSampler s) fun _ => True :=
  .declare fun _ _ h => (Plan.declareSampler_sampler? h).2.1

theorem report (e : LogEntry) : Furnishes accepts p (PlanM.report e) fun _ => True := by
  intro st _ st' hx hst
  obtain rfl := (yields_report _ _ _ _).1 hx
  exact ⟨⟨⟨hst.typed.memo, hst.typed.helpers⟩, ⟨hst.listed.memo, hst.listed.helpers⟩, hst.passes⟩,
    ⟨List.prefix_rfl, List.prefix_rfl⟩, trivial⟩

theorem ofSession {x : SessionM α} {T : α → Session → Prop} (htyped : ∀ s, Keeps accepts p x s T) (hlists : Lists x Q) :
    Furnishes accepts p (PlanM.ofSession x) Q := by
  intro st a st' hx hst
  obtain ⟨s, hs, rfl⟩ := (yields_ofSession _ _ _ _).1 hx
  obtain ⟨hlisted, hQ⟩ := hlists _ _ _ hs hst.listed
  obtain ⟨hkept, hext, -⟩ := Keeps.of_yields (htyped _) hs hst.typed
  exact ⟨⟨hkept, hlisted, hst.passes⟩, hext, hQ⟩

theorem addPass {ps : Pass} (hps : ps.Furnished) : Furnishes accepts p (PlanM.addPass ps) fun _ => True := by
  intro st _ st' hx hst
  unfold PlanM.addPass at hx
  simp only [yields_bind, yields_get] at hx
  obtain ⟨_, _, ⟨rfl, rfl⟩, hx⟩ := hx
  split at hx
  · exact absurd hx (yields_throw _ _ _ _)
  · simp only [yields_ite, yields_bind, yields_throw, false_and, exists_false, and_false, false_or, yields_set,
      PlanM.yields_debug] at hx
    obtain ⟨_, _, _, rfl, rfl⟩ := hx
    refine ⟨⟨⟨hst.typed.memo, hst.typed.helpers⟩, ⟨hst.listed.memo, hst.listed.helpers⟩, fun q hq => ?_⟩,
      ⟨List.prefix_rfl, List.prefix_rfl⟩, trivial⟩
    rcases List.mem_append.1 hq with hq | hq
    · exact hst.passes q hq
    · obtain rfl := List.mem_singleton.1 hq
      exact hps

end Furnishes

end PlanM

open PlanM

theorem Effect.plan_furnishes {accepts : String → Bool} {p : Prepared} {e : Effect}
    (h : Effect.Reads (e.inputs.map EffectInput.name) e.body) :
    Furnishes accepts p e.plan fun _ => True := by
  have hsamplers : Furnishes accepts p (Effect.declareSamplers e.inputs) fun _ => True := by
    induction e.inputs with
    | nil => exact .pure trivial
    | cons i rest ih => exact .bind (.declareSampler _) fun _ _ => ih
  exact .bind hsamplers fun _ _ => .addPass (.inr ⟨_, rfl, rfl, Effect.moduleOf_furnished h⟩)

namespace PlanContext

variable {accepts : String → Bool} {p : Prepared} {r : Routes} {env : Environment} {n : Node}

/-! ### Textures -/

theorem sourceTexture_furnishes (c : PlanContext) (id : String) :
    Furnishes accepts p (c.sourceTexture id) fun _ => True := by
  have hupload : ∀ n i, Furnishes accepts p (c.upload n i) fun _ => True := fun n i =>
    .bind (.declareBuffer _) fun _ _ => .bind (.declareTexture _) fun _ _ => .pure trivial
  have himage : ∀ n, Furnishes accepts p (c.imageTexture n) fun _ => True := by
    intro n
    unfold imageTexture
    dsimp only
    split
    · exact .bind (.report _) fun _ _ => hupload n _
    · split
      · exact hupload n _
      · exact .throw
      · exact .throw
  have htext : ∀ n, Furnishes accepts p (c.textTexture n) fun _ => True := by
    intro n
    unfold textTexture
    split
    · exact hupload n _
    · split
      · exact hupload n _
      · exact .throw
  unfold sourceTexture
  split
  · exact .pure trivial
  · split
    · exact .throw
    · split
      · exact himage _
      · exact htext _
      · exact .throw

theorem wiredTexture_furnishes (hp : p.Valid) :
    Furnishes env.accepts p ((p.context r env).wiredTexture n) fun _ => True := by
  have htypes : (p.context r env).exprs.inputs.Types := ExprContext.compileWithin_types hp _
  have hinputs : (p.context r env).exprs.inputs.Inherits ShaderExpr.Listed :=
    ExprContext.compile_inherits ShaderExpr.listed_inherited p
  refine .bind (.ofSession (fun s => htypes.require) hinputs.require.lists) fun e _ => ?_
  refine .ite ?_ (sourceTexture_furnishes _ _)
  exact .bind (R := fun _ => False) .throw fun _ h => h.elim

theorem bindingsFrom_furnishes (c : PlanContext) {i : Nat} {keys : List String} {st st' : PlanState}
    {bs : List TextureBinding} (h : Yields (c.bindingsFrom i keys) st bs st') (hst : st.Furnished accepts p) :
    st'.Furnished accepts p ∧ st.session.Extends st'.session ∧
      ∀ key ∈ keys, ∀ b, st.session.binding? key = some b →
        ∃ tb ∈ bs, tb.textureVar = Code.textureVar b.name ∧ tb.samplerVar = Code.samplerVar b.name := by
  induction keys generalizing i st bs with
  | nil =>
    obtain ⟨rfl, rfl⟩ := (yields_pure _ _ _ _).1 h
    exact ⟨hst, .refl _, by simp⟩
  | cons key rest ih =>
    unfold bindingsFrom at h
    simp only [yields_bind, yields_get] at h
    obtain ⟨_, _, ⟨rfl, rfl⟩, h⟩ := h
    split at h
    · rename_i hnone
      obtain ⟨hst', hext, hbound⟩ := ih h hst
      refine ⟨hst', hext, fun k hk b hb => ?_⟩
      rcases List.mem_cons.1 hk with rfl | hk
      · rw [hnone] at hb
        cases hb
      · exact hbound k hk b hb
    · rename_i b hb
      simp only [yields_bind, yields_pure] at h
      obtain ⟨texture, st₁, hsource, _, st₂, hsampler, more, st₃, hmore, rfl, rfl⟩ := h
      obtain ⟨h₁, hext₁, -⟩ := sourceTexture_furnishes c _ _ _ _ hsource hst
      obtain ⟨h₂, hext₂, -⟩ := Furnishes.declareSampler _ _ _ _ hsampler h₁
      obtain ⟨h₃, hext₃, hbound⟩ := ih hmore h₂
      have hext := hext₁.trans hext₂
      refine ⟨h₃, hext.trans hext₃, fun k hk b' hb' => ?_⟩
      rcases List.mem_cons.1 hk with rfl | hk
      · rw [hb] at hb'
        cases hb'
        exact ⟨_, List.mem_cons_self, rfl, rfl⟩
      · have hlater := find?_of_prefix hext.bindings hb'
        obtain ⟨tb, htb, hvars⟩ := hbound k hk b' hlater
        exact ⟨tb, List.mem_cons_of_mem _ htb, hvars⟩

/-! ### Draw passes -/

theorem drawColor_keeps (hp : p.Valid) (s : Session) :
    Keeps env.accepts p ((p.context r env).drawColor n) s fun x t => x.Has env.accepts t .vec4 := by
  have htypes : (p.context r env).exprs.inputs.Types := ExprContext.compileWithin_types hp _
  refine .bind htypes.input? fun x? t _ hx => ?_
  cases x? with
  | none => exact .pure ⟨rfl, .unaryCall (.spread rfl) (.one rfl)⟩
  | some x => exact ShaderExpr.convert_has (hx x rfl) (by decide)

theorem drawTransform_keeps (hp : p.Valid) (s : Session) :
    Keeps env.accepts p ((p.context r env).drawTransform n) s fun x t =>
      x.code.references = [] ∨ x.Has env.accepts t .mat4 := by
  have htypes : (p.context r env).exprs.inputs.Types := ExprContext.compileWithin_types hp _
  refine .bind htypes.input? fun x? t _ hx => ?_
  cases x? with
  | none =>
    dsimp only
    split
    · exact .pure (.inl Effect.references_identity)
    · refine .ite (fun _ => ?_) fun _ => .throw
      exact (constant_keeps _ _ _ (.inr (.inr rfl))).mono fun _ _ => .inr
  | some x =>
    exact .bind (ShaderExpr.convert_has (hx x rfl) (by decide)) fun y u _ hy => .refuse fun _ => .pure (.inr hy)

theorem drawTransform_lists :
    Lists ((p.context r env).drawTransform n) fun x => x.Listed ∧ x.code.samples = [] := by
  refine ((drawTransform_inherits ShaderExpr.listed_inherited).mono fun x hx => ⟨hx.1, ?_⟩).lists
  refine List.eq_nil_iff_forall_not_mem.2 fun key hkey => ?_
  rcases hx.2 with hsources | ⟨-, htextures⟩
  · simp [Code.mem_samples, Code.references_of_sources hsources] at hkey
  · simpa [htextures] using (hx.1.textures key).2 hkey

/-- Functions that typed code calls are registered. -/
theorem exists_helper_of_hasType {s : Session} {code : Code} {t : ValueType} (h : code.HasType true (s.scope accepts) t)
    {f : String} (hf : f ∈ code.helpers) : ∃ g ∈ s.helpers, g.name = f := by
  have hfind : ∀ {g}, s.helper? f = some g → ∃ g ∈ s.helpers, g.name = f := fun {g} hg =>
    ⟨g, List.mem_of_find?_eq_some hg, by simpa using List.find?_some hg⟩
  rcases Code.mem_helpers.1 hf with ⟨args, hu⟩ | ⟨rfl, key, stem, position, hu⟩
  · obtain ⟨name, ts, t, heq, -, g, hg, -⟩ | ⟨key, stem, heq, -⟩ := h.references _ hu <;> cases heq
    exact hfind hg
  · obtain ⟨name, ts, t, heq, -⟩ | ⟨key, stem, heq, -, hflip⟩ := h.references _ hu <;> cases heq
    exact hfind hflip

/-- Textures that typed code names are bound, under keys that it samples. -/
theorem exists_binding_of_hasType {s : Session} {code : Code} {t : ValueType}
    (h : code.HasType true (s.scope accepts) t)
    {name : String} (hname : name ∈ code.textureNames) :
    ∃ key ∈ code.samples, ∃ b, s.binding? key = some b ∧ b.name = name := by
  rcases Code.mem_textureNames.1 hname with ⟨key, position, hu⟩ | hu
  · obtain ⟨f, ts, t, heq, -⟩ | ⟨key, stem, heq, hbound, -⟩ := h.references _ hu <;> cases heq
    exact ⟨_, Code.mem_samples.2 ⟨_, _, hu⟩, hbound⟩
  · obtain ⟨f, ts, t, heq, -⟩ | ⟨key, stem, heq, -⟩ := h.references _ hu <;> cases heq

theorem withGeometry_furnishes (c : PlanContext) (g : Geometry) (ps : Pass) :
    Furnishes accepts p (c.withGeometry g ps) fun q => q.bindings = ps.bindings := by
  refine .ite (.pure rfl) (.bind (.declareBuffer _) fun _ _ => .ite (.pure rfl) ?_)
  exact .bind (.declareBuffer _) fun _ _ => .pure rfl

theorem vertexProgram_transform (g : Geometry) (t : Code) : (vertexProgram g t).transform = t := by
  unfold vertexProgram
  split <;> rfl

/-- The module of a draw pass, which declares the functions of the color and binds its textures. -/
theorem drawModule_furnished {s : Session} (hs : s.Listed) {color : ShaderExpr} (hlisted : color.Listed)
    (hcolor : color.Has accepts s .vec4) {transform : Code} (hplain : transform.textureNames = [])
    {bindings : List TextureBinding} (hbound : ∀ name ∈ color.code.textureNames,
      ∃ b ∈ bindings, b.textureVar = Code.textureVar name ∧ b.samplerVar = Code.samplerVar name) (g : Geometry) :
    ShaderModule.Furnished { bindings, helpers := s.helpersNamed color.helpers, vertex := vertexProgram g transform,
                             fragment := [.result color.code] } where
  distinct := (List.filter_sublist.map _).nodup hs.helpers
  called stmt hstmt f hf := by
    obtain rfl := List.mem_singleton.1 hstmt
    obtain ⟨h, hmem, rfl⟩ := exists_helper_of_hasType hcolor.code hf
    refine List.mem_map_of_mem (List.mem_filter.2 ⟨hmem, ?_⟩)
    rw [List.contains_iff_mem]
    exact (hlisted.helpers _).2 hf
  shared f _ hf := by
    obtain ⟨h, hmem, rfl⟩ := List.mem_map.1 hf
    have hname := List.contains_iff_mem.1 (List.mem_filter.1 hmem).2
    exact ⟨_, List.mem_singleton_self _, (hlisted.helpers _).1 hname⟩
  bound e he name hname := by
    rcases List.mem_cons.1 he with rfl | he
    · rw [vertexProgram_transform, hplain] at hname
      cases hname
    · obtain rfl := List.mem_singleton.1 he
      exact hbound name hname

theorem renderPass_furnishes (hp : p.Valid) (route : Route) :
    Furnishes env.accepts p ((p.context r env).renderPass n route) fun _ => True := by
  intro st u st' h hst
  unfold renderPass at h
  simp only [yields_bind, yields_ofSession, yields_ofExpr, yields_get] at h
  obtain ⟨color, _, ⟨s₁, hcolor, rfl⟩, transform, _, ⟨s₂, htransform, rfl⟩, _, _, ⟨_, rfl⟩, bindings, st₃, hbindings,
    ps, st₄, hgeometry, _, _, ⟨rfl, rfl⟩, hadd⟩ := h
  obtain ⟨htyped₁, hext₁, hvec⟩ := (drawColor_keeps hp _).of_yields hcolor hst.typed
  obtain ⟨hlisted₁, hcolorListed⟩ := (drawColor_inherits ShaderExpr.listed_inherited).lists _ _ _ hcolor hst.listed
  obtain ⟨htyped₂, hext₂, hmatrix⟩ := (drawTransform_keeps hp _).of_yields htransform htyped₁
  obtain ⟨hlisted₂, -, hsamples⟩ := drawTransform_lists _ _ _ htransform hlisted₁
  obtain ⟨h₃, hext₃, hbound⟩ := bindingsFrom_furnishes _ hbindings ⟨htyped₂, hlisted₂, hst.passes⟩
  obtain ⟨h₄, hext₄, hsame⟩ := withGeometry_furnishes _ _ _ _ _ _ hgeometry h₃
  have hvec₂ := hvec.mono hext₂
  -- A wired transform is typed, so what it names it samples; and it samples nothing.
  have hplain : transform.code.textureNames = [] := by
    refine List.eq_nil_iff_forall_not_mem.2 fun name hname => ?_
    rcases hmatrix with hcode | hmatrix
    · simp [Code.mem_textureNames, hcode] at hname
    · obtain ⟨key, hkey, -⟩ := exists_binding_of_hasType hmatrix.code hname
      simp [hsamples] at hkey
  have hnames : ∀ name ∈ color.code.textureNames,
      ∃ b ∈ bindings, b.textureVar = Code.textureVar name ∧ b.samplerVar = Code.samplerVar name := by
    intro name hname
    obtain ⟨key, hkey, b, hb, rfl⟩ := exists_binding_of_hasType hvec₂.code hname
    exact hbound key ((hcolorListed.textures key).2 hkey) b hb
  -- The functions are looked up at the end, when planning the textures may have extended the session.
  have hmodule := drawModule_furnished h₄.listed hcolorListed (hvec₂.mono (hext₃.trans hext₄)) hplain hnames
    route.geometry
  obtain ⟨hst', hext₅, -⟩ := Furnishes.addPass (.inr ⟨_, rfl, hsame.symm, hmodule⟩) _ _ _ hadd h₄
  exact ⟨hst', hext₁.trans (hext₂.trans (hext₃.trans (hext₄.trans hext₅))), trivial⟩

/-! ### Effect passes -/

theorem scratch_furnishes (name : String) (route : Route) (divisor : Int) :
    Furnishes accepts p (scratch n name route divisor) fun _ => True := by
  unfold scratch
  split
  · exact .throw
  · exact .declareTexture _

theorem stage_furnishes {body : List ShaderStatement} (h : Effect.Reads ["src"] body) (kind : PassKind)
    (label source target : String) (blend : Option BlendState) :
    Furnishes accepts p (stage n kind label source target body blend).plan fun _ => True :=
  Effect.plan_furnishes h

theorem blit_furnishes (hp : p.Valid) (route : Route) :
    Furnishes env.accepts p ((p.context r env).blit n route) fun _ => True :=
  .bind (wiredTexture_furnishes hp) fun _ _ => .bind .ofExpr fun _ _ => Effect.plan_furnishes Effect.copyBody_reads

theorem constant_furnishes (node param : String) (values : List Float) :
    Furnishes accepts p (PlanM.ofSession (SessionM.constant node param values .float)) fun x => x.code.sources = [] :=
  .ofSession (fun _ => constant_keeps node param values (.inl rfl))
    ((constant_inherits (p := p) ShaderExpr.listed_inherited node param values .float).mono fun _ hx => hx.2).lists

theorem blurRounds_furnishes {radius : Code} (hradius : radius.sources = []) (first second : String) (rounds i : Nat)
    (source : String) : Furnishes accepts p (blurRounds n first second radius rounds i source) fun _ => True := by
  induction rounds generalizing i source with
  | zero => exact .pure trivial
  | succ rounds ih =>
    refine .bind (stage_furnishes (Effect.blurBody_reads rfl hradius) _ _ _ _ _) fun _ _ => ?_
    exact .bind (stage_furnishes (Effect.blurBody_reads rfl hradius) _ _ _ _ _) fun _ _ => ih _ _

theorem blur_furnishes (hp : p.Valid) (route : Route) :
    Furnishes env.accepts p ((p.context r env).blur n route) fun _ => True := by
  refine .bind (wiredTexture_furnishes hp) fun _ _ => .bind .ofExpr fun _ _ => ?_
  refine .bind (constant_furnishes _ _ _) fun radius hradius => ?_
  refine .bind (scratch_furnishes _ _ _) fun _ _ => .bind (scratch_furnishes _ _ _) fun _ _ => ?_
  refine .bind (blurRounds_furnishes hradius _ _ _ _ _) fun _ _ => ?_
  exact stage_furnishes Effect.copyBody_reads _ _ _ _ _

theorem planAll_furnishes {es : List Effect} (h : ∀ e ∈ es, Effect.Reads (e.inputs.map EffectInput.name) e.body) :
    Furnishes accepts p (planAll es) fun _ => True := by
  induction es with
  | nil => exact .pure trivial
  | cons e rest ih =>
    rw [List.forall_mem_cons] at h
    exact .bind (Effect.plan_furnishes h.1) fun _ _ => ih h.2

theorem bloomLevels_furnishes (name : String) (route : Route) (levels : List Nat) :
    Furnishes accepts p (bloomLevels n name route levels) fun _ => True := by
  induction levels with
  | nil => exact .pure trivial
  | cons i rest ih => exact .bind (scratch_furnishes _ _ _) fun _ _ => ih

theorem bloom_furnishes (hp : p.Valid) (route : Route) :
    Furnishes env.accepts p ((p.context r env).bloom n route) fun _ => True := by
  refine .bind (wiredTexture_furnishes hp) fun _ _ => .bind .ofExpr fun _ _ => ?_
  refine .bind (constant_furnishes _ _ _) fun threshold hthreshold => ?_
  refine .bind (constant_furnishes _ _ _) fun intensity hintensity => ?_
  refine .bind (bloomLevels_furnishes _ _ _) fun _ _ => ?_
  refine .bind (stage_furnishes (Effect.extractBody_reads hthreshold) _ _ _ _ _) fun _ _ => ?_
  refine .bind (planAll_furnishes ?_) fun _ _ => .bind (planAll_furnishes ?_) fun _ _ => ?_
  · simpa [stage] using fun _ _ => Effect.downBody_reads
  · simpa [stage] using fun _ _ => Effect.copyBody_reads
  · exact Effect.plan_furnishes (Effect.combineBody_reads hintensity)

/-! ### Turns of nodes -/

theorem markDrawn_furnishes (id : String) : Furnishes accepts p (markDrawn id) fun _ => True :=
  .of_keeps fun _ isDrawn _ h => by
    rcases (yields_markDrawn id isDrawn).1 h with ⟨_, _, rfl⟩ | ⟨_, _, rfl⟩ <;> exact ⟨rfl, rfl⟩

theorem routeOf_furnishes (c : PlanContext) (id : String) : Furnishes accepts p (c.routeOf id) fun _ => True :=
  .of_keeps fun _ route _ h => by
    obtain ⟨_, rfl⟩ := (yields_routeOf id route).1 h
    exact ⟨rfl, rfl⟩

theorem draw_furnishes (hp : p.Valid) (n : Node) :
    Furnishes env.accepts p ((p.context r env).draw n) fun _ => True := by
  refine .bind (markDrawn_furnishes _) fun _ _ => .ite (.pure trivial) (.bind (routeOf_furnishes _ _) fun route _ => ?_)
  split
  · exact renderPass_furnishes hp route
  · exact blit_furnishes hp route
  · exact blur_furnishes hp route
  · exact bloom_furnishes hp route
  · exact .throw

theorem compose_furnishes (layer : String) (source target : Domain) :
    Furnishes accepts p (compose layer source n target) fun _ => True := by
  intro st u st' h hst
  unfold compose at h
  simp only [yields_bind, yields_get, yields_ite, yields_set, PlanM.yields_debug, yields_ofExpr] at h
  obtain ⟨_, _, ⟨rfl, rfl⟩, ⟨_, rfl⟩ | ⟨_, _, _, rfl, _, _, ⟨_, rfl⟩, hplan⟩⟩ := h
  · exact Furnishes.report _ _ u _ ((yields_report _ _ _ _).2 rfl) hst
  · have hcopy := @Effect.plan_furnishes accepts p _ (by exact Effect.copyBody_reads) _ _ _ hplan
    exact hcopy ⟨hst.typed, hst.listed, hst.passes⟩

theorem layers_furnishes (hp : p.Valid) {inner : Node → PlanM Unit}
    (hinner : ∀ n, Furnishes env.accepts p (inner n) fun _ => True)
    (route : Route) (ls : List Layer) :
    Furnishes env.accepts p ((p.context r env).layers inner n route ls) fun _ => True := by
  have hlayer : ∀ l, Furnishes env.accepts p ((p.context r env).layer inner n route l) fun _ => True := by
    intro l
    unfold layer
    split
    · exact .ite (.ite (hinner _) (.ite (draw_furnishes hp _) (.pure trivial))) (compose_furnishes _ _ _)
    · exact .pure trivial
  induction ls with
  | nil => exact .pure trivial
  | cons l rest ih => exact .bind (hlayer l) fun _ _ => ih

theorem compositeWithin_furnishes (hp : p.Valid) (depth : Nat) (n : Node) :
    Furnishes env.accepts p ((p.context r env).compositeWithin depth n) fun _ => True := by
  induction depth generalizing n with
  | zero => exact .pure trivial
  | succ depth ih =>
    refine .bind (markDrawn_furnishes _) fun _ _ => .ite (.pure trivial) ?_
    exact .bind (routeOf_furnishes _ _) fun route _ => layers_furnishes hp ih route _

theorem node_furnishes (hp : p.Valid) (n : Node) :
    Furnishes env.accepts p ((p.context r env).node n) fun _ => True := by
  unfold node
  refine .ite (.ite (.pure trivial) (compositeWithin_furnishes hp _ n)) (.ite ?_ (.ite ?_ (.pure trivial)))
  · split
    · exact .ite (draw_furnishes hp n) (.pure trivial)
    · exact .pure trivial
  · exact .bind .get fun _ _ => .ite (.pure trivial) (.addPass (.inl rfl))

theorem nodes_furnishes (hp : p.Valid) (ids : List String) :
    Furnishes env.accepts p ((p.context r env).nodes ids) fun _ => True := by
  induction ids with
  | nil => exact .pure trivial
  | cons id rest ih =>
    unfold nodes
    cases (p.context r env).prepared.node? id with
    | none => exact ih
    | some n => exact .bind (node_furnishes hp n) fun _ _ => ih

theorem declareTargets_furnishes (c : PlanContext) (ids : List String) :
    Furnishes accepts p (c.declareTargets ids) fun _ => True := by
  have htarget : ∀ n d, Furnishes accepts p (declareTarget n d) fun _ => True := by
    intro n d
    unfold declareTarget
    split
    · exact .throw
    · exact .declareTexture _
  induction ids with
  | nil => exact .pure trivial
  | cons id rest ih =>
    unfold declareTargets
    cases c.routes.textures.get? id with
    | none => exact ih
    | some d =>
      cases c.prepared.node? id with
      | none => exact ih
      | some n => exact .bind (htarget n d) fun _ _ => ih

theorem present_furnishes (c : PlanContext) : Furnishes accepts p c.present fun _ => True := by
  refine .ite (.pure trivial) (.bind (.declareTexture _) fun _ _ => .bind (.of_keeps fun _ _ _ h => ?_) fun _ _ => ?_)
  · obtain rfl := (yields_modify _ _ _ _).1 h
    exact ⟨rfl, rfl⟩
  · exact Effect.plan_furnishes Effect.displayBody_reads

/-- Every pass of a plan draws nothing or has a furnished module. -/
theorem build_furnished (hp : p.Valid) {plan : Plan} (h : (p.context r env).build.outcome.1 = .ok plan) :
    ∀ q ∈ plan.passes, q.Furnished := by
  obtain ⟨st, hrun, rfl⟩ := (build_eq_ok _ plan).1 h
  have hparams : Furnishes env.accepts p declareParams fun _ => True := by
    refine .of_keeps fun st u st' h => ?_
    unfold declareParams at h
    simp only [yields_bind, yields_get, yields_set, yields_declare] at h
    obtain ⟨_, _, ⟨rfl, rfl⟩, _, _, rfl, plan, hplan, rfl⟩ := h
    exact ⟨rfl, (Plan.declareBuffer_buffer? hplan).2.1⟩
  have hall : Furnishes env.accepts p (p.context r env).buildAll fun _ => True :=
    .bind (declareTargets_furnishes _ _) fun _ _ => .bind (nodes_furnishes hp _) fun _ _ =>
      .bind (present_furnishes _) fun _ _ => .bind hparams fun _ _ => .bind .get fun _ _ => .report _
  exact (hall _ _ _ hrun ⟨.empty _ p, .empty, by simp [emptyPlan]⟩).1.passes

end PlanContext

/-! ## Compiled scenes -/

theorem ShaderModule.render_ne_empty (m : ShaderModule) : m.render ≠ "" := by
  have hfragment : renderFragment m.fragment ≠ "" := PlanContext.append_ne_empty _ ("\x7d" ++ "\n") (by decide)
  exact PlanContext.append_ne_empty _ _ hfragment

/-- The module of a pass of a compiled scene has the bindings of the pass. It declares the texture and sampler
variables of both programs and the functions of its fragment program, and each once; and it is closed exactly when
the fragment program calls every function that the vertex program calls. -/
theorem Compiler.module_closed_iff {c : Compiler} (hc : c.registry = Registry.builtin) {s : Scene} {r : Compiled}
    (h : (c.compile s).outcome.1 = .ok r) {q : Pass} (hq : q ∈ r.plan.passes) (hshader : q.shader.text ≠ "") :
    ∃ m, q.shader = .generated m ∧ m.bindings = q.bindings ∧ (∀ e ∈ m.codes, m.Binds e) ∧
      (∀ st ∈ m.fragment, m.Declares st.code) ∧
      (m.Closed ↔ ∀ f ∈ m.vertex.transform.helpers, ∃ st ∈ m.fragment, f ∈ st.code.helpers) := by
  obtain ⟨routes, hfrom⟩ := Compiler.compile_eq_ok h
  have hplanned := hfrom.planned hc
  obtain ⟨_, _, _, hbuilt⟩ := PlanContext.build_stages hplanned.valid hplanned.build
  have hvalid := hplanned.valid.routes.prepared
  rcases PlanContext.build_furnished hvalid hplanned.build q hq with habsent | ⟨m, hm, hsame, hfurnished⟩
  · rw [habsent] at hshader
    exact absurd rfl hshader
  · have hdistinct := (hbuilt.complete.passes q hq).distinct
    have hbinds : ∀ e ∈ m.codes, m.Binds e := fun e he => hfurnished.binds (hsame ▸ hdistinct) he
    exact ⟨m, hm, hsame, hbinds, hfurnished.closed_iff hbinds⟩

/-- A pass of the plan has a module that satisfies a condition. -/
def Plan.hasModule (plan : Plan) (f : ShaderModule → Bool) : Bool :=
  plan.passes.any fun q => match q.shader with
    | .generated m => f m
    | _ => false

theorem Plan.exists_of_hasModule {plan : Plan} {f : ShaderModule → Bool} (h : plan.hasModule f = true) :
    ∃ q ∈ plan.passes, q.shader.text ≠ "" ∧ ∃ m, q.shader = .generated m ∧ f m = true := by
  obtain ⟨q, hq, hshader⟩ := List.any_eq_true.1 h
  split at hshader
  · rename_i m hm
    exact ⟨q, hq, hm ▸ m.render_ne_empty, m, hm, hshader⟩
  · cases hshader

/-- Two passes whose place is chosen by a snippet, which also chooses the color of the first one: that of a
picture or a plain one. -/
def Scene.gated : Scene where
  nodes := [{ id := "screen", type := "Screen" }, { id := "stack", type := "Composite" },
    { id := "inked", type := "RenderPass" }, { id := "white", type := "RenderPass" },
    { id := "gate", type := "Expression", params := [("source", .str "true"), ("type", .str "bool")] },
    { id := "near", type := "Mat4" }, { id := "far", type := "Mat4" }, { id := "place", type := "Select" },
    { id := "img", type := "ImageTexture" }, { id := "plain", type := "Color" }, { id := "ink", type := "Select" }]
  connections := [{ id := "c0", source := ⟨"gate", "value"⟩, target := ⟨"place", "cond"⟩ },
    { id := "c1", source := ⟨"near", "value"⟩, target := ⟨"place", "a"⟩ },
    { id := "c2", source := ⟨"far", "value"⟩, target := ⟨"place", "b"⟩ },
    { id := "c3", source := ⟨"gate", "value"⟩, target := ⟨"ink", "cond"⟩ },
    { id := "c4", source := ⟨"img", "color"⟩, target := ⟨"ink", "a"⟩ },
    { id := "c5", source := ⟨"plain", "color"⟩, target := ⟨"ink", "b"⟩ },
    { id := "c6", source := ⟨"place", "value"⟩, target := ⟨"inked", "transform"⟩ },
    { id := "c7", source := ⟨"ink", "value"⟩, target := ⟨"inked", "color"⟩ },
    { id := "c8", source := ⟨"place", "value"⟩, target := ⟨"white", "transform"⟩ },
    { id := "c9", source := ⟨"inked", "pass"⟩, target := ⟨"stack", "pass"⟩ },
    { id := "c10", source := ⟨"white", "pass"⟩, target := ⟨"stack", "dynamic_0"⟩ },
    { id := "c11", source := ⟨"stack", "pass"⟩, target := ⟨"screen", "pass"⟩ }]
  outputs := [("main", "screen")]

theorem toList_textLines (lines : List String) :
    (textLines lines).toList = lines.flatMap fun line => line.toList ++ ['\n'] := by
  rw [textLines, String.toList_join, List.flatMap_map]
  exact congrArg (lines.flatMap ·) (funext fun line => String.toList_append)

/-- The function of the snippet. -/
def Scene.gate : Snippet where
  name := "expr_gate"
  args := []
  result := .bool
  body := "return true;"

theorem Scene.gate_module : gate.stageModule .fragment = textLines [
    "struct Frame \x7b", "\ttime: f32,", "\tcount: u32,", "\tresolution: vec2<f32>,", "\x7d", "",
    "@group(0) @binding(0) var<uniform> frame: Frame;",
    "@group(0) @binding(1) var<storage, read> params: array<vec4<f32>>;", "",
    "fn expr_gate() -> bool \x7b", "\treturn true;", "\x7d", "",
    "@fragment", "fn fs_main() -> @location(0) vec4<f32> \x7b", "\tlet r = expr_gate();",
    "\treturn vec4<f32>(select(0.0, 1.0, r));", "\x7d"] := by
  decide +kernel

theorem Scene.gate_valid : gate.isValid Wgsl.accepts .fragment = true := by
  unfold Snippet.isValid Wgsl.accepts Wgsl.read?
  -- Only the characters of short texts are computed quickly, so the module is taken line by line.
  rw [gate_module, toList_textLines]
  decide +kernel

/-- A checker, where one result is known. -/
theorem Snippet.accepts_eq {accepts : String → Bool} {f : Snippet} {stage : SnippetStage}
    (h : f.isValid accepts stage = true) :
    accepts = fun text => decide (text = f.stageModule stage) || accepts text := by
  funext text
  by_cases hknown : text = f.stageModule stage
  · rw [decide_eq_true hknown, hknown, Bool.true_or]
    exact h
  · rw [decide_eq_false hknown, Bool.false_or]

theorem Scene.gated_checks : (({} : Compiler).compile Scene.gated).outcome.1.toOption.any (fun r =>
    (r.plan.hasModule fun m => decide (m.vertex.transform.helpers = ["expr_gate"]) &&
      m.fragment.any fun s => decide (s.code.helpers = ["flip_uv", "expr_gate"])) &&
    r.plan.hasModule fun m => decide (m.vertex.transform.helpers = ["expr_gate"]) &&
      decide (m.declaredHelpers = [])) = true := by
  rw [Schema.builtin_eq, Registry.builtin_eq, Snippet.accepts_eq gate_valid]
  decide +kernel

/-- Both programs of a pass call the snippet, and its module is closed. -/
theorem Scene.gated_closed : ∃ r, (({} : Compiler).compile Scene.gated).outcome.1 = .ok r ∧
    ∃ q ∈ r.plan.passes, q.shader.text ≠ "" ∧ ∃ m, q.shader = .generated m ∧
      m.vertex.transform.helpers = ["expr_gate"] ∧ m.Closed := by
  obtain ⟨r, hr, hchecks⟩ := Option.any_eq_true _ _ |>.1 Scene.gated_checks
  rw [Bool.and_eq_true] at hchecks
  obtain ⟨q, hq, htext, m, hm, hchecks⟩ := Plan.exists_of_hasModule hchecks.1
  rw [Bool.and_eq_true, decide_eq_true_eq] at hchecks
  obtain ⟨s, hs, hcalls⟩ := List.any_eq_true.1 hchecks.2
  have hr := eq_ok_of_toOption hr
  obtain ⟨m', hm', _, _, _, hiff⟩ := Compiler.module_closed_iff rfl hr hq htext
  rw [hm] at hm'
  cases hm'
  refine ⟨r, hr, q, hq, htext, m, hm, hchecks.1, hiff.2 fun f hf => ⟨s, hs, ?_⟩⟩
  rw [hchecks.1, List.mem_singleton] at hf
  rw [of_decide_eq_true hcalls, hf]
  decide

/-- The vertex program of a pass calls the snippet, and its module does not declare it. -/
theorem Scene.gated_open : ∃ r, (({} : Compiler).compile Scene.gated).outcome.1 = .ok r ∧
    ∃ q ∈ r.plan.passes, q.shader.text ≠ "" ∧ ∃ m, q.shader = .generated m ∧
      "expr_gate" ∈ m.vertex.transform.helpers ∧ "expr_gate" ∉ m.declaredHelpers ∧ ¬m.Closed := by
  obtain ⟨r, hr, hchecks⟩ := Option.any_eq_true _ _ |>.1 Scene.gated_checks
  rw [Bool.and_eq_true] at hchecks
  obtain ⟨q, hq, htext, m, hm, hchecks⟩ := Plan.exists_of_hasModule hchecks.2
  simp only [Bool.and_eq_true, decide_eq_true_eq] at hchecks
  obtain ⟨hcalls, hdeclared⟩ := hchecks
  have hmem : "expr_gate" ∈ m.vertex.transform.helpers := by simp [hcalls]
  refine ⟨r, eq_ok_of_toOption hr, q, hq, htext, m, hm, hmem, by simp [hdeclared], fun hclosed => ?_⟩
  have hcount := (hclosed _ List.mem_cons_self).functions _ hmem
  simp [hdeclared] at hcount

end SceneGraph
