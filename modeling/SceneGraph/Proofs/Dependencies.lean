import SceneGraph.Proofs.Clock

/-!
# Dependencies of expressions

An expression is passed on with what its code depends on: textures, helper functions, the fragment, the instance.
These are put together from input to output, apart from the code, through conversions and remembered outputs, and
also in a session whose attempts have failed. They are exact: what is listed occurs in the code, and what occurs is
listed, once.

* `ShaderExpr.Unrepeated`: nothing is listed twice.
* `ShaderExpr.Exact`: an expression lists what its code depends on.
* `ExprContext.Arises.holds`: a session of attempts keeps what expressions inherit.
* `ExprContext.compile_exact`: compiled expressions are exact, so transforms read neither fragments nor textures.
* `Compiler.vertex_placeless`: no vertex program of a compiled scene reads a fragment or a texture.
-/
set_option autoImplicit false

namespace SceneGraph

open SessionM

namespace ShaderExpr

/-! ## Lists without repetition -/

/-- No texture and no function is listed twice. -/
structure Unrepeated (x : ShaderExpr) : Prop where
  textures : x.textures.Nodup
  helpers : x.helpers.Nodup

theorem derive_unrepeated (code : Code) (type : ValueType) (inputs : List ShaderExpr) :
    (derive code type inputs).Unrepeated := by
  have hfold : ∀ e : ShaderExpr, e.Unrepeated → (inputs.foldl inherit e).Unrepeated := by
    induction inputs with
    | nil => exact fun e he => he
    | cons i rest ih =>
      intro e he
      have hnext : (e.inherit i).Unrepeated := ⟨nodup_addNew _ _ he.textures, nodup_addNew _ _ he.helpers⟩
      exact ih _ hnext
  exact hfold _ ⟨List.nodup_nil, List.nodup_nil⟩

theorem unrepeated_inherited : Inherited Unrepeated where
  plain _ hx := by constructor <;> simp [hx.textures, hx.helpers]
  clock _ := ⟨List.nodup_nil, List.nodup_nil⟩
  coordinates := ⟨List.nodup_nil, List.nodup_nil⟩
  instanceNumber := ⟨List.nodup_nil, List.nodup_nil⟩
  derive _ _ := derive_unrepeated _ _ _
  sample {key name uv} _ := by
    have h := derive_unrepeated (.sample key name uv.code) .vec4 [uv]
    exact ⟨nodup_addNew _ _ h.textures, nodup_addNew _ _ h.helpers⟩
  call {name type args} _ := by
    have h := derive_unrepeated (.helper name (args.map code)) type args
    exact ⟨h.textures, nodup_addNew _ _ h.helpers⟩

/-- What expressions inherit on its own they inherit together. -/
theorem Inherited.and {P Q : ShaderExpr → Prop} (hP : Inherited P) (hQ : Inherited Q) :
    Inherited fun x => P x ∧ Q x where
  plain hcode hx := ⟨hP.plain hcode hx, hQ.plain hcode hx⟩
  clock hcode := ⟨hP.clock hcode, hQ.clock hcode⟩
  coordinates := ⟨hP.coordinates, hQ.coordinates⟩
  instanceNumber := ⟨hP.instanceNumber, hQ.instanceNumber⟩
  derive h hcode := ⟨hP.derive (fun i hi => (h i hi).1) hcode, hQ.derive (fun i hi => (h i hi).2) hcode⟩
  sample h := ⟨hP.sample h.1, hQ.sample h.2⟩
  call h := ⟨hP.call fun e he => (h e he).1, hQ.call fun e he => (h e he).2⟩

/-! ## Exact expressions -/

/-- The expression lists what its code depends on, where the session says which texture a key stands for. -/
structure Exact (s : Session) (x : ShaderExpr) : Prop where
  unrepeated : x.Unrepeated
  textures : ∀ key, key ∈ x.textures ↔ ∃ b, s.binding? key = some b ∧ b.name ∈ x.code.textureNames
  helpers : ∀ name, name ∈ x.helpers ↔ name ∈ x.code.helpers
  instanced : x.isInstanced = true ↔ x.code.readsInstance = true
  varying : x.isVarying = true ↔
    x.code.readsUv = true ∨ x.code.readsInstance = true ∨ ∃ key, key ∈ x.code.samples

/-- What is known of an expression by the way it is put together. -/
def Accounted (x : ShaderExpr) : Prop :=
  x.Listed ∧ x.Unrepeated ∧ Mark.perInstance.Tells x ∧ Mark.fragment.Tells x

theorem accounted_inherited : Inherited Accounted :=
  listed_inherited.and (unrepeated_inherited.and ((Mark.inherited .perInstance).and (Mark.inherited .fragment)))

end ShaderExpr

namespace Mark

theorem perInstance_reads (e : Code) : Mark.perInstance.reads e = e.readsInstance := by
  unfold reads Code.readsInstance Code.sources
  rw [List.any_filter]
  refine List.any_congr rfl fun u => ?_
  cases u <;> rfl

theorem fragment_reads (e : Code) : Mark.fragment.reads e = true ↔
    e.readsUv = true ∨ e.readsInstance = true ∨ ∃ key, key ∈ e.samples := by
  have hsamples : (∃ key, key ∈ e.samples) ↔ ∃ key name position, .sample key name position ∈ e.uses := by
    refine exists_congr fun key => ?_
    rw [Code.mem_samples]
    simp [Code.references]
  rw [hsamples]
  simp only [reads, Code.sources, Code.readsUv, Code.readsInstance, List.any_eq_true, List.mem_filter]
  constructor
  · rintro ⟨u, ⟨hu, -⟩, hconcerns⟩
    cases u with
    | uv => exact .inl ⟨_, hu, rfl⟩
    | instanceIndex => exact .inr (.inl ⟨_, hu, rfl⟩)
    | sample key name position => exact .inr (.inr ⟨_, _, _, hu⟩)
    | _ => cases hconcerns
  · rintro (⟨u, hu, hreads⟩ | ⟨u, hu, hreads⟩ | ⟨key, name, position, hu⟩)
    · cases u with
      | uv => exact ⟨_, ⟨hu, rfl⟩, rfl⟩
      | _ => cases hreads
    · cases u with
      | instanceIndex => exact ⟨_, ⟨hu, rfl⟩, rfl⟩
      | _ => cases hreads
    · exact ⟨_, ⟨hu, rfl⟩, rfl⟩

end Mark

/-! ## Compiled expressions -/

namespace ShaderExpr

variable {accepts : String → Bool} {p : Prepared} {s : Session} {x : ShaderExpr}

/-- Bound textures have the names of their nodes, so no other key stands for a texture in the code. -/
theorem Accounted.exact (h : x.Accounted) (hp : p.Valid) (hbinds : ∀ b ∈ s.bindings, p.Binds b)
    (hcode : x.code.HasType true (s.scope accepts) x.type) : x.Exact s := by
  obtain ⟨hlisted, hunrepeated, hinstanced, hvarying⟩ := h
  have hself : ∀ {key b}, s.binding? key = some b → b.key = key ∧ p.Binds b := by
    intro key b hb
    have hkey : b.key = key := by simpa using List.find?_some hb
    exact ⟨hkey, hbinds b (List.mem_of_find?_eq_some hb)⟩
  refine ⟨hunrepeated, fun key => ?_, hlisted.helpers, ?_, ?_⟩
  · rw [hlisted.textures]
    constructor
    · intro hkey
      obtain ⟨stem, position, hu⟩ := Code.mem_samples.1 hkey
      have hstem : stem ∈ x.code.textureNames := Code.mem_textureNames.2 (.inl ⟨key, position, hu⟩)
      obtain ⟨name, ts, t, heq, -⟩ | ⟨key', stem', heq, ⟨b, hb, hname⟩, -⟩ := hcode.references _ hu <;> cases heq
      exact ⟨b, hb, hname ▸ hstem⟩
    · rintro ⟨b, hb, hname⟩
      obtain ⟨key', hkey', b', hb', hsame⟩ := PlanContext.exists_binding_of_hasType hcode hname
      obtain ⟨rfl, ⟨n, hn⟩, hstem⟩ := hself hb
      obtain ⟨rfl, ⟨m, hm⟩, hstem'⟩ := hself hb'
      have hkeys : b.key = b'.key := hp.nameOf_injective hn hm (by rw [← hstem, ← hstem', hsame])
      rw [hkeys]
      exact hkey'
  · rw [← Mark.perInstance_reads, ← hinstanced]
    rfl
  · rw [← Mark.fragment_reads, ← hvarying]
    rfl

end ShaderExpr

namespace ExprContext

variable {accepts : String → Bool} {p : Prepared} {s : Session}

/-- A session of attempts keeps what expressions inherit, since an attempt that fails has compiled only such. -/
theorem Arises.holds {P : ShaderExpr → Prop} (hP : ShaderExpr.Inherited P)
    (h : ({ prepared := p, accepts } : ExprContext).Arises s) : s.Holds p.Registers p.Binds P := by
  induction h with
  | start => exact .empty
  | compile _ e ih => exact (compile_inherits hP p e _ _ (fun _ h => h) (fun _ h => h) _ ih).1
  | store _ key values ih => exact ih.store key values
  | report _ entry ih => exact ih.keep rfl rfl rfl

end ExprContext

/-! ## Transforms -/

/-- The code can stand in a vertex program: it reads neither the coordinates nor the instance of a fragment, and it
names no texture. -/
structure Code.IsPlaceless (e : Code) : Prop where
  uv : e.readsUv = false
  fragmentInstance : e.readsInstance = false
  textures : e.textureNames = []

theorem Code.IsPlaceless.of_reads {e : Code} (h : Mark.fragment.reads e = false)
    (hnames : ∀ name ∈ e.textureNames, ∃ key, key ∈ e.samples) : e.IsPlaceless := by
  have hnot : ¬(e.readsUv = true ∨ e.readsInstance = true ∨ ∃ key, key ∈ e.samples) := by
    rw [← Mark.fragment_reads, h]
    exact Bool.false_ne_true
  obtain ⟨huv, hinstance, hsamples⟩ : ¬e.readsUv = true ∧ ¬e.readsInstance = true ∧ ¬∃ key, key ∈ e.samples := by
    simpa only [not_or] using hnot
  have hnone : ∀ name, name ∉ e.textureNames := fun name hname => hsamples (hnames name hname)
  exact ⟨by simpa using huv, by simpa using hinstance, List.eq_nil_iff_forall_not_mem.2 hnone⟩

theorem Code.IsPlaceless.of_sources {e : Code} (h : e.sources = []) : e.IsPlaceless := by
  have hreads : Mark.fragment.reads e = false := by rw [Mark.reads, h, List.any_nil]
  refine .of_reads hreads fun name hname => ?_
  simp [Code.mem_textureNames, Code.references_of_sources h] at hname

namespace PlanContext

variable {p : Prepared} {r : Routes} {env : Environment} {n : Node}

/-- The transform of a draw node can stand in a vertex program. -/
theorem drawTransform_placeless (hp : p.Valid) {s t : Session} {x : ShaderExpr} (htyped : s.Typed env.accepts p)
    (hholds : s.Holds p.Registers p.Binds ShaderExpr.Accounted)
    (h : Yields ((p.context r env).drawTransform n) s x t) : x.code.IsPlaceless := by
  obtain ⟨-, -, hcode⟩ := (drawTransform_keeps hp s).of_yields h htyped
  obtain ⟨-, ⟨-, -, -, hvarying⟩, hplain⟩ :=
    (drawTransform_inherits ShaderExpr.accounted_inherited).yields (fun _ h => h) (fun _ h => h) h hholds
  rcases hplain with hsources | ⟨hflag, -⟩
  · exact .of_sources hsources
  · have hreads : Mark.fragment.reads x.code = false := hvarying.symm.trans hflag
    refine .of_reads hreads fun name hname => ?_
    rcases hcode with hnone | hcode
    · simp [Code.mem_textureNames, hnone] at hname
    · obtain ⟨key, hkey, -⟩ := exists_binding_of_hasType hcode.code hname
      exact ⟨key, hkey⟩

end PlanContext

namespace ExprContext

/-- In any session over a prepared scene, failed attempts included, a compiled expression lists exactly what its code
depends on, and an accepted transform reads neither a fragment nor a texture. -/
theorem compile_exact {scene : Scene} {schema : Schema} {options : PrepareOptions} {p : Prepared}
    (hp : (scene.prepare schema options).outcome.1 = .ok p) {accepts : String → Bool} {s : Session}
    (hs : ({ prepared := p, accepts } : ExprContext).Arises s) :
    (∀ e x t, Yields (({ prepared := p, accepts } : ExprContext).compile e) s x t → x.type ≠ .texture → x.Exact t) ∧
    ∀ r (env : Environment) n x t, env.accepts = accepts → Yields ((p.context r env).drawTransform n) s x t →
      x.code.IsPlaceless := by
  have hvalid := Scene.prepare_valid hp
  have hholds := hs.holds ShaderExpr.accounted_inherited
  constructor
  · intro e x t h hx
    obtain ⟨ht, hx'⟩ :=
      (compile_inherits ShaderExpr.accounted_inherited p e).yields (fun _ h => h) (fun _ h => h) h hholds
    obtain ⟨-, -, hcode⟩ := (compile_keeps hvalid e s).of_yields h (hs.typed hvalid)
    exact hx'.exact hvalid ht.bindings (hcode hx)
  · rintro r env n x t rfl h
    exact PlanContext.drawTransform_placeless hvalid (hs.typed hvalid) hholds h

end ExprContext

theorem Scene.striped_dependencies : (Schema.builtin.validate Scene.striped).toOption.any (fun scene =>
    (scene.prepare Schema.builtin {}).outcome.1.toOption.any fun p =>
      let c : ExprContext := { prepared := p }
      let s := ((c.compile ⟨"ghost", "value"⟩).run.run {}).2
      ((c.compile ⟨"choice", "value"⟩).run.run s).1.toOption.any (fun x =>
        decide (x.type = .vec4 ∧ x.textures = ["text"] ∧ x.helpers = ["flip_uv"]) && x.isInstanced) &&
      (p.node? "rp").any fun n =>
        (((p.context ⟨[], [], [], []⟩ {}).drawTransform n).run.run s).1.toOption.any fun _ => true) = true := by
  rw [Schema.builtin_eq, Registry.builtin_eq]
  decide +kernel

/-- After an attempt that failed, the color of the stripes lists its text and the flip of coordinates, and the place of
the pass reads nothing of a fragment. -/
theorem Scene.striped_exact : ∃ scene p s x t, Schema.builtin.validate Scene.striped = .ok scene ∧
    (scene.prepare Schema.builtin {}).outcome.1 = .ok p ∧ ({ prepared := p } : ExprContext).Arises s ∧
    Yields (({ prepared := p } : ExprContext).compile ⟨"choice", "value"⟩) s x t ∧ x.Exact t ∧
    x.textures = ["text"] ∧ x.helpers = ["flip_uv"] ∧ x.isInstanced = true ∧
    ∃ r n y u, p.node? "rp" = some n ∧ Yields ((p.context r {}).drawTransform n) s y u ∧ y.code.IsPlaceless := by
  obtain ⟨scene, hscene, hchecks⟩ := Option.any_eq_true _ _ |>.1 Scene.striped_dependencies
  obtain ⟨p, hp, hchecks⟩ := Option.any_eq_true _ _ |>.1 hchecks
  obtain ⟨hcolor, hplace⟩ := Bool.and_eq_true_iff.1 hchecks
  obtain ⟨x, hx, hlists⟩ := Option.any_eq_true _ _ |>.1 hcolor
  obtain ⟨n, hn, hplace⟩ := Option.any_eq_true _ _ |>.1 hplace
  obtain ⟨y, hy, -⟩ := Option.any_eq_true _ _ |>.1 hplace
  simp only [Bool.and_eq_true, decide_eq_true_eq] at hlists
  obtain ⟨⟨htype, htextures, hhelpers⟩, hinstanced⟩ := hlists
  have harises := (ExprContext.Arises.start (c := { prepared := p })).compile ⟨"ghost", "value"⟩
  have hp := eq_ok_of_toOption hp
  have hcompiled := yields_run (eq_ok_of_toOption hx)
  have hplaced := yields_run (eq_ok_of_toOption hy)
  obtain ⟨hexact, hplaceless⟩ := ExprContext.compile_exact hp harises
  exact ⟨scene, p, _, x, _, eq_ok_of_toOption hscene, hp, harises, hcompiled, hexact _ _ _ hcompiled (by simp [htype]),
    htextures, hhelpers, hinstanced, _, n, y, _, hn, hplaced, hplaceless _ _ _ _ _ rfl hplaced⟩

/-! ## Vertex programs -/

namespace PlanContext

variable {p : Prepared} {r : Routes} {env : Environment}

theorem Compiles.keeps (hp : p.Valid) {x : SessionM ShaderExpr} (hx : (p.context r env).Compiles x) (s : Session) :
    Keeps env.accepts p x s fun _ _ => True := by
  have htypes : (p.context r env).exprs.inputs.Types := ExprContext.compileWithin_types hp _
  cases hx with
  | texture n => exact htypes.require.mono fun _ _ _ => trivial
  | color n => exact (drawColor_keeps hp s).mono fun _ _ _ => trivial
  | transform n => exact (drawTransform_keeps hp s).mono fun _ _ _ => trivial
  | constant => exact (constant_keeps _ _ _ (.inl rfl)).mono fun _ _ _ => trivial

/-- The session is typed and accounted for, and the transforms compiled so far can stand in vertex programs. -/
structure Transforms (p : Prepared) (r : Routes) (env : Environment) (g : PlanStage) : Prop where
  typed : g.state.session.Typed env.accepts p
  holds : Holds p ShaderExpr.Accounted g
  placeless : ∀ n x, ((p.context r env).drawTransform n, x) ∈ g.compiled → x.code.IsPlaceless

theorem Step.transforms (hp : p.Valid) {g g' : PlanStage} (h : (p.context r env).Step g g')
    (hg : Transforms p r env g) : Transforms p r env g' := by
  have hholds := h.holds ShaderExpr.accounted_inherited hg.holds
  cases h with
  | compile hx hrun =>
    obtain ⟨htyped, -⟩ := (hx.keeps hp _).of_yields hrun hg.typed
    refine ⟨htyped, hholds, fun n x hmem => ?_⟩
    rcases List.mem_cons.1 hmem with heq | hmem
    · obtain ⟨rfl, rfl⟩ := Prod.mk.inj heq
      exact drawTransform_placeless hp hg.typed hg.holds.session hrun
    · exact hg.placeless n x hmem
  | report => exact ⟨⟨hg.typed.memo, hg.typed.helpers⟩, hholds, hg.placeless⟩
  | texture | upload | buffer | sampler | mark | shown | params | pass => exact ⟨hg.typed, hholds, hg.placeless⟩

/-- The vertex program of the pass reads neither fragments nor textures. -/
def Placeless (q : Pass) : Prop := ∀ m, q.shader = .generated m → m.vertex.transform.IsPlaceless

theorem Plans.placeless {g : PlanStage} (hg : Transforms p r env g) {q : Pass}
    (hq : (p.context r env).Plans g.state.session g.compiled q) : Placeless q := by
  intro m hm
  cases hq with
  | clear hshader => cases hshader.symm.trans hm
  | effect =>
    cases hm
    exact .of_sources sources_identity
  | draw _ _ htransform _ hshader =>
    cases hshader.symm.trans hm
    rw [vertexProgram_transform]
    exact hg.placeless _ _ htransform

theorem Step.placeless {g g' : PlanStage} (h : (p.context r env).Step g g') (hg : Transforms p r env g)
    (hpasses : ∀ q ∈ g.state.plan.passes, Placeless q) : ∀ q ∈ g'.state.plan.passes, Placeless q := by
  rcases h.passes with heq | ⟨q₀, _, _, _, _, hq₀, heq⟩ <;> rw [heq]
  · exact hpasses
  · intro q hmem
    rcases List.mem_append.1 hmem with hmem | hmem
    · exact hpasses q hmem
    · obtain rfl := List.mem_singleton.1 hmem
      exact hq₀.placeless hg

end PlanContext

/-- No vertex program of a compiled scene reads a fragment or a texture. -/
theorem Compiler.vertex_placeless {c : Compiler} (hc : c.registry = Registry.builtin) {s : Scene} {r : Compiled}
    (h : (c.compile s).outcome.1 = .ok r) : ∀ q ∈ r.plan.passes, PlanContext.Placeless q := by
  obtain ⟨routes, hfrom⟩ := Compiler.compile_eq_ok h
  have hvalid := Scene.prepare_valid hfrom.prepare
  obtain ⟨g, hplan, hsteps⟩ := PlanContext.steps_of_build (hfrom.planned hc).build
  have hstart : PlanContext.Transforms r.prepared routes c.environment
      ⟨{ plan := (r.prepared.context routes c.environment).emptyPlan }, []⟩ :=
    ⟨.empty _ _, ⟨.empty, by simp, by simp⟩, by simp⟩
  rw [← hplan]
  refine (hsteps.preserves (I := fun g => PlanContext.Transforms r.prepared routes c.environment g ∧
    ∀ q ∈ g.state.plan.passes, PlanContext.Placeless q) ?_ ⟨hstart, ?_⟩).2
  · exact fun g g' hstep hg => ⟨hstep.transforms hvalid hg.1, hstep.placeless hg.1 hg.2⟩
  · simp [PlanContext.emptyPlan]

end SceneGraph
