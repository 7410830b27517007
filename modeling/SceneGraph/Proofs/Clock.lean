import SceneGraph.Proofs.Inheritance
import SceneGraph.Proofs.Modules
import SceneGraph.Proofs.Planning

/-!
# Passes that read the clock

An expression carries flags that say what its code reads: the clock, the fragment, the instance. They are set where the
reading begins and handed on from input to output, apart from the code, and still they are true of it. A pass is
animated by the flags of its color and its transform, and a plan by its passes. The flags know nothing of the texts of
snippets: a function that reads the clock on its own animates no pass.

* `Mark`: the flags, with what they say of the code.
* `Mark.inherited`: expressions inherit that their flags are true.
* `PlanContext.Timed`: what the steps of planning keep.
* `Compiler.animated_iff`: a pass is animated exactly if a program of its module reads the clock; where only a function
  does, that is the text of a snippet.
-/
set_option autoImplicit false

namespace SceneGraph

open SessionM

/-! ## Flags -/

/-- A flag of expressions. -/
inductive Mark where
  | clock
  | fragment
  | perInstance

namespace Mark

/-- The value of the flag. -/
def flag : Mark → ShaderExpr → Bool
  | .clock, x => x.isAnimated
  | .fragment, x => x.isVarying
  | .perInstance, x => x.isInstanced

/-- What the flag is about: the fragment comes with its coordinates, its instance and what textures have there. -/
def concerns : Mark → Code → Bool
  | .clock, .time => true
  | .fragment, .uv | .fragment, .instanceIndex | .fragment, .sample _ _ _ => true
  | .perInstance, .instanceIndex => true
  | _, _ => false

/-- The code reads what the flag is about. -/
def reads (m : Mark) (e : Code) : Bool := e.sources.any m.concerns

/-- The flag is true of the code. -/
def Tells (m : Mark) (x : ShaderExpr) : Prop := m.flag x = m.reads x.code

variable {m : Mark}

theorem flag_derive (code : Code) (type : ValueType) (inputs : List ShaderExpr) :
    m.flag (.derive code type inputs) = inputs.any m.flag := by
  have hinherit : ∀ e i : ShaderExpr, m.flag (e.inherit i) = (m.flag e || m.flag i) := fun e i => by cases m <;> rfl
  have hfold : ∀ e : ShaderExpr, m.flag (inputs.foldl .inherit e) = (m.flag e || inputs.any m.flag) := by
    induction inputs with
    | nil => simp
    | cons i rest ih => simp [ih, hinherit, Bool.or_assoc]
  have hstart : m.flag { code, type } = false := by cases m <;> rfl
  rw [ShaderExpr.derive, hfold, hstart, Bool.false_or]

theorem any_flag {inputs : List ShaderExpr} (h : ∀ i ∈ inputs, m.Tells i) :
    inputs.any m.flag = inputs.any fun i => m.reads i.code := by
  induction inputs with
  | nil => rfl
  | cons i rest ih =>
    rw [List.forall_mem_cons] at h
    rw [List.any_cons, List.any_cons, ih h.2, h.1]

theorem tells_derive {code : Code} {type : ValueType} {inputs : List ShaderExpr} (h : ∀ i ∈ inputs, m.Tells i)
    (hcode : ∀ u, u ∈ code.sources ↔ ∃ i ∈ inputs, u ∈ i.code.sources) : m.Tells (.derive code type inputs) := by
  have hreads : m.reads (ShaderExpr.derive code type inputs).code = m.reads code := by
    rw [ShaderExpr.derive_code]
  rw [Tells, flag_derive, any_flag h, hreads, Bool.eq_iff_iff]
  simp only [reads, List.any_eq_true, hcode]
  grind

/-- Expressions inherit that a flag is true of their code. -/
theorem inherited (m : Mark) : ShaderExpr.Inherited m.Tells where
  plain hcode hx := by cases m <;> simp [Tells, flag, reads, hcode, hx.isAnimated, hx.isVarying, hx.isInstanced]
  clock hcode := by cases m <;> simp [Tells, flag, reads, hcode, concerns]
  coordinates := by cases m <;> rfl
  instanceNumber := by cases m <;> rfl
  derive := tells_derive
  sample {key name uv} h := by
    have hcode : (ShaderExpr.sampled key name uv).code = .sample key name uv.code := ShaderExpr.derive_code _ _ _
    have hflag := flag_derive (m := m) (.sample key name uv.code) .vec4 [uv]
    rw [List.any_cons, List.any_nil, Bool.or_false, h] at hflag
    rw [Tells, reads, hcode, Code.sources_sample, List.any_cons]
    cases m with
    | clock => exact hflag
    | fragment => rfl
    | perInstance => exact hflag
  call {name type args} h := by
    have hcode : (ShaderExpr.called name type args).code = .helper name (args.map ShaderExpr.code) :=
      ShaderExpr.derive_code _ _ _
    have hflag := flag_derive (m := m) (.helper name (args.map ShaderExpr.code)) type args
    have hsame : m.flag (ShaderExpr.called name type args) =
        m.flag (.derive (.helper name (args.map ShaderExpr.code)) type args) := by cases m <;> rfl
    have hcall : m.concerns (.helper name []) = false := by cases m <;> rfl
    rw [Tells, hsame, hflag, any_flag h, reads, hcode, Code.sources_helper, List.any_cons, hcall, Bool.false_or,
      List.any_flatMap, List.any_map]
    rfl

theorem clock_reads (e : Code) : Mark.clock.reads e = e.readsTime := by
  unfold reads Code.readsTime Code.sources
  rw [List.any_filter]
  refine List.any_congr rfl fun u => ?_
  cases u <;> rfl

end Mark

/-! ## Programs -/

theorem Code.readsTime_of_sources {e : Code} (h : e.sources = []) : e.readsTime = false := by
  rw [← Mark.clock_reads, Mark.reads, h, List.any_nil]

theorem Effect.Body.steady {compiled : List (SessionM ShaderExpr × ShaderExpr)} {body : List ShaderStatement}
    (hbody : Effect.Body compiled body) (hcompiled : ∀ node param values e,
      (SessionM.constant node param values .float, e) ∈ compiled → e.code.sources = []) :
    ∀ s ∈ body, s.code.readsTime = false := by
  have hsteady : ∀ e : Code, Code.time ∉ e.sources → e.readsTime = false := by
    intro e he
    rw [← Mark.clock_reads, Mark.reads, List.any_eq_false]
    rintro (_ | _) hu <;> first | exact absurd hu he | exact Bool.false_ne_true
  refine fun s hs => hsteady s.code ?_
  revert s
  cases hbody with
  | copy => simp [copyBody, sampleHere, sampleAt, ShaderStatement.code]
  | display => simp [displayBody, sampleHere, sampleAt, ShaderStatement.code, Code.construct]
  | down => simp [downBody, sampleAt, ShaderStatement.code, Code.construct]
  | blur hdirection hradius =>
    have hplain := hcompiled _ _ _ _ hradius
    rcases hdirection with rfl | rfl <;>
      simp [blurBody, blurPair, sideWeights, sampleHere, sampleAt, ShaderStatement.code, Code.construct, horizontal,
        vertical, hplain]
  | extract hthreshold =>
    simp [extractBody, luma, sampleHere, sampleAt, ShaderStatement.code, Code.construct, hcompiled _ _ _ _ hthreshold]
  | combine hintensity =>
    simp [combineBody, sampleHere, sampleAt, ShaderStatement.code, hcompiled _ _ _ _ hintensity]

namespace PlanContext

variable {p : Prepared} {r : Routes} {env : Environment} {n : Node} {P : ShaderExpr → Prop}

theorem Compiles.inherits (hP : ShaderExpr.Inherited P) {x : SessionM ShaderExpr}
    (hx : (p.context r env).Compiles x) : Inherits p P x P := by
  have hinputs : (p.context r env).exprs.inputs.Inherits P := ExprContext.compile_inherits hP p
  cases hx with
  | texture n => exact hinputs.require
  | color n => exact drawColor_inherits hP
  | transform n => exact (drawTransform_inherits hP).mono fun _ hx => hx.1
  | constant => exact constant_inherited hP _ _ _ _

/-! ## Steps -/

/-- The session holds expressions with the property only, and so are those that planning has compiled; its constants
have no sources. -/
structure Holds (p : Prepared) (P : ShaderExpr → Prop) (g : PlanStage) : Prop where
  session : g.state.session.Holds p.Registers p.Binds P
  compiled : ∀ x ∈ g.compiled, P x.2
  constants : ∀ node param values e, (SessionM.constant node param values .float, e) ∈ g.compiled → e.code.sources = []

theorem Step.holds (hP : ShaderExpr.Inherited P) {g g' : PlanStage} (h : (p.context r env).Step g g')
    (hg : Holds p P g) : Holds p P g' := by
  cases h with
  | compile hx hrun =>
    obtain ⟨hsession, he⟩ := (hx.inherits hP).yields (fun _ h => h) (fun _ h => h) hrun hg.session
    refine ⟨hsession, List.forall_mem_cons.2 ⟨he, hg.compiled⟩, fun node param values e hmem => ?_⟩
    rcases List.mem_cons.1 hmem with heq | hmem
    · obtain ⟨rfl, rfl⟩ := Prod.mk.inj heq
      exact ((constant_inherits hP node param values .float).yields (fun _ h => h) (fun _ h => h) hrun hg.session).2.2
    · exact hg.constants node param values e hmem
  | report => exact ⟨hg.session.keep rfl rfl rfl, hg.compiled, hg.constants⟩
  | texture | upload | buffer | sampler | mark | shown | params | pass => exact ⟨hg.session, hg.compiled, hg.constants⟩

/-- A pass is animated exactly if a program of its module reads the clock, and the functions of its module are those
of the scene. -/
structure Timed (p : Prepared) (q : Pass) : Prop where
  programs : q.isAnimated = true ↔ ∃ m, q.shader = .generated m ∧ ∃ e ∈ m.codes, e.readsTime = true
  helpers : ∀ m, q.shader = .generated m → ∀ f ∈ m.helpers, p.Registers f

theorem Plans.timed {g : PlanStage} (hg : Holds p Mark.clock.Tells g) {q : Pass}
    (hq : (p.context r env).Plans g.state.session g.compiled q) : Timed p q := by
  cases hq with
  | clear hshader hanimated => exact ⟨by simp [hanimated, hshader], by simp [hshader]⟩
  | @effect e hbody =>
    have hsteady := hbody.steady hg.constants
    refine ⟨iff_of_false Bool.false_ne_true ?_, ?_⟩
    · rintro ⟨m, hm, e, he, hreads⟩
      cases hm
      rcases List.mem_cons.1 he with rfl | he
      · exact absurd hreads (Bool.eq_false_iff.1 (Code.readsTime_of_sources sources_identity))
      · obtain ⟨s, hs, rfl⟩ := List.mem_map.1 he
        exact absurd hreads (by simpa using hsteady s hs)
    · rintro m hm f hf
      cases hm
      obtain rfl := List.mem_singleton.1 hf
      exact .flip
  | @draw n route color transform q hr hcolor htransform hanimated hshader =>
    have hcolor := hg.compiled _ hcolor
    have htransform := hg.compiled _ htransform
    have hflags : q.isAnimated = (color.code.readsTime || transform.code.readsTime) := by
      rw [hanimated, ← Mark.clock_reads, ← Mark.clock_reads, ← hcolor, ← htransform]
      rfl
    refine ⟨?_, fun m hm f hf => ?_⟩
    · rw [hflags, hshader, Bool.or_eq_true]
      simp only [Shader.generated.injEq, exists_eq_left', ShaderModule.codes, vertexProgram_transform, List.map_cons,
        List.map_nil, ShaderStatement.code, List.mem_cons, List.not_mem_nil, or_false, exists_eq_or_imp, exists_eq_left]
      exact or_comm
    · rw [hshader] at hm
      cases hm
      exact hg.session.helpers f (List.mem_filter.1 hf).1

/-- What the passes of a plan read of the clock, and what the plan has of that. -/
structure PlanTimed (p : Prepared) (plan : Plan) : Prop where
  passes : ∀ q ∈ plan.passes, Timed p q
  plan : plan.isAnimated = plan.passes.any Pass.isAnimated

theorem Step.timed {g g' : PlanStage} (h : (p.context r env).Step g g') (hg : Holds p Mark.clock.Tells g)
    (htimed : PlanTimed p g.state.plan) : PlanTimed p g'.state.plan := by
  cases h with
  | compile | report | mark => exact htimed
  | texture _ hplan =>
    rcases Plan.declareTexture_eq_ok hplan with ⟨_, _, _, rfl⟩ | ⟨_, rfl⟩ <;> exact ⟨htimed.1, htimed.2⟩
  | upload _ _ hbuffer htexture =>
    rcases Plan.declareBuffer_eq_ok hbuffer with ⟨_, _, _, rfl⟩ | ⟨_, rfl⟩ <;>
      rcases Plan.declareTexture_eq_ok htexture with ⟨_, _, _, rfl⟩ | ⟨_, rfl⟩ <;> exact ⟨htimed.1, htimed.2⟩
  | buffer hplan => rcases Plan.declareBuffer_eq_ok hplan with ⟨_, _, _, rfl⟩ | ⟨_, rfl⟩ <;> exact ⟨htimed.1, htimed.2⟩
  | sampler hplan => rcases Plan.declareSampler_eq_ok hplan with ⟨_, rfl⟩ | ⟨_, rfl⟩ <;> exact ⟨htimed.1, htimed.2⟩
  | shown | params => exact ⟨htimed.1, htimed.2⟩
  | pass hq =>
    refine ⟨fun q hmem => ?_, ?_⟩
    · rcases List.mem_append.1 hmem with hmem | hmem
      · exact htimed.passes q hmem
      · obtain rfl := List.mem_singleton.1 hmem
        have hnew := hq.timed hg
        exact ⟨hnew.programs, hnew.helpers⟩
    · simp [htimed.plan]

/-- Every plan tells truly which of its passes read the clock. -/
theorem build_timed {plan : Plan} (h : (p.context r env).build.outcome.1 = .ok plan) : PlanTimed p plan := by
  obtain ⟨g, rfl, hsteps⟩ := steps_of_build h
  have hstart : Holds p Mark.clock.Tells ⟨{ plan := (p.context r env).emptyPlan }, []⟩ := ⟨.empty, by simp, by simp⟩
  refine (hsteps.preserves (I := fun g => Holds p Mark.clock.Tells g ∧ PlanTimed p g.state.plan) ?_ ⟨hstart, ?_⟩).2
  · exact fun g g' hstep hg => ⟨hstep.holds Mark.clock.inherited hg.1, hstep.timed hg.1 hg.2⟩
  · exact ⟨by simp [emptyPlan], rfl⟩

end PlanContext

/-! ## Compiled scenes -/

/-- The text of the function has the name of the clock somewhere. The text is searched, not read: a name that is broken
by blanks, as in `frame .time`, is missed, and one in a comment counts. -/
def HelperFunction.namesTime (f : HelperFunction) : Bool := Text.contains f.source "frame.time"

/-- Some code of the module reads the clock: an expression of its programs or the text of a function. -/
def ShaderModule.ReadsTime (m : ShaderModule) : Prop :=
  (∃ e ∈ m.codes, e.readsTime = true) ∨ ∃ f ∈ m.helpers, f.namesTime = true

/-- The function is that of a snippet of the scene. -/
def Prepared.IsSnippet (p : Prepared) (f : HelperFunction) : Prop := ∃ (n : Node) (text : String) (g : Snippet),
  p.node? n.id = some n ∧ n.string? "source" = some text ∧ g.body = Snippet.bodyOf text ∧ f = g.toHelper

theorem CompileNode.flipHelper_steady : flipHelper.namesTime = false := by decide

theorem Prepared.Registers.isSnippet_of_ne {p : Prepared} {f : HelperFunction} (h : p.Registers f)
    (hne : f ≠ CompileNode.flipHelper) : p.IsSnippet f := by
  cases h with
  | flip => exact absurd rfl hne
  | @snippet n text args result hn htext =>
    refine ⟨n, text, ⟨"expr_" ++ p.nameOf n.id, args, result, Snippet.bodyOf text⟩, hn, htext, ?_, ?_⟩
    · dsimp only
    · rfl

theorem Prepared.Registers.isSnippet {p : Prepared} {f : HelperFunction} (h : p.Registers f)
    (hreads : f.namesTime = true) : p.IsSnippet f := by
  refine h.isSnippet_of_ne ?_
  rintro rfl
  exact absurd hreads (Bool.eq_false_iff.1 CompileNode.flipHelper_steady)

/-- A plan is animated exactly if one of its passes is, and a pass exactly if a program of its module reads the clock.
So no other pass is animated, and where a module reads the clock but its pass is not animated, a snippet does so. -/
theorem Compiler.animated_iff {c : Compiler} (hc : c.registry = Registry.builtin) {s : Scene} {r : Compiled}
    (h : (c.compile s).outcome.1 = .ok r) :
    (r.plan.isAnimated = true ↔ ∃ q ∈ r.plan.passes, q.isAnimated = true) ∧
    ∀ q ∈ r.plan.passes,
      (q.isAnimated = true ↔ ∃ m, q.shader = .generated m ∧ ∃ e ∈ m.codes, e.readsTime = true) ∧
      ∀ m, q.shader = .generated m → m.ReadsTime →
        q.isAnimated = true ∨ ∃ f ∈ m.helpers, f.namesTime = true ∧ r.prepared.IsSnippet f := by
  obtain ⟨routes, hfrom⟩ := Compiler.compile_eq_ok h
  have htimed := PlanContext.build_timed (hfrom.planned hc).build
  refine ⟨?_, fun q hq => ⟨(htimed.passes q hq).programs, fun m hm hreads => ?_⟩⟩
  · rw [htimed.plan, List.any_eq_true]
  · rcases hreads with hprogram | ⟨f, hf, hnames⟩
    · exact .inl ((htimed.passes q hq).programs.2 ⟨m, hm, hprogram⟩)
    · exact .inr ⟨f, hf, hnames, ((htimed.passes q hq).helpers m hm f hf).isSnippet hnames⟩

/-- A pass in the color of the clock under a white one. -/
def Scene.ticking : Scene where
  nodes := [{ id := "screen", type := "Screen" }, { id := "stack", type := "Composite" },
    { id := "back", type := "RenderPass" }, { id := "front", type := "RenderPass" }, { id := "clock", type := "Time" }]
  connections := [{ id := "c0", source := ⟨"clock", "time"⟩, target := ⟨"back", "color"⟩ },
    { id := "c1", source := ⟨"back", "pass"⟩, target := ⟨"stack", "pass"⟩ },
    { id := "c2", source := ⟨"front", "pass"⟩, target := ⟨"stack", "dynamic_0"⟩ },
    { id := "c3", source := ⟨"stack", "pass"⟩, target := ⟨"screen", "pass"⟩ }]
  outputs := [("main", "screen")]

theorem Scene.ticking_checks : (({} : Compiler).compile Scene.ticking).outcome.1.toOption.any (fun r =>
    decide (r.plan.passes.map (fun q => (q.id, q.isAnimated)) = [("draw:back", true), ("draw:front", false)])) =
      true := by
  rw [Schema.builtin_eq, Registry.builtin_eq]
  decide +kernel

/-- The animated pass reads the clock in a program, and the other one in none. -/
theorem Scene.ticking_animated : ∃ r, (({} : Compiler).compile Scene.ticking).outcome.1 = .ok r ∧
    r.plan.isAnimated = true ∧
    (∃ q ∈ r.plan.passes, ∃ m, q.shader = .generated m ∧ ∃ e ∈ m.codes, e.readsTime = true) ∧
    ∃ q ∈ r.plan.passes, ¬∃ m, q.shader = .generated m ∧ ∃ e ∈ m.codes, e.readsTime = true := by
  obtain ⟨r, hr, hchecks⟩ := (Option.any_eq_true _ _).1 Scene.ticking_checks
  have hpasses := of_decide_eq_true hchecks
  have hr := eq_ok_of_toOption hr
  obtain ⟨hplan, htimed⟩ := Compiler.animated_iff (c := {}) rfl hr
  have hpass : ∀ x ∈ [("draw:back", true), ("draw:front", false)], ∃ q ∈ r.plan.passes, (q.id, q.isAnimated) = x :=
    fun x hx => List.mem_map.1 (hpasses ▸ hx)
  obtain ⟨back, hback, hbackFlag⟩ := hpass ("draw:back", true) (by simp)
  obtain ⟨front, hfront, hfrontFlag⟩ := hpass ("draw:front", false) (by simp)
  have hanimated := (Prod.mk.inj hbackFlag).2
  refine ⟨r, hr, hplan.2 ⟨back, hback, hanimated⟩, ⟨back, hback, (htimed back hback).1.1 hanimated⟩, front, hfront, ?_⟩
  rw [← (htimed front hfront).1, (Prod.mk.inj hfrontFlag).2]
  exact Bool.false_ne_true

/-- A pass in the color of a snippet that reads the clock. -/
def Scene.pulsing : Scene where
  nodes := [{ id := "screen", type := "Screen" }, { id := "shape", type := "RenderPass" },
    { id := "pulse", type := "Expression", params := [("source", .str "frame.time")] }]
  connections := [{ id := "c0", source := ⟨"pulse", "value"⟩, target := ⟨"shape", "color"⟩ },
    { id := "c1", source := ⟨"shape", "pass"⟩, target := ⟨"screen", "pass"⟩ }]
  outputs := [("main", "screen")]

/-- The function of the snippet. -/
def Scene.pulse : Snippet where
  name := "expr_pulse"
  args := []
  result := .float
  body := "return frame.time;"

theorem Scene.pulse_module : pulse.stageModule .fragment = textLines [
    "struct Frame \x7b", "\ttime: f32,", "\tcount: u32,", "\tresolution: vec2<f32>,", "\x7d", "",
    "@group(0) @binding(0) var<uniform> frame: Frame;",
    "@group(0) @binding(1) var<storage, read> params: array<vec4<f32>>;", "",
    "fn expr_pulse() -> f32 \x7b", "\treturn frame.time;", "\x7d", "",
    "@fragment", "fn fs_main() -> @location(0) vec4<f32> \x7b", "\tlet r = expr_pulse();",
    "\treturn vec4<f32>(r);", "\x7d"] := by
  decide +kernel

theorem Scene.pulse_valid : pulse.isValid Wgsl.accepts .fragment = true := by
  unfold Snippet.isValid Wgsl.accepts Wgsl.read?
  -- Only the characters of short texts are computed quickly, so the module is taken line by line.
  rw [pulse_module, toList_textLines]
  decide +kernel

theorem Scene.pulsing_checks : (({} : Compiler).compile Scene.pulsing).outcome.1.toOption.any (fun r =>
    !r.plan.isAnimated && r.plan.passes.any fun q => !q.isAnimated && match q.shader with
      | .generated m => m.helpers.any HelperFunction.namesTime
      | _ => false) = true := by
  rw [Schema.builtin_eq, Registry.builtin_eq, Snippet.accepts_eq pulse_valid]
  decide +kernel

/-- A function of the module reads the clock, and neither the pass nor the plan is animated. -/
theorem Scene.pulsing_still : ∃ r, (({} : Compiler).compile Scene.pulsing).outcome.1 = .ok r ∧
    r.plan.isAnimated = false ∧ ∃ q ∈ r.plan.passes, q.isAnimated = false ∧
      ∃ m, q.shader = .generated m ∧ m.ReadsTime := by
  obtain ⟨r, hr, hchecks⟩ := (Option.any_eq_true _ _).1 Scene.pulsing_checks
  simp only [Bool.and_eq_true, Bool.not_eq_true', List.any_eq_true] at hchecks
  obtain ⟨hplan, q, hq, hstill, hshader⟩ := hchecks
  refine ⟨r, eq_ok_of_toOption hr, hplan, q, hq, hstill, ?_⟩
  split at hshader
  · rename_i m hm
    exact ⟨m, hm, .inr (List.any_eq_true.1 hshader)⟩
  · cases hshader

end SceneGraph
