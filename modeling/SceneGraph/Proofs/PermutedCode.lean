import SceneGraph.Proofs.PermutedRoutes

/-!
# Code of reordered scenes

Compiling an output reads connections by the port that they land on. Only reports follow the order of the connections,
and no computation reads what has been reported.

* `Tandem`: two computations with the same outcome from related states.
* `Session.Twin`: two sessions that differ in what they have reported.
* `NodeCompiler.run_matched`: one compiler after the other.
* `ExprContext.compile_matched`: compiling an output.
-/
set_option autoImplicit false

namespace SceneGraph

/-! ## Runs with the same outcome -/

/-- From related states the two computations have the same outcome, a failure included, and leave related states. -/
def Tandem {ε σ α : Type} (R : σ → σ → Prop) (x y : ExceptT ε (StateM σ) α) : Prop :=
  ∀ s t, R s t → (x.run.run s).1 = (y.run.run t).1 ∧ R (x.run.run s).2 (y.run.run t).2

namespace Tandem

variable {ε σ α β : Type} {R : σ → σ → Prop} {x y : ExceptT ε (StateM σ) α}

theorem pure (a : α) : Tandem R (Pure.pure a : ExceptT ε (StateM σ) α) (Pure.pure a) := fun _ _ h => ⟨rfl, h⟩

theorem throw (e : ε) : Tandem R (throw e : ExceptT ε (StateM σ) α) (throw e) := fun _ _ h => ⟨rfl, h⟩

theorem result (r : Except ε α) :
    Tandem R (ExceptT.mk (Pure.pure r) : ExceptT ε (StateM σ) α) (ExceptT.mk (Pure.pure r)) :=
  fun _ _ h => ⟨rfl, h⟩

theorem bind {f g : α → ExceptT ε (StateM σ) β} (hxy : Tandem R x y) (hfg : ∀ a, Tandem R (f a) (g a)) :
    Tandem R (x >>= f) (y >>= g) := by
  intro s t h
  obtain ⟨hsame, hleft⟩ := hxy s t h
  rw [run_bind, run_bind]
  generalize x.run.run s = left at *
  generalize y.run.run t = right at *
  obtain ⟨r, u⟩ := left
  obtain ⟨r', v⟩ := right
  obtain rfl : r = r' := hsame
  cases r with
  | error e => exact ⟨rfl, hleft⟩
  | ok a => exact hfg a u v hleft

theorem ite {p : Prop} [Decidable p] {x' y' : ExceptT ε (StateM σ) α} (hxy : Tandem R x y)
    (hxy' : Tandem R x' y') : Tandem R (if p then x else x') (if p then y else y') := by
  split
  · exact hxy
  · exact hxy'

/-- A check that may refuse, and what comes after it. -/
theorem throwIf {p : Prop} [Decidable p] {e : ε} {f g : PUnit → ExceptT ε (StateM σ) α}
    (hfg : ∀ u, Tandem R (f u) (g u)) :
    Tandem R (if p then (MonadExcept.throw e : ExceptT ε (StateM σ) PUnit) >>= f else f ⟨⟩)
      (if p then (MonadExcept.throw e : ExceptT ε (StateM σ) PUnit) >>= g else g ⟨⟩) :=
  ite (bind (throw e) hfg) (hfg _)

theorem get_bind {f g : σ → ExceptT ε (StateM σ) α} (hfg : ∀ s t, R s t → Tandem R (f s) (g t)) :
    Tandem R (get >>= f) (get >>= g) :=
  fun s t h => hfg s t h s t h

theorem set {s t : σ} (h : R s t) : Tandem R (set s : ExceptT ε (StateM σ) PUnit) (set t) := fun _ _ _ => ⟨rfl, h⟩

theorem modify {f g : σ → σ} (h : ∀ s t, R s t → R (f s) (g t)) :
    Tandem R (modify f : ExceptT ε (StateM σ) PUnit) (modify g) :=
  fun s t hst => ⟨rfl, h s t hst⟩

theorem modifyGet {f g : σ → α × σ} (h : ∀ s t, R s t → (f s).1 = (g t).1 ∧ R (f s).2 (g t).2) :
    Tandem R (modifyGet f : ExceptT ε (StateM σ) α) (modifyGet g) :=
  fun s t hst => ⟨congrArg Except.ok (h s t hst).1, (h s t hst).2⟩

end Tandem

/-! ## Sessions -/

/-- Two sessions that differ in what they have reported only. -/
def Session.Twin (s t : Session) : Prop := ∃ log, t = { s with log }

/-- Two computations on sessions with the same outcome, whatever has been reported. -/
abbrev SessionM.Matched {α : Type} (x y : SessionM α) : Prop := Tandem Session.Twin x y

namespace SessionM

theorem constant_matched (node param : String) (xs : List Float) (t : ValueType) :
    Matched (constant node param xs t) (constant node param xs t) := by
  refine .bind (.modifyGet ?_) fun i => .pure _
  rintro s _ ⟨log, rfl⟩
  have hslot : Session.slot? { s with log } ⟨node, param⟩ = s.slot? ⟨node, param⟩ := rfl
  unfold Session.store
  rw [hslot]
  cases s.slot? ⟨node, param⟩ with
  | some i => exact ⟨rfl, log, rfl⟩
  | none => exact ⟨rfl, log, rfl⟩

theorem bindTexture_matched {p q : Prepared} (h : p.Permuted q) (key source : String) (sampler : SamplerKind) :
    Matched (bindTexture p key source sampler) (bindTexture q key source sampler) := by
  unfold bindTexture
  rw [h.nameOf]
  refine .modifyGet ?_
  rintro s _ ⟨log, rfl⟩
  have hfound : Session.binding? { s with log } key = s.binding? key := rfl
  unfold Session.addBinding
  rw [hfound]
  cases s.binding? key with
  | some old => exact ⟨rfl, log, rfl⟩
  | none => exact ⟨rfl, log, rfl⟩

theorem helper_matched (f : HelperFunction) : Matched (helper f) (helper f) := by
  refine .modify ?_
  rintro s _ ⟨log, rfl⟩
  have hfound : Session.helper? { s with log } f.name = s.helper? f.name := rfl
  unfold Session.addHelper
  rw [hfound]
  cases s.helper? f.name with
  | some old => exact ⟨log, rfl⟩
  | none => exact ⟨log, rfl⟩

theorem debug_matched (message : String) (fields : List (String × String)) :
    Matched (debug message fields) (debug message fields) := by
  refine .modify ?_
  rintro s _ ⟨log, rfl⟩
  exact ⟨_, rfl⟩

theorem attempt_matched {α : Type} {x y : SessionM α} (h : Matched x y) : Matched (attempt x) (attempt y) :=
  fun s t hst => ⟨congrArg Except.ok (h s t hst).1, (h s t hst).2⟩

end SessionM

/-! ## Inputs -/

/-- Two contexts of reordered scenes in which other outputs compile with the same outcome. -/
structure NodeContext.Permuted (c c' : NodeContext) : Prop where
  prepared : c.prepared.Permuted c'.prepared
  compile : ∀ e, SessionM.Matched (c.compile e) (c'.compile e)
  accepts : c.accepts = c'.accepts

open SessionM

theorem ShaderExpr.convert_matched (e : ShaderExpr) (n : Node) (port : String) (want : ValueType) :
    Matched (e.convert n port want) (e.convert n port want) := by
  unfold convert
  refine .ite (.pure e) ?_
  split
  · exact .pure _
  · exact .throw _

theorem ShaderExpr.floating_matched (e : ShaderExpr) (n : Node) (port : String) :
    Matched (e.floating n port) (e.floating n port) :=
  .ite (.pure e) (.ite (e.convert_matched n port .float) (.throw _))

namespace NodeContext.Permuted

variable {c c' : NodeContext}

theorem input? (hc : c.Permuted c') (n : Node) (ports : List String) :
    SessionM.Matched (c.input? n ports) (c'.input? n ports) := by
  unfold NodeContext.input?
  rw [hc.prepared.scene.inputAt?]
  split
  · exact .pure none
  · exact .bind (hc.compile _) fun e => .pure (some e)

theorem require (hc : c.Permuted c') (n : Node) (ports : List String) :
    SessionM.Matched (c.require n ports) (c'.require n ports) := by
  refine .bind (hc.input? n ports) fun e? => ?_
  cases e? with
  | none => exact .throw _
  | some e => exact .pure e

theorem requireType (hc : c.Permuted c') (n : Node) (want : ValueType) (ports : List String) :
    SessionM.Matched (c.requireType n want ports) (c'.requireType n want ports) :=
  .bind (hc.require n ports) fun e => e.convert_matched n _ want

end NodeContext.Permuted

/-- The unused connections are reported in another order, which nothing reads. -/
theorem NodeContext.ignoreExtra_matched (c c' : NodeContext) (n : Node) (accepted : List String) :
    Matched (c.ignoreExtra n accepted) (c'.ignoreExtra n accepted) := by
  have hrun (conns : List Connection) (s : Session) : ∃ log, (conns.forM fun conn => SessionM.debug
      "expr: ignoring connection on unused port" [("node", n.id), ("type", n.type), ("port", conn.target.port),
        ("connection", conn.id)]).run.run s = (.ok (), { s with log }) := by
    induction conns generalizing s with
    | nil => exact ⟨s.log, rfl⟩
    | cons conn rest ih =>
      obtain ⟨log, hrest⟩ := ih (s.report ⟨.debug, "expr: ignoring connection on unused port",
        [("node", n.id), ("type", n.type), ("port", conn.target.port), ("connection", conn.id)]⟩)
      exact ⟨log, hrest⟩
  rintro s _ ⟨log, rfl⟩
  obtain ⟨left, hleft⟩ := hrun (c.prepared.scene.unusedInputs n.id accepted) s
  obtain ⟨right, hright⟩ := hrun (c'.prepared.scene.unusedInputs n.id accepted) { s with log }
  unfold NodeContext.ignoreExtra
  rw [hleft, hright]
  exact ⟨rfl, right, rfl⟩

theorem NodeContext.atPort_matched {α : Type} {n : Node} {port expected : String} {x y : SessionM α}
    (h : Matched x y) : Matched (NodeContext.atPort n port expected x) (NodeContext.atPort n port expected y) :=
  .ite h (.throw _)

namespace CompileNode

open NodeContext (atPort_matched ignoreExtra_matched)

variable {c c' : NodeContext} {n : Node} {port : String}

/-! ## Constants and frame values -/

theorem scalarConstant_matched (t : ValueType) : Matched (scalarConstant t n port) (scalarConstant t n port) :=
  atPort_matched (.bind (.result _) fun x => constant_matched _ _ [x] t)

theorem floatsParam_matched (key : String) (size : Nat) :
    Matched (floatsParam n key size) (floatsParam n key size) := by
  unfold floatsParam
  split
  · exact .ite (.throw _) (.pure _)
  · exact .ite (.pure _) (.throw _)

theorem componentCodes_matched (hc : c.Permuted c') (default : String → Code) (names : List String) :
    Matched (componentCodes c n default names) (componentCodes c' n default names) := by
  induction names with
  | nil => exact .pure _
  | cons name rest ih =>
    refine .bind (hc.input? n [name]) fun e? => ?_
    cases e? with
    | none => exact .bind ih fun r => .pure _
    | some e => exact .bind (e.convert_matched n name .float) fun e => .bind ih fun r => .pure _

theorem vectorConstant_matched (hc : c.Permuted c') (t : ValueType) :
    Matched (vectorConstant t c n port) (vectorConstant t c' n port) := by
  refine atPort_matched (.bind (floatsParam_matched _ _) fun xs => .bind (constant_matched _ _ xs t) fun base => ?_)
  exact .bind (componentCodes_matched hc _ _) fun r => .ite (.pure _) (.pure _)

theorem color_matched : Matched (color n port) (color n port) := by
  refine atPort_matched ?_
  split
  · exact constant_matched _ _ _ _
  · exact constant_matched _ _ _ _
  · exact constant_matched _ _ _ _
  · exact .throw _

theorem matrix_matched : Matched (matrix n port) (matrix n port) :=
  atPort_matched (.bind (floatsParam_matched _ _) fun xs => constant_matched _ _ xs _)

theorem clock_matched : Matched (clock n port) (clock n port) :=
  atPort_matched (.bind (constant_matched _ _ _ _) fun _ => .pure _)

/-! ## Mathematical nodes -/

theorem applyUnary_matched (x : ShaderExpr) : Matched (applyUnary n x) (applyUnary n x) := by
  unfold applyUnary
  split
  · exact .pure _
  · exact .ite (.pure _) (.throw _)
  · exact .pure _
  · exact .pure _

theorem unary_matched (hc : c.Permuted c') : Matched (unary c n port) (unary c' n port) := by
  refine atPort_matched (.bind (ignoreExtra_matched c c' n _) fun _ => .bind (hc.require n _) fun x => ?_)
  exact .ite (applyUnary_matched x) (.bind (x.floating_matched n "x") fun y => applyUnary_matched y)

theorem applyBinary_matched (a b : ShaderExpr) : Matched (applyBinary n a b) (applyBinary n a b) := by
  unfold applyBinary
  split
  · exact .throw _
  · refine .throwIf fun _ => ?_
    exact .bind (a.convert_matched n "a" _) fun a => .bind (b.convert_matched n "b" _) fun b => .pure _

theorem binary_matched (hc : c.Permuted c') : Matched (binary c n port) (binary c' n port) := by
  refine atPort_matched (.bind (ignoreExtra_matched c c' n _) fun _ => .bind (hc.require n _) fun a => ?_)
  refine .bind (hc.require n _) fun b => .ite ?_ (applyBinary_matched a b)
  have hvector := Tandem.bind (b.convert_matched n "b" .vec4) fun b => Tandem.pure (R := Session.Twin)
    (ShaderExpr.derive (.binary "*" a.code b.code) .vec4 [a, b])
  split
  · exact .pure _
  · exact hvector
  · exact hvector
  · exact hvector
  · exact applyBinary_matched a b

theorem convertAll_matched (t : ValueType) (operands : List (String × ShaderExpr)) :
    Matched (convertAll n t operands) (convertAll n t operands) := by
  induction operands with
  | nil => exact .pure _
  | cons operand rest ih => exact .bind (operand.2.convert_matched n _ t) fun e => .bind ih fun es => .pure _

theorem unifyFloat_matched (operands : List (String × ShaderExpr)) :
    Matched (unifyFloat n operands) (unifyFloat n operands) :=
  .bind (.result _) fun t => .bind (convertAll_matched t operands) fun _ => .pure _

theorem mix_matched (hc : c.Permuted c') : Matched (mix c n port) (mix c' n port) := by
  refine atPort_matched (.bind (hc.require n _) fun a => .bind (hc.require n _) fun b => ?_)
  refine .bind (hc.require n _) fun x => .bind (unifyFloat_matched _) fun r => ?_
  exact .bind (x.convert_matched n "t" _) fun x => .pure _

theorem clampBound_matched (hc : c.Permuted c') (name : String) (default : Float) :
    Matched (clampBound c n name default) (clampBound c' n name default) := by
  refine .bind (hc.input? n [name]) fun e? => ?_
  cases e? with
  | some e => exact .pure e
  | none => exact constant_matched _ _ _ _

theorem clamp_matched (hc : c.Permuted c') : Matched (clamp c n port) (clamp c' n port) := by
  refine atPort_matched (.bind (ignoreExtra_matched c c' n _) fun _ => .bind (hc.require n _) fun x => ?_)
  refine .bind (clampBound_matched hc _ _) fun low => .bind (clampBound_matched hc _ _) fun high => ?_
  exact .bind (unifyFloat_matched _) fun r => .pure _

theorem smoothstep_matched (hc : c.Permuted c') : Matched (smoothstep c n port) (smoothstep c' n port) := by
  refine atPort_matched (.bind (hc.require n _) fun low => .bind (hc.require n _) fun high => ?_)
  exact .bind (hc.require n _) fun x => .bind (unifyFloat_matched _) fun r => .pure _

/-! ## Logic and structure of values -/

theorem compare_matched (hc : c.Permuted c') : Matched (compare c n port) (compare c' n port) := by
  refine atPort_matched (.throwIf fun _ => .bind (hc.require n _) fun a => .bind (hc.require n _) fun b => ?_)
  refine .throwIf fun _ => .throwIf fun _ => ?_
  exact .bind (a.convert_matched n "a" _) fun a => .bind (b.convert_matched n "b" _) fun b => .pure _

theorem select_matched (hc : c.Permuted c') : Matched (select c n port) (select c' n port) := by
  refine atPort_matched (.bind (hc.requireType n _ _) fun cond => .bind (hc.require n _) fun a => ?_)
  refine .bind (hc.require n _) fun b => ?_
  split
  · exact .throw _
  · exact .bind (a.convert_matched n "a" _) fun a => .bind (b.convert_matched n "b" _) fun b => .pure _

theorem connective_matched (hc : c.Permuted c') (op : String) :
    Matched (connective op c n port) (connective op c' n port) :=
  atPort_matched (.bind (hc.requireType n _ _) fun _ => .bind (hc.requireType n _ _) fun _ => .pure _)

theorem negation_matched (hc : c.Permuted c') : Matched (negation c n port) (negation c' n port) :=
  atPort_matched (.bind (hc.requireType n _ _) fun _ => .pure _)

theorem split_matched (hc : c.Permuted c') : Matched (split c n port) (split c' n port) := by
  unfold CompileNode.split
  split
  · exact .throw _
  · refine .bind (hc.require n _) fun v => .ite (v.convert_matched n "value" .float) (.ite (.throw _) ?_)
    exact .ite (.throw _) (.pure _)

theorem combine_matched (hc : c.Permuted c') : Matched (combine c n port) (combine c' n port) :=
  atPort_matched (.bind (componentCodes_matched hc _ _) fun _ => .pure _)

/-! ## Textures -/

theorem sample_matched (hc : c.Permuted c') (source : String) : Matched (sample c n source) (sample c' n source) := by
  have huv : Matched (sampleCoordinates c n) (sampleCoordinates c' n) := by
    refine .bind (hc.input? n _) fun e? => ?_
    cases e? with
    | none => exact .pure _
    | some e => exact e.convert_matched n "uv" .vec2
  refine .bind huv fun uv => .bind (bindTexture_matched hc.prepared _ _ _) fun b => ?_
  exact .bind (helper_matched _) fun _ => .pure _

theorem textureSource_matched (hc : c.Permuted c') : Matched (textureSource c n port) (textureSource c' n port) :=
  .ite (.pure _) (.ite (sample_matched hc _) (.throw _))

theorem sampleTexture_matched (hc : c.Permuted c') : Matched (sampleTexture c n port) (sampleTexture c' n port) :=
  atPort_matched (.bind (hc.require n _) fun _ => .throwIf fun _ => sample_matched hc _)

/-! ## Snippets -/

theorem snippetInputs_matched (hc : c.Permuted c') (ports : List Port) :
    Matched (snippetInputs c n ports) (snippetInputs c' n ports) := by
  have harg (p : Port) : Matched (snippetArg n p) (snippetArg n p) := by
    unfold snippetArg
    refine .ite (.throw _) (.ite (.pure _) ?_)
    split
    · exact .pure _
    · exact .throw _
  induction ports with
  | nil => exact .pure _
  | cons p rest ih =>
    refine .bind (harg p) fun a => .bind (hc.requireType n a.type [p.id]) fun e => ?_
    exact .bind ih fun more => .pure _

theorem trySnippet_matched (hc : c.Permuted c') (s : Snippet) (isFirst : Bool) (stages : List SnippetStage) :
    Matched (trySnippet c n s isFirst stages) (trySnippet c' n s isFirst stages) := by
  induction stages generalizing isFirst with
  | nil => exact .pure _
  | cons stage rest ih =>
    unfold trySnippet
    rw [hc.accepts]
    refine .ite ?_ (.bind (debug_matched _ _) fun _ => ih false)
    exact .ite (.bind (debug_matched _ _) fun _ => .pure _) (.pure _)

theorem snippet_matched (hc : c.Permuted c') : Matched (snippet c n port) (snippet c' n port) := by
  have htext : Matched (snippetText n) (snippetText n) := by
    unfold snippetText
    split
    · exact .ite (.throw _) (.pure _)
    · exact .throw _
  have htype : Matched (snippetType n) (snippetType n) := by
    unfold snippetType
    dsimp only
    split
    · exact .pure _
    · exact .throw _
  unfold snippet
  rw [hc.prepared.nameOf]
  refine atPort_matched (.bind htext fun text => .bind htype fun result => ?_)
  refine .bind (snippetInputs_matched hc n.inputs) fun inputs => ?_
  refine .bind ?_ fun _ => .bind (helper_matched _) fun _ => .pure _
  exact .bind (trySnippet_matched hc _ true snippetStages) fun isValid => .ite (.throw _) (.pure _)

end CompileNode

/-! ## All compilers -/

theorem NodeCompiler.run_matched (k : NodeCompiler) {c c' : NodeContext} (hc : c.Permuted c') (n : Node)
    (port : String) : Matched (k.run c n port) (k.run c' n port) := by
  cases k with
  | scalar t => exact CompileNode.scalarConstant_matched t
  | vector t => exact CompileNode.vectorConstant_matched hc t
  | color => exact CompileNode.color_matched
  | matrix => exact CompileNode.matrix_matched
  | clock => exact CompileNode.clock_matched
  | coordinates => exact NodeContext.atPort_matched (.pure _)
  | targetSize => exact NodeContext.atPort_matched (.pure _)
  | instanceNumber => exact NodeContext.atPort_matched (.pure _)
  | unary => exact CompileNode.unary_matched hc
  | binary => exact CompileNode.binary_matched hc
  | mix => exact CompileNode.mix_matched hc
  | clamp => exact CompileNode.clamp_matched hc
  | smoothstep => exact CompileNode.smoothstep_matched hc
  | compare => exact CompileNode.compare_matched hc
  | select => exact CompileNode.select_matched hc
  | connective op => exact CompileNode.connective_matched hc op
  | negation => exact CompileNode.negation_matched hc
  | split => exact CompileNode.split_matched hc
  | combine => exact CompileNode.combine_matched hc
  | textureSource => exact CompileNode.textureSource_matched hc
  | target => exact NodeContext.atPort_matched (.pure _)
  | sampleTexture => exact CompileNode.sampleTexture_matched hc
  | snippet => exact CompileNode.snippet_matched hc

namespace ExprContext

variable {c c' : ExprContext}

theorem compileWithin_matched (hp : c.prepared.Permuted c'.prepared) (hr : c.registry = c'.registry)
    (ha : c.accepts = c'.accepts) (fuel : Nat) (e : Endpoint) :
    Matched (c.compileWithin fuel e) (c'.compileWithin fuel e) := by
  have hcompiler : c.compilerOf = c'.compilerOf := by
    funext e
    unfold compilerOf
    rw [hp.node?, hr]
  induction fuel generalizing e with
  | zero => exact .throw _
  | succ fuel ih =>
    unfold compileWithin
    rw [hcompiler]
    refine .get_bind ?_
    rintro s _ ⟨log, rfl⟩
    have hfound : Session.compiled? { s with log } e = s.compiled? e := rfl
    rw [hfound]
    cases s.compiled? e with
    | some x => exact .pure x
    | none =>
      refine .throwIf fun _ => .bind (.result _) fun nk => .bind (.modify ?_) fun _ => ?_
      · rintro s _ ⟨log, rfl⟩
        exact ⟨log, rfl⟩
      refine .bind (attempt_matched (nk.2.run_matched ⟨hp, ih, ha⟩ nk.1 e.port)) fun r => .bind (.modify ?_) fun _ => ?_
      · rintro s _ ⟨log, rfl⟩
        exact ⟨log, rfl⟩
      cases r with
      | error err => exact .throw err
      | ok x =>
        refine .bind (.modify ?_) fun _ => .pure x
        rintro s _ ⟨log, rfl⟩
        exact ⟨log, rfl⟩

/-- Compiling an output of scenes with reordered connections has the same outcome. -/
theorem compile_matched (hp : c.prepared.Permuted c'.prepared) (hr : c.registry = c'.registry)
    (ha : c.accepts = c'.accepts) (e : Endpoint) : Matched (c.compile e) (c'.compile e) := by
  unfold compile depthLimit
  rw [hp.scene.connections.length_eq]
  exact compileWithin_matched hp hr ha _ e

theorem inputs_permuted (hp : c.prepared.Permuted c'.prepared) (hr : c.registry = c'.registry)
    (ha : c.accepts = c'.accepts) : c.inputs.Permuted c'.inputs :=
  ⟨hp, compile_matched hp hr ha, ha⟩

end ExprContext

end SceneGraph
