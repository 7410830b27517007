import SceneGraph.Proofs.Baking
import SceneGraph.Proofs.Compilers

/-!
# Code of edited scenes

Constants live in slots, so compiling an output of two scenes one edit apart gives the same code, and the
sessions differ in the numbers that the slots hold and in what they reported.

* `Prepared.Edited`: two prepared scenes one edit apart.
* `Session.Alike`: two sessions that differ in the numbers of their slots only.
* `NodeCompiler.run_same`: one compiler after the other.
* `ExprContext.compile_same`: compiling an output.
-/
set_option autoImplicit false

namespace SceneGraph

/-- Two prepared scenes one edit apart. -/
structure Prepared.Edited (p q : Prepared) : Prop where
  scene : p.scene.Edited q.scene
  order : p.order = q.order
  names : p.names = q.names
  output : p.output = q.output
  baked : ∃ frozen, Bake.MapAlike p.scene frozen p.baked q.baked

theorem Prepared.Edited.nameOf {p q : Prepared} (h : p.Edited q) (id : String) : p.nameOf id = q.nameOf id := by
  unfold Prepared.nameOf
  rw [h.names]

/-- Two sessions that differ in the numbers of their slots and in their reports only. -/
structure Session.Alike (s t : Session) : Prop where
  memo : s.memo = t.memo
  active : s.active = t.active
  bindings : s.bindings = t.bindings
  helpers : s.helpers = t.helpers
  slots : s.slots = t.slots
  params : s.params.length = t.params.length

/-- Two computations on sessions that give the same value and keep the sessions alike. -/
abbrev SessionM.Same {α : Type} (x y : SessionM α) : Prop := Lockstep Session.Alike Eq x y

namespace SessionM.Same

variable {α β : Type}

theorem pure (a : α) : SessionM.Same (Pure.pure a) (Pure.pure a) := Lockstep.pure rfl

theorem bind {x y : SessionM α} {f g : α → SessionM β} (hxy : SessionM.Same x y)
    (hfg : ∀ a, SessionM.Same (f a) (g a)) : SessionM.Same (x >>= f) (y >>= g) :=
  Lockstep.bind hxy fun a _ hab => hab ▸ hfg a

theorem result (r : Except ExprError α) : SessionM.Same (ExceptT.mk (Pure.pure r)) (ExceptT.mk (Pure.pure r)) :=
  Lockstep.result (.of_eq rfl)

end SessionM.Same

/-! ## Steps of sessions -/

namespace Session

variable {s t : Session}

theorem length_padded (xs : List Float) : (padded xs).length = 4 * max ((xs.length + 3) / 4) 1 := by
  unfold padded
  simp only [List.length_append, List.length_map, List.length_replicate]
  omega

theorem Alike.store (h : s.Alike t) (key : SlotKey) {xs ys : List Float} (hlen : xs.length = ys.length) :
    (s.store key xs).1 = (t.store key ys).1 ∧ (s.store key xs).2.Alike (t.store key ys).2 := by
  have hslot : s.slot? key = t.slot? key := by
    unfold slot?
    rw [h.slots]
  unfold Session.store
  rw [hslot]
  cases t.slot? key with
  | some i => exact ⟨rfl, h⟩
  | none =>
    refine ⟨congrArg (· / 4) h.params, h.memo, h.active, h.bindings, h.helpers, ?_, ?_⟩
    · simp only [h.slots, h.params]
    · simp only [List.length_append, length_padded, h.params, hlen]

theorem Alike.addBinding (h : s.Alike t) (b : Binding) :
    (s.addBinding b).1 = (t.addBinding b).1 ∧ (s.addBinding b).2.Alike (t.addBinding b).2 := by
  have hfound : s.binding? b.key = t.binding? b.key := by
    unfold binding?
    rw [h.bindings]
  unfold Session.addBinding
  rw [hfound]
  cases t.binding? b.key with
  | some old => exact ⟨rfl, h⟩
  | none => exact ⟨rfl, h.memo, h.active, by simp only [h.bindings], h.helpers, h.slots, h.params⟩

theorem Alike.addHelper (h : s.Alike t) (f : HelperFunction) : (s.addHelper f).Alike (t.addHelper f) := by
  have hfound : s.helper? f.name = t.helper? f.name := by
    unfold helper?
    rw [h.helpers]
  unfold Session.addHelper
  rw [hfound]
  cases t.helper? f.name with
  | some old => exact h
  | none => exact ⟨h.memo, h.active, h.bindings, by simp only [h.helpers], h.slots, h.params⟩

theorem Alike.report (h : s.Alike t) (e e' : LogEntry) : (s.report e).Alike (t.report e') :=
  ⟨h.memo, h.active, h.bindings, h.helpers, h.slots, h.params⟩

end Session

namespace SessionM

theorem constant_same (node param : String) {xs ys : List Float} (hlen : xs.length = ys.length) (t : ValueType) :
    Same (constant node param xs t) (constant node param ys t) := by
  refine Same.bind (Lockstep.modifyGet fun s s' h => h.store ⟨node, param⟩ hlen) fun i => .pure _

theorem bindTexture_same {p q : Prepared} (h : p.Edited q) (key source : String) (sampler : SamplerKind) :
    Same (bindTexture p key source sampler) (bindTexture q key source sampler) := by
  unfold bindTexture
  rw [h.nameOf]
  exact Lockstep.modifyGet fun s s' hs => hs.addBinding _

theorem helper_same (f : HelperFunction) : Same (helper f) (helper f) :=
  Lockstep.modify fun _ _ hs => hs.addHelper f

theorem debug_same (message message' : String) (fields fields' : List (String × String)) :
    Same (debug message fields) (debug message' fields') :=
  Lockstep.modify fun _ _ hs => hs.report _ _

end SessionM

/-! ## Inputs -/

/-- Two contexts of scenes one edit apart, in which other outputs compile to the same code. -/
structure NodeContext.Edited (c c' : NodeContext) : Prop where
  prepared : c.prepared.Edited c'.prepared
  compile : ∀ e, SessionM.Same (c.compile e) (c'.compile e)
  accepts : c.accepts = c'.accepts

open SessionM

namespace NodeContext.Edited

variable {c c' : NodeContext} {n n' : Node}

theorem input? (hc : c.Edited c') (hn : n.Edited n') (ports : List String) :
    SessionM.Same (c.input? n ports) (c'.input? n' ports) := by
  unfold NodeContext.input?
  rw [hc.prepared.scene.inputAt?, hn.id]
  split
  · exact Same.pure none
  · exact Same.bind (hc.compile _) fun e => Same.pure (some e)

theorem require (hc : c.Edited c') (hn : n.Edited n') (ports : List String) :
    SessionM.Same (c.require n ports) (c'.require n' ports) := by
  unfold NodeContext.require
  refine Same.bind (hc.input? hn ports) fun e? => ?_
  cases e? with
  | none => exact Lockstep.throw_left
  | some e => exact Same.pure e

end NodeContext.Edited

namespace ShaderExpr

variable {n n' : Node}

theorem convert_same (e : ShaderExpr) (hn : n.Edited n') (port : String) (want : ValueType) :
    Same (e.convert n port want) (e.convert n' port want) := by
  unfold convert
  rw [hn.id]
  split
  · exact Same.pure e
  · split
    · exact Same.pure _
    · exact Lockstep.throw_left

theorem floating_same (e : ShaderExpr) (hn : n.Edited n') (port : String) :
    Same (e.floating n port) (e.floating n' port) := by
  unfold floating
  split
  · exact Same.pure e
  · split
    · exact e.convert_same hn port .float
    · exact Lockstep.throw_left

end ShaderExpr

namespace NodeContext.Edited

variable {c c' : NodeContext} {n n' : Node}

theorem requireType (hc : c.Edited c') (hn : n.Edited n') (want : ValueType) (ports : List String) :
    SessionM.Same (c.requireType n want ports) (c'.requireType n' want ports) :=
  Same.bind (hc.require hn ports) fun e => e.convert_same hn _ want

theorem ignoreExtra (hc : c.Edited c') (hn : n.Edited n') (accepted : List String) :
    SessionM.Same (c.ignoreExtra n accepted) (c'.ignoreExtra n' accepted) := by
  have hunused : c.prepared.scene.unusedInputs n.id accepted = c'.prepared.scene.unusedInputs n'.id accepted := by
    unfold Scene.unusedInputs Scene.incomingTo
    rw [hc.prepared.scene.connections, hn.id]
  unfold NodeContext.ignoreExtra
  rw [hunused]
  induction c'.prepared.scene.unusedInputs n'.id accepted with
  | nil => exact Same.pure ()
  | cons conn rest ih => exact Same.bind (debug_same _ _ _ _) fun _ => ih

end NodeContext.Edited

theorem NodeContext.atPort_same {α : Type} {n n' : Node} (port expected : String) {x y : SessionM α} (h : Same x y) :
    Same (NodeContext.atPort n port expected x) (NodeContext.atPort n' port expected y) :=
  Lockstep.ite Iff.rfl h Lockstep.throw_left

namespace CompileNode

variable {c c' : NodeContext} {n n' : Node} {port : String}

/-! ## Constants and frame values -/

theorem scalarConstant_same (hn : n.Edited n') (t : ValueType) :
    Same (scalarConstant t n port) (scalarConstant t n' port) := by
  refine NodeContext.atPort_same port _ ?_
  refine Lockstep.bind (Q := fun _ _ => True) (Lockstep.result fun _ _ _ _ => trivial) fun x y _ => ?_
  rw [hn.id]
  exact constant_same _ _ (by simp) t

theorem floatsParam_length (key : String) (size : Nat) :
    Lockstep Session.Alike (fun xs ys => xs.length = ys.length) (floatsParam n key size) (floatsParam n' key size) := by
  have hsize : ∀ (k : Node) s xs s', Yields (floatsParam k key size) s xs s' → xs.length = size ∧ s' = s := by
    intro k s xs s' hrun
    unfold floatsParam at hrun
    split at hrun
    · simp only [yields_ite, yields_throw, and_false, false_or, yields_pure] at hrun
      exact ⟨by rw [hrun.2.1, List.length_replicate], hrun.2.2⟩
    · simp only [yields_ite, yields_throw, and_false, or_false, yields_pure] at hrun
      exact ⟨by rw [hrun.2.1, hrun.1], hrun.2.2⟩
  intro s s' xs ys u u' hs hx hy
  obtain ⟨hxs, rfl⟩ := hsize _ _ _ _ hx
  obtain ⟨hys, rfl⟩ := hsize _ _ _ _ hy
  exact ⟨hxs.trans hys.symm, hs⟩

theorem componentCodes_same (hc : c.Edited c') (hn : n.Edited n') (default : String → Code) (names : List String) :
    Same (componentCodes c n default names) (componentCodes c' n' default names) := by
  induction names with
  | nil => exact Same.pure _
  | cons name rest ih =>
    unfold componentCodes
    refine Same.bind (hc.input? hn [name]) fun e? => ?_
    cases e? with
    | none => exact Same.bind ih fun r => Same.pure _
    | some e => exact Same.bind (e.convert_same hn name .float) fun e => Same.bind ih fun r => Same.pure _

theorem vectorConstant_same (hc : c.Edited c') (hn : n.Edited n') (t : ValueType) :
    Same (vectorConstant t c n port) (vectorConstant t c' n' port) := by
  refine NodeContext.atPort_same port _ ?_
  refine Lockstep.bind (floatsParam_length "value" _) fun xs ys hlen => ?_
  rw [hn.id]
  refine Same.bind (constant_same _ _ hlen t) fun base => ?_
  refine Same.bind (componentCodes_same hc hn _ _) fun r => ?_
  obtain ⟨codes, wired⟩ := r
  exact Lockstep.ite Iff.rfl (Same.pure _) (Same.pure _)

theorem color_same (hn : n.Edited n') : Same (color n port) (color n' port) := by
  refine NodeContext.atPort_same port _ ?_
  have hfloats := hn.floats? "value"
  rw [hn.id]
  generalize n.floats? "value" = xs? at hfloats
  generalize n'.floats? "value" = ys? at hfloats
  cases hfloats with
  | none => exact constant_same _ _ (by simp) _
  | @some xs ys hlen =>
    match xs, ys, hlen with
    | [_, _, _], [_, _, _], _ => exact constant_same _ _ (by simp) _
    | [_, _, _, _], [_, _, _, _], _ => exact constant_same _ _ (by simp) _
    | [], [], _ => exact Lockstep.throw_left
    | [_], [_], _ => exact Lockstep.throw_left
    | [_, _], [_, _], _ => exact Lockstep.throw_left
    | _ :: _ :: _ :: _ :: _ :: _, _ :: _ :: _ :: _ :: _ :: _, _ => exact Lockstep.throw_left

theorem matrix_same (hn : n.Edited n') : Same (matrix n port) (matrix n' port) := by
  refine NodeContext.atPort_same port _ ?_
  refine Lockstep.bind (floatsParam_length "value" 16) fun xs ys hlen => ?_
  rw [hn.id]
  exact constant_same _ _ hlen _

theorem clock_same (hn : n.Edited n') : Same (clock n port) (clock n' port) := by
  refine NodeContext.atPort_same port _ ?_
  rw [hn.id]
  exact Same.bind (constant_same _ _ (by simp) _) fun speed => Same.pure _

/-! ## Mathematical nodes -/

theorem applyUnary_same (hn : n.Edited n') (x : ShaderExpr) : Same (applyUnary n x) (applyUnary n' x) := by
  unfold applyUnary
  rw [hn.type]
  split
  · exact Same.pure _
  · split
    · exact Same.pure _
    · exact Lockstep.throw_left
  · exact Same.pure _
  · exact Same.pure _

theorem unary_same (hc : c.Edited c') (hn : n.Edited n') : Same (unary c n port) (unary c' n' port) := by
  refine NodeContext.atPort_same port _ ?_
  refine Same.bind (hc.ignoreExtra hn _) fun _ => Same.bind (hc.require hn _) fun x => ?_
  refine Lockstep.ite (by rw [hn.type]) (applyUnary_same hn x) ?_
  exact Same.bind (x.floating_same hn "x") fun y => applyUnary_same hn y

theorem applyBinary_same (hn : n.Edited n') (a b : ShaderExpr) : Same (applyBinary n a b) (applyBinary n' a b) := by
  unfold applyBinary
  rw [hn.type]
  split
  · exact Lockstep.throw_left
  · refine Lockstep.ite Iff.rfl Lockstep.throw_bind ?_
    exact Same.bind (a.convert_same hn "a" _) fun a => Same.bind (b.convert_same hn "b" _) fun b => Same.pure _

theorem binary_same (hc : c.Edited c') (hn : n.Edited n') : Same (binary c n port) (binary c' n' port) := by
  refine NodeContext.atPort_same port _ ?_
  refine Same.bind (hc.ignoreExtra hn _) fun _ => Same.bind (hc.require hn _) fun a =>
    Same.bind (hc.require hn _) fun b => ?_
  refine Lockstep.ite (by rw [hn.type]) ?_ (applyBinary_same hn a b)
  have hvector := Same.bind (b.convert_same hn "b" .vec4) fun b => Same.pure (ShaderExpr.derive
    (.binary "*" a.code b.code) .vec4 [a, b])
  split
  · exact Same.pure _
  · exact hvector
  · exact hvector
  · exact hvector
  · exact applyBinary_same hn a b

theorem floatType_edited (hn : n.Edited n') (t : ValueType) (operands : List (String × ShaderExpr)) :
    floatType n t operands = floatType n' t operands := by
  induction operands generalizing t with
  | nil => rfl
  | cons operand rest ih =>
    obtain ⟨port, e⟩ := operand
    unfold floatType
    simp only [hn.id, ih]

theorem convertAll_same (hn : n.Edited n') (t : ValueType) (operands : List (String × ShaderExpr)) :
    Same (convertAll n t operands) (convertAll n' t operands) := by
  induction operands with
  | nil => exact Same.pure _
  | cons operand rest ih =>
    obtain ⟨port, e⟩ := operand
    exact Same.bind (e.convert_same hn port t) fun e => Same.bind ih fun es => Same.pure _

theorem unifyFloat_same (hn : n.Edited n') (operands : List (String × ShaderExpr)) :
    Same (unifyFloat n operands) (unifyFloat n' operands) := by
  unfold unifyFloat
  rw [floatType_edited hn]
  exact Same.bind (Same.result _) fun t => Same.bind (convertAll_same hn t operands) fun es => Same.pure _

theorem mix_same (hc : c.Edited c') (hn : n.Edited n') : Same (mix c n port) (mix c' n' port) := by
  refine NodeContext.atPort_same port _ ?_
  refine Same.bind (hc.require hn _) fun a => Same.bind (hc.require hn _) fun b =>
    Same.bind (hc.require hn _) fun x => ?_
  refine Same.bind (unifyFloat_same hn _) fun r => ?_
  exact Same.bind (x.convert_same hn "t" _) fun x => Same.pure _

theorem clampBound_same (hc : c.Edited c') (hn : n.Edited n') (name : String) (default : Float) :
    Same (clampBound c n name default) (clampBound c' n' name default) := by
  unfold clampBound
  refine Same.bind (hc.input? hn [name]) fun e? => ?_
  cases e? with
  | some e => exact Same.pure e
  | none =>
    rw [hn.id]
    exact constant_same _ _ (by simp) _

theorem clamp_same (hc : c.Edited c') (hn : n.Edited n') : Same (clamp c n port) (clamp c' n' port) := by
  refine NodeContext.atPort_same port _ ?_
  refine Same.bind (hc.ignoreExtra hn _) fun _ => Same.bind (hc.require hn _) fun x => ?_
  refine Same.bind (clampBound_same hc hn _ _) fun low => Same.bind (clampBound_same hc hn _ _) fun high => ?_
  exact Same.bind (unifyFloat_same hn _) fun r => Same.pure _

theorem smoothstep_same (hc : c.Edited c') (hn : n.Edited n') : Same (smoothstep c n port) (smoothstep c' n' port) := by
  refine NodeContext.atPort_same port _ ?_
  refine Same.bind (hc.require hn _) fun low => Same.bind (hc.require hn _) fun high =>
    Same.bind (hc.require hn _) fun x => ?_
  exact Same.bind (unifyFloat_same hn _) fun r => Same.pure _

/-! ## Logic and structure of values -/

theorem compare_same (hc : c.Edited c') (hn : n.Edited n') : Same (compare c n port) (compare c' n' port) := by
  refine NodeContext.atPort_same port _ ?_
  rw [hn.stringOr, hn.id]
  refine Lockstep.ite Iff.rfl Lockstep.throw_bind ?_
  refine Same.bind (hc.require hn _) fun a => Same.bind (hc.require hn _) fun b => ?_
  refine Lockstep.ite Iff.rfl Lockstep.throw_bind (Lockstep.ite Iff.rfl Lockstep.throw_bind ?_)
  exact Same.bind (a.convert_same hn "a" _) fun a => Same.bind (b.convert_same hn "b" _) fun b => Same.pure _

theorem select_same (hc : c.Edited c') (hn : n.Edited n') : Same (select c n port) (select c' n' port) := by
  refine NodeContext.atPort_same port _ ?_
  refine Same.bind (hc.requireType hn _ _) fun cond => ?_
  refine Same.bind (hc.require hn _) fun a => Same.bind (hc.require hn _) fun b => ?_
  split
  · exact Lockstep.throw_left
  · exact Same.bind (a.convert_same hn "a" _) fun a => Same.bind (b.convert_same hn "b" _) fun b => Same.pure _

theorem connective_same (hc : c.Edited c') (hn : n.Edited n') (op : String) :
    Same (connective op c n port) (connective op c' n' port) := by
  refine NodeContext.atPort_same port _ ?_
  exact Same.bind (hc.requireType hn _ _) fun a => Same.bind (hc.requireType hn _ _) fun b => Same.pure _

theorem negation_same (hc : c.Edited c') (hn : n.Edited n') : Same (negation c n port) (negation c' n' port) := by
  refine NodeContext.atPort_same port _ ?_
  exact Same.bind (hc.requireType hn _ _) fun x => Same.pure _

theorem split_same (hc : c.Edited c') (hn : n.Edited n') : Same (split c n port) (split c' n' port) := by
  unfold CompileNode.split
  split
  · exact Lockstep.throw_left
  · refine Same.bind (hc.require hn _) fun v => ?_
    refine Lockstep.ite Iff.rfl (v.convert_same hn "value" .float) (Lockstep.ite Iff.rfl Lockstep.throw_left ?_)
    exact Lockstep.ite Iff.rfl Lockstep.throw_left (Same.pure _)

theorem combine_same (hc : c.Edited c') (hn : n.Edited n') : Same (combine c n port) (combine c' n' port) := by
  refine NodeContext.atPort_same port _ ?_
  have hsize : n.intOr "size" 4 = n'.intOr "size" 4 :=
    hn.intOr (Node.notMem_constantKeys (by decide) _) 4
  rw [hsize]
  exact Same.bind (componentCodes_same hc hn _ _) fun r => Same.pure _

/-! ## Textures -/

theorem samplerKind_edited (hn : n.Edited n') : SamplerKind.ofNode n = SamplerKind.ofNode n' := by
  unfold SamplerKind.ofNode
  simp only [hn.stringOr]

theorem sample_same (hc : c.Edited c') (hn : n.Edited n') (source : String) :
    Same (sample c n source) (sample c' n' source) := by
  have huv : Same (sampleCoordinates c n) (sampleCoordinates c' n') := by
    unfold sampleCoordinates
    refine Same.bind (hc.input? hn _) fun e? => ?_
    cases e? with
    | none => exact Same.pure _
    | some e => exact e.convert_same hn "uv" .vec2
  unfold sample
  rw [hn.id, samplerKind_edited hn]
  refine Same.bind huv fun uv => Same.bind (bindTexture_same hc.prepared _ _ _) fun b => ?_
  exact Same.bind (helper_same _) fun _ => Same.pure _

theorem textureSource_same (hc : c.Edited c') (hn : n.Edited n') :
    Same (textureSource c n port) (textureSource c' n' port) := by
  unfold textureSource
  rw [hn.id]
  refine Lockstep.ite Iff.rfl (Same.pure _) (Lockstep.ite Iff.rfl ?_ Lockstep.throw_left)
  exact sample_same hc hn _

theorem target_same (hn : n.Edited n') : Same (target n port) (target n' port) := by
  unfold target
  rw [hn.id]
  exact NodeContext.atPort_same port _ (Same.pure _)

theorem sampleTexture_same (hc : c.Edited c') (hn : n.Edited n') :
    Same (sampleTexture c n port) (sampleTexture c' n' port) := by
  refine NodeContext.atPort_same port _ ?_
  refine Same.bind (hc.require hn _) fun t => Lockstep.ite Iff.rfl Lockstep.throw_bind ?_
  exact sample_same hc hn _

/-! ## Snippets -/

theorem snippetInputs_same (hc : c.Edited c') (hn : n.Edited n') (ports : List Port) :
    Same (snippetInputs c n ports) (snippetInputs c' n' ports) := by
  have harg : ∀ p, Same (snippetArg n p) (snippetArg n' p) := by
    intro p
    unfold snippetArg
    rw [hn.id]
    refine Lockstep.ite Iff.rfl Lockstep.throw_left (Lockstep.ite Iff.rfl (Same.pure _) ?_)
    split
    · exact Same.pure _
    · exact Lockstep.throw_left
  induction ports with
  | nil => exact Same.pure _
  | cons p rest ih =>
    refine Same.bind (harg p) fun a => Same.bind (hc.requireType hn a.type [p.id]) fun e => ?_
    exact Same.bind ih fun more => Same.pure _

theorem trySnippet_same (hc : c.Edited c') (hn : n.Edited n') (s : Snippet) (isFirst : Bool)
    (stages : List SnippetStage) : Same (trySnippet c n s isFirst stages) (trySnippet c' n' s isFirst stages) := by
  induction stages generalizing isFirst with
  | nil => exact Same.pure _
  | cons stage rest ih =>
    unfold trySnippet
    rw [hn.id, hc.accepts]
    refine Lockstep.ite Iff.rfl ?_ (Same.bind (debug_same _ _ _ _) fun _ => ih false)
    exact Lockstep.ite Iff.rfl (Same.bind (debug_same _ _ _ _) fun _ => Same.pure _) (Same.pure _)

theorem snippet_same (hc : c.Edited c') (hn : n.Edited n') : Same (snippet c n port) (snippet c' n' port) := by
  have htext : Same (snippetText n) (snippetText n') := by
    unfold snippetText
    rw [hn.string?]
    split
    · exact Lockstep.ite Iff.rfl Lockstep.throw_left (Same.pure _)
    · exact Lockstep.throw_left
  have htype : Same (snippetType n) (snippetType n') := by
    unfold snippetType
    rw [hn.stringOr]
    dsimp only
    split
    · exact Same.pure _
    · exact Lockstep.throw_left
  refine NodeContext.atPort_same port _ ?_
  rw [hn.inputs, hn.id, hc.prepared.nameOf]
  refine Same.bind htext fun text => Same.bind htype fun result => ?_
  refine Same.bind (snippetInputs_same hc hn n'.inputs) fun inputs => ?_
  refine Same.bind ?_ fun _ => Same.bind (helper_same _) fun _ => Same.pure _
  refine Same.bind (trySnippet_same hc hn _ true snippetStages) fun isValid => ?_
  exact Lockstep.ite Iff.rfl Lockstep.throw_left (Same.pure _)

end CompileNode

/-! ## All compilers -/

theorem NodeCompiler.run_same (k : NodeCompiler) {c c' : NodeContext} {n n' : Node} (hc : c.Edited c')
    (hn : n.Edited n') (port : String) : Same (k.run c n port) (k.run c' n' port) := by
  cases k with
  | scalar t => exact CompileNode.scalarConstant_same hn t
  | vector t => exact CompileNode.vectorConstant_same hc hn t
  | color => exact CompileNode.color_same hn
  | matrix => exact CompileNode.matrix_same hn
  | clock => exact CompileNode.clock_same hn
  | coordinates => exact NodeContext.atPort_same port _ (Same.pure _)
  | targetSize => exact NodeContext.atPort_same port _ (Same.pure _)
  | instanceNumber => exact NodeContext.atPort_same port _ (Same.pure _)
  | unary => exact CompileNode.unary_same hc hn
  | binary => exact CompileNode.binary_same hc hn
  | mix => exact CompileNode.mix_same hc hn
  | clamp => exact CompileNode.clamp_same hc hn
  | smoothstep => exact CompileNode.smoothstep_same hc hn
  | compare => exact CompileNode.compare_same hc hn
  | select => exact CompileNode.select_same hc hn
  | connective op => exact CompileNode.connective_same hc hn op
  | negation => exact CompileNode.negation_same hc hn
  | split => exact CompileNode.split_same hc hn
  | combine => exact CompileNode.combine_same hc hn
  | textureSource => exact CompileNode.textureSource_same hc hn
  | target => exact CompileNode.target_same hn
  | sampleTexture => exact CompileNode.sampleTexture_same hc hn
  | snippet => exact CompileNode.snippet_same hc hn

namespace ExprContext

/-- A successful compilation finds the output in the memory, or runs a compiler and remembers its expression. -/
theorem compileWithin_cases {c : ExprContext} {fuel : Nat} {e : Endpoint} {s t : Session} {x : ShaderExpr}
    (h : Yields (c.compileWithin (fuel + 1) e) s x t) :
    s.compiled? e = some x ∧ t = s ∨
      s.compiled? e = none ∧ ∃ n k u, c.compilerOf e = .ok (n, k) ∧
        Yields (k.run ⟨c.prepared, c.compileWithin fuel, c.accepts⟩ n e.port) (s.enter e) x u ∧
          t = (u.leave e).remember e x := by
  simp only [compileWithin, yields_bind, yields_get] at h
  obtain ⟨_, _, ⟨rfl, rfl⟩, h⟩ := h
  split at h
  · rename_i y hy
    obtain ⟨rfl, rfl⟩ := (yields_pure _ _ _ _).1 h
    exact .inl ⟨hy, rfl⟩
  · rename_i hnone
    simp only [yields_ite, yields_bind, yields_throw, false_and, exists_false, and_false, false_or, yields_result,
      yields_modify] at h
    obtain ⟨_, ⟨n, k⟩, _, ⟨hcompiler, rfl⟩, _, _, rfl, r, u, hrun, _, _, rfl, h⟩ := h
    cases r with
    | error err => exact absurd h (yields_throw _ _ _ _)
    | ok y =>
      obtain ⟨_, _, hremember, hret⟩ := (yields_bind _ _ _ _ _).1 h
      obtain rfl := (yields_modify _ _ _ _).1 hremember
      obtain ⟨rfl, rfl⟩ := (yields_pure _ _ _ _).1 hret
      exact .inr ⟨hnone, n, k, u, hcompiler, (SessionM.yields_attempt _ _ _ _).1 hrun, rfl⟩

variable {c c' : ExprContext}

theorem compilerOf_edited (hp : c.prepared.Edited c'.prepared) (hr : c.registry = c'.registry) (e : Endpoint) :
    Agree (fun r r' => r.1.Edited r'.1 ∧ r.2 = r'.2) (c.compilerOf e) (c'.compilerOf e) := by
  unfold compilerOf Prepared.node?
  have hfound := hp.scene.indexed? e.node
  generalize c.prepared.scene.indexed? e.node = n? at hfound
  generalize c'.prepared.scene.indexed? e.node = n?' at hfound
  cases hfound with
  | none => exact .error_left
  | some hn =>
    simp only [hr, hn.type]
    split
    · exact .error_left
    · exact .ok ⟨hn, rfl⟩

theorem compileWithin_same (hp : c.prepared.Edited c'.prepared) (hr : c.registry = c'.registry)
    (ha : c.accepts = c'.accepts) (fuel : Nat) (e : Endpoint) :
    Same (c.compileWithin fuel e) (c'.compileWithin fuel e) := by
  induction fuel generalizing e with
  | zero => exact Lockstep.throw_left
  | succ fuel ih =>
    intro s s' x y t t' hs hx hy
    have hcompiled : s.compiled? e = s'.compiled? e := by
      unfold Session.compiled?
      rw [hs.memo]
    rcases compileWithin_cases hx with ⟨hfound, rfl⟩ | ⟨hnone, n, k, u, hcompiler, hrun, rfl⟩
    · rcases compileWithin_cases hy with ⟨hfound', rfl⟩ | ⟨hnone', _⟩
      · rw [hcompiled, hfound'] at hfound
        exact ⟨(Option.some.inj hfound).symm, hs⟩
      · rw [hcompiled, hnone'] at hfound
        cases hfound
    · rcases compileWithin_cases hy with ⟨hfound', _⟩ | ⟨_, n', k', u', hcompiler', hrun', rfl⟩
      · rw [hcompiled, hfound'] at hnone
        cases hnone
      · obtain ⟨hn, hk⟩ := compilerOf_edited hp hr e _ _ hcompiler hcompiler'
        have hk : k = k' := hk
        subst hk
        have hentered : (s.enter e).Alike (s'.enter e) :=
          ⟨hs.memo, congrArg (e :: ·) hs.active, hs.bindings, hs.helpers, hs.slots, hs.params⟩
        obtain ⟨rfl, hu⟩ := k.run_same ⟨hp, ih, ha⟩ hn e.port _ _ _ _ _ _ hentered hrun hrun'
        refine ⟨rfl, congrArg ((e, x) :: ·) hu.memo, ?_, hu.bindings, hu.helpers, hu.slots, hu.params⟩
        simp only [Session.remember, Session.leave, hu.active]

/-- Compiling an output of scenes one edit apart gives the same code. -/
theorem compile_same (hp : c.prepared.Edited c'.prepared) (hr : c.registry = c'.registry)
    (ha : c.accepts = c'.accepts) (e : Endpoint) : Same (c.compile e) (c'.compile e) := by
  unfold compile depthLimit
  rw [hp.scene.connections]
  exact compileWithin_same hp hr ha _ e

theorem inputs_edited (hp : c.prepared.Edited c'.prepared) (hr : c.registry = c'.registry)
    (ha : c.accepts = c'.accepts) : c.inputs.Edited c'.inputs :=
  ⟨hp, compile_same hp hr ha, ha⟩

end ExprContext

end SceneGraph
