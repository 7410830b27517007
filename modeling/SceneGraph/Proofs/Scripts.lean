import SceneGraph.Proofs.Compilers
import SceneGraph.Proofs.TypedSession

/-!
# What node compilers do

A node compiler compiles outputs that are wired into its node, stores constants of the node, registers textures and
functions, reports, and ends with an expression or a failure. This is all that it does, so a property of its runs is
shown by looking at these few actions, and not at every compiler.

* `NodeCompiler.reads`, `outputs`, `Constant`, `Refuses`: what a compiler reads, gives, stores and fails with.
* `NodeCompiler.Script`: a computation made of these actions.
* `NodeCompiler.run_script`: every compiler is one.
* `Script.congr`: it depends on what it compiles alone.
* `Script.obeys`: it obeys the laws that its actions obey.
* `Law.Supports.compileWithin`: so does compiling an output.
-/
set_option autoImplicit false

namespace SceneGraph

open SessionM

/-! ## Slots of codes -/

/-- An expression reads slots of a set only. -/
def Code.ReadsIn (S : Nat → Prop) (e : Code) : Prop := ∀ i ∈ e.slots, S i

namespace Code

variable {S : Nat → Prop}

attribute [local simp] uses usesAll

theorem readsIn_iff {e : Code} : e.ReadsIn S ↔ ∀ i, .slot i ∈ e.uses → S i := by
  have hslot : ∀ i, i ∈ e.slots ↔ Code.slot i ∈ e.uses := by
    intro i
    unfold slots
    rw [List.mem_filterMap]
    constructor
    · rintro ⟨u, hu, hi⟩
      split at hi
      · cases hi
        exact hu
      · cases hi
    · exact fun h => ⟨_, h, rfl⟩
  exact forall_congr' fun i => by rw [hslot]

theorem ReadsIn.of_no_slots {e : Code} (h : e.slots = []) : e.ReadsIn S := by
  unfold ReadsIn
  rw [h]
  exact nofun

section

variable (e a b : Code) (text : String) (args : List Code) (t : ValueType)

@[simp] theorem readsIn_zero : (zero t).ReadsIn S := .of_no_slots rfl
@[simp] theorem readsIn_one : (one t).ReadsIn S := .of_no_slots rfl
@[simp] theorem readsIn_time : time.ReadsIn S := .of_no_slots rfl
@[simp] theorem readsIn_uv : uv.ReadsIn S := .of_no_slots rfl
@[simp] theorem readsIn_resolution : resolution.ReadsIn S := .of_no_slots rfl
@[simp] theorem readsIn_instanceIndex : instanceIndex.ReadsIn S := .of_no_slots rfl
@[simp] theorem readsIn_decimal : (decimal text).ReadsIn S := .of_no_slots rfl
@[simp] theorem readsIn_bound : (bound text).ReadsIn S := .of_no_slots rfl
@[simp] theorem readsIn_verbatim : (verbatim text).ReadsIn S := .of_no_slots rfl
@[simp] theorem readsIn_dimensions : (dimensions text).ReadsIn S := .of_no_slots rfl
@[simp] theorem readsIn_part : (part e text).ReadsIn S ↔ e.ReadsIn S := Iff.rfl
@[simp] theorem readsIn_firstThree : (firstThree e).ReadsIn S ↔ e.ReadsIn S := Iff.rfl
@[simp] theorem readsIn_signed : (signed text e).ReadsIn S ↔ e.ReadsIn S := Iff.rfl
@[simp] theorem readsIn_minus : (minus e).ReadsIn S ↔ e.ReadsIn S := Iff.rfl

@[simp]
theorem readsIn_slot (i : Nat) : (slot i).ReadsIn S ↔ S i := by
  simp [readsIn_iff]

@[simp]
theorem readsIn_binary : (binary text a b).ReadsIn S ↔ a.ReadsIn S ∧ b.ReadsIn S := by
  simp [readsIn_iff, or_imp, forall_and]

@[simp]
theorem readsIn_bare : (bare text a b).ReadsIn S ↔ a.ReadsIn S ∧ b.ReadsIn S := by
  simp [readsIn_iff, or_imp, forall_and]

theorem slot_mem_usesAll {i : Nat} : Code.slot i ∈ usesAll args ↔ ∃ e ∈ args, Code.slot i ∈ e.uses := by
  induction args with
  | nil => simp
  | cons e rest ih => simp [ih]

@[simp]
theorem readsIn_call : (call text args).ReadsIn S ↔ ∀ e ∈ args, e.ReadsIn S := by
  simp only [readsIn_iff, uses, slot_mem_usesAll]
  exact ⟨fun h e he i hi => h i ⟨e, he, hi⟩, fun h i ⟨e, he, hi⟩ => h e he i hi⟩

@[simp]
theorem readsIn_helper : (helper text args).ReadsIn S ↔ ∀ e ∈ args, e.ReadsIn S := by
  simp only [readsIn_iff, uses, List.mem_cons, reduceCtorEq, false_or, slot_mem_usesAll]
  exact ⟨fun h e he i hi => h i ⟨e, he, hi⟩, fun h i ⟨e, he, hi⟩ => h e he i hi⟩

@[simp]
theorem readsIn_sample (key : String) : (sample key text e).ReadsIn S ↔ e.ReadsIn S := by
  simp [readsIn_iff]

end

theorem ReadsIn.convert? {e code : Code} {source target : ValueType} (he : e.ReadsIn S)
    (h : e.convert? source target = some code) : code.ReadsIn S := by
  have hfloat : (e.asFloat source).ReadsIn S := by
    unfold asFloat
    split <;> simp [numberOfBool, construct, he]
  unfold Code.convert? at h
  split at h
  · cases h
    exact he
  · split at h
    case h_14 =>
      split at h
      · cases h
        simp [construct, hfloat]
      · cases h
    all_goals
      cases h
      simp [numberOfBool, construct, he]

end Code

/-! ## The actions of a compiler -/

/-- The types in which a snippet takes arguments. -/
def Port.isArgument (p : Port) : Bool := p.type = "" || (Snippet.typeOf? p.type).isSome

namespace NodeCompiler

/-- The input ports whose sources a compiler compiles. -/
def reads (n : Node) : NodeCompiler → List String
  | .vector t => CompileNode.components.take t.components
  | .unary => unaryPorts
  | .binary => leftPorts ++ rightPorts
  | .mix => ["a", "b", "t"]
  | .clamp => unaryPorts ++ ["min", "max"]
  | .smoothstep => ["edge0", "edge1", "x"]
  | .compare | .connective _ => ["a", "b"]
  | .select => ["cond", "a", "b"]
  | .negation => ["x"]
  | .split => ["value"]
  | .combine => CompileNode.components
  | .textureSource => ["uv"]
  | .sampleTexture => ["texture", "uv"]
  | .snippet => (n.inputs.takeWhile Port.isArgument).map Port.id
  | _ => []

/-- The output ports of a compiler, with the types of those whose type does not depend on the inputs. -/
def outputs (n : Node) : NodeCompiler → List (String × Option ValueType)
  | .scalar t | .vector t => [("value", some t)]
  | .color => [("color", some .vec4)]
  | .matrix => [("value", some .mat4)]
  | .clock => [("time", some .float)]
  | .coordinates => [("uv", some .vec2)]
  | .targetSize => [("resolution", some .vec2)]
  | .instanceNumber => [("index", some .uint)]
  | .unary => [("value", if n.type = "Length" then some .float else none)]
  | .binary => [("value", if n.type = "Dot" ∨ n.type = "Distance" then some .float else none)]
  | .mix | .clamp | .smoothstep | .select | .combine | .snippet => [("value", none)]
  | .compare | .connective _ | .negation => [("value", some .bool)]
  | .split => CompileNode.components.map fun name => (name, some .float)
  | .textureSource => [("texture", some .texture), ("color", some .vec4)]
  | .target => [("texture", some .texture)]
  | .sampleTexture => [("color", some .vec4)]

/-- A compiler gives a type at a port. -/
def Gives (k : NodeCompiler) (n : Node) (port : String) (t : ValueType) : Prop :=
  ∃ fixed, (port, fixed) ∈ k.outputs n ∧ ∀ u ∈ fixed, t = u

/-- The constants that a compiler stores: under a parameter of its node, numbers of a type. -/
inductive Constant (n : Node) : NodeCompiler → String → List Float → ValueType → Prop where
  | scalar {t : ValueType} {x : Float} (h : CompileNode.scalarValue n = .ok x) : Constant n (.scalar t) "value" [x] t
  | vector {t : ValueType} (h : ((n.floats? "value").getD (List.replicate t.components 0)).length = t.components) :
      Constant n (.vector t) "value" ((n.floats? "value").getD (List.replicate t.components 0)) t
  | white (h : n.floats? "value" = none) : Constant n .color "value" [1, 1, 1, 1] .vec4
  | plain {r g b : Float} (h : n.floats? "value" = some [r, g, b]) : Constant n .color "value" [r, g, b, 1] .vec4
  | shaded {r g b a : Float} (h : n.floats? "value" = some [r, g, b, a]) :
      Constant n .color "value" [r, g, b, a] .vec4
  | matrix (h : ((n.floats? "value").getD (List.replicate 16 0)).length = 16) :
      Constant n .matrix "value" ((n.floats? "value").getD (List.replicate 16 0)) .mat4
  | speed : Constant n .clock "speed" [n.floatOr "speed" 1] .float
  | bound {name : String} (h : name = "min" ∨ name = "max") :
      Constant n .clamp name [n.floatOr name (if name = "min" then 0 else 1)] .float

theorem Constant.unique {n : Node} {k : NodeCompiler} {param : String} {xs ys : List Float} {t u : ValueType}
    (h : Constant n k param xs t) (h' : Constant n k param ys u) : xs = ys ∧ t = u := by
  cases h <;> cases h' <;> simp_all

/-- The failures of a compiler itself, at a port. -/
inductive Refuses (k : NodeCompiler) (n : Node) (port : String) : ExprError → Prop where
  | missingInput (input : String) : Refuses k n port (.missingInput n.id input)
  | typeMismatch (input expected : String) (got : ValueType) : Refuses k n port (.typeMismatch n.id input expected got)
  | unsupportedParam {param : String} (value : Value) (hnode : param ≠ "node type") (hport : param ≠ "output port") :
      Refuses k n port (.unsupportedParam n.id param value)
  | snippetRefused (source : String) : Refuses k n port (.snippetRefused n.id source)
  | unknownPort (h : port ∉ (k.outputs n).map Prod.fst) :
      Refuses k n port (.unsupportedParam n.id "output port" (.str port))

end NodeCompiler

/-- The sessions differ in bindings, functions and reports only. -/
structure Session.Quiet (s t : Session) : Prop where
  memo : t.memo = s.memo
  active : t.active = s.active
  params : t.params = s.params
  slots : t.slots = s.slots

theorem Session.Quiet.refl (s : Session) : s.Quiet s := ⟨rfl, rfl, rfl, rfl⟩

/-- A way to compile other outputs. -/
abbrev InputCompiler := Endpoint → SessionM ShaderExpr

/-- A computation that a compiler runs on a node for an output port, given a way to compile other outputs: the actions
of the compiler, one after the other. If some facts hold, and inputs and constants read slots of a set, then the result
is as described. -/
inductive NodeCompiler.Script (p : Prepared) (k : NodeCompiler) (n : Node) (port : String) (S : Nat → Prop) {α : Type}
    (Q : α → Prop) : Prop → (InputCompiler → SessionM α) → Prop where
  | pure {G : Prop} {a : α} (h : G → Q a) : Script p k n port S Q G fun _ => Pure.pure a
  | throw {G : Prop} {e : ExprError} (h : k.Refuses n port e) : Script p k n port S Q G fun _ => MonadExcept.throw e
  | input {G : Prop} {conn : Connection} {next : ShaderExpr → InputCompiler → SessionM α}
      (hmem : conn ∈ p.scene.connections) (htarget : conn.target.node = n.id) (hport : conn.target.port ∈ k.reads n)
      (hnext : ∀ x : ShaderExpr, Script p k n port S Q (G ∧ x.code.ReadsIn S) (next x)) :
      Script p k n port S Q G fun f => f conn.source >>= fun x => next x f
  | constant {G : Prop} {param : String} {values : List Float} {t : ValueType}
      {next : ShaderExpr → InputCompiler → SessionM α} (h : k.Constant n param values t)
      (hnext : ∀ x : ShaderExpr, Script p k n port S Q (G ∧ x.type = t ∧ x.code.ReadsIn S) (next x)) :
      Script p k n port S Q G fun f => SessionM.constant n.id param values t >>= fun x => next x f
  | quiet {G : Prop} {β : Type} {g : Session → β × Session} {next : β → InputCompiler → SessionM α}
      (h : ∀ s : Session, s.Quiet (g s).2) (hnext : ∀ b, Script p k n port S Q G (next b)) :
      Script p k n port S Q G fun f => modifyGet g >>= fun b => next b f

/-- A computation of a compiler that gives a value or refuses, and does nothing else. -/
def NodeCompiler.Decides (k : NodeCompiler) (n : Node) (port : String) {α : Type} (T : α → Prop) (x : SessionM α) :
    Prop :=
  (∃ a, x = pure a ∧ T a) ∨ ∃ e, x = throw e ∧ k.Refuses n port e

namespace NodeCompiler.Script

variable {accepts : String → Bool} {p : Prepared} {k : NodeCompiler} {n : Node} {port : String} {S : Nat → Prop}
  {α β : Type} {G : Prop}
  {T Q : α → Prop} {x y : InputCompiler → SessionM α}

attribute [local simp] reads

theorem weaken (h : Script p k n port S Q G x) {G' : Prop} (hG : G' → G) : Script p k n port S Q G' x := by
  induction h generalizing G' with
  | pure h => exact .pure fun hg => h (hG hg)
  | throw h => exact .throw h
  | input hmem htarget hport _ ih => exact .input hmem htarget hport fun x => ih x (And.imp_left hG)
  | constant h _ ih => exact .constant h fun x => ih x (And.imp_left hG)
  | quiet h _ ih => exact .quiet h fun b => ih b hG

theorem bind {Q : β → Prop} {z : α → InputCompiler → SessionM β} (hx : Script p k n port S T G x)
    (hz : ∀ a, Script p k n port S Q (G ∧ T a) (z a)) : Script p k n port S Q G fun f => x f >>= fun a => z a f := by
  induction hx with
  | pure h => simpa only [pure_bind] using (hz _).weaken fun hg => ⟨hg, h hg⟩
  | throw h => exact .throw h
  | input hmem htarget hport _ ih =>
    have hnext := input hmem htarget hport fun x => ih x fun a => (hz a).weaken (And.imp_left And.left)
    simpa only [bind_assoc] using hnext
  | constant h _ ih =>
    have hnext := constant h fun x => ih x fun a => (hz a).weaken (And.imp_left And.left)
    simpa only [bind_assoc] using hnext
  | quiet h _ ih => simpa only [bind_assoc] using quiet h fun b => ih b hz

theorem mono (h : Script p k n port S T G x) (hQ : ∀ a, G → T a → Q a) : Script p k n port S Q G x := by
  simpa only [bind_pure] using h.bind (z := fun a _ => Pure.pure a) fun a => pure fun hg => hQ a hg.1 hg.2

theorem ite {c : Prop} [Decidable c] (hx : c → Script p k n port S Q G x) (hy : ¬c → Script p k n port S Q G y) :
    Script p k n port S Q G fun f => if c then x f else y f := by
  by_cases hc : c
  · simpa only [if_pos hc] using hx hc
  · simpa only [if_neg hc] using hy hc

/-- The computation goes on only where a condition does not hold. -/
theorem refuse {c : Prop} [Decidable c] {e : ExprError} {z : β → InputCompiler → SessionM α} (he : k.Refuses n port e)
    (hx : ¬c → Script p k n port S Q G x) :
    Script p k n port S Q G fun f => if c then MonadExcept.throw e >>= fun b => z b f else x f :=
  .ite (fun _ => .throw he) hx

/-- The computation goes on with a value that was decided on. -/
theorem decide {T : β → Prop} {d : SessionM β} {z : β → InputCompiler → SessionM α} (hd : k.Decides n port T d)
    (hz : ∀ b, T b → Script p k n port S Q G (z b)) : Script p k n port S Q G fun f => d >>= fun b => z b f := by
  rcases hd with ⟨b, rfl, hb⟩ | ⟨e, rfl, he⟩
  · simpa only [pure_bind] using hz b hb
  · exact .throw he

theorem stored {param : String} {values : List Float} {t : ValueType} (h : k.Constant n param values t) :
    Script p k n port S (fun x : ShaderExpr => x.type = t ∧ x.code.ReadsIn S) G fun _ =>
      SessionM.constant n.id param values t := by
  have hscript : Script p k n port S (fun x : ShaderExpr => x.type = t ∧ x.code.ReadsIn S) G fun _ =>
      SessionM.constant n.id param values t >>= fun x => Pure.pure x := constant h fun x => .pure And.right
  simpa only [bind_pure] using hscript

theorem modified {g : Session → β × Session} (h : ∀ s : Session, s.Quiet (g s).2) :
    Script p k n port S (fun _ => True) G fun _ => (modifyGet g : SessionM β) := by
  have hscript : Script p k n port S (fun _ => True) G fun _ =>
      (modifyGet g : SessionM β) >>= fun b => Pure.pure b := quiet h fun b => .pure fun _ => trivial
  simpa only [bind_pure] using hscript

theorem bindTexture (key source : String) (sampler : SamplerKind) :
    Script p k n port S (fun _ => True) G fun _ => SessionM.bindTexture p key source sampler := by
  refine modified fun s => ?_
  rcases s.addBinding_cases ⟨key, p.nameOf key, source, sampler⟩ with ⟨old, _, heq⟩ | ⟨_, heq⟩ <;> rw [heq]
  · exact .refl s
  · exact ⟨rfl, rfl, rfl, rfl⟩

theorem helper (f : HelperFunction) : Script p k n port S (fun _ => True) G fun _ => SessionM.helper f := by
  refine modified fun s => ?_
  change s.Quiet (s.addHelper f)
  unfold Session.addHelper
  split
  · exact .refl s
  · exact ⟨rfl, rfl, rfl, rfl⟩

theorem debug (message : String) (fields : List (String × String)) :
    Script p k n port S (fun _ => True) G fun _ => SessionM.debug message fields :=
  modified fun _ => ⟨rfl, rfl, rfl, rfl⟩

/-! ### Inputs -/

theorem convert {e : ShaderExpr} (he : G → e.code.ReadsIn S) (input : String) (want : ValueType) :
    Script p k n port S (fun x : ShaderExpr => x.type = want ∧ x.code.ReadsIn S) G fun _ => e.convert n input want := by
  unfold ShaderExpr.convert
  refine .ite (fun h => .pure fun hg => ⟨h, he hg⟩) fun _ => ?_
  split
  · rename_i code hcode
    exact .pure fun hg => ⟨ShaderExpr.derive_type _ _ _, by rw [ShaderExpr.derive_code]; exact (he hg).convert? hcode⟩
  · exact .throw (.typeMismatch _ _ _)

theorem floating {e : ShaderExpr} (he : G → e.code.ReadsIn S) (input : String) :
    Script p k n port S (fun x : ShaderExpr => x.code.ReadsIn S) G fun _ => e.floating n input := by
  refine .ite (fun _ => .pure he) fun _ => .ite (fun _ => ?_) fun _ => .throw (.typeMismatch _ _ _)
  exact (convert he _ _).mono fun _ _ hx => hx.2

theorem input? {ports : List String} (hports : ∀ q ∈ ports, q ∈ k.reads n) :
    Script p k n port S (fun x? : Option ShaderExpr => ∀ x ∈ x?, x.code.ReadsIn S) G fun f =>
      NodeContext.input? ⟨p, f, accepts⟩ n ports := by
  unfold NodeContext.input?
  dsimp only
  cases hconn : p.scene.inputAt? n.id ports with
  | none => exact .pure (by simp)
  | some conn =>
    obtain ⟨hmem, htarget⟩ := Scene.inputAt?_eq_some hconn
    have hport : conn.target.port ∈ ports := by
      obtain ⟨q, hq, hfound⟩ := List.exists_of_findSome?_eq_some hconn
      have hends := List.find?_some hfound
      simp only [Bool.and_eq_true, beq_iff_eq] at hends
      exact hends.2 ▸ hq
    exact .input hmem htarget (hports _ hport) fun x => .pure (by simp)

theorem require {ports : List String} (hports : ∀ q ∈ ports, q ∈ k.reads n) :
    Script p k n port S (fun x : ShaderExpr => x.code.ReadsIn S) G fun f =>
      NodeContext.require ⟨p, f, accepts⟩ n ports := by
  refine .bind (input? hports) fun x? => ?_
  cases x? with
  | none => exact .throw (.missingInput _)
  | some x => exact .pure (by simp)

theorem requireType {ports : List String} (hports : ∀ q ∈ ports, q ∈ k.reads n) (want : ValueType) :
    Script p k n port S (fun x : ShaderExpr => x.type = want ∧ x.code.ReadsIn S) G fun f =>
      NodeContext.requireType ⟨p, f, accepts⟩ n want ports :=
  .bind (require hports) fun _ => convert And.right _ _

theorem ignoreExtra (accepted : List String) :
    Script p k n port S (fun _ => True) G fun f => NodeContext.ignoreExtra ⟨p, f, accepts⟩ n accepted := by
  unfold NodeContext.ignoreExtra
  dsimp only
  generalize p.scene.unusedInputs n.id accepted = conns
  induction conns with
  | nil => exact .pure fun _ => trivial
  | cons conn rest ih => exact .bind (debug _ _) fun _ => ih.weaken And.left

/-- A compiler with a single output port works on this port only. -/
theorem atPort {expected : String} {fixed : Option ValueType} (houtputs : k.outputs n = [(expected, fixed)])
    {x : InputCompiler → SessionM ShaderExpr}
    (hx : Script p k n port S (fun e => (∀ u ∈ fixed, e.type = u) ∧ e.code.ReadsIn S) G x) :
    Script p k n port S (fun e => k.Gives n port e.type ∧ e.code.ReadsIn S) G fun f =>
      NodeContext.atPort n port expected (x f) := by
  refine .ite (fun h => hx.mono fun e _ he => ⟨⟨fixed, ?_, he.1⟩, he.2⟩) fun h => .throw (.unknownPort ?_)
  · rw [houtputs, h]
    exact List.mem_singleton.2 rfl
  · simpa [houtputs] using h

/-! ### Constants -/

theorem scalarConstant (t : ValueType) : Script p (.scalar t) n port S
    (fun e => (NodeCompiler.scalar t).Gives n port e.type ∧ e.code.ReadsIn S) G fun _ =>
      CompileNode.scalarConstant t n port := by
  have hvalue : (NodeCompiler.scalar t).Decides n port (fun x => CompileNode.scalarValue n = .ok x)
      (CompileNode.scalarConstant.liftExcept (CompileNode.scalarValue n)) := by
    unfold CompileNode.scalarValue
    split
    · exact .inl ⟨0, rfl, rfl⟩
    · split
      · exact .inl ⟨_, rfl, rfl⟩
      · exact .inr ⟨_, rfl, .unsupportedParam _ (by decide) (by decide)⟩
  refine atPort rfl (.decide hvalue fun x hx => (stored (.scalar hx)).mono ?_)
  rintro e - ⟨htype, hreads⟩
  exact ⟨by simp [htype], hreads⟩

theorem floatsParam (size : Nat) : k.Decides n port
    (fun xs => xs = (n.floats? "value").getD (List.replicate size 0) ∧ xs.length = size)
    (CompileNode.floatsParam n "value" size) := by
  have hrefuses : k.Refuses n port (.unsupportedParam n.id "value" (n.param "value")) :=
    .unsupportedParam _ (by decide) (by decide)
  unfold CompileNode.floatsParam
  cases n.floats? "value" with
  | none =>
    dsimp only
    split
    · exact .inr ⟨_, rfl, hrefuses⟩
    · exact .inl ⟨_, rfl, rfl, List.length_replicate⟩
  | some xs =>
    dsimp only
    split
    · exact .inl ⟨xs, rfl, rfl, ‹_›⟩
    · exact .inr ⟨_, rfl, hrefuses⟩

theorem componentCodes {default : String → Code} (hdefault : G → ∀ name, (default name).ReadsIn S)
    {names : List String} (hnames : ∀ q ∈ names, q ∈ k.reads n) :
    Script p k n port S (fun r => ∀ c ∈ r.1, c.ReadsIn S) G fun f =>
      CompileNode.componentCodes ⟨p, f, accepts⟩ n default names := by
  induction names with
  | nil => exact .pure (by simp)
  | cons name rest ih =>
    have hrest := ih fun q hq => hnames q (List.mem_cons_of_mem _ hq)
    unfold CompileNode.componentCodes
    refine .bind (input? (by simpa using hnames name List.mem_cons_self)) fun x? => ?_
    cases x? with
    | none =>
      refine .bind (hrest.weaken And.left) fun r => .pure ?_
      rintro ⟨⟨hg, -⟩, hr⟩
      simpa using ⟨hdefault hg name, hr⟩
    | some e =>
      refine .bind (convert (fun hg => hg.2 e rfl) _ _) fun e => ?_
      refine .bind (hrest.weaken fun hg => hg.1.1) fun r => .pure ?_
      rintro ⟨⟨-, he⟩, hr⟩
      simpa using ⟨he.2, hr⟩

theorem vectorConstant (t : ValueType) : Script p (.vector t) n port S
    (fun e => (NodeCompiler.vector t).Gives n port e.type ∧ e.code.ReadsIn S) G fun f =>
      CompileNode.vectorConstant t ⟨p, f, accepts⟩ n port := by
  refine atPort rfl (.decide (floatsParam t.components) fun xs hxs => ?_)
  obtain ⟨rfl, hlength⟩ := hxs
  refine .bind (stored (.vector hlength)) fun base => ?_
  refine .bind (componentCodes (fun hg name => by simpa using hg.2.2) fun q hq => hq) fun r => ?_
  refine .ite (fun _ => .pure fun ⟨⟨_, hbase⟩, _⟩ => ⟨by simp [hbase.1], hbase.2⟩) fun _ => .pure fun ⟨_, hr⟩ => ?_
  refine ⟨by simp [ShaderExpr.derive_type], ?_⟩
  rw [ShaderExpr.derive_code]
  simpa [Code.construct] using hr

theorem color : Script p .color n port S (fun e => NodeCompiler.color.Gives n port e.type ∧ e.code.ReadsIn S) G fun _ =>
    CompileNode.color n port := by
  have hmono : ∀ e : ShaderExpr, G → e.type = .vec4 ∧ e.code.ReadsIn S → (∀ u ∈ some ValueType.vec4, e.type = u) ∧
      e.code.ReadsIn S := fun e _ he => ⟨by simp [he.1], he.2⟩
  refine atPort rfl ?_
  split
  · exact (stored (.white ‹_›)).mono hmono
  · exact (stored (.plain ‹_›)).mono hmono
  · exact (stored (.shaded ‹_›)).mono hmono
  · exact .throw (.unsupportedParam _ (by decide) (by decide))

theorem matrix : Script p .matrix n port S (fun e => NodeCompiler.matrix.Gives n port e.type ∧ e.code.ReadsIn S) G
    fun _ => CompileNode.matrix n port := by
  refine atPort rfl (.decide (floatsParam 16) fun xs hxs => ?_)
  obtain ⟨rfl, hlength⟩ := hxs
  exact (stored (.matrix hlength)).mono fun e _ he => ⟨by simp [he.1], he.2⟩

theorem clock : Script p .clock n port S (fun e => NodeCompiler.clock.Gives n port e.type ∧ e.code.ReadsIn S) G fun _ =>
    CompileNode.clock n port :=
  atPort rfl (.bind (stored .speed) fun _ => .pure fun ⟨_, hspeed⟩ => ⟨by simp, by simpa using hspeed.2⟩)

/-! ### Mathematical nodes -/

theorem readsIn_spread {e : Code} (he : e.ReadsIn S) (t : ValueType) : (CompileNode.spread e t).ReadsIn S := by
  unfold CompileNode.spread
  cases hcode : e.convert? .float t with
  | none => simp
  | some code => exact he.convert? hcode

theorem readsIn_unaryCode (type : String) {x : Code} (hx : x.ReadsIn S) : (CompileNode.unaryCode type x).ReadsIn S := by
  unfold CompileNode.unaryCode
  split <;> simp [hx]

theorem readsIn_binaryCode (type : String) {a b : Code} (ha : a.ReadsIn S) (hb : b.ReadsIn S) :
    (CompileNode.binaryCode type a b).ReadsIn S := by
  unfold CompileNode.binaryCode
  split <;> simp [ha, hb]

theorem applyUnary {x : ShaderExpr} (hx : G → x.code.ReadsIn S) :
    Script p k n port S (fun e => (n.type = "Length" → e.type = .float) ∧ e.code.ReadsIn S) G fun _ =>
      CompileNode.applyUnary n x := by
  have hlow : ∀ t, (CompileNode.spread (.zero .float) t).ReadsIn S := readsIn_spread (Code.readsIn_zero .float)
  have hhigh : ∀ t, (CompileNode.spread (.one .float) t).ReadsIn S := readsIn_spread (Code.readsIn_one .float)
  unfold CompileNode.applyUnary
  split
  · exact .pure fun hg => ⟨fun _ => ShaderExpr.derive_type _ _ _, by simpa [ShaderExpr.derive_code] using hx hg⟩
  · rename_i htype
    refine .ite (fun _ => .pure fun hg => ⟨by simp [htype], ?_⟩) fun _ => .throw (.typeMismatch _ _ _)
    simpa [ShaderExpr.derive_code] using hx hg
  · rename_i htype
    refine .pure fun hg => ⟨by simp [htype], ?_⟩
    simpa [ShaderExpr.derive_code] using ⟨hx hg, hlow _, hhigh _⟩
  · rename_i hlength _ _
    refine .pure fun hg => ⟨fun h => absurd h hlength, ?_⟩
    rw [ShaderExpr.derive_code]
    exact readsIn_unaryCode _ (hx hg)

theorem unary : Script p .unary n port S (fun e => NodeCompiler.unary.Gives n port e.type ∧ e.code.ReadsIn S) G fun f =>
    CompileNode.unary ⟨p, f, accepts⟩ n port := by
  refine atPort rfl (.mono (T := fun e => (n.type = "Length" → e.type = .float) ∧ e.code.ReadsIn S) ?_ ?_)
  · refine .bind (ignoreExtra _) fun _ => .bind (require fun q hq => hq) fun x => ?_
    exact .ite (fun _ => applyUnary And.right) fun _ => .bind (floating And.right _) fun y => applyUnary And.right
  · rintro e - ⟨hlength, hreads⟩
    refine ⟨?_, hreads⟩
    split <;> simp_all

/-- Two operands are converted to a type and put together. -/
theorem convertBoth {a b : ShaderExpr} (ha : G → a.code.ReadsIn S) (hb : G → b.code.ReadsIn S) {inputA inputB : String}
    {t u : ValueType} {z : ShaderExpr → ShaderExpr → SessionM ShaderExpr} {Q : ShaderExpr → Prop}
    (hz : ∀ a b, Script p k n port S Q (G ∧ a.code.ReadsIn S ∧ b.code.ReadsIn S) fun _ => z a b) :
    Script p k n port S Q G fun _ => (do
      let a ← a.convert n inputA t
      let b ← b.convert n inputB u
      z a b) :=
  .bind (convert ha _ t) fun a => .bind (convert (fun hg => hb hg.1) _ u) fun b =>
    (hz a b).weaken fun ⟨⟨hg, ha⟩, hb⟩ => ⟨hg, ha.2, hb.2⟩

theorem applyBinary {a b : ShaderExpr} (ha : G → a.code.ReadsIn S) (hb : G → b.code.ReadsIn S) :
    Script p k n port S (fun e => (n.type = "Dot" ∨ n.type = "Distance" → e.type = .float) ∧ e.code.ReadsIn S) G
      fun _ =>
      CompileNode.applyBinary n a b := by
  unfold CompileNode.applyBinary
  split
  · exact .throw (.typeMismatch _ _ _)
  · refine .refuse (.typeMismatch _ _ _) fun _ => convertBoth ha hb fun a b => ?_
    refine .pure fun ⟨_, ha, hb⟩ => ⟨fun htype => ?_, ?_⟩
    · rw [ShaderExpr.derive_type, CompileNode.resultType, if_pos (by simpa using htype)]
    · rw [ShaderExpr.derive_code]
      exact readsIn_binaryCode _ ha hb

theorem binary : Script p .binary n port S (fun e => NodeCompiler.binary.Gives n port e.type ∧ e.code.ReadsIn S) G
    fun f => CompileNode.binary ⟨p, f, accepts⟩ n port := by
  refine atPort rfl (.mono
    (T := fun e => (n.type = "Dot" ∨ n.type = "Distance" → e.type = .float) ∧ e.code.ReadsIn S) ?_ ?_)
  · refine .bind (ignoreExtra _) fun _ => .bind (require fun q hq => List.mem_append_left _ hq) fun a => ?_
    refine .bind (require fun q hq => List.mem_append_right _ hq) fun b => ?_
    refine .ite (fun hproduct => ?_) fun _ => applyBinary (fun hg => hg.1.2) And.right
    have hmultiply : n.type = "Multiply" := by
      simp only [Bool.and_eq_true, decide_eq_true_eq] at hproduct
      exact hproduct.1
    have htype : ¬(n.type = "Dot" ∨ n.type = "Distance") := by simp [hmultiply]
    have hscaled : Script p .binary n port S
        (fun e : ShaderExpr => (n.type = "Dot" ∨ n.type = "Distance" → e.type = .float) ∧ e.code.ReadsIn S)
        (((G ∧ True) ∧ a.code.ReadsIn S) ∧ b.code.ReadsIn S) fun _ => (do
          let b ← b.convert n "b" .vec4
          return .derive (.binary "*" a.code b.code) .vec4 [a, b]) := by
      refine .bind (convert And.right _ _) fun b => .pure fun ⟨⟨⟨_, ha⟩, _⟩, hb⟩ => ⟨fun h => absurd h htype, ?_⟩
      simpa [ShaderExpr.derive_code] using ⟨ha, hb.2⟩
    split
    · exact .pure fun ⟨⟨_, ha⟩, hb⟩ => ⟨fun h => absurd h htype, by simpa [ShaderExpr.derive_code] using ⟨ha, hb⟩⟩
    · exact hscaled
    · exact hscaled
    · exact hscaled
    · exact applyBinary (fun hg => hg.1.2) And.right
  · rintro e - ⟨hfloat, hreads⟩
    refine ⟨?_, hreads⟩
    split <;> simp_all

theorem unifyFloat {operands : List (String × ShaderExpr)} (h : G → ∀ o ∈ operands, o.2.code.ReadsIn S) :
    Script p k n port S (fun r => ∀ e ∈ r.2, e.code.ReadsIn S) G fun _ => CompileNode.unifyFloat n operands := by
  have htypes : ∀ t, k.Decides n port (fun _ => True)
      (ExceptT.mk (Pure.pure (CompileNode.floatType n t operands)) : SessionM ValueType) := by
    clear h
    induction operands with
    | nil => exact fun t => .inl ⟨t, rfl, trivial⟩
    | cons o rest ih =>
      intro t
      unfold CompileNode.floatType
      split
      · exact .inr ⟨_, rfl, .typeMismatch _ _ _⟩
      · exact ih _
  have hall : ∀ t, Script p k n port S (fun es => ∀ e ∈ es, e.code.ReadsIn S) G fun _ =>
      CompileNode.convertAll n t operands := by
    intro t
    clear htypes
    induction operands with
    | nil => exact .pure (by simp)
    | cons o rest ih =>
      refine .bind (convert (fun hg => h hg o List.mem_cons_self) _ t) fun e => ?_
      refine .bind ((ih fun hg o ho => h hg o (List.mem_cons_of_mem _ ho)).weaken And.left) fun es => ?_
      exact .pure fun ⟨⟨_, he⟩, hes⟩ => List.forall_mem_cons.2 ⟨he.2, hes⟩
  exact .decide (htypes .float) fun t _ => .bind (hall t) fun es => .pure And.right

theorem readsIn_callOn {function : String} {t : ValueType} {es : List ShaderExpr} (hes : ∀ e ∈ es, e.code.ReadsIn S) :
    (CompileNode.callOn function t es).code.ReadsIn S := by
  rw [CompileNode.callOn, ShaderExpr.derive_code]
  simpa using hes

theorem mix : Script p .mix n port S (fun e => NodeCompiler.mix.Gives n port e.type ∧ e.code.ReadsIn S) G fun f =>
    CompileNode.mix ⟨p, f, accepts⟩ n port := by
  refine atPort rfl (.bind (require (by simp)) fun a => .bind (require (by simp)) fun b => ?_)
  refine .bind (require (by simp)) fun share => ?_
  refine .bind (unifyFloat fun ⟨⟨⟨_, ha⟩, hb⟩, _⟩ => by simpa using ⟨ha, hb⟩) fun r => ?_
  refine .bind (convert (fun hg => hg.1.2) _ _) fun share => .pure fun ⟨⟨_, hr⟩, hshare⟩ => ⟨by simp, readsIn_callOn ?_⟩
  simpa [or_imp, forall_and] using ⟨hr, hshare.2⟩

theorem clampBound {name : String} {default : Float} (hname : name = "min" ∧ default = 0 ∨ name = "max" ∧ default = 1) :
    Script p .clamp n port S (fun e : ShaderExpr => e.code.ReadsIn S) G fun f =>
      CompileNode.clampBound ⟨p, f, accepts⟩ n name default := by
  refine .bind (input? (by rcases hname with ⟨rfl, -⟩ | ⟨rfl, -⟩ <;> simp)) fun x? => ?_
  cases x? with
  | none =>
    have hconstant : NodeCompiler.clamp.Constant n name [n.floatOr name default] .float := by
      rcases hname with ⟨rfl, rfl⟩ | ⟨rfl, rfl⟩
      · exact .bound (.inl rfl)
      · exact .bound (.inr rfl)
    exact (stored hconstant).mono fun _ _ hx => hx.2
  | some x => exact .pure fun hg => hg.2 x rfl

theorem clamp : Script p .clamp n port S (fun e => NodeCompiler.clamp.Gives n port e.type ∧ e.code.ReadsIn S) G fun f =>
    CompileNode.clamp ⟨p, f, accepts⟩ n port := by
  refine atPort rfl (.bind (ignoreExtra _) fun _ => ?_)
  refine .bind (require fun q hq => List.mem_append_left _ hq) fun x => ?_
  refine .bind (clampBound (.inl ⟨rfl, rfl⟩)) fun low => .bind (clampBound (.inr ⟨rfl, rfl⟩)) fun high => ?_
  refine .bind (unifyFloat fun ⟨⟨⟨_, hx⟩, hlow⟩, hhigh⟩ => by simpa using ⟨hx, hlow, hhigh⟩) fun r => ?_
  exact .pure fun ⟨_, hr⟩ => ⟨by simp, readsIn_callOn hr⟩

theorem smoothstep : Script p .smoothstep n port S
    (fun e => NodeCompiler.smoothstep.Gives n port e.type ∧ e.code.ReadsIn S) G fun f =>
      CompileNode.smoothstep ⟨p, f, accepts⟩ n port := by
  refine atPort rfl (.bind (require (by simp)) fun low => ?_)
  refine .bind (require (by simp)) fun high => .bind (require (by simp)) fun x => ?_
  refine .bind (unifyFloat fun ⟨⟨⟨_, hlow⟩, hhigh⟩, hx⟩ => by simpa using ⟨hlow, hhigh, hx⟩) fun r => ?_
  exact .pure fun ⟨_, hr⟩ => ⟨by simp, readsIn_callOn hr⟩

/-! ### Logic and structure of values -/

theorem compare : Script p .compare n port S (fun e => NodeCompiler.compare.Gives n port e.type ∧ e.code.ReadsIn S) G
    fun f => CompileNode.compare ⟨p, f, accepts⟩ n port := by
  refine atPort rfl (.refuse (.unsupportedParam _ (by decide) (by decide)) fun _ => ?_)
  refine .bind (require (by simp)) fun a => .bind (require (by simp)) fun b => ?_
  refine .refuse (.typeMismatch _ _ _) fun _ => .refuse (.typeMismatch _ _ _) fun _ => ?_
  refine convertBoth (fun hg => hg.1.2) And.right fun a b => .pure fun ⟨_, ha, hb⟩ => ?_
  exact ⟨by simp [ShaderExpr.derive_type], by simpa [ShaderExpr.derive_code] using ⟨ha, hb⟩⟩

theorem select : Script p .select n port S (fun e => NodeCompiler.select.Gives n port e.type ∧ e.code.ReadsIn S) G
    fun f => CompileNode.select ⟨p, f, accepts⟩ n port := by
  refine atPort rfl (.bind (requireType (by simp) _) fun cond => ?_)
  refine .bind (require (by simp)) fun a => .bind (require (by simp)) fun b => ?_
  split
  · exact .throw (.typeMismatch _ _ _)
  · refine convertBoth (fun hg => hg.1.2) And.right fun a b => .pure fun ⟨⟨⟨⟨_, hcond⟩, _⟩, _⟩, ha, hb⟩ => ?_
    exact ⟨by simp, by simpa [ShaderExpr.derive_code] using ⟨hb, ha, hcond.2⟩⟩

theorem connective (op : String) : Script p (.connective op) n port S
    (fun e => (NodeCompiler.connective op).Gives n port e.type ∧ e.code.ReadsIn S) G fun f =>
      CompileNode.connective op ⟨p, f, accepts⟩ n port := by
  refine atPort rfl (.bind (requireType (by simp) _) fun a => ?_)
  refine .bind (requireType (by simp) _) fun b => .pure fun ⟨⟨_, ha⟩, hb⟩ => ?_
  exact ⟨by simp [ShaderExpr.derive_type], by simpa [ShaderExpr.derive_code] using ⟨ha.2, hb.2⟩⟩

theorem negation : Script p .negation n port S (fun e => NodeCompiler.negation.Gives n port e.type ∧ e.code.ReadsIn S) G
    fun f => CompileNode.negation ⟨p, f, accepts⟩ n port := by
  refine atPort rfl (.bind (requireType (by simp) _) fun x => .pure fun ⟨_, hx⟩ => ?_)
  exact ⟨by simp [ShaderExpr.derive_type], by simpa [ShaderExpr.derive_code] using hx.2⟩

theorem split : Script p .split n port S (fun e => NodeCompiler.split.Gives n port e.type ∧ e.code.ReadsIn S) G fun f =>
    CompileNode.split ⟨p, f, accepts⟩ n port := by
  unfold CompileNode.split
  cases hfound : CompileNode.components.findIdx? (· == port) with
  | none =>
    have houtputs : (NodeCompiler.split.outputs n).map Prod.fst = CompileNode.components := rfl
    refine .throw (.unknownPort fun hport => ?_)
    have hother := List.findIdx?_eq_none_iff.1 hfound port (houtputs ▸ hport)
    simp at hother
  | some i =>
    have hgives : ∀ {e : ShaderExpr}, e.type = .float → NodeCompiler.split.Gives n port e.type := by
      intro e htype
      obtain ⟨hi, hport, -⟩ := List.findIdx?_eq_some_iff_getElem.1 hfound
      have hmem : port ∈ CompileNode.components := eq_of_beq hport ▸ List.getElem_mem hi
      exact ⟨some .float, List.mem_map.2 ⟨port, hmem, rfl⟩, by simp [htype]⟩
    refine .bind (require (by simp)) fun v => ?_
    refine .ite (fun _ => (convert And.right _ _).mono fun e _ he => ⟨hgives he.1, he.2⟩) fun _ => ?_
    refine .ite (fun _ => .throw (.typeMismatch _ _ _)) fun _ =>
      .ite (fun _ => .throw (.typeMismatch _ _ _)) fun _ => ?_
    exact .pure fun ⟨_, hv⟩ => ⟨hgives (ShaderExpr.derive_type _ _ _), by simpa [ShaderExpr.derive_code] using hv⟩

theorem combine : Script p .combine n port S (fun e => NodeCompiler.combine.Gives n port e.type ∧ e.code.ReadsIn S) G
    fun f => CompileNode.combine ⟨p, f, accepts⟩ n port := by
  refine atPort rfl (.bind (componentCodes (fun _ _ => Code.readsIn_zero _)
    fun q hq => List.mem_of_mem_take hq) fun r => ?_)
  refine .pure fun ⟨_, hr⟩ => ⟨by simp, ?_⟩
  rw [ShaderExpr.derive_code]
  simpa [Code.construct] using hr

/-! ### Textures and snippets -/

theorem sample (hport : "uv" ∈ k.reads n) (source : String) :
    Script p k n port S (fun e => e.type = .vec4 ∧ e.code.ReadsIn S) G fun f =>
      CompileNode.sample ⟨p, f, accepts⟩ n source := by
  have hcoordinates : Script p k n port S (fun e : ShaderExpr => e.code.ReadsIn S) G fun f =>
      CompileNode.sampleCoordinates ⟨p, f, accepts⟩ n := by
    refine .bind (input? (by simpa using hport)) fun x? => ?_
    cases x? with
    | none => exact .pure fun _ => Code.readsIn_uv
    | some e => exact (convert (fun hg => hg.2 e rfl) _ _).mono fun _ _ he => he.2
  refine .bind hcoordinates fun uv => .bind (bindTexture _ _ _) fun b => .bind (helper _) fun _ => ?_
  refine .pure fun ⟨⟨⟨_, huv⟩, _⟩, _⟩ => ?_
  exact ⟨by simp [ShaderExpr.derive_type], by simpa [ShaderExpr.derive_code] using huv⟩

theorem textureSource : Script p .textureSource n port S
    (fun e => NodeCompiler.textureSource.Gives n port e.type ∧ e.code.ReadsIn S) G fun f =>
      CompileNode.textureSource ⟨p, f, accepts⟩ n port := by
  refine .ite (fun h => .pure fun _ => ⟨⟨some .texture, ?_, by simp [ShaderExpr.ofTexture]⟩, Code.readsIn_verbatim _⟩)
    fun h => .ite (fun hcolor => (sample (by simp) _).mono fun e _ he => ⟨⟨some .vec4, ?_, by simp [he.1]⟩, he.2⟩)
      fun hcolor => .throw (.unknownPort ?_)
  · simp [outputs, h]
  · simp [outputs, hcolor]
  · simp [outputs, h, hcolor]

theorem sampleTexture : Script p .sampleTexture n port S
    (fun e => NodeCompiler.sampleTexture.Gives n port e.type ∧ e.code.ReadsIn S) G fun f =>
      CompileNode.sampleTexture ⟨p, f, accepts⟩ n port := by
  refine atPort rfl (.bind (require (by simp)) fun t => .refuse (.typeMismatch _ _ _) fun _ => ?_)
  exact (sample (by simp) _).mono fun e _ he => ⟨by simp [he.1], he.2⟩

theorem snippetInputs {done ports : List Port} (hports : n.inputs = done ++ ports)
    (hdone : ∀ q ∈ done, q.isArgument = true) :
    Script p .snippet n port S (fun r => ∀ e ∈ r.map Prod.snd, e.code.ReadsIn S) G fun f =>
      CompileNode.snippetInputs ⟨p, f, accepts⟩ n ports := by
  induction ports generalizing done G with
  | nil => exact .pure (by simp)
  | cons q rest ih =>
    have harg : NodeCompiler.snippet.Decides n port (fun _ => q.isArgument = true) (CompileNode.snippetArg n q) := by
      have hrefuses : ∀ {param : String} (value : Value), param ≠ "node type" → param ≠ "output port" →
          NodeCompiler.snippet.Decides n port (fun _ : SnippetArg => q.isArgument = true)
            (MonadExcept.throw (ExprError.unsupportedParam n.id param value)) :=
        fun value hnode hport => .inr ⟨_, rfl, .unsupportedParam value hnode hport⟩
      unfold CompileNode.snippetArg
      split
      · exact hrefuses _ (by decide) (by decide)
      · split
        · exact .inl ⟨_, rfl, by simp [Port.isArgument, ‹q.type = ""›]⟩
        · cases htype : Snippet.typeOf? q.type with
          | none => exact hrefuses _ (by decide) (by decide)
          | some t => exact .inl ⟨_, rfl, by simp [Port.isArgument, htype]⟩
    refine .decide harg fun a hq => .bind (requireType ?_ _) fun e => ?_
    · have hmem : q ∈ n.inputs.takeWhile Port.isArgument := by
        rw [hports, List.takeWhile_append_of_pos hdone, List.takeWhile_cons_of_pos hq]
        exact List.mem_append_right _ List.mem_cons_self
      simpa using ⟨q, hmem, rfl⟩
    · have hrest : ∀ r ∈ done ++ [q], r.isArgument = true := by simpa [or_imp, forall_and, hq] using hdone
      refine .bind (ih (by simpa using hports) hrest) fun r => .pure ?_
      rintro ⟨⟨_, he⟩, hr⟩
      rw [List.map_cons, List.forall_mem_cons]
      exact ⟨he.2, hr⟩

theorem checkSnippet (s : Snippet) :
    Script p k n port S (fun _ => True) G fun f => CompileNode.checkSnippet ⟨p, f, accepts⟩ n s := by
  have htry : ∀ stages isFirst, Script p k n port S (fun _ => True) G fun f =>
      CompileNode.trySnippet ⟨p, f, accepts⟩ n s isFirst stages := by
    intro stages
    induction stages with
    | nil => exact fun _ => .pure fun _ => trivial
    | cons stage rest ih =>
      intro isFirst
      unfold CompileNode.trySnippet
      by_cases hvalid : s.isValid accepts stage = true
      · simp only [hvalid, ↓reduceIte]
        exact .ite (fun _ => .bind (debug _ _) fun _ => .pure fun _ => trivial) fun _ => .pure fun _ => trivial
      · simp only [hvalid]
        exact .bind (debug _ _) fun _ => (ih false).weaken And.left
  exact .bind (htry _ _) fun _ => .ite (fun _ => .throw (.snippetRefused _)) fun _ => .pure fun _ => trivial

theorem snippet : Script p .snippet n port S (fun e => NodeCompiler.snippet.Gives n port e.type ∧ e.code.ReadsIn S) G
    fun f => CompileNode.snippet ⟨p, f, accepts⟩ n port := by
  have htext : NodeCompiler.snippet.Decides n port (fun _ => True) (CompileNode.snippetText n) := by
    unfold CompileNode.snippetText
    split
    · split
      · exact .inr ⟨_, rfl, .unsupportedParam _ (by decide) (by decide)⟩
      · exact .inl ⟨_, rfl, trivial⟩
    · exact .inr ⟨_, rfl, .unsupportedParam _ (by decide) (by decide)⟩
  have htype : NodeCompiler.snippet.Decides n port (fun _ => True) (CompileNode.snippetType n) := by
    unfold CompileNode.snippetType
    dsimp only
    split
    · exact .inl ⟨_, rfl, trivial⟩
    · exact .inr ⟨_, rfl, .unsupportedParam _ (by decide) (by decide)⟩
  refine atPort rfl (.decide htext fun text _ => .decide htype fun result _ => ?_)
  refine .bind (snippetInputs (List.nil_append _).symm nofun) fun r => ?_
  dsimp only
  refine .bind (checkSnippet _) fun _ => .bind (helper _) fun _ => .pure fun ⟨⟨⟨_, hr⟩, _⟩, _⟩ => ⟨by simp, ?_⟩
  simpa only [ShaderExpr.derive_code, Code.readsIn_helper, List.forall_mem_map] using hr

end NodeCompiler.Script

/-- Every compiler is made of its actions. -/
theorem NodeCompiler.run_script (p : Prepared) (accepts : String → Bool) (k : NodeCompiler) (n : Node) (port : String)
    (S : Nat → Prop) : k.Script p n port S (fun e => k.Gives n port e.type ∧ e.code.ReadsIn S) True
      fun f => k.run ⟨p, f, accepts⟩ n port := by
  cases k with
  | scalar t => exact .scalarConstant t
  | vector t => exact .vectorConstant t
  | color => exact .color
  | matrix => exact .matrix
  | clock => exact .clock
  | coordinates => exact .atPort rfl (.pure fun _ => ⟨by simp, Code.readsIn_uv⟩)
  | targetSize => exact .atPort rfl (.pure fun _ => ⟨by simp, Code.readsIn_resolution⟩)
  | instanceNumber => exact .atPort rfl (.pure fun _ => ⟨by simp, Code.readsIn_instanceIndex⟩)
  | unary => exact .unary
  | binary => exact .binary
  | mix => exact .mix
  | clamp => exact .clamp
  | smoothstep => exact .smoothstep
  | compare => exact .compare
  | select => exact .select
  | connective op => exact .connective op
  | negation => exact .negation
  | split => exact .split
  | combine => exact .combine
  | textureSource => exact .textureSource
  | target => exact .atPort rfl (.pure fun _ => ⟨by simp [ShaderExpr.ofTexture], Code.readsIn_verbatim _⟩)
  | sampleTexture => exact .sampleTexture
  | snippet => exact .snippet

/-! ## What follows for runs -/

/-- What computations do to sessions: those in which an invariant holds are related to what they become, and failures
are of some kinds. What is to be known of a result may depend on a bound that the last session keeps, and with it all
sessions before. -/
structure Law where
  Inv : Session → Prop
  Rel : Session → Session → Prop
  Fine : Session → Prop
  Fails : ExprError → Prop
  refl (s : Session) : Rel s s
  trans {s t u : Session} : Rel s t → Rel t u → Rel s u
  fine {s t : Session} : Rel s t → Fine t → Fine s
  quiet {s t : Session} : Inv s → s.Quiet t → Inv t ∧ Rel s t

/-- The computation obeys the law, and its result is as described where the last session is fine. -/
def SessionM.Obeys (L : Law) {α : Type} (x : SessionM α) (Q : α → Prop) : Prop :=
  ∀ s, L.Inv s → L.Inv (x.run.run s).2 ∧ L.Rel s (x.run.run s).2 ∧
    match (x.run.run s).1 with
    | .ok a => L.Fine (x.run.run s).2 → Q a
    | .error e => L.Fails e

namespace SessionM.Obeys

variable {L : Law} {α β : Type} {Q : α → Prop}

theorem mono {T : α → Prop} {x : SessionM α} (h : Obeys L x T) (hQ : ∀ a, T a → Q a) : Obeys L x Q := by
  intro s hs
  obtain ⟨hinv, hrel, hout⟩ := h s hs
  refine ⟨hinv, hrel, ?_⟩
  split at hout
  · exact fun hfine => hQ _ (hout hfine)
  · exact hout

theorem pure {a : α} (h : Q a) : Obeys L (Pure.pure a) Q := fun s hs => ⟨hs, L.refl s, fun _ => h⟩

theorem throw {e : ExprError} (h : L.Fails e) : Obeys L (MonadExcept.throw e) Q := fun s hs => ⟨hs, L.refl s, h⟩

theorem bind {y : SessionM β} {z : β → SessionM α} {R : β → Prop} (hy : Obeys L y R)
    (hz : ∀ b, Obeys L (z b) fun a => R b → Q a) : Obeys L (y >>= z) Q := by
  intro s hs
  obtain ⟨hinv, hrel, hout⟩ := hy s hs
  rw [run_bind]
  generalize y.run.run s = first at hinv hrel hout
  obtain ⟨_ | b, t⟩ := first
  · exact ⟨hinv, hrel, hout⟩
  obtain ⟨hinv', hrel', hout'⟩ := hz b t hinv
  refine ⟨hinv', L.trans hrel hrel', ?_⟩
  dsimp only at hout ⊢
  generalize (z b).run.run t = second at hrel' hout'
  obtain ⟨_ | a, u⟩ := second
  · exact hout'
  · exact fun hfine => hout' hfine (hout (L.fine hrel' hfine))

end SessionM.Obeys

namespace NodeCompiler.Script

variable {p : Prepared} {k : NodeCompiler} {n : Node} {port : String} {S : Nat → Prop} {α β : Type} {G : Prop}
  {Q : α → Prop} {x : InputCompiler → SessionM α}

/-- A script depends on the outputs that it compiles alone. -/
theorem congr (h : Script p k n port S Q G x) {f g : InputCompiler}
    (hfg : ∀ conn ∈ p.scene.connections, conn.target.node = n.id → f conn.source = g conn.source) : x f = x g := by
  induction h with
  | pure _ => rfl
  | throw _ => rfl
  | input hmem htarget _ _ ih =>
    dsimp only
    rw [hfg _ hmem htarget]
    exact congrArg _ (funext ih)
  | constant _ _ ih => exact congrArg _ (funext ih)
  | quiet _ _ ih => exact congrArg _ (funext ih)

theorem obeys (h : Script p k n port S Q G x) {L : Law} {f : InputCompiler}
    (hinput : ∀ conn ∈ p.scene.connections, conn.target.node = n.id → conn.target.port ∈ k.reads n →
      Obeys L (f conn.source) fun y => y.code.ReadsIn S)
    (hconstant : ∀ param values t, k.Constant n param values t →
      Obeys L (SessionM.constant n.id param values t) fun y => y.type = t ∧ y.code.ReadsIn S)
    (hrefuses : ∀ e, k.Refuses n port e → L.Fails e) : Obeys L (x f) fun a => G → Q a := by
  induction h with
  | pure h => exact .pure h
  | throw h => exact .throw (hrefuses _ h)
  | input hmem htarget hport _ ih =>
    exact (hinput _ hmem htarget hport).bind fun y => (ih y).mono fun a ha hy hg => ha ⟨hg, hy⟩
  | constant h _ ih => exact (hconstant _ _ _ h).bind fun y => (ih y).mono fun a ha hy hg => ha ⟨hg, hy⟩
  | quiet h _ ih =>
    refine Obeys.bind (R := fun _ => True) (fun s hs => ?_) fun b => (ih b).mono fun a ha _ hg => ha hg
    obtain ⟨hinv, hrel⟩ := L.quiet hs (h s)
    exact ⟨hinv, hrel, fun _ => trivial⟩

end NodeCompiler.Script

/-! ## Compiling an output -/

namespace Session

theorem compiled?_remember (s : Session) (e e' : Endpoint) (x : ShaderExpr) :
    (s.remember e x).compiled? e' = if e = e' then some x else s.compiled? e' := by
  unfold compiled? remember
  rw [List.find?_cons]
  by_cases h : e = e' <;> simp [h]

theorem mem_of_compiled? {s : Session} {e : Endpoint} {x : ShaderExpr} (h : s.compiled? e = some x) :
    (e, x) ∈ s.memo := by
  obtain ⟨m, hm, rfl⟩ := Option.map_eq_some_iff.1 h
  have hkey : m.1 = e := by simpa using List.find?_some hm
  exact hkey ▸ List.mem_of_find?_eq_some hm

end Session

/-- What compiling an output does: it finds the expression among the remembered ones, or has a compiler make it. -/
theorem ExprContext.run_compileWithin (c : ExprContext) (fuel : Nat) (e : Endpoint) (s : Session) :
    (c.compileWithin (fuel + 1) e).run.run s =
      match s.compiled? e with
      | some x => (.ok x, s)
      | none =>
        if s.active.contains e then (.error (.cycle ⟨[e.node]⟩), s)
        else match c.compilerOf e with
          | .error err => (.error err, s)
          | .ok (n, k) =>
            match (k.run ⟨c.prepared, c.compileWithin fuel, c.accepts⟩ n e.port).run.run (s.enter e) with
            | (.error err, t) => (.error err, t.leave e)
            | (.ok x, t) => (.ok x, (t.leave e).remember e x) := by
  have hget : (get : SessionM Session).run.run s = (.ok s, s) := rfl
  have hmodify : ∀ (f : Session → Session) (t : Session), (modify f : SessionM PUnit).run.run t = (.ok ⟨⟩, f t) :=
    fun _ _ => rfl
  have hattempt : ∀ (x : SessionM ShaderExpr) (t : Session),
      (attempt x).run.run t = (.ok (x.run.run t).1, (x.run.run t).2) := fun _ _ => rfl
  have hfound : ∀ n k, (ExceptT.mk (pure (.ok (n, k))) : SessionM (Node × NodeCompiler)).run.run s = (.ok (n, k), s) :=
    fun _ _ => rfl
  simp only [compileWithin, run_bind, hget]
  cases s.compiled? e with
  | some x => rfl
  | none =>
    dsimp only
    split
    · rfl
    cases c.compilerOf e with
    | error err => rfl
    | ok found =>
      obtain ⟨n, k⟩ := found
      simp only [run_bind, hfound, hmodify, hattempt]
      rcases (k.run ⟨c.prepared, c.compileWithin fuel, c.accepts⟩ n e.port).run.run (s.enter e) with ⟨_ | _, _⟩ <;> rfl

/-- What a law needs for compiling the outputs of a set to obey it: remembered expressions read slots of a set, and
constants do so; failures are of the right kinds; and an expression may be remembered that its compiler gives. -/
structure Law.Supports (L : Law) (c : ExprContext) (S : Nat → Prop) (D : Endpoint → Prop) : Prop where
  upstream {e : Endpoint} {n : Node} {k : NodeCompiler} (he : D e) (hk : c.compilerOf e = .ok (n, k)) {w : Connection}
    (hw : w ∈ c.prepared.scene.connections) (htarget : w.target.node = n.id) (hport : w.target.port ∈ k.reads n) :
    D w.source
  cycle (node : String) : L.Fails (.cycle ⟨[node]⟩)
  missing {e : Endpoint} {err : ExprError} (he : D e) (hk : c.compilerOf e = .error err) : L.Fails err
  refuses {e : Endpoint} {n : Node} {k : NodeCompiler} {err : ExprError} (he : D e)
    (hk : c.compilerOf e = .ok (n, k)) (herr : k.Refuses n e.port err) : L.Fails err
  found {s : Session} {e : Endpoint} {x : ShaderExpr} (hs : L.Inv s) (hx : s.compiled? e = some x) (hfine : L.Fine s) :
    x.code.ReadsIn S
  constant {e : Endpoint} {n : Node} {k : NodeCompiler} (he : D e) (hk : c.compilerOf e = .ok (n, k)) {param : String}
    {values : List Float} {t : ValueType} (h : k.Constant n param values t) :
    SessionM.Obeys L (SessionM.constant n.id param values t) fun x => x.type = t ∧ x.code.ReadsIn S
  progress {s : Session} (hs : L.Inv s) (active : List Endpoint) :
    L.Inv { s with active } ∧ L.Rel s { s with active }
  remember {s : Session} {e : Endpoint} {n : Node} {k : NodeCompiler} {x : ShaderExpr} (hs : L.Inv s)
    (hk : c.compilerOf e = .ok (n, k)) (htype : L.Fine s → k.Gives n e.port x.type ∧ x.code.ReadsIn S) :
    L.Inv (s.remember e x) ∧ L.Rel s (s.remember e x)

namespace Law.Supports

variable {L : Law} {c : ExprContext} {S : Nat → Prop} {D : Endpoint → Prop}

theorem compileWithin (h : L.Supports c S D) (fuel : Nat) {e : Endpoint} (he : D e) :
    SessionM.Obeys L (c.compileWithin fuel e) fun x => x.code.ReadsIn S := by
  induction fuel generalizing e with
  | zero => exact .throw (h.cycle e.node)
  | succ fuel ih =>
    intro s hs
    rw [ExprContext.run_compileWithin]
    cases hmemo : s.compiled? e with
    | some x => exact ⟨hs, L.refl s, h.found hs hmemo⟩
    | none =>
      dsimp only
      split
      · exact ⟨hs, L.refl s, h.cycle e.node⟩
      cases hk : c.compilerOf e with
      | error err => exact ⟨hs, L.refl s, h.missing he hk⟩
      | ok found =>
        obtain ⟨n, k⟩ := found
        have hrun := (k.run_script c.prepared c.accepts n e.port S).obeys (f := c.compileWithin fuel)
          (fun w hw htarget hport => ih (h.upstream he hk hw htarget hport))
          (fun param values t hc => h.constant he hk hc) fun err herr => h.refuses he hk herr
        obtain ⟨hentered, henter⟩ := h.progress hs (e :: s.active)
        obtain ⟨hinv, hrel, hout⟩ := hrun (s.enter e) hentered
        dsimp only
        generalize (k.run ⟨c.prepared, c.compileWithin fuel, c.accepts⟩ n e.port).run.run (s.enter e) = out
          at hinv hrel hout
        obtain ⟨r, t⟩ := out
        obtain ⟨hleft, hleave⟩ := h.progress hinv (t.active.erase e)
        have hdone := L.trans (L.trans henter hrel) hleave
        cases r with
        | error err => exact ⟨hleft, hdone, hout⟩
        | ok x =>
          obtain ⟨hkept, hremember⟩ := h.remember (x := x) hleft hk fun hfine => hout (L.fine hleave hfine) trivial
          refine ⟨hkept, L.trans hdone hremember, fun hfine => ?_⟩
          exact (hout (L.fine (L.trans hleave hremember) hfine) trivial).2

theorem compile (h : L.Supports c S D) {e : Endpoint} (he : D e) :
    SessionM.Obeys L (c.compile e) fun x => x.code.ReadsIn S := h.compileWithin _ he

end Law.Supports

end SceneGraph
