import SceneGraph.Proofs.Built
import SceneGraph.Proofs.TypedCode

/-!
# What expressions inherit

Most expressions put others together, and what is to be known about them follows from those: they depend on what these
depend on. Only few compilers start a dependency, on the clock, the fragment, the instance, a texture or a function. So
a property of all compiled expressions is shown by going through these few cases once.

* `Code.sources`: what an expression refers to outside of itself.
* `ShaderExpr.Inherited`: a property of expressions that those inherit which put others together.
* `SessionM.Inherits`: a computation that remembers only expressions with the property, and functions with another.
* `ExprContext.compile_inherits`: compiling an output is such a computation.
-/
set_option autoImplicit false

namespace SceneGraph

open SessionM

/-! ## Sources -/

namespace Code

/-- Something outside of an expression that changes from frame to frame or place to place, or has to be declared. -/
def isSource : Code → Bool
  | .time | .uv | .instanceIndex | .helper _ _ | .sample _ _ _ | .dimensions _ => true
  | _ => false

/-- What an expression refers to outside of itself. -/
def sources (e : Code) : List Code := e.uses.filter isSource

section

variable (e a b : Code) (text : String) (args : List Code) (t : ValueType)

theorem usesAll_flatMap : usesAll args = args.flatMap uses := by
  induction args with
  | nil => rfl
  | cons e rest ih => rw [usesAll, ih, List.flatMap_cons]

@[simp] theorem sources_zero : (zero t).sources = [] := rfl
@[simp] theorem sources_one : (one t).sources = [] := rfl
@[simp] theorem sources_decimal : (decimal text).sources = [] := rfl
@[simp] theorem sources_slot (i : Nat) : (slot i).sources = [] := rfl
@[simp] theorem sources_time : time.sources = [time] := rfl
@[simp] theorem sources_uv : uv.sources = [uv] := rfl
@[simp] theorem sources_bound : (bound text).sources = [] := rfl
@[simp] theorem sources_verbatim : (verbatim text).sources = [] := rfl
@[simp] theorem sources_dimensions : (dimensions text).sources = [dimensions text] := rfl
@[simp] theorem sources_part : (part e text).sources = e.sources := rfl
@[simp] theorem sources_firstThree : (firstThree e).sources = e.sources := rfl
@[simp] theorem sources_signed : (signed text e).sources = e.sources := rfl
@[simp] theorem sources_minus : (minus e).sources = e.sources := rfl

@[simp]
theorem sources_binary : (binary text a b).sources = a.sources ++ b.sources := by
  simp [sources, uses]

@[simp]
theorem sources_bare : (bare text a b).sources = a.sources ++ b.sources := by
  simp [sources, uses]

@[simp]
theorem sources_call : (call text args).sources = args.flatMap sources := by
  rw [sources, uses, usesAll_flatMap, List.filter_flatMap]
  rfl

@[simp]
theorem sources_helper : (helper text args).sources = .helper text [] :: args.flatMap sources := by
  rw [sources, uses, usesAll_flatMap, List.filter_cons_of_pos rfl, List.filter_flatMap]
  rfl

@[simp]
theorem sources_sample (key : String) :
    (sample key text e).sources = .sample key text (.verbatim "") :: e.sources := by
  rw [sources, uses, List.filter_cons_of_pos rfl]
  rfl

end

theorem sources_convert? {e code : Code} {source target : ValueType} (h : e.convert? source target = some code) :
    code.sources = e.sources := by
  have hfloat : (e.asFloat source).sources = e.sources := by
    unfold asFloat
    split <;> simp [numberOfBool, construct]
  unfold convert? at h
  split at h
  · cases h
    rfl
  · split at h
    case h_14 =>
      split at h
      · cases h
        simp [construct, hfloat]
      · cases h
    all_goals
      cases h
      simp [numberOfBool, construct]

end Code

theorem Session.sources_slotCode (i : Nat) (t : ValueType) : (Session.slotCode i t).sources = [] := by
  cases t <;> simp [Session.slotCode]

/-! ## Properties that expressions inherit -/

namespace ShaderExpr

/-- The expression carries no dependency. -/
structure Independent (x : ShaderExpr) : Prop where
  isAnimated : x.isAnimated = false
  isVarying : x.isVarying = false
  isInstanced : x.isInstanced = false
  textures : x.textures = []
  helpers : x.helpers = []

/-- The sample of a texture at coordinates. -/
def sampled (key name : String) (uv : ShaderExpr) : ShaderExpr :=
  let e := derive (.sample key name uv.code) .vec4 [uv]
  { e with
    isVarying := true
    textures := addNew e.textures [key]
    helpers := addNew e.helpers [Code.flipName] }

/-- The call of a function of the module. -/
def called (name : String) (type : ValueType) (args : List ShaderExpr) : ShaderExpr :=
  let e := derive (.helper name (args.map code)) type args
  { e with helpers := addNew e.helpers [name] }

/-- A property that expressions without sources have, those that start a dependency, and those that put together
expressions with the property. -/
structure Inherited (P : ShaderExpr → Prop) : Prop where
  plain {x : ShaderExpr} (hcode : x.code.sources = []) (hx : x.Independent) : P x
  clock {code : Code} {type : ValueType} (hcode : code.sources = [.time]) : P { code, type, isAnimated := true }
  coordinates : P { code := .uv, type := .vec2, isVarying := true }
  instanceNumber : P { code := .instanceIndex, type := .uint, isVarying := true, isInstanced := true }
  derive {code : Code} {type : ValueType} {inputs : List ShaderExpr} (h : ∀ i ∈ inputs, P i)
    (hcode : ∀ u, u ∈ code.sources ↔ ∃ i ∈ inputs, u ∈ i.code.sources) : P (derive code type inputs)
  sample {key name : String} {uv : ShaderExpr} (h : P uv) : P (sampled key name uv)
  call {name : String} {type : ValueType} {args : List ShaderExpr} (h : ∀ e ∈ args, P e) : P (called name type args)

variable {P : ShaderExpr → Prop}

theorem Inherited.derive₂ (hP : Inherited P) {a b : ShaderExpr} (ha : P a) (hb : P b) {code : Code} (type : ValueType)
    (hcode : code.sources = a.code.sources ++ b.code.sources) : P (ShaderExpr.derive code type [a, b]) :=
  hP.derive (by simpa using ⟨ha, hb⟩) (by simp [hcode])

theorem Inherited.constant (hP : Inherited P) {code : Code} (hcode : code.sources = []) (type : ValueType)
    (source : String) : P { code, type, source } :=
  hP.plain hcode ⟨rfl, rfl, rfl, rfl, rfl⟩

end ShaderExpr

/-- The functions that compiling registers: the flip of coordinates, and those of snippets. -/
inductive Prepared.Registers (p : Prepared) : HelperFunction → Prop where
  | flip : Registers p CompileNode.flipHelper
  | snippet {n : Node} {text : String} {args : List SnippetArg} {result : ValueType} (hn : p.node? n.id = some n)
      (htext : n.string? "source" = some text) :
      Registers p (Snippet.toHelper ⟨"expr_" ++ p.nameOf n.id, args, result, Snippet.bodyOf text⟩)

/-! ## Sessions -/

/-- The textures that compiling binds: for a node, under its name. -/
structure Prepared.Binds (p : Prepared) (b : Binding) : Prop where
  node : ∃ n, p.node? b.key = some n
  name : b.name = p.nameOf b.key

/-- Every remembered expression has a property, and so have the bindings and the functions, which have different
names. -/
structure Session.Holds (R : HelperFunction → Prop) (B : Binding → Prop) (P : ShaderExpr → Prop) (s : Session) :
    Prop where
  memo : ∀ m ∈ s.memo, P m.2
  helpers : ∀ f ∈ s.helpers, R f
  distinct : (s.helpers.map HelperFunction.name).Nodup
  bindings : ∀ b ∈ s.bindings, B b

namespace Session.Holds

variable {R : HelperFunction → Prop} {B : Binding → Prop} {P : ShaderExpr → Prop} {s t : Session}

theorem empty : Holds R B P {} := ⟨by simp, by simp, by simp, by simp⟩

theorem keep (h : s.Holds R B P) (hmemo : t.memo = s.memo) (hhelpers : t.helpers = s.helpers)
    (hbindings : t.bindings = s.bindings) : t.Holds R B P :=
  ⟨hmemo ▸ h.memo, hhelpers ▸ h.helpers, hhelpers ▸ h.distinct, hbindings ▸ h.bindings⟩

theorem remember (h : s.Holds R B P) (e : Endpoint) {x : ShaderExpr} (hx : P x) : (s.remember e x).Holds R B P where
  memo m hm := by
    rcases List.mem_cons.1 hm with rfl | hm
    · exact hx
    · exact h.memo m hm
  helpers := h.helpers
  distinct := h.distinct
  bindings := h.bindings

theorem addHelper (h : s.Holds R B P) {f : HelperFunction} (hf : R f) : (s.addHelper f).Holds R B P := by
  unfold Session.addHelper
  split
  · exact h
  · rename_i hnone
    refine ⟨h.memo, fun g hg => ?_, nodup_append_of_find? _ _ _ h.distinct hnone, h.bindings⟩
    rcases List.mem_append.1 hg with hg | hg
    · exact h.helpers g hg
    · exact List.mem_singleton.1 hg ▸ hf

theorem addBinding (h : s.Holds R B P) {b : Binding} (hb : B b) : (s.addBinding b).2.Holds R B P := by
  rcases s.addBinding_cases b with ⟨old, _, heq⟩ | ⟨_, heq⟩ <;> rw [heq]
  · exact h
  · refine ⟨h.memo, h.helpers, h.distinct, fun b' hb' => ?_⟩
    rcases List.mem_append.1 hb' with hb' | hb'
    · exact h.bindings b' hb'
    · exact List.mem_singleton.1 hb' ▸ hb

theorem store (h : s.Holds R B P) (key : SlotKey) (values : List Float) : (s.store key values).2.Holds R B P :=
  h.keep (s.store_memo _ _) (s.store_helpers _ _) (s.store_bindings _ _)

end Session.Holds

namespace SessionM

/-- The computation keeps what a session holds, also where it fails, and its result is as described. The functions and
bindings of the session may have any property that those of the scene have. -/
def Inherits (p : Prepared) (P : ShaderExpr → Prop) {α : Type} (x : SessionM α) (Q : α → Prop) : Prop :=
  ∀ (R : HelperFunction → Prop) (B : Binding → Prop), (∀ f, p.Registers f → R f) → (∀ b, p.Binds b → B b) →
    ∀ s, s.Holds R B P → (x.run.run s).2.Holds R B P ∧ ∀ a, (x.run.run s).1 = .ok a → Q a

variable {p : Prepared} {P : ShaderExpr → Prop}

namespace Inherits

variable {α β : Type} {x : SessionM α} {Q T : α → Prop}

theorem yields (h : Inherits p P x Q) {R : HelperFunction → Prop} {B : Binding → Prop} (hR : ∀ f, p.Registers f → R f)
    (hB : ∀ b, p.Binds b → B b) {s t : Session} {a : α} (hx : Yields x s a t) (hs : s.Holds R B P) :
    t.Holds R B P ∧ Q a := by
  obtain ⟨ht, hQ⟩ := h R B hR hB s hs
  unfold Yields at hx
  rw [hx] at ht hQ
  exact ⟨ht, hQ a rfl⟩

theorem mono (h : Inherits p P x T) (hQ : ∀ a, T a → Q a) : Inherits p P x Q := fun R B hR hB s hs =>
  ⟨(h R B hR hB s hs).1, fun a ha => hQ a ((h R B hR hB s hs).2 a ha)⟩

theorem pure {a : α} (h : Q a) : Inherits p P (Pure.pure a) Q := by
  intro R B _ _ s hs
  refine ⟨hs, fun b hb => ?_⟩
  cases hb
  exact h

theorem throw {e : ExprError} : Inherits p P (throw e) Q := by
  intro R B _ _ s hs
  refine ⟨hs, fun b hb => ?_⟩
  cases hb

theorem result {r : Except ExprError α} : Inherits p P (ExceptT.mk (Pure.pure r)) fun a => r = .ok a :=
  fun _ _ _ _ _ hs => ⟨hs, fun _ h => h⟩

theorem bind {Q : β → Prop} {f : α → SessionM β} (hx : Inherits p P x T) (hf : ∀ a, T a → Inherits p P (f a) Q) :
    Inherits p P (x >>= f) Q := by
  intro R B hR hB s hs
  obtain ⟨ht, hT⟩ := hx R B hR hB s hs
  rw [run_bind]
  generalize x.run.run s = r at ht hT
  rcases r with ⟨e | a, t⟩
  · refine ⟨ht, fun b hb => ?_⟩
    cases hb
  · exact hf a (hT a rfl) R B hR hB t ht

theorem ite {c : Prop} [Decidable c] {x y : SessionM α} (hx : c → Inherits p P x Q) (hy : ¬c → Inherits p P y Q) :
    Inherits p P (if c then x else y) Q := by
  split
  · rename_i hc
    exact hx hc
  · rename_i hc
    exact hy hc

/-- The computation goes on only where a condition does not hold. -/
theorem refuse {c : Prop} [Decidable c] {e : ExprError} {f : β → SessionM α} (h : ¬c → Inherits p P x Q) :
    Inherits p P (if c then MonadExcept.throw e >>= f else x) Q :=
  .ite (fun _ => .bind (T := fun _ => False) .throw fun _ hfalse => hfalse.elim) h

/-- What the session remembers under an output has the property. -/
theorem get {f : Session → SessionM α} (h : ∀ s : Session, (∀ m ∈ s.memo, P m.2) → Inherits p P (f s) Q) :
    Inherits p P (MonadStateOf.get >>= f) Q :=
  fun R B hR hB s hs => h s hs.memo R B hR hB s hs

theorem modifyGet {f : Session → α × Session}
    (h : ∀ (R : HelperFunction → Prop) (B : Binding → Prop), (∀ f, p.Registers f → R f) → (∀ b, p.Binds b → B b) →
      ∀ s : Session, s.Holds R B P → (f s).2.Holds R B P)
    (hQ : ∀ s, Q (f s).1) : Inherits p P (modifyGet f) Q := by
  intro R B hR hB s hs
  refine ⟨h R B hR hB s hs, fun a ha => ?_⟩
  cases ha
  exact hQ s

theorem modify {f : Session → Session}
    (h : ∀ (R : HelperFunction → Prop) (B : Binding → Prop) (s : Session), s.Holds R B P → (f s).Holds R B P) :
    Inherits p P (modify f) fun _ => True :=
  .modifyGet (fun R B _ _ s hs => h R B s hs) fun _ => trivial

/-- An attempt keeps what it has compiled where it fails. -/
theorem attempt (h : Inherits p P x Q) : Inherits p P (attempt x) fun r => ∀ a, r = .ok a → Q a := by
  intro R B hR hB s hs
  obtain ⟨ht, hQ⟩ := h R B hR hB s hs
  refine ⟨ht, fun r hr => ?_⟩
  cases hr
  exact hQ

end Inherits

theorem constant_inherits (hP : ShaderExpr.Inherited P) (node param : String) (values : List Float) (t : ValueType) :
    Inherits p P (constant node param values t) fun x => P x ∧ x.code.sources = [] := by
  refine .bind (T := fun _ => True) (.modifyGet (fun R B _ _ s hs => hs.store _ _) fun _ => trivial) fun i _ => .pure ?_
  exact ⟨hP.constant (Session.sources_slotCode i t) t "", Session.sources_slotCode i t⟩

theorem constant_inherited (hP : ShaderExpr.Inherited P) (node param : String) (values : List Float) (t : ValueType) :
    Inherits p P (constant node param values t) P :=
  (constant_inherits hP node param values t).mono fun _ hx => hx.1

theorem bindTexture_inherits {n : Node} (hn : p.node? n.id = some n) (source : String) (sampler : SamplerKind) :
    Inherits p P (bindTexture p n.id source sampler) fun _ => True :=
  .modifyGet (fun _ _ _ hB _ hs => hs.addBinding (hB _ ⟨⟨n, hn⟩, rfl⟩)) fun _ => trivial

theorem helper_inherits {f : HelperFunction} (hf : p.Registers f) : Inherits p P (helper f) fun _ => True :=
  .modifyGet (fun _ _ hR _ _ hs => hs.addHelper (hR f hf)) fun _ => trivial

theorem debug_inherits (message : String) (fields : List (String × String)) :
    Inherits p P (debug message fields) fun _ => True :=
  .modify fun _ _ _ hs => hs.keep rfl rfl rfl

end SessionM

/-! ## Node compilers -/

/-- Compiling other outputs makes expressions with the property. -/
def NodeContext.Inherits (c : NodeContext) (P : ShaderExpr → Prop) : Prop :=
  ∀ e, SessionM.Inherits c.prepared P (c.compile e) P

variable {P : ShaderExpr → Prop} {p : Prepared}

namespace ShaderExpr

variable {n : Node} {e : ShaderExpr} {port : String}

theorem convert_inherits (hP : Inherited P) (he : P e) (want : ValueType) :
    SessionM.Inherits p P (e.convert n port want) P := by
  unfold ShaderExpr.convert
  split
  · exact .pure he
  · split
    · rename_i code hcode
      exact .pure (hP.derive (by simpa using he) (by simp [Code.sources_convert? hcode]))
    · exact .throw

theorem floating_inherits (hP : Inherited P) (he : P e) : SessionM.Inherits p P (e.floating n port) P :=
  .ite (fun _ => .pure he) fun _ => .ite (fun _ => convert_inherits hP he _) fun _ => .throw

end ShaderExpr

namespace NodeContext

variable {c : NodeContext} {n : Node} {ports : List String}

theorem Inherits.input? (hc : c.Inherits P) :
    SessionM.Inherits c.prepared P (c.input? n ports) fun x? => ∀ x ∈ x?, P x := by
  unfold NodeContext.input?
  split
  · exact .pure (by simp)
  · exact .bind (hc _) fun x hx => .pure (by simpa using hx)

theorem Inherits.require (hc : c.Inherits P) : SessionM.Inherits c.prepared P (c.require n ports) P := by
  refine .bind hc.input? fun x? hx => ?_
  cases x? with
  | none => exact .throw
  | some x => exact .pure (hx x rfl)

theorem Inherits.requireType (hP : ShaderExpr.Inherited P) (hc : c.Inherits P) (want : ValueType) :
    SessionM.Inherits c.prepared P (c.requireType n want ports) P :=
  .bind hc.require fun _ he => ShaderExpr.convert_inherits hP he want

theorem ignoreExtra_inherits {accepted : List String} :
    SessionM.Inherits p P (c.ignoreExtra n accepted) fun _ => True := by
  unfold NodeContext.ignoreExtra
  generalize c.prepared.scene.unusedInputs n.id accepted = conns
  induction conns with
  | nil => exact .pure trivial
  | cons conn rest ih => exact .bind (debug_inherits _ _) fun _ _ => ih

theorem atPort_inherits {α : Type} {x : SessionM α} {port expected : String} {Q : α → Prop}
    (h : SessionM.Inherits p P x Q) : SessionM.Inherits p P (NodeContext.atPort n port expected x) Q :=
  .ite (fun _ => h) fun _ => .throw

end NodeContext

open NodeContext

namespace CompileNode

variable {c : NodeContext} {n : Node} {port : String}

/-! ### Constants -/

theorem scalarConstant_inherits (hP : ShaderExpr.Inherited P) (t : ValueType) :
    SessionM.Inherits p P (scalarConstant t n port) P :=
  atPort_inherits (.bind .result fun _ _ => constant_inherited hP _ _ _ _)

theorem floatsParam_inherits (key : String) (size : Nat) :
    SessionM.Inherits p P (floatsParam n key size) fun _ => True := by
  unfold floatsParam
  split
  · exact .ite (fun _ => .throw) fun _ => .pure trivial
  · exact .ite (fun _ => .pure trivial) fun _ => .throw

/-- The components of a vector have the sources of the wired expressions. -/
theorem componentCodes_inherits (hP : ShaderExpr.Inherited P) (hc : c.Inherits P) {default : String → Code}
    (hdefault : ∀ name, (default name).sources = [])
    (names : List String) : SessionM.Inherits c.prepared P (componentCodes c n default names) fun r =>
      (∀ e ∈ r.2, P e) ∧ ∀ u, (∃ code ∈ r.1, u ∈ code.sources) ↔ ∃ e ∈ r.2, u ∈ e.code.sources := by
  induction names with
  | nil => exact .pure (by simp)
  | cons name rest ih =>
    unfold componentCodes
    refine .bind hc.input? fun x? hx => ?_
    cases x? with
    | none => exact .bind ih fun r hr => .pure (by simpa [hdefault] using hr)
    | some e =>
      refine .bind (ShaderExpr.convert_inherits hP (hx e rfl) .float) fun e he => .bind ih fun r hr => .pure ?_
      simpa [hr.2] using ⟨he, hr.1⟩

theorem vectorConstant_inherits (hP : ShaderExpr.Inherited P) (hc : c.Inherits P) (t : ValueType) :
    SessionM.Inherits c.prepared P (vectorConstant t c n port) P := by
  refine atPort_inherits (.bind (floatsParam_inherits _ _) fun xs _ => ?_)
  refine .bind (constant_inherits hP _ _ _ _) fun base hbase => ?_
  refine .bind (componentCodes_inherits hP hc (fun name => by simpa using hbase.2) _) fun r hr => ?_
  exact .ite (fun _ => .pure hbase.1) fun _ => .pure (hP.derive hr.1 (by simpa [Code.construct] using hr.2))

theorem color_inherits (hP : ShaderExpr.Inherited P) : SessionM.Inherits p P (color n port) P := by
  refine atPort_inherits ?_
  split
  · exact constant_inherited hP _ _ _ _
  · exact constant_inherited hP _ _ _ _
  · exact constant_inherited hP _ _ _ _
  · exact .throw

theorem matrix_inherits (hP : ShaderExpr.Inherited P) : SessionM.Inherits p P (matrix n port) P :=
  atPort_inherits (.bind (floatsParam_inherits _ _) fun _ _ => constant_inherited hP _ _ _ _)

theorem clock_inherits (hP : ShaderExpr.Inherited P) : SessionM.Inherits p P (clock n port) P :=
  atPort_inherits (.bind (constant_inherits hP _ _ _ _) fun _ hspeed => .pure (hP.clock (by simp [hspeed.2])))

/-! ### Mathematical nodes -/

theorem sources_spread {e : Code} (he : e.sources = []) (t : ValueType) : (spread e t).sources = [] := by
  unfold spread
  cases hcode : e.convert? .float t with
  | none => simp
  | some code => simp [Code.sources_convert? hcode, he]

theorem sources_unaryCode {type : String} (htype : type ∈ unaryTypes) (hnormalize : type ≠ "Normalize")
    (hsaturate : type ≠ "Saturate") (x : Code) : (unaryCode type x).sources = x.sources := by
  simp only [unaryTypes, List.mem_cons, List.not_mem_nil, or_false] at htype
  rcases htype with rfl | rfl | rfl | rfl | rfl | rfl | rfl | rfl | rfl | rfl | rfl | rfl | rfl | rfl | rfl <;>
    first | exact absurd rfl hsaturate | exact absurd rfl hnormalize | simp [unaryCode]

theorem sources_binaryCode {type : String} (htype : type ∈ binaryTypes) (a b : Code) :
    (binaryCode type a b).sources = a.sources ++ b.sources := by
  simp only [binaryTypes, List.mem_cons, List.not_mem_nil, or_false] at htype
  rcases htype with rfl | rfl | rfl | rfl | rfl | rfl | rfl | rfl | rfl | rfl | rfl | rfl <;> simp [binaryCode]

theorem applyUnary_inherits (hP : ShaderExpr.Inherited P) (htype : n.type ∈ unaryTypes) {x : ShaderExpr} (hx : P x) :
    SessionM.Inherits p P (applyUnary n x) P := by
  have hinputs : ∀ i ∈ [x], P i := by simpa using hx
  unfold applyUnary
  split
  · exact .pure (hP.derive hinputs (by simp))
  · exact .ite (fun _ => .pure (hP.derive hinputs (by simp))) fun _ => .throw
  · have hlow := sources_spread (Code.sources_zero .float) x.type
    have hhigh := sources_spread (Code.sources_one .float) x.type
    exact .pure (hP.derive hinputs (by simp [hlow, hhigh]))
  · rename_i hnormalize hsaturate
    exact .pure (hP.derive hinputs (by simp [sources_unaryCode htype hnormalize hsaturate]))

theorem unary_inherits (hP : ShaderExpr.Inherited P) (hc : c.Inherits P) (htype : n.type ∈ unaryTypes) :
    SessionM.Inherits c.prepared P (unary c n port) P := by
  refine atPort_inherits (.bind ignoreExtra_inherits fun _ _ => .bind hc.require fun x hx => ?_)
  refine .ite (fun _ => applyUnary_inherits hP htype hx) fun _ => ?_
  exact .bind (ShaderExpr.floating_inherits hP hx) fun y hy => applyUnary_inherits hP htype hy

/-- Two operands are converted to a type and put together. -/
theorem convertBoth_inherits (hP : ShaderExpr.Inherited P) {a b : ShaderExpr} (ha : P a) (hb : P b)
    {portA portB : String} {s t : ValueType} {f : ShaderExpr → ShaderExpr → SessionM ShaderExpr}
    (hf : ∀ a b, P a → P b → SessionM.Inherits p P (f a b) P) :
    SessionM.Inherits p P (do
      let a ← a.convert n portA s
      let b ← b.convert n portB t
      f a b) P :=
  .bind (ShaderExpr.convert_inherits hP ha s) fun a ha =>
    .bind (ShaderExpr.convert_inherits hP hb t) fun b hb => hf a b ha hb

theorem applyBinary_inherits (hP : ShaderExpr.Inherited P) (htype : n.type ∈ binaryTypes) {a b : ShaderExpr} (ha : P a)
    (hb : P b) : SessionM.Inherits p P (applyBinary n a b) P := by
  unfold applyBinary
  split
  · exact .throw
  · refine .refuse fun _ => convertBoth_inherits hP ha hb fun a b ha hb => .pure ?_
    exact hP.derive₂ ha hb _ (sources_binaryCode htype _ _)

theorem binary_inherits (hP : ShaderExpr.Inherited P) (hc : c.Inherits P) (htype : n.type ∈ binaryTypes) :
    SessionM.Inherits c.prepared P (binary c n port) P := by
  refine atPort_inherits (.bind ignoreExtra_inherits fun _ _ => ?_)
  refine .bind hc.require fun a ha => .bind hc.require fun b hb => ?_
  have hproduct : SessionM.Inherits c.prepared P (do
      let b ← b.convert n "b" .vec4
      return .derive (.binary "*" a.code b.code) .vec4 [a, b]) P :=
    .bind (ShaderExpr.convert_inherits hP hb _) fun b hb => .pure (hP.derive₂ ha hb _ (by simp))
  refine .ite (fun _ => ?_) fun _ => applyBinary_inherits hP htype ha hb
  split
  · exact .pure (hP.derive₂ ha hb _ (by simp))
  · exact hproduct
  · exact hproduct
  · exact hproduct
  · exact applyBinary_inherits hP htype ha hb

theorem callOn_inherited (hP : ShaderExpr.Inherited P) {function : String} {t : ValueType} {es : List ShaderExpr}
    (hes : ∀ e ∈ es, P e) : P (callOn function t es) :=
  hP.derive hes (by simp)

theorem unifyFloat_inherits (hP : ShaderExpr.Inherited P) {operands : List (String × ShaderExpr)}
    (h : ∀ o ∈ operands, P o.2) : SessionM.Inherits p P (unifyFloat n operands) fun r => ∀ e ∈ r.2, P e := by
  have hall : ∀ t, SessionM.Inherits p P (convertAll n t operands) fun es => ∀ e ∈ es, P e := by
    intro t
    induction operands with
    | nil => exact .pure (by simp)
    | cons o rest ih =>
      rw [List.forall_mem_cons] at h
      refine .bind (ShaderExpr.convert_inherits hP h.1 t) fun e he => .bind (ih h.2) fun es hes => .pure ?_
      rw [List.forall_mem_cons]
      exact ⟨he, hes⟩
  exact .bind .result fun t _ => .bind (hall t) fun es hes => .pure hes

theorem mix_inherits (hP : ShaderExpr.Inherited P) (hc : c.Inherits P) :
    SessionM.Inherits c.prepared P (mix c n port) P := by
  refine atPort_inherits (.bind hc.require fun a ha => ?_)
  refine .bind hc.require fun b hb => .bind hc.require fun share hshare => ?_
  refine .bind (unifyFloat_inherits hP (by simpa using ⟨ha, hb⟩)) fun r hr => ?_
  refine .bind (ShaderExpr.convert_inherits hP hshare _) fun share hshare => .pure (callOn_inherited hP ?_)
  simpa [or_imp, forall_and] using ⟨hr, hshare⟩

theorem clampBound_inherits (hP : ShaderExpr.Inherited P) (hc : c.Inherits P) (name : String) (default : Float) :
    SessionM.Inherits c.prepared P (clampBound c n name default) P := by
  refine .bind hc.input? fun x? hx => ?_
  cases x? with
  | none => exact constant_inherited hP _ _ _ _
  | some x => exact .pure (hx x rfl)

theorem clamp_inherits (hP : ShaderExpr.Inherited P) (hc : c.Inherits P) :
    SessionM.Inherits c.prepared P (clamp c n port) P := by
  refine atPort_inherits (.bind ignoreExtra_inherits fun _ _ => .bind hc.require fun x hx => ?_)
  refine .bind (clampBound_inherits hP hc "min" 0) fun low hlow => ?_
  refine .bind (clampBound_inherits hP hc "max" 1) fun high hhigh => ?_
  exact .bind (unifyFloat_inherits hP (by simpa using ⟨hx, hlow, hhigh⟩)) fun r hr => .pure (callOn_inherited hP hr)

theorem smoothstep_inherits (hP : ShaderExpr.Inherited P) (hc : c.Inherits P) :
    SessionM.Inherits c.prepared P (smoothstep c n port) P := by
  refine atPort_inherits (.bind hc.require fun low hlow => .bind hc.require fun high hhigh => ?_)
  refine .bind hc.require fun x hx => ?_
  exact .bind (unifyFloat_inherits hP (by simpa using ⟨hlow, hhigh, hx⟩)) fun r hr => .pure (callOn_inherited hP hr)

/-! ### Logic and structure of values -/

theorem compare_inherits (hP : ShaderExpr.Inherited P) (hc : c.Inherits P) :
    SessionM.Inherits c.prepared P (compare c n port) P := by
  refine atPort_inherits (.refuse fun _ => .bind hc.require fun a ha => .bind hc.require fun b hb => ?_)
  refine .refuse fun _ => .refuse fun _ => convertBoth_inherits hP ha hb fun a b ha hb => .pure ?_
  exact hP.derive₂ ha hb _ (by simp)

theorem select_inherits (hP : ShaderExpr.Inherited P) (hc : c.Inherits P) :
    SessionM.Inherits c.prepared P (select c n port) P := by
  refine atPort_inherits (.bind (hc.requireType hP _) fun cond hcond => ?_)
  refine .bind hc.require fun a ha => .bind hc.require fun b hb => ?_
  split
  · exact .throw
  · refine convertBoth_inherits hP ha hb fun a b ha hb => .pure (hP.derive (by simpa using ⟨hcond, ha, hb⟩) fun u => ?_)
    -- The code has the condition last, the inputs have it first.
    simp only [Code.sources_call, List.flatMap_cons, List.flatMap_nil, List.append_nil, List.mem_append,
      List.mem_cons, List.not_mem_nil, or_false, exists_eq_or_imp, exists_eq_left]
    tauto

theorem connective_inherits (hP : ShaderExpr.Inherited P) (hc : c.Inherits P) (op : String) :
    SessionM.Inherits c.prepared P (connective op c n port) P :=
  atPort_inherits (.bind (hc.requireType hP _) fun _ ha => .bind (hc.requireType hP _) fun _ hb =>
    .pure (hP.derive₂ ha hb _ (by simp)))

theorem negation_inherits (hP : ShaderExpr.Inherited P) (hc : c.Inherits P) :
    SessionM.Inherits c.prepared P (negation c n port) P :=
  atPort_inherits (.bind (hc.requireType hP _) fun _ hx => .pure (hP.derive (by simpa using hx) (by simp)))

theorem split_inherits (hP : ShaderExpr.Inherited P) (hc : c.Inherits P) :
    SessionM.Inherits c.prepared P (split c n port) P := by
  unfold CompileNode.split
  split
  · exact .throw
  · refine .bind hc.require fun v hv => .ite (fun _ => ShaderExpr.convert_inherits hP hv _) fun _ => ?_
    refine .ite (fun _ => .throw) fun _ => .ite (fun _ => .throw) fun _ => .pure ?_
    exact hP.derive (by simpa using hv) (by simp)

theorem combine_inherits (hP : ShaderExpr.Inherited P) (hc : c.Inherits P) :
    SessionM.Inherits c.prepared P (combine c n port) P := by
  refine atPort_inherits (.bind (componentCodes_inherits hP hc (fun _ => rfl) _) fun r hr => .pure ?_)
  exact hP.derive hr.1 (by simpa [Code.construct] using hr.2)

/-! ### Textures and snippets -/

theorem sample_inherits (hP : ShaderExpr.Inherited P) (hc : c.Inherits P) (hn : c.prepared.node? n.id = some n)
    (source : String) :
    SessionM.Inherits c.prepared P (sample c n source) P := by
  have hcoordinates : SessionM.Inherits c.prepared P (sampleCoordinates c n) P := by
    refine .bind hc.input? fun x? hx => ?_
    cases x? with
    | none => exact .pure hP.coordinates
    | some e => exact ShaderExpr.convert_inherits hP (hx e rfl) _
  refine .bind hcoordinates fun uv huv => .bind (bindTexture_inherits hn _ _) fun b _ => ?_
  exact .bind (helper_inherits .flip) fun _ _ => .pure (hP.sample huv)

theorem ofTexture_inherited (hP : ShaderExpr.Inherited P) (source : String) : P (ShaderExpr.ofTexture source) :=
  hP.constant rfl _ _

theorem textureSource_inherits (hP : ShaderExpr.Inherited P) (hc : c.Inherits P)
    (hn : c.prepared.node? n.id = some n) : SessionM.Inherits c.prepared P (textureSource c n port) P :=
  .ite (fun _ => .pure (ofTexture_inherited hP _)) fun _ => .ite (fun _ => sample_inherits hP hc hn _) fun _ => .throw

theorem sampleTexture_inherits (hP : ShaderExpr.Inherited P) (hc : c.Inherits P)
    (hn : c.prepared.node? n.id = some n) : SessionM.Inherits c.prepared P (sampleTexture c n port) P :=
  atPort_inherits (.bind hc.require fun _ _ => .refuse fun _ => sample_inherits hP hc hn _)

theorem snippetInputs_inherits (hP : ShaderExpr.Inherited P) (hc : c.Inherits P) (ports : List Port) :
    SessionM.Inherits c.prepared P (snippetInputs c n ports) fun r => ∀ e ∈ r.map Prod.snd, P e := by
  induction ports with
  | nil => exact .pure (by simp)
  | cons q rest ih =>
    have harg : SessionM.Inherits c.prepared P (snippetArg n q) fun _ => True := by
      refine .ite (fun _ => .throw) fun _ => .ite (fun _ => .pure trivial) fun _ => ?_
      split
      · exact .pure trivial
      · exact .throw
    refine .bind harg fun a _ => .bind (hc.requireType hP _) fun e he => .bind ih fun r hr => .pure ?_
    rw [List.map_cons, List.forall_mem_cons]
    exact ⟨he, hr⟩

theorem checkSnippet_inherits (f : Snippet) : SessionM.Inherits p P (checkSnippet c n f) fun _ => True := by
  have htry : ∀ stages isFirst, SessionM.Inherits p P (trySnippet c n f isFirst stages) fun _ => True := by
    intro stages
    induction stages with
    | nil => exact fun _ => .pure trivial
    | cons stage rest ih =>
      intro isFirst
      unfold trySnippet
      refine .ite (fun _ => ?_) fun _ => .bind (debug_inherits _ _) fun _ _ => ih false
      exact .ite (fun _ => .bind (debug_inherits _ _) fun _ _ => .pure trivial) fun _ => .pure trivial
  exact .bind (htry _ _) fun _ _ => .ite (fun _ => .throw) fun _ => .pure trivial

theorem snippet_inherits (hP : ShaderExpr.Inherited P) (hc : c.Inherits P) (hn : c.prepared.node? n.id = some n) :
    SessionM.Inherits c.prepared P (snippet c n port) P := by
  have htext : SessionM.Inherits c.prepared P (snippetText n) fun text => n.string? "source" = some text := by
    unfold snippetText
    split
    · exact .ite (fun _ => .throw) fun _ => .pure ‹_›
    · exact .throw
  have htype : SessionM.Inherits c.prepared P (snippetType n) fun _ => True := by
    unfold snippetType
    dsimp only
    split
    · exact .pure trivial
    · exact .throw
  refine atPort_inherits (.bind htext fun text htext => .bind htype fun result _ => ?_)
  refine .bind (snippetInputs_inherits hP hc _) fun r hr => .bind (checkSnippet_inherits _) fun _ _ => ?_
  exact .bind (helper_inherits (.snippet hn htext)) fun _ _ => .pure (hP.call hr)

end CompileNode

/-! ### All compilers -/

theorem NodeCompiler.run_inherits (k : NodeCompiler) (hP : ShaderExpr.Inherited P) {c : NodeContext}
    (hc : c.Inherits P) {n : Node} (hn : c.prepared.node? n.id = some n) (hk : k.suits n.type = true) (port : String) :
    SessionM.Inherits c.prepared P (k.run c n port) P := by
  cases k with
  | scalar t => exact CompileNode.scalarConstant_inherits hP t
  | vector t => exact CompileNode.vectorConstant_inherits hP hc t
  | color => exact CompileNode.color_inherits hP
  | matrix => exact CompileNode.matrix_inherits hP
  | clock => exact CompileNode.clock_inherits hP
  | coordinates => exact atPort_inherits (.pure hP.coordinates)
  | targetSize => exact atPort_inherits (.pure (hP.constant rfl _ _))
  | instanceNumber => exact atPort_inherits (.pure hP.instanceNumber)
  | unary => exact CompileNode.unary_inherits hP hc (List.contains_iff_mem.1 hk)
  | binary => exact CompileNode.binary_inherits hP hc (List.contains_iff_mem.1 hk)
  | mix => exact CompileNode.mix_inherits hP hc
  | clamp => exact CompileNode.clamp_inherits hP hc
  | smoothstep => exact CompileNode.smoothstep_inherits hP hc
  | compare => exact CompileNode.compare_inherits hP hc
  | select => exact CompileNode.select_inherits hP hc
  | connective op => exact CompileNode.connective_inherits hP hc op
  | negation => exact CompileNode.negation_inherits hP hc
  | split => exact CompileNode.split_inherits hP hc
  | combine => exact CompileNode.combine_inherits hP hc
  | textureSource => exact CompileNode.textureSource_inherits hP hc hn
  | target => exact atPort_inherits (.pure (CompileNode.ofTexture_inherited hP _))
  | sampleTexture => exact CompileNode.sampleTexture_inherits hP hc hn
  | snippet => exact CompileNode.snippet_inherits hP hc hn

namespace ExprContext

variable {accepts : String → Bool}

theorem compileWithin_inherits (hP : ShaderExpr.Inherited P) (p : Prepared) (fuel : Nat) :
    NodeContext.Inherits ⟨p, ({ prepared := p, accepts } : ExprContext).compileWithin fuel, accepts⟩ P := by
  induction fuel with
  | zero => exact fun e => .throw
  | succ fuel ih =>
    intro e
    simp only [compileWithin]
    -- A remembered expression has the property because the session holds it; any other one comes from its compiler.
    refine .get fun s hs => ?_
    split
    · rename_i x hx
      obtain ⟨m, hm, rfl⟩ := Option.map_eq_some_iff.1 hx
      exact .pure (hs m (List.mem_of_find?_eq_some hm))
    · refine .refuse fun _ => .bind .result fun r hcompiler => ?_
      obtain ⟨n, k⟩ := r
      obtain ⟨hn, hk⟩ := compilerOf_eq_ok hcompiler
      refine .bind (.modify fun _ _ _ hs => hs.keep rfl rfl rfl) fun _ _ => ?_
      have hrun := k.run_inherits hP ih (Prepared.node?_self hn) (Registry.builtin_suits hk) e.port
      refine .bind hrun.attempt fun r hr => ?_
      refine .bind (.modify fun _ _ _ hs => hs.keep rfl rfl rfl) fun _ _ => ?_
      cases r with
      | error err => exact .throw
      | ok x =>
        have hx : P x := hr x rfl
        exact .bind (.modify fun _ _ _ hs => hs.remember e hx) fun _ _ => .pure hx

/-- Compiling an output makes an expression with a property that expressions inherit. -/
theorem compile_inherits (hP : ShaderExpr.Inherited P) (p : Prepared) :
    ({ prepared := p, accepts } : ExprContext).inputs.Inherits P :=
  compileWithin_inherits hP p _

end ExprContext

/-! ## Draw nodes -/

namespace PlanContext

variable {r : Routes} {env : Environment} {n : Node}

theorem sources_identity : Code.identity.sources = [] := by
  simp [Code.identity, List.range_succ]

theorem drawColor_inherits (hP : ShaderExpr.Inherited P) :
    SessionM.Inherits p P ((p.context r env).drawColor n) P := by
  have hinputs : (p.context r env).exprs.inputs.Inherits P := ExprContext.compile_inherits hP p
  refine .bind hinputs.input? fun x? hx => ?_
  cases x? with
  | none => exact .pure (hP.constant (by simp [Code.construct]) _ _)
  | some x => exact ShaderExpr.convert_inherits hP (hx x rfl) _

/-- The transform of a draw node has no flag of the fragment and no texture: the vertex program has neither. -/
theorem drawTransform_inherits (hP : ShaderExpr.Inherited P) :
    SessionM.Inherits p P ((p.context r env).drawTransform n) fun x =>
      P x ∧ (x.code.sources = [] ∨ x.isVarying = false ∧ x.textures = []) := by
  have hinputs : (p.context r env).exprs.inputs.Inherits P := ExprContext.compile_inherits hP p
  refine .bind hinputs.input? fun x? hx => ?_
  cases x? with
  | none =>
    dsimp only
    split
    · exact .pure ⟨hP.constant sources_identity _ _, .inl sources_identity⟩
    · refine .ite (fun _ => ?_) fun _ => .throw
      exact (constant_inherits hP _ _ _ _).mono fun _ hx => ⟨hx.1, .inl hx.2⟩
  | some x =>
    refine .bind (ShaderExpr.convert_inherits hP (hx x rfl) _) fun y hy => .refuse fun hplain => .pure ⟨hy, .inr ?_⟩
    simpa only [Bool.or_eq_true, Bool.not_eq_true', not_or, Bool.not_eq_true, Bool.not_eq_false, List.isEmpty_iff]
      using hplain

end PlanContext

end SceneGraph
