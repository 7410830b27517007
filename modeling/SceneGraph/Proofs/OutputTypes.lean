import SceneGraph.Proofs.TypedCode

/-!
# Types of outputs

The type of a compiled output follows from the node and the types of what is wired into it, whatever has been compiled
before. Rules say so for constants, functions of one and two values, and the nodes that take vectors apart and put
them together; outputs of other nodes may have any type.

* `CompileNode.unaryType?`, `CompileNode.binaryType?`: the type of a function's result.
* `CompileNode.Fits`: how the type of an operand fits the one in which a function works.
* `Prepared.HasType`: the types that the rules give.
* `Prepared.Rule`: what they say by the compiler of a node.
* `SessionM.Assigns`: a computation that remembers outputs under types that are right for them.
* `ExprContext.compile_hasType`: a compiled output has a type that the rules give.
-/
set_option autoImplicit false

namespace SceneGraph

open SessionM

/-! ## Types of values -/

namespace ValueType

variable {t u w : ValueType}

/-- The type holds whole numbers. -/
def isIntegral (t : ValueType) : Bool := t = .int || t = .uint

theorem isNumeric_of_isNumber (h : t.isNumber = true) : t.isNumeric = true := by
  cases t <;> first | rfl | cases h

theorem isNumeric_of_isVector (h : t.isVector = true) : t.isNumeric = true :=
  isNumeric_of_isFloating (isFloating_of_isVector h)

theorem components_of_isScalar (h : t.isScalar = true) : t.components = 1 := by
  cases t <;> first | rfl | cases h

theorem components_of_isNumber (h : t.isNumber = true) : t.components = 1 :=
  components_of_isScalar (isScalar_of_isNumber h)

theorem eq_vec4_of_isNumeric (h : t.isNumeric = true) (hfour : t.components = 4) : t = .vec4 := by
  cases t <;> first | rfl | contradiction

theorem not_isIntegral_of_isFloating (h : t.isFloating = true) : t.isIntegral = false := by
  cases t <;> first | rfl | cases h

theorem unify?_cases (h : t.unify? u = some w) :
    (t = u ∧ w = t ∧ t.isNumeric = true) ∨ (t.isVector = true ∧ u.isNumber = true ∧ w = t) ∨
      (u.isVector = true ∧ t.isNumber = true ∧ w = u) ∨ (t.isNumber = true ∧ u.isNumber = true ∧ w = .float) := by
  unfold unify? at h
  split_ifs at h with hsame hnumeric hleft hright hboth
  all_goals simp only [Bool.and_eq_true, Option.some.injEq] at *
  · exact .inl ⟨hsame, h.symm, hnumeric⟩
  · exact .inr (.inl ⟨hleft.1, hleft.2, h.symm⟩)
  · exact .inr (.inr (.inl ⟨hright.1, hright.2, h.symm⟩))
  · exact .inr (.inr (.inr ⟨hboth.1, hboth.2, h.symm⟩))

theorem isNumeric_of_unify? (h : t.unify? u = some w) : t.isNumeric = true ∧ u.isNumeric = true := by
  rcases unify?_cases h with ⟨rfl, rfl, hnumeric⟩ | ⟨hleft, hright, rfl⟩ | ⟨hright, hleft, rfl⟩ | ⟨hleft, hright, rfl⟩
  · exact ⟨hnumeric, hnumeric⟩
  · exact ⟨isNumeric_of_isVector hleft, isNumeric_of_isNumber hright⟩
  · exact ⟨isNumeric_of_isNumber hleft, isNumeric_of_isVector hright⟩
  · exact ⟨isNumeric_of_isNumber hleft, isNumeric_of_isNumber hright⟩

/-- An operand has the components of the common type, or a single one. -/
theorem unify?_components (h : t.unify? u = some w) : (t.components = 1 ∨ t.components = w.components) ∧
    (u.components = 1 ∨ u.components = w.components) ∧ (t.components = w.components ∨ u.components = w.components) := by
  rcases unify?_cases h with ⟨rfl, rfl, -⟩ | ⟨-, hright, rfl⟩ | ⟨-, hleft, rfl⟩ | ⟨hleft, hright, rfl⟩
  · exact ⟨.inr rfl, .inr rfl, .inl rfl⟩
  · exact ⟨.inr rfl, .inl (components_of_isNumber hright), .inl rfl⟩
  · exact ⟨.inl (components_of_isNumber hleft), .inr rfl, .inr rfl⟩
  · exact ⟨.inl (components_of_isNumber hleft), .inl (components_of_isNumber hright),
      .inl (components_of_isNumber hleft)⟩

/-- Only operands of the same type of whole numbers have such a common type. -/
theorem unify?_isIntegral (h : t.unify? u = some w) (hw : w.isIntegral = true) : t = w ∧ u = w := by
  rcases unify?_cases h with ⟨rfl, rfl, -⟩ | ⟨hvector, -, rfl⟩ | ⟨hvector, -, rfl⟩ | ⟨-, -, rfl⟩
  · exact ⟨rfl, rfl⟩
  · cases hw.symm.trans (not_isIntegral_of_isFloating (isFloating_of_isVector hvector))
  · cases hw.symm.trans (not_isIntegral_of_isFloating (isFloating_of_isVector hvector))
  · cases hw

end ValueType

/-! ## Rules -/

namespace CompileNode

variable {type : String} {t u v : ValueType}

/-- The type of an operand that is turned into floats. -/
def floatingType? (t : ValueType) : Option ValueType :=
  if t.isFloating then some t else if t.isScalar then some .float else none

/-- The type of a function's result, from the type of its operand. -/
def unaryType? (type : String) (t : ValueType) : Option ValueType :=
  (if keepsIntegers type && t == .int then some t else floatingType? t).map fun u =>
    if type = "Length" then .float else u

/-- The type of a function's result, from the types of its operands. -/
def binaryType? (type : String) (a b : ValueType) : Option ValueType :=
  if type = "Multiply" && a = .mat4 then
    match b with
    | .mat4 => some .mat4
    | .vec4 | .vec3 | .float => some .vec4
    | _ => none
  else (a.unify? b).map fun t => resultType type (operandType type t)

/-- An operand of one type goes into a function of a node type that works in another one. -/
structure Fits (type : String) (t w : ValueType) : Prop where
  matrix : t ≠ .mat4
  components : t.components = 1 ∨ t.components = w.components
  integral : w.isIntegral = true → t.isIntegral = true ∧ keepsIntegers type = true

theorem unaryType?_cases (h : unaryType? type t = some u) : ∃ w, u = (if type = "Length" then .float else w) ∧
    w.isNumeric = true ∧ Fits type t w ∧ t.components = w.components := by
  obtain ⟨w, hw, rfl⟩ := Option.map_eq_some_iff.1 h
  refine ⟨w, rfl, ?_⟩
  split_ifs at hw with hint
  · simp only [Bool.and_eq_true, beq_iff_eq] at hint
    obtain ⟨hkeeps, rfl⟩ := hint
    cases hw
    exact ⟨rfl, ⟨by decide, .inr rfl, fun _ => ⟨rfl, hkeeps⟩⟩, rfl⟩
  · unfold floatingType? at hw
    split_ifs at hw with hfloat hscalar
    · cases hw
      have hplain := ValueType.not_isIntegral_of_isFloating hfloat
      have hnumeric := ValueType.isNumeric_of_isFloating hfloat
      refine ⟨hnumeric, ⟨?_, .inr rfl, fun hint => by cases hint.symm.trans hplain⟩, rfl⟩
      rintro rfl
      cases hfloat
    · cases hw
      have hone := ValueType.components_of_isScalar hscalar
      refine ⟨rfl, ⟨?_, .inl hone, fun hint => by cases hint⟩, hone⟩
      rintro rfl
      cases hscalar

theorem operandType_components : (operandType type t).components = t.components := by
  unfold operandType
  split_ifs with hfloat hsigned
  · simp only [Bool.and_eq_true, Bool.or_eq_true, decide_eq_true_eq] at hfloat
    rcases hfloat.1 with rfl | rfl <;> rfl
  · simp only [Bool.and_eq_true, decide_eq_true_eq] at hsigned
    rw [hsigned.1]
    rfl
  · rfl

theorem operandType_isIntegral (h : (operandType type t).isIntegral = true) :
    t.isIntegral = true ∧ keepsIntegers type = true := by
  unfold operandType at h
  split_ifs at h with hfloat hsigned
  · cases h
  · simp only [Bool.and_eq_true, decide_eq_true_eq] at hsigned
    rw [hsigned.1, hsigned.2]
    exact ⟨rfl, by decide⟩
  · refine ⟨h, ?_⟩
    simp only [Bool.and_eq_true, Bool.or_eq_true, decide_eq_true_eq, Bool.not_eq_true', not_and,
      Bool.not_eq_false] at hfloat
    simp only [ValueType.isIntegral, Bool.or_eq_true, decide_eq_true_eq] at h
    exact hfloat h

theorem binaryType?_cases (h : binaryType? type t u = some v) :
    (type = "Multiply" ∧ t = .mat4 ∧ (u = .mat4 ∧ v = .mat4 ∨ u ∈ [.vec4, .vec3, .float] ∧ v = .vec4)) ∨
      ∃ w, v = resultType type w ∧ w.isNumeric = true ∧ Fits type t w ∧ Fits type u w ∧
        (t.components = w.components ∨ u.components = w.components) := by
  unfold binaryType? at h
  split_ifs at h with hmatrix
  · simp only [Bool.and_eq_true, decide_eq_true_eq] at hmatrix
    refine .inl ⟨hmatrix.1, hmatrix.2, ?_⟩
    split at h <;> cases h <;> simp
  · obtain ⟨w, hw, rfl⟩ := Option.map_eq_some_iff.1 h
    obtain ⟨ht, hu⟩ := ValueType.isNumeric_of_unify? hw
    obtain ⟨htcount, hucount, hcount⟩ := ValueType.unify?_components hw
    have hfits : ∀ s : ValueType, s.isNumeric = true → (s.components = 1 ∨ s.components = w.components) →
        (w.isIntegral = true → s = w) → Fits type s (operandType type w) := fun s hs hcount hint => {
      matrix := by
        rintro rfl
        cases hs
      components := by rwa [operandType_components]
      integral := fun h => by
        obtain ⟨hw, hkeeps⟩ := operandType_isIntegral h
        exact ⟨hint hw ▸ hw, hkeeps⟩ }
    refine .inr ⟨_, rfl, (operandType_suits type (unify?_isNumeric hw)).1, ?_, ?_, by rwa [operandType_components]⟩
    · exact hfits t ht htcount fun hint => (ValueType.unify?_isIntegral hw hint).1
    · exact hfits u hu hucount fun hint => (ValueType.unify?_isIntegral hw hint).2

/-- The number of components that a node puts together. -/
def combinedSize (n : Node) : Nat := (min (max (n.intOr "size" 4) 2) 4).toNat

end CompileNode

/-- The port and the type of a constant. -/
def NodeCompiler.constant? : NodeCompiler → Option (String × ValueType)
  | .scalar t | .vector t => some ("value", t)
  | .color => some ("color", .vec4)
  | .matrix => some ("value", .mat4)
  | _ => none

/-- The compiler is one that the rules speak about. -/
def NodeCompiler.isRuled : NodeCompiler → Bool
  | .scalar _ | .vector _ | .color | .matrix | .unary | .binary | .split | .combine => true
  | _ => false

/-- The types that the rules give to the outputs of a scene. -/
inductive Prepared.HasType (p : Prepared) : Endpoint → ValueType → Prop where
  | constant {e : Endpoint} {n : Node} {k : NodeCompiler} {t : ValueType} (hn : p.node? e.node = some n)
      (hk : Registry.builtin.get? n.type = some k) (ht : k.constant? = some (e.port, t)) : HasType p e t
  | unary {e : Endpoint} {n : Node} {c : Connection} {t u : ValueType} (hn : p.node? e.node = some n)
      (hk : Registry.builtin.get? n.type = some .unary) (hport : e.port = "value")
      (hc : p.scene.inputAt? n.id unaryPorts = some c) (ht : HasType p c.source t)
      (hu : CompileNode.unaryType? n.type t = some u) : HasType p e u
  | binary {e : Endpoint} {n : Node} {c d : Connection} {t u v : ValueType} (hn : p.node? e.node = some n)
      (hk : Registry.builtin.get? n.type = some .binary) (hport : e.port = "value")
      (hc : p.scene.inputAt? n.id leftPorts = some c) (hd : p.scene.inputAt? n.id rightPorts = some d)
      (ht : HasType p c.source t) (hu : HasType p d.source u) (hv : CompileNode.binaryType? n.type t u = some v) :
      HasType p e v
  | split {e : Endpoint} {n : Node} (hn : p.node? e.node = some n) (hk : Registry.builtin.get? n.type = some .split)
      (hport : e.port ∈ CompileNode.components) : HasType p e .float
  | combine {e : Endpoint} {n : Node} (hn : p.node? e.node = some n)
      (hk : Registry.builtin.get? n.type = some .combine) (hport : e.port = "value") :
      HasType p e (.vector (CompileNode.combinedSize n))
  | other {e : Endpoint} {n : Node} {k : NodeCompiler} (t : ValueType) (hn : p.node? e.node = some n)
      (hk : Registry.builtin.get? n.type = some k) (hother : k.isRuled = false) : HasType p e t

/-- What the rules say about an output, by the compiler of its node. -/
def Prepared.Rule (p : Prepared) (n : Node) (port : String) (t : ValueType) : NodeCompiler → Prop
  | .unary => port = "value" ∧ ∃ c u, p.scene.inputAt? n.id unaryPorts = some c ∧ p.HasType c.source u ∧
      CompileNode.unaryType? n.type u = some t
  | .binary => port = "value" ∧ ∃ c d u v, p.scene.inputAt? n.id leftPorts = some c ∧
      p.scene.inputAt? n.id rightPorts = some d ∧ p.HasType c.source u ∧ p.HasType d.source v ∧
      CompileNode.binaryType? n.type u v = some t
  | .split => port ∈ CompileNode.components ∧ t = .float
  | .combine => port = "value" ∧ t = .vector (CompileNode.combinedSize n)
  | k => k.isRuled = true → k.constant? = some (port, t)

theorem Prepared.HasType.rule {p : Prepared} {e : Endpoint} {t : ValueType} (h : p.HasType e t) {n : Node}
    (hn : p.node? e.node = some n) {k : NodeCompiler} (hk : Registry.builtin.get? n.type = some k) :
    p.Rule n e.port t k := by
  cases h with
  | constant hn' hk' ht =>
    cases hn.symm.trans hn'
    cases hk.symm.trans hk'
    cases k <;> first | exact fun _ => ht | cases ht
  | unary hn' hk' hport hc ht hu =>
    cases hn.symm.trans hn'
    cases hk.symm.trans hk'
    exact ⟨hport, _, _, hc, ht, hu⟩
  | binary hn' hk' hport hc hd ht hu hv =>
    cases hn.symm.trans hn'
    cases hk.symm.trans hk'
    exact ⟨hport, _, _, _, _, hc, hd, ht, hu, hv⟩
  | split hn' hk' hport =>
    cases hn.symm.trans hn'
    cases hk.symm.trans hk'
    exact ⟨hport, rfl⟩
  | combine hn' hk' hport =>
    cases hn.symm.trans hn'
    cases hk.symm.trans hk'
    exact ⟨hport, rfl⟩
  | other _ hn' hk' hother =>
    cases hn.symm.trans hn'
    cases hk.symm.trans hk'
    cases k <;> first | exact fun h => absurd h (Bool.eq_false_iff.1 hother) | cases hother

theorem Prepared.HasType.compiler {p : Prepared} {e : Endpoint} {t : ValueType} (h : p.HasType e t) :
    ∃ n k, p.node? e.node = some n ∧ Registry.builtin.get? n.type = some k := by
  cases h with
  | constant hn hk | unary hn hk | binary hn hk | split hn hk | combine hn hk | other _ hn hk => exact ⟨_, _, hn, hk⟩

theorem Prepared.Rule.constant {p : Prepared} {n : Node} {port : String} {t : ValueType} {k : NodeCompiler}
    (h : p.Rule n port t k) {r : String × ValueType} (hk : k.constant? = some r) : r = (port, t) := by
  cases k <;> first | exact Option.some.inj (hk.symm.trans (h rfl)) | cases hk

/-! ## Sessions -/

/-- Every remembered output has a type that is right for it. -/
def Session.Assigned (T : Endpoint → ValueType → Prop) (s : Session) : Prop := ∀ m ∈ s.memo, T m.1 m.2.type

namespace SessionM

/-- The computation remembers outputs under right types, whether it succeeds or fails, and a result is as described. -/
def Assigns (T : Endpoint → ValueType → Prop) {α : Type} (x : SessionM α) (Q : α → Prop) : Prop :=
  ∀ s : Session, s.Assigned T → (x.run.run s).2.Assigned T ∧ ∀ a, (x.run.run s).1 = .ok a → Q a

namespace Assigns

variable {T : Endpoint → ValueType → Prop} {α β : Type} {x : SessionM α} {Q R : α → Prop}

theorem mono (h : Assigns T x R) (hQ : ∀ a, R a → Q a) : Assigns T x Q := fun s hs =>
  ⟨(h s hs).1, fun a ha => hQ a ((h s hs).2 a ha)⟩

theorem pure {a : α} (h : Q a) : Assigns T (Pure.pure a) Q := fun _ hs =>
  ⟨hs, fun b hb => by
    cases hb
    exact h⟩

theorem throw {e : ExprError} : Assigns T (throw e) Q := fun _ hs =>
  ⟨hs, fun b hb => by cases hb⟩

theorem result {r : Except ExprError α} : Assigns T (ExceptT.mk (Pure.pure r)) fun a => r = .ok a :=
  fun _ hs => ⟨hs, fun _ h => h⟩

theorem bind {Q : β → Prop} {f : α → SessionM β} (hx : Assigns T x R) (hf : ∀ a, R a → Assigns T (f a) Q) :
    Assigns T (x >>= f) Q := by
  intro s hs
  obtain ⟨ht, hresult⟩ := hx s hs
  rw [run_bind]
  generalize x.run.run s = r at ht hresult
  rcases r with ⟨e | a, t⟩
  · exact ⟨ht, fun b hb => by cases hb⟩
  · exact hf a (hresult a rfl) t ht

theorem ite {c : Prop} [Decidable c] {x y : SessionM α} (hx : c → Assigns T x Q) (hy : ¬c → Assigns T y Q) :
    Assigns T (if c then x else y) Q := by
  split
  · rename_i hc
    exact hx hc
  · rename_i hc
    exact hy hc

/-- The computation goes on only where a condition does not hold. -/
theorem refuse {c : Prop} [Decidable c] {e : ExprError} {f : β → SessionM α} (h : ¬c → Assigns T x Q) :
    Assigns T (if c then MonadExcept.throw e >>= f else x) Q :=
  .ite (fun _ => .bind (R := fun _ => False) .throw fun _ hfalse => hfalse.elim) h

theorem get : Assigns T get fun s => s.Assigned T := fun s hs =>
  ⟨hs, fun r hr => by
    cases hr
    exact hs⟩

theorem modifyGet {f : Session → α × Session} (h : ∀ s, s.Assigned T → (f s).2.Assigned T) :
    Assigns T (modifyGet f) fun _ => True := fun s hs => ⟨h s hs, fun _ _ => trivial⟩

theorem attempt (h : Assigns T x Q) : Assigns T (attempt x) fun r => ∀ a, r = .ok a → Q a := fun s hs =>
  ⟨(h s hs).1, fun r hr => by
    cases hr
    exact (h s hs).2⟩

end Assigns

variable {T : Endpoint → ValueType → Prop}

theorem constant_assigns (node param : String) (values : List Float) (t : ValueType) :
    Assigns T (constant node param values t) fun x => x.type = t :=
  .bind (.modifyGet fun s hs m hm => hs m (s.store_memo _ _ ▸ hm)) fun _ _ => .pure rfl

theorem bindTexture_assigns (p : Prepared) (key source : String) (sampler : SamplerKind) :
    Assigns T (bindTexture p key source sampler) fun _ => True := by
  refine .modifyGet fun s hs => ?_
  rcases s.addBinding_cases ⟨key, p.nameOf key, source, sampler⟩ with ⟨old, _, heq⟩ | ⟨_, heq⟩ <;> rw [heq]
  · exact hs
  · exact hs

theorem helper_assigns (f : HelperFunction) : Assigns T (helper f) fun _ => True :=
  .modifyGet fun s hs m hm => hs m (s.addHelper_memo f ▸ hm)

theorem debug_assigns (message : String) (fields : List (String × String)) :
    Assigns T (debug message fields) fun _ => True :=
  .modifyGet fun _ hs => hs

end SessionM

/-! ## Node compilers -/

/-- Compiling other outputs gives them right types. -/
def NodeContext.Assigns (c : NodeContext) (T : Endpoint → ValueType → Prop) : Prop :=
  ∀ e, SessionM.Assigns T (c.compile e) fun x => T e x.type

variable {T : Endpoint → ValueType → Prop} {c : NodeContext} {n : Node} {port : String}

namespace ShaderExpr

variable {e : ShaderExpr}

theorem convert_assigns (want : ValueType) : SessionM.Assigns T (e.convert n port want) fun x => x.type = want := by
  unfold ShaderExpr.convert
  split
  · exact .pure ‹_›
  · split
    · exact .pure (derive_type _ _ _)
    · exact .throw

theorem floating_assigns :
    SessionM.Assigns T (e.floating n port) fun x => CompileNode.floatingType? e.type = some x.type := by
  unfold ShaderExpr.floating CompileNode.floatingType?
  refine .ite (fun hfloat => .pure (if_pos hfloat)) fun hfloat => .ite (fun hscalar => ?_) fun _ => .throw
  exact (convert_assigns .float).mono fun x hx => (if_neg hfloat).trans ((if_pos hscalar).trans (congrArg some hx.symm))

end ShaderExpr

namespace NodeContext

variable {ports : List String}

theorem Assigns.input? (hc : c.Assigns T) : SessionM.Assigns T (c.input? n ports) fun x? =>
    ∀ x ∈ x?, ∃ conn, c.prepared.scene.inputAt? n.id ports = some conn ∧ T conn.source x.type := by
  unfold NodeContext.input?
  split
  · exact .pure (by simp)
  · rename_i conn hconn
    exact .bind (hc _) fun x hx => .pure (by simpa using ⟨conn, hconn, hx⟩)

theorem Assigns.require (hc : c.Assigns T) : SessionM.Assigns T (c.require n ports) fun x =>
    ∃ conn, c.prepared.scene.inputAt? n.id ports = some conn ∧ T conn.source x.type := by
  refine .bind hc.input? fun x? hx => ?_
  cases x? with
  | none => exact .throw
  | some x => exact .pure (hx x rfl)

theorem Assigns.requireType (hc : c.Assigns T) (want : ValueType) :
    SessionM.Assigns T (c.requireType n want ports) fun x => x.type = want :=
  .bind hc.require fun _ _ => ShaderExpr.convert_assigns want

theorem ignoreExtra_assigns {accepted : List String} :
    SessionM.Assigns T (c.ignoreExtra n accepted) fun _ => True := by
  unfold NodeContext.ignoreExtra
  generalize c.prepared.scene.unusedInputs n.id accepted = conns
  induction conns with
  | nil => exact .pure trivial
  | cons conn rest ih => exact .bind (debug_assigns _ _) fun _ _ => ih

theorem atPort_assigns {α : Type} {x : SessionM α} {expected : String} {Q : α → Prop} (h : SessionM.Assigns T x Q) :
    SessionM.Assigns T (NodeContext.atPort n port expected x) fun a => port = expected ∧ Q a :=
  .ite (fun hport => h.mono fun _ ha => ⟨hport, ha⟩) fun _ => .throw

end NodeContext

open NodeContext

namespace CompileNode

/-! ### Constants -/

theorem scalarConstant_assigns (t : ValueType) :
    SessionM.Assigns T (scalarConstant t n port) fun x => port = "value" ∧ x.type = t :=
  atPort_assigns (.bind .result fun _ _ => constant_assigns _ _ _ _)

theorem floatsParam_assigns (key : String) (size : Nat) :
    SessionM.Assigns T (floatsParam n key size) fun _ => True := by
  unfold floatsParam
  split
  · exact .ite (fun _ => .throw) fun _ => .pure trivial
  · exact .ite (fun _ => .pure trivial) fun _ => .throw

theorem componentCodes_assigns (hc : c.Assigns T) (default : String → Code) (names : List String) :
    SessionM.Assigns T (componentCodes c n default names) fun _ => True := by
  induction names with
  | nil => exact .pure trivial
  | cons name rest ih =>
    refine .bind hc.input? fun x? _ => ?_
    cases x? with
    | none => exact .bind ih fun _ _ => .pure trivial
    | some e => exact .bind (ShaderExpr.convert_assigns _) fun _ _ => .bind ih fun _ _ => .pure trivial

theorem vectorConstant_assigns (hc : c.Assigns T) (t : ValueType) :
    SessionM.Assigns T (vectorConstant t c n port) fun x => port = "value" ∧ x.type = t := by
  refine atPort_assigns (.bind (floatsParam_assigns _ _) fun xs _ => ?_)
  refine .bind (constant_assigns _ _ _ _) fun base hbase => .bind (componentCodes_assigns hc _ _) fun r _ => ?_
  exact .ite (fun _ => .pure hbase) fun _ => .pure (ShaderExpr.derive_type _ _ _)

theorem color_assigns : SessionM.Assigns T (color n port) fun x => port = "color" ∧ x.type = .vec4 := by
  refine atPort_assigns ?_
  split
  · exact constant_assigns _ _ _ _
  · exact constant_assigns _ _ _ _
  · exact constant_assigns _ _ _ _
  · exact .throw

theorem matrix_assigns : SessionM.Assigns T (matrix n port) fun x => port = "value" ∧ x.type = .mat4 :=
  atPort_assigns (.bind (floatsParam_assigns _ _) fun _ _ => constant_assigns _ _ _ _)

/-- At one port a computation about whose result nothing is said. -/
theorem onlyAtPort_assigns {α : Type} {x : SessionM α} {expected : String} (h : SessionM.Assigns T x fun _ => True) :
    SessionM.Assigns T (NodeContext.atPort n port expected x) fun _ => True :=
  (atPort_assigns h).mono fun _ _ => trivial

theorem clock_assigns : SessionM.Assigns T (clock n port) fun _ => True :=
  onlyAtPort_assigns (.bind (constant_assigns _ _ _ _) fun _ _ => .pure trivial)

/-! ### Mathematical nodes -/

theorem applyUnary_assigns (x : ShaderExpr) : SessionM.Assigns T (applyUnary n x) fun y =>
    y.type = if n.type = "Length" then .float else x.type := by
  unfold applyUnary
  split
  · rename_i hlength
    exact .pure (by rw [ShaderExpr.derive_type, if_pos hlength])
  · rename_i hnormalize
    refine .ite (fun _ => .pure ?_) fun _ => .throw
    rw [ShaderExpr.derive_type, if_neg (by simp [hnormalize])]
  · rename_i hsaturate
    exact .pure (by rw [ShaderExpr.derive_type, if_neg (by simp [hsaturate])])
  · rename_i hlength _ _
    exact .pure (by rw [ShaderExpr.derive_type, if_neg hlength])

theorem unary_assigns (hc : c.Assigns T) : SessionM.Assigns T (unary c n port) fun x => port = "value" ∧
    ∃ conn t, c.prepared.scene.inputAt? n.id unaryPorts = some conn ∧ T conn.source t ∧
      unaryType? n.type t = some x.type := by
  refine atPort_assigns (.bind ignoreExtra_assigns fun _ _ => .bind hc.require fun x hx => ?_)
  obtain ⟨conn, hconn, hx⟩ := hx
  have hresult : ∀ y z : ShaderExpr, (if keepsIntegers n.type && x.type == .int then some x.type
      else floatingType? x.type) = some y.type → z.type = (if n.type = "Length" then .float else y.type) →
      ∃ conn t, c.prepared.scene.inputAt? n.id unaryPorts = some conn ∧ T conn.source t ∧
        unaryType? n.type t = some z.type := fun y z hy hz => by
    refine ⟨conn, x.type, hconn, hx, ?_⟩
    rw [unaryType?, hy, Option.map_some, hz]
  refine .ite (fun hint => ?_) fun hint => .bind ShaderExpr.floating_assigns fun y hy => ?_
  · exact (applyUnary_assigns x).mono fun z hz => hresult x z (if_pos hint) hz
  · exact (applyUnary_assigns y).mono fun z hz => hresult y z ((if_neg hint).trans hy) hz

theorem applyBinary_assigns (a b : ShaderExpr) : SessionM.Assigns T (applyBinary n a b) fun x =>
    (a.type.unify? b.type).map (fun t => resultType n.type (operandType n.type t)) = some x.type := by
  unfold applyBinary
  split
  · exact .throw
  · rename_i common hcommon
    refine .refuse fun _ => .bind (ShaderExpr.convert_assigns _) fun _ _ => ?_
    refine .bind (ShaderExpr.convert_assigns _) fun _ _ => .pure ?_
    rw [ShaderExpr.derive_type, hcommon]
    rfl

theorem unify?_mat4 (b : ValueType) : ValueType.unify? .mat4 b = none := by
  cases b <;> rfl

theorem binary_assigns (hc : c.Assigns T) : SessionM.Assigns T (binary c n port) fun x => port = "value" ∧
    ∃ conn d t u, c.prepared.scene.inputAt? n.id leftPorts = some conn ∧
      c.prepared.scene.inputAt? n.id rightPorts = some d ∧ T conn.source t ∧ T d.source u ∧
      binaryType? n.type t u = some x.type := by
  refine atPort_assigns (.bind ignoreExtra_assigns fun _ _ => .bind hc.require fun a ha => ?_)
  refine .bind hc.require fun b hb => ?_
  obtain ⟨conn, hconn, ha⟩ := ha
  obtain ⟨d, hd, hb⟩ := hb
  suffices h : SessionM.Assigns T _ fun x : ShaderExpr => binaryType? n.type a.type b.type = some x.type from
    h.mono fun x hx => ⟨conn, d, a.type, b.type, hconn, hd, ha, hb, hx⟩
  unfold binaryType?
  refine .ite (fun hmatrix => ?_) fun hmatrix => ?_
  · simp only [hmatrix, if_true]
    have hvector : SessionM.Assigns T (do
        let b ← b.convert n "b" .vec4
        return .derive (.binary "*" a.code b.code) .vec4 [a, b]) fun x : ShaderExpr => some .vec4 = some x.type :=
      .bind (ShaderExpr.convert_assigns _) fun _ _ => .pure (by rw [ShaderExpr.derive_type])
    cases hb : b.type with
    | mat4 => exact .pure (by rw [ShaderExpr.derive_type])
    | vec4 | vec3 | float => exact hvector
    | _ =>
      refine (applyBinary_assigns a b).mono fun x hx => ?_
      simp only [Bool.and_eq_true, decide_eq_true_eq] at hmatrix
      rw [hmatrix.2, unify?_mat4] at hx
      cases hx
  · simp only [hmatrix]
    exact applyBinary_assigns a b

theorem convertAll_assigns (t : ValueType) (operands : List (String × ShaderExpr)) :
    SessionM.Assigns T (convertAll n t operands) fun _ => True := by
  induction operands with
  | nil => exact .pure trivial
  | cons o rest ih => exact .bind (ShaderExpr.convert_assigns t) fun _ _ => .bind ih fun _ _ => .pure trivial

theorem unifyFloat_assigns (operands : List (String × ShaderExpr)) :
    SessionM.Assigns T (unifyFloat n operands) fun _ => True :=
  .bind .result fun t _ => .bind (convertAll_assigns t _) fun _ _ => .pure trivial

theorem mix_assigns (hc : c.Assigns T) : SessionM.Assigns T (mix c n port) fun _ => True :=
  onlyAtPort_assigns <| .bind hc.require fun _ _ => .bind hc.require fun _ _ => .bind hc.require fun _ _ =>
    .bind (unifyFloat_assigns _) fun _ _ => .bind (ShaderExpr.convert_assigns _) fun _ _ => .pure trivial

theorem clampBound_assigns (hc : c.Assigns T) (name : String) (default : Float) :
    SessionM.Assigns T (clampBound c n name default) fun _ => True := by
  refine .bind hc.input? fun x? _ => ?_
  cases x? with
  | none => exact (constant_assigns _ _ _ _).mono fun _ _ => trivial
  | some x => exact .pure trivial

theorem clamp_assigns (hc : c.Assigns T) : SessionM.Assigns T (clamp c n port) fun _ => True :=
  onlyAtPort_assigns <| .bind ignoreExtra_assigns fun _ _ => .bind hc.require fun _ _ =>
    .bind (clampBound_assigns hc _ _) fun _ _ => .bind (clampBound_assigns hc _ _) fun _ _ =>
      .bind (unifyFloat_assigns _) fun _ _ => .pure trivial

theorem smoothstep_assigns (hc : c.Assigns T) : SessionM.Assigns T (smoothstep c n port) fun _ => True :=
  onlyAtPort_assigns <| .bind hc.require fun _ _ => .bind hc.require fun _ _ => .bind hc.require fun _ _ =>
    .bind (unifyFloat_assigns _) fun _ _ => .pure trivial

/-! ### Logic and structure of values -/

theorem compare_assigns (hc : c.Assigns T) : SessionM.Assigns T (compare c n port) fun _ => True :=
  onlyAtPort_assigns <| .refuse fun _ => .bind hc.require fun _ _ => .bind hc.require fun _ _ =>
    .refuse fun _ => .refuse fun _ => .bind (ShaderExpr.convert_assigns _) fun _ _ =>
      .bind (ShaderExpr.convert_assigns _) fun _ _ => .pure trivial

theorem select_assigns (hc : c.Assigns T) : SessionM.Assigns T (select c n port) fun _ => True := by
  refine onlyAtPort_assigns (.bind (hc.requireType _) fun _ _ => .bind hc.require fun _ _ => ?_)
  refine .bind hc.require fun _ _ => ?_
  split
  · exact .throw
  · exact .bind (ShaderExpr.convert_assigns _) fun _ _ => .bind (ShaderExpr.convert_assigns _) fun _ _ => .pure trivial

theorem connective_assigns (hc : c.Assigns T) (op : String) :
    SessionM.Assigns T (connective op c n port) fun _ => True :=
  onlyAtPort_assigns <| .bind (hc.requireType _) fun _ _ => .bind (hc.requireType _) fun _ _ => .pure trivial

theorem negation_assigns (hc : c.Assigns T) : SessionM.Assigns T (negation c n port) fun _ => True :=
  onlyAtPort_assigns <| .bind (hc.requireType _) fun _ _ => .pure trivial

theorem split_assigns (hc : c.Assigns T) :
    SessionM.Assigns T (split c n port) fun x => port ∈ components ∧ x.type = .float := by
  unfold CompileNode.split
  split
  · exact .throw
  · rename_i i hi
    have hport : port ∈ components := by
      obtain ⟨h, hport⟩ := List.findIdx?_eq_some_iff_getElem.1 hi
      have := hport.1
      simp only [beq_iff_eq] at this
      exact this ▸ List.getElem_mem h
    suffices h : SessionM.Assigns T _ fun x : ShaderExpr => x.type = .float from h.mono fun x hx => ⟨hport, hx⟩
    refine .bind hc.require fun v _ => .ite (fun _ => ShaderExpr.convert_assigns _) fun _ => ?_
    exact .ite (fun _ => .throw) fun _ => .ite (fun _ => .throw) fun _ => .pure (ShaderExpr.derive_type _ _ _)

theorem combine_assigns (hc : c.Assigns T) : SessionM.Assigns T (combine c n port) fun x =>
    port = "value" ∧ x.type = .vector (combinedSize n) :=
  atPort_assigns (.bind (componentCodes_assigns hc _ _) fun _ _ => .pure (ShaderExpr.derive_type _ _ _))

/-! ### Textures and snippets -/

theorem sample_assigns (hc : c.Assigns T) (source : String) :
    SessionM.Assigns T (sample c n source) fun _ => True := by
  have hcoordinates : SessionM.Assigns T (sampleCoordinates c n) fun _ => True := by
    refine .bind hc.input? fun x? _ => ?_
    cases x? with
    | none => exact .pure trivial
    | some e => exact (ShaderExpr.convert_assigns _).mono fun _ _ => trivial
  exact .bind hcoordinates fun _ _ => .bind (bindTexture_assigns _ _ _ _) fun _ _ =>
    .bind (helper_assigns _) fun _ _ => .pure trivial

theorem textureSource_assigns (hc : c.Assigns T) : SessionM.Assigns T (textureSource c n port) fun _ => True :=
  .ite (fun _ => .pure trivial) fun _ => .ite (fun _ => sample_assigns hc _) fun _ => .throw

theorem sampleTexture_assigns (hc : c.Assigns T) : SessionM.Assigns T (sampleTexture c n port) fun _ => True :=
  onlyAtPort_assigns <| .bind hc.require fun _ _ => .refuse fun _ => sample_assigns hc _

theorem snippetInputs_assigns (hc : c.Assigns T) (ports : List Port) :
    SessionM.Assigns T (snippetInputs c n ports) fun _ => True := by
  induction ports with
  | nil => exact .pure trivial
  | cons q rest ih =>
    have harg : SessionM.Assigns T (snippetArg n q) fun _ => True := by
      refine .ite (fun _ => .throw) fun _ => .ite (fun _ => .pure trivial) fun _ => ?_
      split
      · exact .pure trivial
      · exact .throw
    exact .bind harg fun _ _ => .bind (hc.requireType _) fun _ _ => .bind ih fun _ _ => .pure trivial

theorem checkSnippet_assigns (f : Snippet) : SessionM.Assigns T (checkSnippet c n f) fun _ => True := by
  have htry : ∀ stages isFirst, SessionM.Assigns T (trySnippet c n f isFirst stages) fun _ => True := by
    intro stages
    induction stages with
    | nil => exact fun _ => .pure trivial
    | cons stage rest ih =>
      intro isFirst
      unfold trySnippet
      refine .ite (fun _ => ?_) fun _ => .bind (debug_assigns _ _) fun _ _ => ih false
      exact .ite (fun _ => .bind (debug_assigns _ _) fun _ _ => .pure trivial) fun _ => .pure trivial
  exact .bind (htry _ _) fun _ _ => .ite (fun _ => .throw) fun _ => .pure trivial

theorem snippet_assigns (hc : c.Assigns T) : SessionM.Assigns T (snippet c n port) fun _ => True := by
  have htext : SessionM.Assigns T (snippetText n) fun _ => True := by
    unfold snippetText
    split
    · exact .ite (fun _ => .throw) fun _ => .pure trivial
    · exact .throw
  have htype : SessionM.Assigns T (snippetType n) fun _ => True := by
    unfold snippetType
    dsimp only
    split
    · exact .pure trivial
    · exact .throw
  refine onlyAtPort_assigns (.bind htext fun _ _ => .bind htype fun _ _ => ?_)
  refine .bind (snippetInputs_assigns hc _) fun _ _ => .bind (checkSnippet_assigns _) fun _ _ => ?_
  exact .bind (helper_assigns _) fun _ _ => .pure trivial

end CompileNode

/-! ## All compilers -/

variable {p : Prepared}

theorem NodeCompiler.constant_assigns {T : Endpoint → ValueType → Prop} (k : NodeCompiler) (hc : c.Assigns T)
    {n : Node} {port : String} {r : String × ValueType} (hk : k.constant? = some r) :
    SessionM.Assigns T (k.run c n port) fun x => k.constant? = some (port, x.type) := by
  cases k with
  | scalar t => exact (CompileNode.scalarConstant_assigns t).mono fun x hx => by rw [constant?, hx.1, hx.2]
  | vector t => exact (CompileNode.vectorConstant_assigns hc t).mono fun x hx => by rw [constant?, hx.1, hx.2]
  | color => exact CompileNode.color_assigns.mono fun x hx => by rw [constant?, hx.1, hx.2]
  | matrix => exact CompileNode.matrix_assigns.mono fun x hx => by rw [constant?, hx.1, hx.2]
  | _ => cases hk

theorem NodeCompiler.other_assigns (k : NodeCompiler) (hc : c.Assigns T) {n : Node} {port : String}
    (hk : k.isRuled = false) : SessionM.Assigns T (k.run c n port) fun _ => True := by
  cases k with
  | clock => exact CompileNode.clock_assigns
  | coordinates => exact CompileNode.onlyAtPort_assigns (.pure trivial)
  | targetSize => exact CompileNode.onlyAtPort_assigns (.pure trivial)
  | instanceNumber => exact CompileNode.onlyAtPort_assigns (.pure trivial)
  | mix => exact CompileNode.mix_assigns hc
  | clamp => exact CompileNode.clamp_assigns hc
  | smoothstep => exact CompileNode.smoothstep_assigns hc
  | compare => exact CompileNode.compare_assigns hc
  | select => exact CompileNode.select_assigns hc
  | connective op => exact CompileNode.connective_assigns hc op
  | negation => exact CompileNode.negation_assigns hc
  | textureSource => exact CompileNode.textureSource_assigns hc
  | target => exact CompileNode.onlyAtPort_assigns (.pure trivial)
  | sampleTexture => exact CompileNode.sampleTexture_assigns hc
  | snippet => exact CompileNode.snippet_assigns hc
  | _ => cases hk

/-- A compiler gives outputs types by the rules, where it gets such types for what is wired into the node. -/
theorem NodeCompiler.run_assigns (k : NodeCompiler) {c : NodeContext} (hc : c.Assigns c.prepared.HasType) {n : Node}
    (hn : c.prepared.node? n.id = some n) (hk : Registry.builtin.get? n.type = some k) (port : String) :
    SessionM.Assigns c.prepared.HasType (k.run c n port) fun x => c.prepared.HasType ⟨n.id, port⟩ x.type := by
  cases hruled : k.isRuled with
  | false => exact (k.other_assigns hc hruled).mono fun x _ => .other x.type hn hk hruled
  | true =>
    cases hconstant : k.constant? with
    | some r => exact (k.constant_assigns hc hconstant).mono fun x hx => .constant hn hk hx
    | none =>
      cases k with
      | unary =>
        refine (CompileNode.unary_assigns hc).mono fun x hx => ?_
        obtain ⟨rfl, conn, t, hconn, ht, hx⟩ := hx
        exact .unary hn hk rfl hconn ht hx
      | binary =>
        refine (CompileNode.binary_assigns hc).mono fun x hx => ?_
        obtain ⟨rfl, conn, d, t, u, hconn, hd, ht, hu, hx⟩ := hx
        exact .binary hn hk rfl hconn hd ht hu hx
      | split => exact (CompileNode.split_assigns hc).mono fun x hx => hx.2 ▸ .split hn hk hx.1
      | combine =>
        refine (CompileNode.combine_assigns hc).mono fun x hx => ?_
        obtain ⟨rfl, hx⟩ := hx
        exact hx ▸ .combine hn hk rfl
      | scalar | vector | color | matrix => cases hconstant
      | _ => cases hruled

namespace ExprContext

variable {accepts : String → Bool}

theorem compileWithin_assigns (p : Prepared) (fuel : Nat) :
    NodeContext.Assigns ⟨p, ({ prepared := p, accepts } : ExprContext).compileWithin fuel, accepts⟩ p.HasType := by
  induction fuel with
  | zero => exact fun e => .throw
  | succ fuel ih =>
    intro e
    simp only [compileWithin]
    refine .bind .get fun s hs => ?_
    split
    · rename_i x hx
      obtain ⟨m, hm, rfl⟩ := Option.map_eq_some_iff.1 hx
      have hself : m.1 = e := by simpa using List.find?_some hm
      exact .pure (hself ▸ hs m (List.mem_of_find?_eq_some hm))
    · refine .refuse fun _ => .bind .result fun r hcompiler => ?_
      obtain ⟨n, k⟩ := r
      obtain ⟨hn, hk⟩ := compilerOf_eq_ok hcompiler
      obtain ⟨hid, -⟩ := Scene.indexed?_eq_some hn
      refine .bind (.modifyGet fun s hs => hs) fun _ _ => ?_
      have hrun := k.run_assigns ih (Prepared.node?_self hn) hk e.port
      refine .bind hrun.attempt fun r hr => .bind (.modifyGet fun s hs => hs) fun _ _ => ?_
      cases r with
      | error err => exact .throw
      | ok x =>
        have hx : p.HasType e x.type := by
          rw [show e = ⟨n.id, e.port⟩ by rw [hid]]
          exact hr x rfl
        refine .bind (.modifyGet fun s hs => List.forall_mem_cons.2 ⟨hx, hs⟩) fun _ _ => .pure hx

/-- The outputs remembered in a session have types by the rules. -/
theorem Arises.assigned {s : Session} (h : ({ prepared := p, accepts } : ExprContext).Arises s) :
    s.Assigned p.HasType := by
  induction h with
  | start => exact fun m hm => by cases hm
  | compile _ e ih => exact (compileWithin_assigns p _ e _ ih).1
  | store _ key values ih => exact fun m hm => ih m (by simpa using hm)
  | report _ entry ih => exact ih

/-- A compiled output has a type that the rules give it. -/
theorem compile_hasType {s t : Session} {e : Endpoint} {x : ShaderExpr}
    (hs : ({ prepared := p, accepts } : ExprContext).Arises s)
    (h : Yields (({ prepared := p, accepts } : ExprContext).compile e) s x t) : p.HasType e x.type :=
  (compileWithin_assigns p _ e s hs.assigned).2 x (congrArg Prod.fst h)

end ExprContext

end SceneGraph
