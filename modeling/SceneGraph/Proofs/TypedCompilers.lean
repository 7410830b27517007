import SceneGraph.Proofs.Tables
import SceneGraph.Proofs.TypedSession

/-!
# Node compilers make typed code

Every built-in node compiler makes code of the type that it declares, given that the code wired into its
node has the types declared for it. The rules are those with choices between matrices: a choice takes any
two values of one type.

* `NodeContext.Types`: compiling other outputs makes typed code.
* `NodeCompiler.suits`: the types of nodes that a compiler can take.
* `NodeCompiler.run_keeps`: one compiler after the other.
-/
set_option autoImplicit false

namespace SceneGraph

open SessionM

/-- Compiling other outputs keeps sessions typed and makes typed code. -/
def NodeContext.Types (c : NodeContext) : Prop :=
  ∀ e s, Keeps c.accepts c.prepared (c.compile e) s fun x t => x.Typed c.accepts t

/-! ## Inputs -/

namespace ShaderExpr

variable {accepts : String → Bool} {p : Prepared} {n : Node} {s : Session} {e : ShaderExpr} {port : String}

theorem convert_keeps (he : e.Typed accepts s) {want : ValueType} (hwant : want ≠ .texture) :
    Keeps accepts p (e.convert n port want) s fun x t => t = s ∧ x.Has accepts s want := by
  unfold ShaderExpr.convert
  split
  · rename_i htype
    exact .pure ⟨rfl, he.has htype hwant⟩
  · rename_i htype
    split
    · rename_i code hcode
      have hsource : e.type ≠ .texture := by
        intro htexture
        rw [htexture] at hcode htype
        cases want <;> simp_all [Code.convert?, ValueType.isScalar]
      exact .pure ⟨rfl, .derive ((he hsource).convert? hcode) _⟩
    · exact .throw

theorem convert_has (he : e.Typed accepts s) {want : ValueType} (hwant : want ≠ .texture) :
    Keeps accepts p (e.convert n port want) s fun x t => x.Has accepts t want := by
  refine (convert_keeps he hwant).mono fun x t h => ?_
  obtain ⟨rfl, hx⟩ := h
  exact hx

theorem floating_keeps (he : e.Typed accepts s) :
    Keeps accepts p (e.floating n port) s fun x t => t = s ∧ x.Has accepts s x.type ∧ x.type.isFloating = true := by
  unfold ShaderExpr.floating
  split
  · rename_i hfloat
    have hne : e.type ≠ .texture := by
      intro htexture
      simp [htexture, ValueType.isVector] at hfloat
    exact .pure ⟨rfl, he.has rfl hne, by simpa [ValueType.isFloating] using hfloat⟩
  · split
    · refine (convert_keeps he (by decide)).mono fun x t h => ?_
      obtain ⟨rfl, hx⟩ := h
      rw [hx.type]
      exact ⟨rfl, hx, rfl⟩
    · exact .throw

end ShaderExpr

namespace NodeContext

variable {accepts : String → Bool} {c : NodeContext} {n : Node} {s : Session} {ports : List String}

theorem Types.input? (hc : c.Types) :
    Keeps c.accepts c.prepared (c.input? n ports) s fun x? t => ∀ x, x? = some x → x.Typed c.accepts t := by
  unfold NodeContext.input?
  split
  · exact .pure (by simp)
  · refine .bind (hc _ s) fun x t _ hx => .pure ?_
    rintro y ⟨⟩
    exact hx

theorem Types.require (hc : c.Types) :
    Keeps c.accepts c.prepared (c.require n ports) s fun x t => x.Typed c.accepts t := by
  refine .bind hc.input? fun x? t _ hx => ?_
  cases x? with
  | none => exact .throw
  | some x => exact .pure (hx x rfl)

theorem Types.requireType (hc : c.Types) {want : ValueType} (hwant : want ≠ .texture) :
    Keeps c.accepts c.prepared (c.requireType n want ports) s fun x t => x.Has c.accepts t want :=
  .bind hc.require fun _ _ _ he => ShaderExpr.convert_has he hwant

theorem ignoreExtra_keeps {p : Prepared} {accepted : List String} :
    Keeps accepts p (c.ignoreExtra n accepted) s fun _ _ => True := by
  unfold NodeContext.ignoreExtra
  generalize c.prepared.scene.unusedInputs n.id accepted = conns
  induction conns generalizing s with
  | nil => exact .pure trivial
  | cons conn rest ih => exact .bind (debug_keeps _ _) fun _ _ _ _ => ih

theorem atPort_keeps {p : Prepared} {α : Type} {x : SessionM α} {port expected : String} {Q : α → Session → Prop}
    (h : Keeps accepts p x s Q) : Keeps accepts p (NodeContext.atPort n port expected x) s Q := by
  unfold NodeContext.atPort
  split
  · exact h
  · exact .throw

end NodeContext

open NodeContext

namespace CompileNode

variable {accepts : String → Bool} {c : NodeContext} {n : Node} {port : String} {s : Session} {p : Prepared}

/-! ## Constants and frame values -/

theorem scalarConstant_keeps {t : ValueType} (ht : t.isScalar = true) :
    Keeps accepts p (scalarConstant t n port) s fun x u => x.Typed accepts u := by
  refine atPort_keeps ?_
  refine .bind .result fun x _ _ _ => ?_
  exact constant_typed _ _ _ (.inl ht)

theorem floatsParam_keeps {key : String} {size : Nat} : Keeps accepts p (floatsParam n key size) s fun _ _ => True := by
  unfold floatsParam
  split
  · exact .ite (fun _ => .throw) fun _ => .pure trivial
  · exact .ite (fun _ => .pure trivial) fun _ => .throw

theorem componentCodes_keeps (hc : c.Types) {default : String → Code} {names : List String}
    (hdefault : ∀ name ∈ names, (default name).HasType true (s.scope c.accepts) .float) :
    Keeps c.accepts c.prepared (componentCodes c n default names) s fun r t =>
      List.Forall₂ (Code.HasType true (t.scope c.accepts)) r.1 (List.replicate names.length .float) := by
  induction names generalizing s with
  | nil => exact .pure .nil
  | cons name rest ih =>
    unfold componentCodes
    refine .bind hc.input? fun x? t hext hx => ?_
    have hrest : ∀ name ∈ rest, (default name).HasType true (t.scope c.accepts) .float :=
      fun name hname => (hdefault name (List.mem_cons_of_mem _ hname)).mono hext.within
    cases x? with
    | none =>
      refine .bind (ih hrest) fun r u hext' hr => .pure ?_
      exact .cons ((hdefault name List.mem_cons_self).mono (hext.trans hext').within) hr
    | some e =>
      refine .bind (ShaderExpr.convert_keeps (hx e rfl) (by decide)) fun x u hext' h => ?_
      obtain ⟨rfl, hx⟩ := h
      refine .bind (ih hrest) fun r v hext'' hr => .pure ?_
      exact .cons (hx.code.mono hext''.within) hr

theorem construct_hasType {Γ : Scope} {t : ValueType} {codes : List Code} (ht : t.isVector = true)
    (h : List.Forall₂ (Code.HasType true Γ) codes (List.replicate t.components .float)) :
    (Code.construct t codes).HasType true Γ t := by
  refine .ofCall (.vector ht ?_ ?_) h
  · intro u hu
    rw [List.eq_of_mem_replicate hu]
    rfl
  · rw [List.map_replicate, List.sum_replicate_nat]
    exact Nat.mul_one _

theorem components_part {t : ValueType} {Γ : Scope} {e : Code} {name : String} (ht : t.isVector = true)
    (he : e.HasType true Γ t) (hname : name ∈ components.take t.components) :
    (Code.part e name).HasType true Γ .float := by
  have hchars : ∀ c ∈ name.toList, c ∈ ['x', 'y', 'z', 'w'].take t.components := by
    revert name
    cases t with
    | vec2 | vec3 | vec4 => simp [ValueType.components, components]
    | _ => cases ht
  have hlengths : ∀ name ∈ components, name.length = 1 := by decide
  have hlength := hlengths name (List.mem_of_mem_take hname)
  have hpart := he.part ht hchars (by omega)
  rwa [hlength] at hpart

theorem length_components {t : ValueType} (ht : t.isVector = true) :
    (components.take t.components).length = t.components := by
  cases t <;> first | rfl | cases ht

theorem vectorConstant_keeps (hc : c.Types) {t : ValueType} (ht : t.isVector = true) :
    Keeps c.accepts c.prepared (vectorConstant t c n port) s fun x u => x.Typed c.accepts u := by
  refine atPort_keeps ?_
  refine .bind floatsParam_keeps fun xs u _ _ => ?_
  refine .bind (constant_keeps _ _ _ (.inr (.inl ht))) fun base v _ hbase => ?_
  refine .bind (componentCodes_keeps hc fun name hname => components_part ht hbase.code hname) fun r w hext hr => ?_
  rw [length_components ht] at hr
  refine .ite (fun _ => .pure (hbase.mono hext).typed) fun _ => .pure ?_
  exact .derive (construct_hasType ht hr) _

theorem color_keeps : Keeps accepts p (color n port) s fun x u => x.Typed accepts u := by
  refine atPort_keeps ?_
  have hconstant : ∀ values, Keeps accepts p (constant n.id "value" values .vec4) s fun x u => x.Typed accepts u :=
    fun values => constant_typed _ _ _ (.inr (.inl rfl))
  split
  · exact hconstant _
  · exact hconstant _
  · exact hconstant _
  · exact .throw

theorem matrix_keeps : Keeps accepts p (matrix n port) s fun x u => x.Typed accepts u := by
  refine atPort_keeps (.bind floatsParam_keeps fun xs t _ _ => ?_)
  exact constant_typed _ _ _ (.inr (.inr rfl))

theorem clock_keeps : Keeps accepts p (clock n port) s fun x u => x.Typed accepts u := by
  refine atPort_keeps (.bind (constant_keeps _ _ _ (.inl rfl)) fun speed t _ hspeed => .pure fun _ => ?_)
  exact .binary (.arithmetic (by decide) rfl) .time hspeed.code

/-! ## Mathematical nodes -/

/-- The node types whose functions take one value. -/
def unaryTypes : List String :=
  ["Sin", "Cos", "Tan", "Abs", "Floor", "Ceil", "Fract", "Sqrt", "Exp", "Log", "Negate", "OneMinus", "Length",
    "Saturate", "Normalize"]

/-- The node types whose functions take two values. -/
def binaryTypes : List String :=
  ["Add", "Subtract", "Multiply", "Divide", "Mod", "Min", "Max", "Pow", "Step", "Atan2", "Dot", "Distance"]

theorem spread_hasType {Γ : Scope} {e : Code} {t : ValueType} (he : e.HasType true Γ .float)
    (ht : t.isFloating = true) : (spread e t).HasType true Γ t := by
  unfold spread
  cases hcode : e.convert? .float t with
  | some code => exact he.convert? hcode
  | none => cases t <;> first | cases ht; done | simp [Code.convert?, ValueType.isVector, ValueType.isScalar] at hcode

theorem unaryCode_hasType {Γ : Scope} {type : String} {x : Code} {t : ValueType} (htype : type ∈ unaryTypes)
    (hx : x.HasType true Γ t) (ht : t.isFloating = true ∨ keepsIntegers type = true ∧ t = .int)
    (hlength : type ≠ "Length") (hnormalize : type ≠ "Normalize") (hsaturate : type ≠ "Saturate") :
    (unaryCode type x).HasType true Γ t := by
  have hfloat : keepsIntegers type = false → t.isFloating = true := by
    intro hkeeps
    simpa [hkeeps] using ht
  have hnumeric : t.isNumeric = true ∧ t ≠ .uint := by
    rcases ht with ht | ⟨_, rfl⟩
    · exact ⟨ValueType.isNumeric_of_isFloating ht, by rintro rfl; cases ht⟩
    · exact ⟨rfl, by decide⟩
  have hplain : ∀ f, keepsIntegers type = false → (f, 1) ∈ floatFunctions → (Code.call f [x]).HasType true Γ t :=
    fun f hkeeps hf => .unaryCall (.floating hf (hfloat hkeeps)) hx
  simp only [unaryTypes, List.mem_cons, List.not_mem_nil, or_false] at htype
  rcases htype with rfl | rfl | rfl | rfl | rfl | rfl | rfl | rfl | rfl | rfl | rfl | rfl | rfl | rfl | rfl
  · exact hplain "sin" (by decide) (by decide)
  · exact hplain "cos" (by decide) (by decide)
  · exact hplain "tan" (by decide) (by decide)
  · exact .unaryCall (.numeric (f := "abs") (n := 1) (by decide) hnumeric.1) hx
  · exact hplain "floor" (by decide) (by decide)
  · exact hplain "ceil" (by decide) (by decide)
  · exact hplain "fract" (by decide) (by decide)
  · exact hplain "sqrt" (by decide) (by decide)
  · exact hplain "exp" (by decide) (by decide)
  · exact hplain "log" (by decide) (by decide)
  · exact .negative hx hnumeric.1 hnumeric.2
  · rcases ValueType.isFloating_iff.1 (hfloat (by decide)) with rfl | hvector
    · exact .binary (.arithmetic (by decide) rfl) (.one rfl) hx
    · exact .binary (.floatLeft (by decide) hvector) (.one rfl) hx
  · exact absurd rfl hlength
  · exact absurd rfl hsaturate
  · exact absurd rfl hnormalize

theorem applyUnary_keeps {x : ShaderExpr} (htype : n.type ∈ unaryTypes) (hx : x.Has accepts s x.type)
    (ht : x.type.isFloating = true ∨ keepsIntegers n.type = true ∧ x.type = .int) :
    Keeps accepts p (applyUnary n x) s fun y t => y.Typed accepts t := by
  have hfloat : keepsIntegers n.type = false → x.type.isFloating = true := by
    intro hkeeps
    simpa [hkeeps] using ht
  unfold applyUnary
  split
  · rename_i htype
    have hlength := hfloat (by rw [htype]; decide)
    exact .pure (.derive (.unaryCall (.measure (n := 1) (by decide) hlength) hx.code) _)
  · refine .ite (fun hvector => .pure ?_) fun _ => .throw
    exact .derive (.unaryCall (.normalize hvector) hx.code) _
  · rename_i htype
    have hclamp := hfloat (by rw [htype]; decide)
    have hnumeric := ValueType.isNumeric_of_isFloating hclamp
    refine .pure (.derive (.ternaryCall (.numeric (n := 3) (by decide) hnumeric) hx.code ?_ ?_) _)
    · exact spread_hasType (.zero rfl) hclamp
    · exact spread_hasType (.one rfl) hclamp
  · rename_i hlength hnormalize hsaturate
    exact .pure (.derive (unaryCode_hasType htype hx.code ht hlength hnormalize hsaturate) _)

theorem unary_keeps (hc : c.Types) (htype : n.type ∈ unaryTypes) :
    Keeps c.accepts c.prepared (unary c n port) s fun x t => x.Typed c.accepts t := by
  refine atPort_keeps (.bind ignoreExtra_keeps fun _ t _ _ => .bind hc.require fun x u _ hx => ?_)
  refine .ite (fun hkeeps => ?_) fun _ => ?_
  · rw [Bool.and_eq_true, beq_iff_eq] at hkeeps
    exact applyUnary_keeps htype (hx.has rfl (by rw [hkeeps.2]; decide)) (.inr hkeeps)
  · refine .bind (ShaderExpr.floating_keeps hx) fun y v _ h => ?_
    obtain ⟨rfl, hy, hfloat⟩ := h
    exact applyUnary_keeps htype hy (.inl hfloat)

theorem unify?_isNumeric {a b t : ValueType} (h : a.unify? b = some t) : t.isNumeric = true := by
  unfold ValueType.unify? at h
  split at h
  · split at h
    · cases h
      assumption
    · cases h
  · split at h
    · rename_i hvector
      cases h
      rw [Bool.and_eq_true] at hvector
      exact ValueType.isNumeric_of_isFloating (ValueType.isFloating_of_isVector hvector.1)
    · split at h
      · rename_i hvector
        cases h
        rw [Bool.and_eq_true] at hvector
        exact ValueType.isNumeric_of_isFloating (ValueType.isFloating_of_isVector hvector.1)
      · split at h
        · cases h
          rfl
        · cases h

/-- The type in which a function of two values works suits it. -/
theorem operandType_suits (type : String) {t : ValueType} (h : t.isNumeric = true) :
    (operandType type t).isNumeric = true ∧ (keepsIntegers type = false → (operandType type t).isFloating = true) := by
  unfold operandType
  split
  · exact ⟨rfl, fun _ => rfl⟩
  · rename_i hkeeps
    split
    · rename_i hsubtract
      simp only [Bool.and_eq_true, decide_eq_true_eq] at hsubtract
      refine ⟨rfl, fun hfloat => ?_⟩
      rw [hsubtract.2] at hfloat
      cases hfloat
    · refine ⟨h, fun hfloat => ?_⟩
      simp only [hfloat, Bool.not_false, Bool.and_true, Bool.or_eq_true, decide_eq_true_eq, not_or] at hkeeps
      exact ValueType.isFloating_of_isNumeric h hkeeps.1 hkeeps.2

theorem binaryCode_hasType {Γ : Scope} {type : String} {a b : Code} {t : ValueType} (htype : type ∈ binaryTypes)
    (ha : a.HasType true Γ t) (hb : b.HasType true Γ t) (hnumeric : t.isNumeric = true)
    (hfloat : keepsIntegers type = false → t.isFloating = true) (hdot : type = "Dot" → t.isVector = true) :
    (binaryCode type a b).HasType true Γ (resultType type t) := by
  have hoperator : ∀ op ∈ arithmetic, (Code.binary op a b).HasType true Γ t :=
    fun op hop => .binary (.arithmetic hop hnumeric) ha hb
  simp only [binaryTypes, List.mem_cons, List.not_mem_nil, or_false] at htype
  rcases htype with rfl | rfl | rfl | rfl | rfl | rfl | rfl | rfl | rfl | rfl | rfl | rfl
  · exact hoperator "+" (by decide)
  · exact hoperator "-" (by decide)
  · exact hoperator "*" (by decide)
  · exact hoperator "/" (by decide)
  · exact hoperator "%" (by decide)
  · exact .binaryCall (.numeric (f := "min") (n := 2) (by decide) hnumeric) ha hb
  · exact .binaryCall (.numeric (f := "max") (n := 2) (by decide) hnumeric) ha hb
  · exact .binaryCall (.floating (f := "pow") (n := 2) (by decide) (hfloat (by decide))) ha hb
  · exact .binaryCall (.floating (f := "step") (n := 2) (by decide) (hfloat (by decide))) ha hb
  · exact .binaryCall (.floating (f := "atan2") (n := 2) (by decide) (hfloat (by decide))) ha hb
  · exact .binaryCall (.dot (hdot rfl)) ha hb
  · exact .binaryCall (.measure (f := "distance") (n := 2) (by decide) (hfloat (by decide))) ha hb

theorem convertBoth_keeps {t : ValueType} (ht : t ≠ .texture) {a b : ShaderExpr} (ha : a.Typed accepts s)
    (hb : b.Typed accepts s)
    {f : ShaderExpr → ShaderExpr → SessionM ShaderExpr} {Q : ShaderExpr → Session → Prop}
    (hf : ∀ a b, a.Has accepts s t → b.Has accepts s t → Keeps accepts p (f a b) s Q) :
    Keeps accepts p (a.convert n "a" t >>= fun a => b.convert n "b" t >>= fun b => f a b) s Q := by
  refine .bind (ShaderExpr.convert_keeps ha ht) fun a' u _ h => ?_
  obtain ⟨rfl, ha'⟩ := h
  refine .bind (ShaderExpr.convert_keeps hb ht) fun b' u _ h => ?_
  obtain ⟨rfl, hb'⟩ := h
  exact hf a' b' ha' hb'

theorem applyBinary_keeps (htype : n.type ∈ binaryTypes) {a b : ShaderExpr} (ha : a.Typed accepts s)
    (hb : b.Typed accepts s) : Keeps accepts p (applyBinary n a b) s fun x t => x.Typed accepts t := by
  unfold applyBinary
  split
  · exact .throw
  · rename_i common hcommon
    obtain ⟨hnumeric, hfloat⟩ := operandType_suits n.type (unify?_isNumeric hcommon)
    refine .refuse fun hdot => ?_
    refine convertBoth_keeps (ValueType.ne_texture_of_isNumeric hnumeric) ha hb fun a b ha hb => ?_
    refine .pure (.derive (binaryCode_hasType htype ha.code hb.code hnumeric hfloat ?_) _)
    intro heq
    simpa [heq] using hdot

theorem binary_keeps (hc : c.Types) (htype : n.type ∈ binaryTypes) :
    Keeps c.accepts c.prepared (binary c n port) s fun x t => x.Typed c.accepts t := by
  refine atPort_keeps (.bind ignoreExtra_keeps fun _ t _ _ => ?_)
  refine .bind hc.require fun a u _ ha => .bind hc.require fun b v hext hb => ?_
  have ha := ha.mono hext
  refine .ite (fun hmatrix => ?_) fun _ => applyBinary_keeps htype ha hb
  simp only [Bool.and_eq_true, decide_eq_true_eq] at hmatrix
  have ha' := ha.has hmatrix.2 (by decide)
  split
  case h_1 htypeb =>
    have hb' := hb.has htypeb (by decide)
    exact .pure (.derive (.binary .product ha'.code hb'.code) _)
  case h_2 | h_3 | h_4 =>
    refine .bind (ShaderExpr.convert_keeps hb (by decide)) fun b u _ h => ?_
    obtain ⟨rfl, hb⟩ := h
    exact .pure (.derive (.binary .transform ha'.code hb.code) _)
  case h_5 => exact applyBinary_keeps htype ha hb

/-- The common type of named operands is made of floats. -/
theorem floatType_isFloating {t u : ValueType} {operands : List (String × ShaderExpr)} (ht : t.isFloating = true)
    (h : floatType n t operands = .ok u) : u.isFloating = true := by
  induction operands generalizing t with
  | nil =>
    cases h
    exact ht
  | cons operand rest ih =>
    unfold floatType at h
    split at h
    · cases h
    · rename_i common hcommon
      refine ih ?_ h
      split
      · rfl
      · rename_i hint
        simp only [Bool.or_eq_true, decide_eq_true_eq, not_or] at hint
        exact ValueType.isFloating_of_isNumeric (unify?_isNumeric hcommon) hint.1 hint.2

theorem convertAll_keeps {t : ValueType} (ht : t ≠ .texture) {operands : List (String × ShaderExpr)}
    (h : ∀ o ∈ operands, o.2.Typed accepts s) :
    Keeps accepts p (convertAll n t operands) s fun es u => u = s ∧
      List.Forall₂ (Code.HasType true (s.scope accepts)) (es.map ShaderExpr.code)
        (List.replicate operands.length t) := by
  induction operands with
  | nil => exact .pure ⟨rfl, .nil⟩
  | cons o rest ih =>
    unfold convertAll
    refine .bind (ShaderExpr.convert_keeps (h o List.mem_cons_self) ht) fun e u _ he => ?_
    obtain ⟨rfl, he⟩ := he
    refine .bind (ih fun o ho => h o (List.mem_cons_of_mem _ ho)) fun es u _ hes => ?_
    obtain ⟨rfl, hes⟩ := hes
    exact .pure ⟨rfl, .cons he.code hes⟩

theorem unifyFloat_keeps {operands : List (String × ShaderExpr)} (h : ∀ o ∈ operands, o.2.Typed accepts s) :
    Keeps accepts p (unifyFloat n operands) s fun r u => u = s ∧ r.1.isFloating = true ∧
      List.Forall₂ (Code.HasType true (s.scope accepts)) (r.2.map ShaderExpr.code)
        (List.replicate operands.length r.1) := by
  refine .bind .result fun t u _ ht => ?_
  obtain ⟨rfl, ht⟩ := ht
  have hfloat := floatType_isFloating rfl ht
  have hne := ValueType.ne_texture_of_isNumeric (ValueType.isNumeric_of_isFloating hfloat)
  refine .bind (convertAll_keeps hne h) fun es u _ hes => ?_
  obtain ⟨rfl, hes⟩ := hes
  exact .pure ⟨rfl, hfloat, hes⟩

theorem callOn_typed {function : String} {t : ValueType} {es : List ShaderExpr} {ts : List ValueType}
    (hf : Builtin true function ts t)
    (hes : List.Forall₂ (Code.HasType true (s.scope accepts)) (es.map ShaderExpr.code) ts) :
    (callOn function t es).Typed accepts s :=
  .derive (.ofCall hf hes) _

theorem mix_keeps (hc : c.Types) : Keeps c.accepts c.prepared (mix c n port) s fun x t => x.Typed c.accepts t := by
  refine atPort_keeps ?_
  refine .bind hc.require fun a t _ ha => .bind hc.require fun b u hu hb => .bind hc.require fun share v hv hshare => ?_
  have hoperands : ∀ o ∈ [("a", a), ("b", b)], o.2.Typed c.accepts v := by
    simpa using ⟨ha.mono (hu.trans hv), hb.mono hv⟩
  refine .bind (unifyFloat_keeps hoperands) fun r w _ h => ?_
  obtain ⟨t, es⟩ := r
  obtain ⟨rfl, hfloat, hes⟩ := h
  have hne := ValueType.ne_texture_of_isNumeric (ValueType.isNumeric_of_isFloating hfloat)
  refine .bind (ShaderExpr.convert_keeps hshare (by split <;> first | exact hne | decide)) fun share' w _ h => ?_
  obtain ⟨rfl, hshare'⟩ := h
  refine .pure ?_
  have hargs : List.Forall₂ (Code.HasType true (w.scope c.accepts)) ((es ++ [share']).map ShaderExpr.code)
      ([t, t] ++ [if share.type = t then t else .float]) := by
    rw [List.map_append]
    exact List.rel_append hes (.cons hshare'.code .nil)
  split at hargs
  · exact callOn_typed (.floating (n := 3) (by decide) hfloat) hargs
  · rcases ValueType.isFloating_iff.1 hfloat with rfl | hvector
    · exact callOn_typed (.floating (n := 3) (by decide) hfloat) hargs
    · exact callOn_typed (.mixEvenly hvector) hargs

theorem clampBound_keeps (hc : c.Types) (name : String) (default : Float) :
    Keeps c.accepts c.prepared (clampBound c n name default) s fun x t => x.Typed c.accepts t := by
  refine .bind hc.input? fun x? t _ hx => ?_
  cases x? with
  | none => exact constant_typed _ _ _ (.inl rfl)
  | some x => exact .pure (hx x rfl)

theorem clamp_keeps (hc : c.Types) : Keeps c.accepts c.prepared (clamp c n port) s fun x t => x.Typed c.accepts t := by
  refine atPort_keeps (.bind ignoreExtra_keeps fun _ t _ _ => .bind hc.require fun x u _ hx => ?_)
  refine .bind (clampBound_keeps hc "min" 0) fun low v hv hlow => ?_
  refine .bind (clampBound_keeps hc "max" 1) fun high w hw hhigh => ?_
  have hoperands : ∀ o ∈ [("x", x), ("min", low), ("max", high)], o.2.Typed c.accepts w := by
    simpa using ⟨hx.mono (hv.trans hw), hlow.mono hw, hhigh⟩
  refine .bind (unifyFloat_keeps hoperands) fun r _ _ h => ?_
  obtain ⟨rfl, hfloat, hes⟩ := h
  exact .pure (callOn_typed (.numeric (n := 3) (by decide) (ValueType.isNumeric_of_isFloating hfloat)) hes)

theorem smoothstep_keeps (hc : c.Types) :
    Keeps c.accepts c.prepared (smoothstep c n port) s fun x t => x.Typed c.accepts t := by
  refine atPort_keeps ?_
  refine .bind hc.require fun low t _ hlow => .bind hc.require fun high u hu hhigh => ?_
  refine .bind hc.require fun x v hv hx => ?_
  have hoperands : ∀ o ∈ [("edge0", low), ("edge1", high), ("x", x)], o.2.Typed c.accepts v := by
    simpa using ⟨hlow.mono (hu.trans hv), hhigh.mono hv, hx⟩
  refine .bind (unifyFloat_keeps hoperands) fun r _ _ h => ?_
  obtain ⟨rfl, hfloat, hes⟩ := h
  exact .pure (callOn_typed (.floating (n := 3) (by decide) hfloat) hes)

/-! ## Logic and structure of values -/

theorem comparisonType_suits {op : String} {a b : ValueType} (hop : op ∈ comparisons) (ha : a.isScalar = true)
    (hb : b.isScalar = true) : comparisonType op a b ≠ .texture ∧
      Operator op (comparisonType op a b) (comparisonType op a b) .bool := by
  have hscalar : ((a.unify? b).getD a).isScalar = true := by
    cases a <;> first | cases ha; done | cases b <;> first | rfl | cases hb
  simp only [comparisonType]
  generalize (a.unify? b).getD a = t at hscalar
  split
  · exact ⟨by decide, .comparison hop rfl⟩
  · rename_i hbool
    refine ⟨(by rintro rfl; cases hscalar), ?_⟩
    by_cases ht : t = .bool
    · subst ht
      refine .equality ?_ rfl
      simpa [or_iff_not_imp_left] using hbool
    · exact .comparison hop (by cases t <;> first | rfl | cases hscalar; done | contradiction)

theorem compare_keeps (hc : c.Types) :
    Keeps c.accepts c.prepared (compare c n port) s fun x t => x.Typed c.accepts t := by
  refine atPort_keeps ?_
  refine .refuse fun hop => .bind hc.require fun a t _ ha => .bind hc.require fun b u hu hb => ?_
  refine .refuse fun hscalar => .refuse fun hscalar' => ?_
  obtain ⟨hne, hoperator⟩ :=
    comparisonType_suits (by simpa using hop) (by simpa using hscalar) (by simpa using hscalar')
  refine convertBoth_keeps hne (ha.mono hu) hb fun a b ha hb => ?_
  exact .pure (.derive (.binary hoperator ha.code hb.code) _)

theorem choiceType?_eq_some {a b t : ValueType} (h : choiceType? a b = some t) :
    t.isNumeric = true ∨ t = a ∧ a ≠ .texture := by
  unfold choiceType? at h
  split at h
  · rename_i heq
    cases h
    rw [Bool.and_eq_true, decide_eq_true_eq, decide_eq_true_eq] at heq
    exact .inr ⟨rfl, heq.2⟩
  · exact .inl (unify?_isNumeric h)

theorem select_keeps (hc : c.Types) :
    Keeps c.accepts c.prepared (select c n port) s fun x t => x.Typed c.accepts t := by
  refine atPort_keeps (.bind (hc.requireType (by decide)) fun cond t _ hcond => ?_)
  refine .bind hc.require fun a u hu ha => .bind hc.require fun b v hv hb => ?_
  have ha := ha.mono hv
  split
  · exact .throw
  · rename_i t ht
    have hchoice : t ≠ .texture ∧ Builtin true "select" [t, t, .bool] t := by
      rcases choiceType?_eq_some ht with hnumeric | ⟨rfl, hne⟩
      · exact ⟨ValueType.ne_texture_of_isNumeric hnumeric, .select (ValueType.isScalar_or_isVector hnumeric)⟩
      · -- values of one type are let through, so the choice may be between matrices
        refine ⟨hne, ?_⟩
        rcases (ha hne).isValue with hscalar | hvector | hmatrix
        · exact .select (.inl hscalar)
        · exact .select (.inr hvector)
        · rw [hmatrix]
          exact .selectMatrix rfl
    have hcond := hcond.mono (hu.trans hv)
    refine convertBoth_keeps hchoice.1 ha hb fun a b ha hb => ?_
    exact .pure (.derive (.ternaryCall hchoice.2 hb.code ha.code hcond.code) _)

theorem connective_keeps (hc : c.Types) {op : String} (hop : op ∈ ["&&", "||"]) :
    Keeps c.accepts c.prepared (connective op c n port) s fun x t => x.Typed c.accepts t := by
  refine atPort_keeps (.bind (hc.requireType (by decide)) fun a t _ ha => ?_)
  refine .bind (hc.requireType (by decide)) fun b u hu hb => .pure ?_
  exact .derive (.binary (.connective hop) (ha.mono hu).code hb.code) _

theorem negation_keeps (hc : c.Types) :
    Keeps c.accepts c.prepared (negation c n port) s fun x t => x.Typed c.accepts t := by
  refine atPort_keeps (.bind (hc.requireType (by decide)) fun x t _ hx => .pure ?_)
  exact .derive (.negation hx.code) _

theorem split_keeps (hc : c.Types) : Keeps c.accepts c.prepared (split c n port) s fun x t => x.Typed c.accepts t := by
  unfold CompileNode.split
  split
  · exact .throw
  · rename_i i hi
    refine .bind hc.require fun v t _ hv => .ite (fun _ => ?_) fun _ => ?_
    · exact (ShaderExpr.convert_has hv (by decide)).mono fun x u hx => hx.typed
    · refine .ite (fun _ => .throw) fun hvector => .ite (fun _ => .throw) fun hcount => .pure ?_
      have hvector : v.type.isVector = true := by simpa using hvector
      have hv := hv.has rfl (ValueType.ne_texture_of_isNumeric (ValueType.isNumeric_of_isFloating
        (ValueType.isFloating_of_isVector hvector)))
      have hport : port ∈ components.take v.type.components := by
        obtain ⟨hlt, hport, _⟩ := List.findIdx?_eq_some_iff_getElem.1 hi
        rw [beq_iff_eq] at hport
        rw [← hport]
        exact List.mem_take_iff_getElem.2 ⟨i, by omega, rfl⟩
      exact .derive (components_part hvector hv.code hport) _

theorem isVector_vector (size : Nat) (h : 2 ≤ size) (h' : size ≤ 4) :
    (ValueType.vector size).isVector = true ∧ (ValueType.vector size).components = size := by
  match size, h, h' with
  | 2, _, _ | 3, _, _ | 4, _, _ => exact ⟨rfl, rfl⟩

theorem combine_keeps (hc : c.Types) :
    Keeps c.accepts c.prepared (combine c n port) s fun x t => x.Typed c.accepts t := by
  refine atPort_keeps ?_
  extract_lets size
  obtain ⟨hvector, hcount⟩ := isVector_vector size (by omega) (by omega)
  refine .bind (componentCodes_keeps hc fun _ _ => .zero rfl) fun r t _ hr => .pure ?_
  have hlength := length_components hvector
  rw [hcount] at hlength
  rw [hlength, ← hcount] at hr
  exact .derive (construct_hasType hvector hr) _

/-! ## Textures -/

theorem sampleCoordinates_keeps (hc : c.Types) :
    Keeps c.accepts c.prepared (sampleCoordinates c n) s fun x t => x.Has c.accepts t .vec2 := by
  refine .bind hc.input? fun x? t _ hx => ?_
  cases x? with
  | none => exact .pure ⟨rfl, .uv⟩
  | some e => exact ShaderExpr.convert_has (hx e rfl) (by decide)

theorem sample_keeps (hc : c.Types) (hp : c.prepared.Valid) (source : String) :
    Keeps c.accepts c.prepared (sample c n source) s fun x t => x.Typed c.accepts t := by
  refine .bind (sampleCoordinates_keeps hc) fun uv t _ huv => ?_
  refine .bind (bindTexture_keeps _ _ _) fun b u hu hb => ?_
  refine .bind (helper_keeps hp (.inl rfl)) fun _ v hv hflip => .pure fun _ => ?_
  have hbound : v.binding? n.id = some b := by exact find?_of_prefix hv.bindings hb
  have hcode : (Code.sample n.id b.name uv.code).HasType true (v.scope c.accepts) .vec4 :=
    .sample ⟨⟨b, hbound, rfl⟩, hflip⟩ (huv.mono (hu.trans hv)).code
  simpa using hcode

theorem ofTexture_typed (source : String) : (ShaderExpr.ofTexture source).Typed accepts s :=
  fun h => absurd rfl h

theorem textureSource_keeps (hc : c.Types) (hp : c.prepared.Valid) :
    Keeps c.accepts c.prepared (textureSource c n port) s fun x t => x.Typed c.accepts t := by
  refine .ite (fun _ => .pure (ofTexture_typed _)) fun _ => ?_
  exact .ite (fun _ => sample_keeps hc hp _) fun _ => .throw

theorem target_keeps : Keeps accepts p (target n port) s fun x t => x.Typed accepts t :=
  atPort_keeps (.pure (ofTexture_typed _))

theorem sampleTexture_keeps (hc : c.Types) (hp : c.prepared.Valid) :
    Keeps c.accepts c.prepared (sampleTexture c n port) s fun x t => x.Typed c.accepts t :=
  atPort_keeps (.bind hc.require fun _ _ _ _ => .refuse fun _ => sample_keeps hc hp _)

/-! ## Snippets -/

theorem typeOf?_isValue {name : String} {t : ValueType} (h : Snippet.typeOf? name = some t) :
    t.isScalar = true ∨ t.isVector = true := by
  unfold Snippet.typeOf? at h
  split at h
  · split at h
    · rename_i htype
      cases h
      simpa using htype
    · cases h
  · cases h

theorem snippetArg_keeps (q : Port) : Keeps accepts p (snippetArg n q) s fun a t => t = s ∧ snippetArg n q = pure a ∧
    (a.type.isScalar = true ∨ a.type.isVector = true) := by
  unfold snippetArg
  split
  · exact .throw
  · split
    · exact .pure ⟨rfl, rfl, .inl rfl⟩
    · split
      · rename_i ht
        exact .pure ⟨rfl, rfl, typeOf?_isValue ht⟩
      · exact .throw

theorem snippetText_keeps : Keeps accepts p (snippetText n) s fun text t => t = s ∧ snippetText n = pure text := by
  unfold snippetText
  split
  · split
    · exact .throw
    · exact .pure ⟨rfl, rfl⟩
  · exact .throw

theorem snippetType_keeps : Keeps accepts p (snippetType n) s fun type t => t = s ∧ snippetType n = pure type ∧
    (type.isScalar = true ∨ type.isVector = true) := by
  unfold snippetType
  simp only
  split
  · rename_i ht
    exact .pure ⟨rfl, rfl, typeOf?_isValue ht⟩
  · exact .throw

theorem snippetInputs_keeps (hc : c.Types) (ports : List Port) :
    Keeps c.accepts c.prepared (snippetInputs c n ports) s fun r t =>
      List.Forall₂ (fun q a => snippetArg n q = pure a) ports (r.map Prod.fst) ∧
        List.Forall₂ (Code.HasType true (t.scope c.accepts)) ((r.map Prod.snd).map ShaderExpr.code)
          ((r.map Prod.fst).map SnippetArg.type) := by
  induction ports generalizing s with
  | nil => exact .pure ⟨.nil, .nil⟩
  | cons q rest ih =>
    unfold snippetInputs
    refine .bind (snippetArg_keeps q) fun a t _ h => ?_
    obtain ⟨rfl, ha, hvalue⟩ := h
    have hne : a.type ≠ .texture := by
      intro htexture
      rw [htexture] at hvalue
      rcases hvalue with h | h <;> cases h
    refine .bind (hc.requireType hne) fun e u _ he => .bind ih fun r v hv hr => .pure ?_
    exact ⟨.cons ha hr.1, .cons (he.mono hv).code hr.2⟩

theorem trySnippet_keeps (f : Snippet) (isFirst : Bool) (stages : List SnippetStage) :
    Keeps c.accepts p (trySnippet c n f isFirst stages) s fun isValid _ =>
      isValid = true → f.Accepted c.accepts := by
  induction stages generalizing s isFirst with
  | nil => exact .pure (by simp)
  | cons stage rest ih =>
    unfold trySnippet
    refine .ite (fun hvalid => ?_) fun _ => .bind (debug_keeps _ _) fun _ _ _ _ => ih false
    refine .ite (fun _ => ?_) fun _ => .pure fun _ => ⟨stage, hvalid⟩
    exact .bind (debug_keeps _ _) fun _ _ _ _ => .pure fun _ => ⟨stage, hvalid⟩

theorem checkSnippet_keeps (f : Snippet) :
    Keeps c.accepts p (checkSnippet c n f) s fun _ _ => f.Accepted c.accepts := by
  refine .bind (trySnippet_keeps f true snippetStages) fun isValid t _ hvalid => ?_
  refine .ite (fun _ => .throw) fun h => .pure (hvalid (by simpa using h))

theorem snippet_keeps (hc : c.Types) (hp : c.prepared.Valid) (hn : c.prepared.node? n.id = some n) :
    Keeps c.accepts c.prepared (snippet c n port) s fun x t => x.Typed c.accepts t := by
  refine atPort_keeps (.bind snippetText_keeps fun text t _ h => ?_)
  obtain ⟨rfl, htext⟩ := h
  refine .bind snippetType_keeps fun result t _ h => ?_
  obtain ⟨rfl, hresult, hvalue⟩ := h
  refine .bind (snippetInputs_keeps hc n.inputs) fun inputs u _ hinputs => ?_
  extract_lets f es e
  have hf : f.Of c.prepared n := ⟨rfl, hinputs.1, hresult, text, htext, by simp only [f]⟩
  refine .bind (checkSnippet_keeps f) fun _ v hv haccepted => ?_
  refine .bind (helper_keeps hp (.inr ⟨n, f, hn, hf, rfl⟩)) fun _ w hw hhelper => .pure fun _ => ?_
  have hargs : List.Forall₂ (Code.HasType true (w.scope c.accepts)) (es.map ShaderExpr.code)
      (f.args.map SnippetArg.type) :=
    hinputs.2.imp fun _ _ h => h.mono (hv.trans hw).within
  have hcode : (Code.helper f.name (es.map ShaderExpr.code)).HasType true (w.scope c.accepts) result :=
    .helper ⟨hvalue, f, hhelper, haccepted, rfl, rfl⟩ hargs.length_eq (Code.HasType.argument hargs)
  simpa [e] using hcode

end CompileNode

/-! ## All compilers -/

/-- The compiler can take nodes of the type. -/
def NodeCompiler.suits (k : NodeCompiler) (type : String) : Bool :=
  match k with
  | .scalar t => t.isScalar
  | .vector t => t.isVector
  | .unary => CompileNode.unaryTypes.contains type
  | .binary => CompileNode.binaryTypes.contains type
  | .connective op => ["&&", "||"].contains op
  | _ => true

theorem NodeCompiler.run_keeps (k : NodeCompiler) {c : NodeContext} (hc : c.Types) (hp : c.prepared.Valid) {n : Node}
    (hn : c.prepared.node? n.id = some n) (hk : k.suits n.type = true) (port : String) (s : Session) :
    Keeps c.accepts c.prepared (k.run c n port) s fun x t => x.Typed c.accepts t := by
  cases k with
  | scalar t => exact CompileNode.scalarConstant_keeps hk
  | vector t => exact CompileNode.vectorConstant_keeps hc hk
  | color => exact CompileNode.color_keeps
  | matrix => exact CompileNode.matrix_keeps
  | clock => exact CompileNode.clock_keeps
  | coordinates => exact atPort_keeps (.pure fun _ => .uv)
  | targetSize => exact atPort_keeps (.pure fun _ => .resolution)
  | instanceNumber => exact atPort_keeps (.pure fun _ => .instanceIndex)
  | unary => exact CompileNode.unary_keeps hc (List.contains_iff_mem.1 hk)
  | binary => exact CompileNode.binary_keeps hc (List.contains_iff_mem.1 hk)
  | mix => exact CompileNode.mix_keeps hc
  | clamp => exact CompileNode.clamp_keeps hc
  | smoothstep => exact CompileNode.smoothstep_keeps hc
  | compare => exact CompileNode.compare_keeps hc
  | select => exact CompileNode.select_keeps hc
  | connective op => exact CompileNode.connective_keeps hc (List.contains_iff_mem.1 hk)
  | negation => exact CompileNode.negation_keeps hc
  | split => exact CompileNode.split_keeps hc
  | combine => exact CompileNode.combine_keeps hc
  | textureSource => exact CompileNode.textureSource_keeps hc hp
  | target => exact CompileNode.target_keeps
  | sampleTexture => exact CompileNode.sampleTexture_keeps hc hp
  | snippet => exact CompileNode.snippet_keeps hc hp hn

theorem Registry.builtin_suits {type : String} {k : NodeCompiler} (h : Registry.builtin.get? type = some k) :
    k.suits type = true := by
  have hall : Registry.builtin.all (fun e => e.2.suits e.1) = true := by
    rw [Registry.builtin_eq]
    decide +kernel
  obtain ⟨e, he, rfl⟩ := Option.map_eq_some_iff.1 h
  have hkey : e.1 = type := by simpa using List.find?_some he
  rw [← hkey]
  exact List.all_eq_true.1 hall e (List.mem_of_find?_eq_some he)

end SceneGraph
