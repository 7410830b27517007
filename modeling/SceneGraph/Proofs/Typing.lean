import Mathlib.Data.List.Forall2
import Mathlib.Tactic.Ring
import SceneGraph.Expr.Logic

/-!
# Typing rules of shader code

The rules of the shading language for the expressions that get compiled, as far as these use them. A
choice by `select` is between scalars or vectors. The rules with `matrices` also let it choose between
matrices, which the shading language does not; nothing else differs.

* `Builtin`, `Operator`: the types of built-in functions and of operators.
* `Scope`: the textures and functions that a module declares.
* `Code.HasType`: an expression has a type in a scope.
* `Code.hasType_false_iff`: of what has a type with `matrices`, the shading language refuses the choices between
  matrices and nothing else.
* `Code.HasType.convert?`, `Session.slotCode_hasType`: conversions and constants have their types.
-/
set_option autoImplicit false

namespace SceneGraph

/-- The type is a float or a vector of floats. -/
def ValueType.isFloating (t : ValueType) : Bool := t = .float || t.isVector

namespace ValueType

variable {t : ValueType}

theorem isFloating_iff : t.isFloating = true ↔ t = .float ∨ t.isVector = true := by
  simp [isFloating]

theorem isScalar_of_isNumber (h : t.isNumber = true) : t.isScalar = true := by
  cases t <;> first | rfl | cases h

theorem isFloating_of_isVector (h : t.isVector = true) : t.isFloating = true := isFloating_iff.2 (.inr h)

theorem isNumeric_of_isFloating (h : t.isFloating = true) : t.isNumeric = true := by
  cases t <;> first | rfl | cases h

theorem isFloating_of_isNumeric (h : t.isNumeric = true) (hint : t ≠ .int) (huint : t ≠ .uint) :
    t.isFloating = true := by
  cases t <;> first | rfl | cases h; done | contradiction

theorem ne_texture_of_isNumeric (h : t.isNumeric = true) : t ≠ .texture := by
  rintro rfl
  cases h

theorem isScalar_or_isVector (h : t.isNumeric = true) : t.isScalar = true ∨ t.isVector = true := by
  cases t <;> first | exact .inl rfl | exact .inr rfl | cases h

end ValueType

/-- The functions of floats and vectors, with the number of their arguments. These and the result have one type. -/
def floatFunctions : List (String × Nat) :=
  [("sin", 1), ("cos", 1), ("tan", 1), ("floor", 1), ("ceil", 1), ("fract", 1), ("sqrt", 1), ("exp", 1), ("log", 1),
    ("pow", 2), ("step", 2), ("atan2", 2), ("smoothstep", 3), ("mix", 3)]

/-- The functions that also take integers. -/
def numberFunctions : List (String × Nat) := [("abs", 1), ("min", 2), ("max", 2), ("clamp", 3)]

/-- The functions of floats and vectors that give a float. -/
def measures : List (String × Nat) := [("length", 1), ("distance", 2)]

/-- The built-in functions, conversions and constructors by name, with the types of their arguments and
results. -/
inductive Builtin (matrices : Bool) : String → List ValueType → ValueType → Prop where
  | conversion {s t : ValueType} (hs : s.isScalar = true) (ht : t.isNumber = true) : Builtin matrices t.wgsl [s] t
  | spread {t : ValueType} (ht : t.isVector = true) : Builtin matrices t.wgsl [.float] t
  | vector {ts : List ValueType} {t : ValueType} (ht : t.isVector = true) (hts : ∀ s ∈ ts, s.isFloating = true)
      (hcount : (ts.map ValueType.components).sum = t.components) : Builtin matrices t.wgsl ts t
  | matrix : Builtin matrices ValueType.mat4.wgsl [.vec4, .vec4, .vec4, .vec4] .mat4
  | floating {f : String} {n : Nat} {t : ValueType} (hf : (f, n) ∈ floatFunctions) (ht : t.isFloating = true) :
      Builtin matrices f (List.replicate n t) t
  | numeric {f : String} {n : Nat} {t : ValueType} (hf : (f, n) ∈ numberFunctions) (ht : t.isNumeric = true) :
      Builtin matrices f (List.replicate n t) t
  | measure {f : String} {n : Nat} {t : ValueType} (hf : (f, n) ∈ measures) (ht : t.isFloating = true) :
      Builtin matrices f (List.replicate n t) .float
  | dot {t : ValueType} (ht : t.isVector = true) : Builtin matrices "dot" [t, t] .float
  | normalize {t : ValueType} (ht : t.isVector = true) : Builtin matrices "normalize" [t] t
  | mixEvenly {t : ValueType} (ht : t.isVector = true) : Builtin matrices "mix" [t, t, .float] t
  | select {t : ValueType} (ht : t.isScalar = true ∨ t.isVector = true) : Builtin matrices "select" [t, t, .bool] t
  | selectMatrix (h : matrices = true) : Builtin matrices "select" [.mat4, .mat4, .bool] .mat4

/-- The operators of arithmetic. -/
def arithmetic : List String := ["+", "-", "*", "/", "%"]

/-- The operators by name, with the types of their operands and results. -/
inductive Operator : String → ValueType → ValueType → ValueType → Prop where
  | arithmetic {op : String} {t : ValueType} (hop : op ∈ arithmetic) (ht : t.isNumeric = true) : Operator op t t t
  | floatLeft {op : String} {t : ValueType} (hop : op ∈ arithmetic) (ht : t.isVector = true) : Operator op .float t t
  | floatRight {op : String} {t : ValueType} (hop : op ∈ arithmetic) (ht : t.isVector = true) : Operator op t .float t
  | product : Operator "*" .mat4 .mat4 .mat4
  | transform : Operator "*" .mat4 .vec4 .vec4
  | comparison {op : String} {t : ValueType} (hop : op ∈ CompileNode.comparisons) (ht : t.isNumber = true) :
      Operator op t t .bool
  | equality {op : String} {t : ValueType} (hop : op ∈ ["==", "!="]) (ht : t.isScalar = true) : Operator op t t .bool
  | connective {op : String} (hop : op ∈ ["&&", "||"]) : Operator op .bool .bool .bool

/-- What expressions can refer to in a module beside the constants, the frame and the inputs of the fragment. -/
structure Scope where
  /-- A texture and its sampler are bound under a key, with a stem of their names, and can be read. -/
  texture : String → String → Prop
  /-- A function takes arguments of given types and gives a result of a type. -/
  function : String → List ValueType → ValueType → Prop
  function_result : ∀ name ts t, function name ts t → t.isScalar = true ∨ t.isVector = true

/-- The second scope has everything that the first one has. -/
structure Scope.Within (Γ Δ : Scope) : Prop where
  texture : ∀ key name, Γ.texture key name → Δ.texture key name
  function : ∀ name ts t, Γ.function name ts t → Δ.function name ts t

namespace Code

/-- The expression has the type. Components are named by letters, and a value has as many of these as
components. -/
inductive HasType (matrices : Bool) (Γ : Scope) : Code → ValueType → Prop where
  | zero {t : ValueType} (ht : t.isScalar = true) : HasType matrices Γ (.zero t) t
  | one {t : ValueType} (ht : t.isScalar = true) : HasType matrices Γ (.one t) t
  | slot (i : Nat) : HasType matrices Γ (.slot i) .vec4
  | time : HasType matrices Γ .time .float
  | resolution : HasType matrices Γ .resolution .vec2
  | uv : HasType matrices Γ .uv .vec2
  | instanceIndex : HasType matrices Γ .instanceIndex .uint
  | part {e : Code} {t : ValueType} {names : String} (he : HasType matrices Γ e t) (ht : t.isVector = true)
      (hnames : ∀ c ∈ names.toList, c ∈ ['x', 'y', 'z', 'w'].take t.components)
      (hcount : 1 ≤ names.length ∧ names.length ≤ 4) : HasType matrices Γ (.part e names) (.vector names.length)
  | firstThree {e : Code} {t : ValueType} (he : HasType matrices Γ e t) (ht : t.isVector = true)
      (hcount : 3 ≤ t.components) : HasType matrices Γ (.firstThree e) .vec3
  | negative {e : Code} {t : ValueType} (he : HasType matrices Γ e t) (ht : t.isNumeric = true) (hsign : t ≠ .uint) :
      HasType matrices Γ (.signed "-" e) t
  | negation {e : Code} (he : HasType matrices Γ e .bool) : HasType matrices Γ (.signed "!" e) .bool
  | binary {op : String} {a b : Code} {s t u : ValueType} (hop : Operator op s t u) (ha : HasType matrices Γ a s)
      (hb : HasType matrices Γ b t) : HasType matrices Γ (.binary op a b) u
  | call {f : String} {args : List Code} {ts : List ValueType} {t : ValueType} (hf : Builtin matrices f ts t)
      (hlength : args.length = ts.length)
      (hargs : ∀ (i : Nat) (a : Code) (s : ValueType), args[i]? = some a → ts[i]? = some s → HasType matrices Γ a s) :
      HasType matrices Γ (.call f args) t
  | helper {name : String} {args : List Code} {ts : List ValueType} {t : ValueType} (hf : Γ.function name ts t)
      (hlength : args.length = ts.length)
      (hargs : ∀ (i : Nat) (a : Code) (s : ValueType), args[i]? = some a → ts[i]? = some s → HasType matrices Γ a s) :
      HasType matrices Γ (.helper name args) t
  | sample {key name : String} {position : Code} (htexture : Γ.texture key name)
      (hposition : HasType matrices Γ position .vec2) : HasType matrices Γ (.sample key name position) .vec4

/-! ## Scopes and arguments -/

section

variable {matrices : Bool} {Γ Δ : Scope} {e : Code} {t : ValueType}

theorem HasType.mono (h : e.HasType matrices Γ t) (hscope : Γ.Within Δ) : e.HasType matrices Δ t := by
  induction h with
  | zero ht => exact .zero ht
  | one ht => exact .one ht
  | slot i => exact .slot i
  | time => exact .time
  | resolution => exact .resolution
  | uv => exact .uv
  | instanceIndex => exact .instanceIndex
  | part _ ht hnames hcount ih => exact .part ih ht hnames hcount
  | firstThree _ ht hcount ih => exact .firstThree ih ht hcount
  | negative _ ht hsign ih => exact .negative ih ht hsign
  | negation _ ih => exact .negation ih
  | binary hop _ _ iha ihb => exact .binary hop iha ihb
  | call hf hlength _ ih => exact .call hf hlength ih
  | helper hf hlength _ ih => exact .helper (hscope.function _ _ _ hf) hlength ih
  | sample htexture _ ih => exact .sample (hscope.texture _ _ htexture) ih

theorem HasType.argument {args : List Code} {ts : List ValueType}
    (h : List.Forall₂ (HasType matrices Γ) args ts) (i : Nat) (a : Code) (s : ValueType)
    (ha : args[i]? = some a) (hs : ts[i]? = some s) : a.HasType matrices Γ s := by
  induction h generalizing i with
  | nil => cases ha
  | cons hhead _ ih =>
    cases i with
    | zero =>
      cases ha
      cases hs
      exact hhead
    | succ i => exact ih i ha hs

theorem HasType.ofCall {f : String} {args : List Code} {ts : List ValueType} (hf : Builtin matrices f ts t)
    (hargs : List.Forall₂ (HasType matrices Γ) args ts) : (Code.call f args).HasType matrices Γ t :=
  .call hf hargs.length_eq (HasType.argument hargs)

theorem HasType.unaryCall {f : String} {a : Code} {s : ValueType} (hf : Builtin matrices f [s] t)
    (ha : a.HasType matrices Γ s) : (Code.call f [a]).HasType matrices Γ t :=
  .ofCall hf (.cons ha .nil)

theorem HasType.binaryCall {f : String} {a b : Code} {s s' : ValueType} (hf : Builtin matrices f [s, s'] t)
    (ha : a.HasType matrices Γ s) (hb : b.HasType matrices Γ s') : (Code.call f [a, b]).HasType matrices Γ t :=
  .ofCall hf (.cons ha (.cons hb .nil))

theorem HasType.ternaryCall {f : String} {a b c : Code} {s s' s'' : ValueType} (hf : Builtin matrices f [s, s', s''] t)
    (ha : a.HasType matrices Γ s) (hb : b.HasType matrices Γ s') (hc : c.HasType matrices Γ s'') :
    (Code.call f [a, b, c]).HasType matrices Γ t :=
  .ofCall hf (.cons ha (.cons hb (.cons hc .nil)))

end

/-! ## Choices between matrices -/

mutual

/-- An expression that has a type is a matrix. -/
def isMatrix : Code → Bool
  | .binary _ a b => isMatrix a && isMatrix b
  | .call f args => f == ValueType.mat4.wgsl || f == "select" && startsWithMatrix args
  | _ => false

/-- The first of a list of expressions is a matrix. -/
def startsWithMatrix : List Code → Bool
  | [] => false
  | e :: _ => isMatrix e

end

mutual

/-- A choice between matrices is somewhere in an expression. -/
def choosesMatrix : Code → Bool
  | .part e _ => choosesMatrix e
  | .firstThree e => choosesMatrix e
  | .binary _ a b => choosesMatrix a || choosesMatrix b
  | .bare _ a b => choosesMatrix a || choosesMatrix b
  | .signed _ e => choosesMatrix e
  | .minus e => choosesMatrix e
  | .call f args => f == "select" && startsWithMatrix args || choosesMatrixIn args
  | .helper _ args => choosesMatrixIn args
  | .sample _ _ position => choosesMatrix position
  | _ => false

/-- A choice between matrices is somewhere in a list of expressions. -/
def choosesMatrixIn : List Code → Bool
  | [] => false
  | e :: rest => choosesMatrix e || choosesMatrixIn rest

end

theorem choosesMatrixIn_eq_false (args : List Code) :
    choosesMatrixIn args = false ↔ ∀ (i : Nat) (a : Code), args[i]? = some a → a.choosesMatrix = false := by
  induction args with
  | nil => simp [choosesMatrixIn]
  | cons e rest ih =>
    rw [choosesMatrixIn, Bool.or_eq_false_iff, ih]
    constructor
    · rintro ⟨he, hrest⟩ (_ | i) a ha
      · cases ha
        exact he
      · exact hrest i a ha
    · exact fun h => ⟨h 0 e rfl, fun i a ha => h (i + 1) a ha⟩

end Code

/-! ### Types of matrices -/

theorem ValueType.wgsl_ne_select (t : ValueType) : t.wgsl ≠ "select" := by
  cases t <;> simp [wgsl]

theorem ValueType.wgsl_ne_mat4 {t : ValueType} (h : t ≠ .mat4) : t.wgsl ≠ ValueType.mat4.wgsl := by
  cases t <;> simp_all [wgsl]

/-- A built-in function makes a matrix, chooses, or gives something else than a matrix. -/
theorem Builtin.cases_matrix {matrices : Bool} {f : String} {ts : List ValueType} {t : ValueType}
    (h : Builtin matrices f ts t) :
    f = ValueType.mat4.wgsl ∧ t = .mat4 ∨ f = "select" ∧ ts = [t, t, .bool] ∧ (t = .mat4 → matrices = true) ∨
      f ≠ ValueType.mat4.wgsl ∧ f ≠ "select" ∧ t ≠ .mat4 := by
  have htable : ∀ table : List (String × Nat), (∀ g ∈ table, g.1 ≠ ValueType.mat4.wgsl ∧ g.1 ≠ "select") → ∀ n,
      (f, n) ∈ table → f ≠ ValueType.mat4.wgsl ∧ f ≠ "select" := fun table hall n hf => hall (f, n) hf
  cases h with
  | matrix => exact .inl ⟨rfl, rfl⟩
  | select ht => exact .inr (.inl ⟨rfl, rfl, by rintro rfl; rcases ht with ht | ht <;> cases ht⟩)
  | selectMatrix h => exact .inr (.inl ⟨rfl, rfl, fun _ => h⟩)
  | conversion _ ht | spread ht | vector ht _ _ =>
    have hne : t ≠ .mat4 := by rintro rfl; cases ht
    exact .inr (.inr ⟨ValueType.wgsl_ne_mat4 hne, t.wgsl_ne_select, hne⟩)
  | floating hf ht | numeric hf ht =>
    obtain ⟨hmatrix, hselect⟩ := htable _ (by decide) _ hf
    exact .inr (.inr ⟨hmatrix, hselect, by rintro rfl; cases ht⟩)
  | measure hf _ =>
    obtain ⟨hmatrix, hselect⟩ := htable _ (by decide) _ hf
    exact .inr (.inr ⟨hmatrix, hselect, by decide⟩)
  | dot _ => exact .inr (.inr (by decide))
  | normalize ht | mixEvenly ht => exact .inr (.inr ⟨by decide, by decide, by rintro rfl; cases ht⟩)

/-- An operator gives a matrix exactly where both operands are matrices. -/
theorem Operator.mat4_iff {op : String} {s t u : ValueType} (h : Operator op s t u) :
    s = .mat4 ∧ t = .mat4 ↔ u = .mat4 := by
  cases h with
  | product | transform | arithmetic _ _ | connective _ => simp
  | floatLeft _ ht | floatRight _ ht | comparison _ ht | equality _ ht =>
    simp only [and_self, reduceCtorEq, false_and, and_false, iff_false, false_iff]
    rintro rfl
    cases ht

theorem Builtin.regrade {matrices other : Bool} {f : String} {ts : List ValueType} {t : ValueType}
    (h : Builtin matrices f ts t) (hchoice : f = "select" → t = .mat4 → other = true) : Builtin other f ts t := by
  cases h with
  | conversion hs ht => exact .conversion hs ht
  | spread ht => exact .spread ht
  | vector ht hts hcount => exact .vector ht hts hcount
  | matrix => exact .matrix
  | floating hf ht => exact .floating hf ht
  | numeric hf ht => exact .numeric hf ht
  | measure hf ht => exact .measure hf ht
  | dot ht => exact .dot ht
  | normalize ht => exact .normalize ht
  | mixEvenly ht => exact .mixEvenly ht
  | select ht => exact .select ht
  | selectMatrix _ => exact .selectMatrix (hchoice rfl rfl)

namespace Code

variable {matrices : Bool} {Γ : Scope} {e : Code} {t : ValueType}

theorem HasType.isMatrix_iff (h : e.HasType matrices Γ t) : e.isMatrix = true ↔ t = .mat4 := by
  induction h with
  | slot | time | resolution | uv | instanceIndex | firstThree _ _ _ _ | negation _ _ | sample _ _ _ =>
    simp [isMatrix]
  | zero ht | one ht | negative _ ht _ _ =>
    simp only [isMatrix, Bool.false_eq_true, false_iff]
    rintro rfl
    cases ht
  | part _ _ _ _ _ =>
    simp only [isMatrix, Bool.false_eq_true, false_iff]
    unfold ValueType.vector
    split <;> simp
  | binary hop _ _ iha ihb => rw [isMatrix, Bool.and_eq_true, iha, ihb, hop.mat4_iff]
  | @call f args ts t hf hlength _ ih =>
    rw [isMatrix, Bool.or_eq_true, Bool.and_eq_true, beq_iff_eq, beq_iff_eq]
    rcases hf.cases_matrix with ⟨rfl, rfl⟩ | ⟨rfl, rfl, _⟩ | ⟨hmatrix, hselect, hne⟩
    · simp
    · cases args with
      | nil => cases hlength
      | cons a rest => simp [startsWithMatrix, ih 0 a t rfl rfl, ValueType.wgsl]
    · simp [hmatrix, hselect, hne]
  | helper hf _ _ _ =>
    simp only [isMatrix, Bool.false_eq_true, false_iff]
    rintro rfl
    rcases Γ.function_result _ _ _ hf with h | h <;> cases h

/-- The rules with and without `matrices` agree on expressions that do not choose between matrices. -/
theorem HasType.regrade {other : Bool} (h : e.HasType matrices Γ t)
    (hchoice : other = true ∨ e.choosesMatrix = false) : e.HasType other Γ t := by
  induction h with
  | zero ht => exact .zero ht
  | one ht => exact .one ht
  | slot i => exact .slot i
  | time => exact .time
  | resolution => exact .resolution
  | uv => exact .uv
  | instanceIndex => exact .instanceIndex
  | part _ ht hnames hcount ih => exact .part (ih hchoice) ht hnames hcount
  | firstThree _ ht hcount ih => exact .firstThree (ih hchoice) ht hcount
  | negative _ ht hsign ih => exact .negative (ih hchoice) ht hsign
  | negation _ ih => exact .negation (ih hchoice)
  | binary hop _ _ iha ihb =>
    rw [choosesMatrix, Bool.or_eq_false_iff] at hchoice
    exact .binary hop (iha (hchoice.imp_right And.left)) (ihb (hchoice.imp_right And.right))
  | @call f args ts t hf hlength hargs ih =>
    rw [choosesMatrix, Bool.or_eq_false_iff, choosesMatrixIn_eq_false] at hchoice
    refine .call (hf.regrade fun hselect hmatrix => ?_) hlength fun i a s ha hs =>
      ih i a s ha hs (hchoice.imp_right fun h => h.2 i a ha)
    subst hselect hmatrix
    -- a choice between matrices starts with one
    refine hchoice.resolve_right fun h => ?_
    rcases hf.cases_matrix with ⟨hname, _⟩ | ⟨_, rfl, _⟩ | ⟨_, hne, _⟩
    · exact absurd hname.symm (ValueType.wgsl_ne_select _)
    · cases args with
      | nil => cases hlength
      | cons a rest => simp [startsWithMatrix, ((hargs 0 a _ rfl rfl).isMatrix_iff).2 rfl] at h
    · exact hne rfl
  | helper hf hlength _ ih =>
    rw [choosesMatrix, choosesMatrixIn_eq_false] at hchoice
    exact .helper hf hlength fun i a s ha hs => ih i a s ha hs (hchoice.imp_right fun h => h i a ha)
  | sample htexture _ ih => exact .sample htexture (ih hchoice)

theorem HasType.choosesMatrix_eq_false (h : e.HasType false Γ t) : e.choosesMatrix = false := by
  induction h with
  | zero _ | one _ | slot _ | time | resolution | uv | instanceIndex => rfl
  | part _ _ _ _ ih | firstThree _ _ _ ih | negative _ _ _ ih | negation _ ih | sample _ _ ih => exact ih
  | binary _ _ _ iha ihb => rw [choosesMatrix, iha, ihb, Bool.or_false]
  | @call f args ts t hf hlength hargs ih =>
    have hin : choosesMatrixIn args = false := by
      refine (choosesMatrixIn_eq_false args).2 fun i a ha => ?_
      have hi : i < ts.length := hlength ▸ (List.getElem?_eq_some_iff.1 ha).1
      exact ih i a ts[i] ha (List.getElem?_eq_getElem hi)
    rw [choosesMatrix, hin, Bool.or_false, Bool.and_eq_false_imp, beq_iff_eq]
    rintro rfl
    rcases hf.cases_matrix with ⟨hname, _⟩ | ⟨_, rfl, hmatrices⟩ | ⟨_, hne, _⟩
    · exact absurd hname.symm (ValueType.wgsl_ne_select _)
    · cases args with
      | nil => cases hlength
      | cons a rest =>
        refine Bool.eq_false_iff.2 fun ha => ?_
        cases hmatrices ((hargs 0 a t rfl rfl).isMatrix_iff.1 ha)
    · exact absurd rfl hne
  | @helper name args ts t _ hlength _ ih =>
    refine (choosesMatrixIn_eq_false args).2 fun i a ha => ?_
    have hi : i < ts.length := hlength ▸ (List.getElem?_eq_some_iff.1 ha).1
    exact ih i a ts[i] ha (List.getElem?_eq_getElem hi)

/-- The shading language refuses choices between matrices and nothing else. -/
theorem hasType_false_iff : e.HasType false Γ t ↔ e.HasType true Γ t ∧ e.choosesMatrix = false :=
  ⟨fun h => ⟨h.regrade (.inl rfl), h.choosesMatrix_eq_false⟩, fun h => h.1.regrade (.inr h.2)⟩

theorem HasType.isValue (h : e.HasType matrices Γ t) : t.isScalar = true ∨ t.isVector = true ∨ t = .mat4 := by
  have hnumeric : ∀ {u : ValueType}, u.isNumeric = true → u.isScalar = true ∨ u.isVector = true ∨ u = .mat4 :=
    fun hu => (ValueType.isScalar_or_isVector hu).imp_right .inl
  cases h with
  | zero ht | one ht => exact .inl ht
  | time | instanceIndex | negation _ => exact .inl rfl
  | slot | resolution | uv | firstThree _ _ _ | sample _ _ => exact .inr (.inl rfl)
  | part _ _ _ hcount =>
    generalize String.length _ = k at *
    match k, hcount with
    | 1, _ => exact .inl rfl
    | 2, _ | 3, _ | 4, _ => exact .inr (.inl rfl)
  | negative _ ht _ => exact hnumeric ht
  | binary hop _ _ =>
    cases hop with
    | product => exact .inr (.inr rfl)
    | transform => exact .inr (.inl rfl)
    | arithmetic _ ht => exact hnumeric ht
    | floatLeft _ ht | floatRight _ ht => exact .inr (.inl ht)
    | comparison _ _ | equality _ _ | connective _ => exact .inl rfl
  | call hf _ _ =>
    cases hf with
    | conversion _ ht => exact .inl (ValueType.isScalar_of_isNumber ht)
    | spread ht | vector ht _ _ | normalize ht | mixEvenly ht => exact .inr (.inl ht)
    | floating _ ht => exact hnumeric (ValueType.isNumeric_of_isFloating ht)
    | numeric _ ht => exact hnumeric ht
    | measure _ _ | dot _ => exact .inl rfl
    | select ht => exact ht.imp_right .inl
    | matrix | selectMatrix _ => exact .inr (.inr rfl)
  | helper hf _ _ => exact (Γ.function_result _ _ _ hf).imp_right .inl

/-! ## Conversions and constants -/

theorem HasType.numberOfBool (h : e.HasType matrices Γ .bool) (ht : t.isNumber = true) :
    (numberOfBool e t).HasType matrices Γ t := by
  have hscalar := ValueType.isScalar_of_isNumber ht
  exact .ternaryCall (.select (.inl hscalar)) (.zero hscalar) (.one hscalar) h

theorem HasType.asFloat {s : ValueType} (h : e.HasType matrices Γ s) (hs : s.isScalar = true) :
    (asFloat e s).HasType matrices Γ .float := by
  unfold Code.asFloat
  split
  · exact h
  · exact h.numberOfBool rfl
  · exact .unaryCall (.conversion hs rfl) h

theorem HasType.convert? {s : ValueType} {code : Code} (h : e.HasType matrices Γ s)
    (hcode : e.convert? s t = some code) : code.HasType matrices Γ t := by
  unfold Code.convert? at hcode
  split at hcode
  · rename_i heq
    cases hcode
    exact heq ▸ h
  · split at hcode
    case h_1 | h_2 | h_3 =>
      cases hcode
      exact h.numberOfBool rfl
    case h_4 | h_5 | h_6 | h_7 | h_8 | h_9 =>
      cases hcode
      exact .unaryCall (.conversion rfl rfl) h
    case h_10 =>
      cases hcode
      exact .binaryCall (.vector rfl (by decide) rfl) h (.zero rfl)
    case h_11 =>
      cases hcode
      exact .ternaryCall (.vector rfl (by decide) rfl) h (.zero rfl) (.one rfl)
    case h_12 =>
      cases hcode
      exact .binaryCall (.vector rfl (by decide) rfl) h (.one rfl)
    case h_13 =>
      cases hcode
      exact .firstThree h rfl (by decide)
    case h_14 =>
      split at hcode
      · rename_i hspread
        cases hcode
        rw [Bool.and_eq_true] at hspread
        exact .unaryCall (.spread hspread.1) (h.asFloat hspread.2)
      · cases hcode

end Code

theorem Session.slotCode_hasType {matrices : Bool} {Γ : Scope} (i : Nat) {t : ValueType}
    (ht : t.isScalar = true ∨ t.isVector = true ∨ t = .mat4) : (Session.slotCode i t).HasType matrices Γ t := by
  have hx : (Code.part (.slot i) "x").HasType matrices Γ .float :=
    .part (.slot i) rfl (by simp [ValueType.components]) (by decide)
  cases t with
  | float => exact hx
  | int => exact .unaryCall (.conversion (t := .int) rfl rfl) hx
  | uint => exact .unaryCall (.conversion (t := .uint) rfl rfl) hx
  | bool => exact .binary (.comparison (by decide) rfl) hx (.zero rfl)
  | vec2 => exact .part (.slot i) rfl (by simp [ValueType.components]) (by decide)
  | vec3 => exact .part (.slot i) rfl (by simp [ValueType.components]) (by decide)
  | vec4 => exact .slot i
  | mat4 => exact .ofCall .matrix (.cons (.slot _) (.cons (.slot _) (.cons (.slot _) (.cons (.slot _) .nil))))
  | invalid | texture | unknown _ => rcases ht with ht | ht | ht <;> cases ht

end SceneGraph
