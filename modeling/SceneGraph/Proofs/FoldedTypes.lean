import SceneGraph.Proofs.Folding

/-!
# Folded values and their types

An output can have a constant value, which folding computes without types, and a type, which compiling gives it. Both
follow from the same node, so baking keeps them in agreement step by step: a value has the components of its type and
whole numbers where the type says so. There are two exceptions, which functions carry on to what they make of them. A
matrix times something else is a vector to the compiler, while folding stretches the other operand over the matrix;
and folding divides integers as it divides floats.

* `Prepared.Stretched`, `Prepared.Divided`: the outputs that the exceptions are about.
* `Prepared.agrees_function`: what a function makes of operands that agree with their types.
* `Bake.node_agrees`, `Bake.nodes_agree`: what baking a node and what a run keeps.
* `Scene.baked_agrees`: the statement above, for the scenes that preparation makes.
* `Scene.shared_broken`: a quotient of integers that is no integer.
-/
set_option autoImplicit false

namespace SceneGraph

/-! ## Where values and types agree -/

namespace Prepared

/-- The output is read by a function of one or two values. -/
inductive Operand (p : Prepared) (n : Node) : Endpoint → Prop where
  | only {c : Connection} (hk : Registry.builtin.get? n.type = some .unary)
      (hc : p.scene.inputAt? n.id unaryPorts = some c) : Operand p n c.source
  | left {c : Connection} (hk : Registry.builtin.get? n.type = some .binary)
      (hc : p.scene.inputAt? n.id leftPorts = some c) : Operand p n c.source
  | right {c : Connection} (hk : Registry.builtin.get? n.type = some .binary)
      (hc : p.scene.inputAt? n.id rightPorts = some c) : Operand p n c.source

/-- The output carries a matrix: a constant one, or a product of matrices. -/
inductive Matrix (p : Prepared) : Endpoint → Prop where
  | constant {e : Endpoint} {n : Node} (hn : p.node? e.node = some n) (htype : n.type = "Mat4")
      (hport : e.port = "value") : Matrix p e
  | product {e : Endpoint} {n : Node} {c d : Connection} (hn : p.node? e.node = some n) (htype : n.type = "Multiply")
      (hport : e.port = "value") (hc : p.scene.inputAt? n.id leftPorts = some c)
      (hd : p.scene.inputAt? n.id rightPorts = some d) (hleft : Matrix p c.source) (hright : Matrix p d.source) :
      Matrix p e

/-- The output is the product of a matrix and something else, or made of one by a function that keeps the number of
components: folding stretches the other operand over all sixteen numbers of the matrix. -/
inductive Stretched (p : Prepared) : Endpoint → Prop where
  | product {e : Endpoint} {n : Node} {c d : Connection} (hn : p.node? e.node = some n) (htype : n.type = "Multiply")
      (hport : e.port = "value") (hc : p.scene.inputAt? n.id leftPorts = some c)
      (hd : p.scene.inputAt? n.id rightPorts = some d) (hleft : p.Matrix c.source) (hright : ¬p.Matrix d.source) :
      Stretched p e
  | carried {e o : Endpoint} {n : Node} (hn : p.node? e.node = some n) (hport : e.port = "value")
      (ho : p.Operand n o) (hmeasuring : CompileNode.measuring n.type = false) (h : Stretched p o) : Stretched p e

/-- The output is a quotient, or made of one by functions that keep integers. -/
inductive Divided (p : Prepared) : Endpoint → Prop where
  | quotient {e : Endpoint} {n : Node} (hn : p.node? e.node = some n) (htype : n.type = "Divide")
      (hport : e.port = "value") : Divided p e
  | carried {e o : Endpoint} {n : Node} (hn : p.node? e.node = some n) (hport : e.port = "value")
      (ho : p.Operand n o) (hkeeps : CompileNode.keepsIntegers n.type = true) (h : Divided p o) : Divided p e

/-- The numbers of an output are as its type says, apart from stretched and divided ones. -/
structure Agrees (p : Prepared) (e : Endpoint) (t : ValueType) (xs : List Float) : Prop where
  size : ¬p.Stretched e → xs.length = t.components
  stretched : p.Stretched e → t = .vec4 ∧ xs.length = 16
  matrix : p.Matrix e ↔ t = .mat4
  truth : t = .bool → xs = [0] ∨ xs = [1]
  whole : t.isIntegral = true → ¬p.Divided e → ∀ x ∈ xs, lacksFraction x = true

/-- The constant values of a map agree with the types that the rules give. -/
def AgreesOn (p : Prepared) (m : BakedMap) : Prop :=
  ∀ e xs t, m.value? e = some xs → p.HasType e t → p.Agrees e t xs

/-- An operand with its type and its numbers. -/
structure OperandValue where
  source : Endpoint
  type : ValueType
  numbers : List Float

variable {p : Prepared} {m : BakedMap} {n : Node} {e o : Endpoint} {k : NodeCompiler} {t u w : ValueType}
  {xs ys zs : List Float} {f : List Float → List Float} {g : List Float → List Float → Option (List Float)}

theorem Operand.compiler (h : p.Operand n o) :
    Registry.builtin.get? n.type = some .unary ∨ Registry.builtin.get? n.type = some .binary := by
  cases h with
  | only hk => exact .inl hk
  | left hk | right hk => exact .inr hk

theorem operand_unary (hk : Registry.builtin.get? n.type = some .unary) {c : Connection}
    (hc : p.scene.inputAt? n.id unaryPorts = some c) : p.Operand n o ↔ o = c.source := by
  constructor
  · intro h
    cases h with
    | only _ hc' =>
      cases hc.symm.trans hc'
      rfl
    | left hk' | right hk' => cases hk.symm.trans hk'
  · rintro rfl
    exact .only hk hc

theorem operand_binary (hk : Registry.builtin.get? n.type = some .binary) {c d : Connection}
    (hc : p.scene.inputAt? n.id leftPorts = some c) (hd : p.scene.inputAt? n.id rightPorts = some d) :
    p.Operand n o ↔ o = c.source ∨ o = d.source := by
  constructor
  · intro h
    cases h with
    | only hk' => cases hk.symm.trans hk'
    | left _ hc' =>
      cases hc.symm.trans hc'
      exact .inl rfl
    | right _ hd' =>
      cases hd.symm.trans hd'
      exact .inr rfl
  · rintro (rfl | rfl)
    · exact .left hk hc
    · exact .right hk hd

theorem multiply_binary (htype : n.type = "Multiply") : Registry.builtin.get? n.type = some .binary :=
  Node.compiler_of_type ("Multiply", .binary) (by decide) htype

theorem mat4_matrix (htype : n.type = "Mat4") : Registry.builtin.get? n.type = some .matrix :=
  Node.compiler_of_type ("Mat4", .matrix) (by decide) htype

/-- Only what functions of one or two values make is stretched. -/
theorem Stretched.operand (h : p.Stretched e) : ∃ n o, p.node? e.node = some n ∧ p.Operand n o := by
  cases h with
  | product hn htype _ hc => exact ⟨_, _, hn, .left (multiply_binary htype) hc⟩
  | carried hn _ ho => exact ⟨_, _, hn, ho⟩

/-- Only what functions of one or two values make is divided. -/
theorem not_divided (hn : p.node? e.node = some n) (hk : Registry.builtin.get? n.type = some k) (hunary : k ≠ .unary)
    (hbinary : k ≠ .binary) : ¬p.Divided e := by
  intro h
  cases h with
  | quotient hn' htype =>
    cases hn.symm.trans hn'
    have hdivide := Node.compiler_of_type ("Divide", .binary) (by decide) htype
    exact hbinary (Option.some.inj (hk.symm.trans hdivide))
  | carried hn' _ ho =>
    cases hn.symm.trans hn'
    rcases ho.compiler with hk' | hk'
    · exact hunary (Option.some.inj (hk.symm.trans hk'))
    · exact hbinary (Option.some.inj (hk.symm.trans hk'))

theorem Agrees.not_stretched (h : p.Agrees e t xs) (ht : t ≠ .vec4) : ¬p.Stretched e := fun hstretched =>
  ht (h.stretched hstretched).1

/-- What other nodes make agrees with their types where it has the numbers of them. -/
theorem agrees_plain (hn : p.node? e.node = some n) (hk : Registry.builtin.get? n.type = some k) (hunary : k ≠ .unary)
    (hbinary : k ≠ .binary) (hmatrix : p.Matrix e ↔ t = .mat4) (h : t.Holds xs) : p.Agrees e t xs where
  size _ := h.size
  stretched hstretched := by
    obtain ⟨n', o, hn', ho⟩ := hstretched.operand
    cases hn.symm.trans hn'
    rcases ho.compiler with hk' | hk' <;> cases hk.symm.trans hk' <;> contradiction
  matrix := hmatrix
  truth := h.truth
  whole hint _ := h.whole hint

section

variable {ops : List OperandValue} (hops : ∀ o, p.Operand n o ↔ ∃ a ∈ ops, a.source = o)
  (hagrees : ∀ a ∈ ops, p.Agrees a.source a.type a.numbers) (hfits : ∀ a ∈ ops, CompileNode.Fits n.type a.type w)

include hops hagrees hfits

theorem operand_not_matrix (ho : p.Operand n o) : ¬p.Matrix o := by
  intro h
  obtain ⟨a, ha, rfl⟩ := (hops o).1 ho
  exact (hfits a ha).matrix ((hagrees a ha).matrix.1 h)

/-- Operands that fit are no matrices, so what a function makes of them is neither a matrix nor the product of one. -/
theorem function_not_matrix (hn : p.node? e.node = some n) (ho : p.Operand n o) : ¬p.Matrix e := by
  intro h
  cases h with
  | constant hn' htype =>
    cases hn.symm.trans hn'
    rcases ho.compiler with hk | hk <;> cases hk.symm.trans (mat4_matrix htype)
  | product hn' htype _ hc hd hleft =>
    cases hn.symm.trans hn'
    exact operand_not_matrix hops hagrees hfits (.left (multiply_binary htype) hc) hleft

/-- A stretched operand would have made a stretched output, so the operands have the sizes of their types. -/
theorem function_size (hn : p.node? e.node = some n) (hport : e.port = "value")
    (hkind : CompileNode.measuring n.type = false) (hplain : ¬p.Stretched e)
    (hcount : ∃ a ∈ ops, a.type.components = w.components)
    (hlength : (∀ a ∈ ops, a.numbers.length = 1 ∨ a.numbers.length = zs.length) ∧
      ∃ a ∈ ops, a.numbers.length = zs.length) : zs.length = w.components := by
  have hsize : ∀ a ∈ ops, a.numbers.length = a.type.components := fun a ha =>
    (hagrees a ha).size fun h => hplain (.carried hn hport ((hops _).2 ⟨a, ha, rfl⟩) hkind h)
  obtain ⟨b, hb, hbcount⟩ := hcount
  obtain ⟨hall, a, ha, hacount⟩ := hlength
  have hball := hall b hb
  have haall := (hfits a ha).components
  rw [hsize b hb] at hball
  rw [hsize a ha] at hacount
  omega

/-- What a function makes of operands that agree with their types does so as well. -/
theorem agrees_function (hn : p.node? e.node = some n) (hport : e.port = "value") (hw : w.isNumeric = true)
    (hcount : ∃ a ∈ ops, a.type.components = w.components)
    (hmeasuring : CompileNode.measuring n.type = true → zs.length = 1)
    (hlength : CompileNode.measuring n.type = false →
      (∀ a ∈ ops, a.numbers.length = 1 ∨ a.numbers.length = zs.length) ∧ ∃ a ∈ ops, a.numbers.length = zs.length)
    (hwhole : CompileNode.keepsIntegers n.type = true → n.type ≠ "Divide" →
      (∀ a ∈ ops, ∀ x ∈ a.numbers, lacksFraction x = true) → ∀ z ∈ zs, lacksFraction z = true) :
    p.Agrees e (if CompileNode.measuring n.type then .float else w) zs := by
  have ⟨b, hb, _⟩ := hcount
  have hmatrix := function_not_matrix hops hagrees hfits hn ((hops _).2 ⟨b, hb, rfl⟩)
  have hnumeric : (if CompileNode.measuring n.type then ValueType.float else w).isNumeric = true := by
    split
    · rfl
    · exact hw
  refine ⟨fun hplain => ?_, fun hstretched => ?_, ⟨fun h => absurd h hmatrix, fun h => ?_⟩, fun h => ?_,
    fun hint hdivided => ?_⟩
  · split
    · exact hmeasuring ‹_›
    · rename_i hkind
      rw [Bool.not_eq_true] at hkind
      exact function_size hops hagrees hfits hn hport hkind hplain hcount (hlength hkind)
  · cases hstretched with
    | product hn' htype _ hc hd hleft =>
      cases hn.symm.trans hn'
      exact absurd hleft (operand_not_matrix hops hagrees hfits (.left (multiply_binary htype) hc))
    | carried hn' _ ho hkind hstretched =>
      cases hn.symm.trans hn'
      obtain ⟨a, ha, rfl⟩ := (hops _).1 ho
      obtain ⟨htype, hsixteen⟩ := (hagrees a ha).stretched hstretched
      have hcomponents := (hfits a ha).components
      have hnumbers := (hlength hkind).1 a ha
      rw [htype] at hcomponents
      refine ⟨?_, by omega⟩
      rw [hkind]
      exact ValueType.eq_vec4_of_isNumeric hw (hcomponents.resolve_left (by decide)).symm
  · cases hnumeric.symm.trans (congrArg ValueType.isNumeric h)
  · cases hnumeric.symm.trans (congrArg ValueType.isNumeric h)
  · split at hint
    · cases hint
    · obtain ⟨-, hkeeps⟩ := (hfits b hb).integral hint
      refine hwhole hkeeps (fun htype => hdivided (.quotient hn htype hport)) fun a ha => ?_
      refine (hagrees a ha).whole ((hfits a ha).integral hint).1 fun h => hdivided ?_
      exact .carried hn hport ((hops _).2 ⟨a, ha, rfl⟩) hkeeps h

end

theorem measuring_unary (h : Fold.unary? n.type = some f) :
    CompileNode.measuring n.type = decide (n.type = "Length") := by
  have hall : ∀ type ∈ CompileNode.unaryTypes, CompileNode.measuring type = decide (type = "Length") := by decide
  exact hall _ (Fold.unary?_mem h)

theorem resultType_binary (h : Fold.binary? n.type = some g) (t : ValueType) :
    CompileNode.resultType n.type t = if CompileNode.measuring n.type then .float else t := by
  have hall : ∀ type ∈ CompileNode.binaryTypes,
      CompileNode.measuring type = decide (type = "Dot" ∨ type = "Distance") := by decide
  rw [hall _ (Fold.binary?_mem h), CompileNode.resultType]
  simp

theorem agrees_unary (hm : p.AgreesOn m) (hn : p.node? e.node = some n)
    (hk : Registry.builtin.get? n.type = some .unary) (hf : Fold.unary? n.type = some f)
    {c : Connection} (hc : p.scene.inputAt? n.id unaryPorts = some c) (hxs : m.value? c.source = some xs)
    (ht : p.HasType e t) : p.Agrees e t (f xs) := by
  obtain ⟨hport, c', u, hc', hu, ht⟩ := ht.rule hn hk
  cases hc.symm.trans hc'
  obtain ⟨w, rfl, hw, hfits, hcount⟩ := CompileNode.unaryType?_cases ht
  have hlength := Fold.unary?_length hf xs
  have hops : ∀ o, p.Operand n o ↔ ∃ a ∈ [OperandValue.mk c.source u xs], a.source = o := by
    simp [operand_unary hk hc, eq_comm]
  have hresult := agrees_function hops (by simpa using hm _ _ _ hxs hu) (by simpa using hfits) hn hport hw
    (by simpa using hcount)
    (fun h => by rw [hlength, if_pos (by simpa [measuring_unary hf] using h)])
    (fun h => by
      have hlong : n.type ≠ "Length" := by simpa [measuring_unary hf] using h
      simp [hlength, hlong])
    (fun hkeeps _ hwhole => Fold.unary?_lacksFraction hf hkeeps (by simpa using hwhole))
  simpa [measuring_unary hf] using hresult

/-- The product of a matrix and something else has sixteen numbers, though its type is a vector. -/
theorem agrees_product (hn : p.node? e.node = some n) (hport : e.port = "value") (htype : n.type = "Multiply")
    {c d : Connection} (hc : p.scene.inputAt? n.id leftPorts = some c) (hd : p.scene.inputAt? n.id rightPorts = some d)
    (hleft : p.Agrees c.source .mat4 xs) (hright : p.Agrees d.source u ys)
    (ht : u = .mat4 ∧ t = .mat4 ∨ u ∈ [.vec4, .vec3, .float] ∧ t = .vec4)
    (hlength : xs.length = 1 ∨ xs.length = zs.length) : p.Agrees e t zs := by
  have hsixteen : zs.length = 16 := by
    have hsize := hleft.size (hleft.not_stretched (by decide))
    rw [hsize] at hlength
    exact (hlength.resolve_left (by decide)).symm
  have hmatrix := hleft.matrix.2 rfl
  rcases ht with ⟨rfl, rfl⟩ | ⟨hu, rfl⟩
  · have hplain : ¬p.Stretched e := by
      intro h
      cases h with
      | product hn' _ _ _ hd' _ hother =>
        cases hn.symm.trans hn'
        cases hd.symm.trans hd'
        exact hother (hright.matrix.2 rfl)
      | carried hn' _ ho _ hstretched =>
        cases hn.symm.trans hn'
        rcases (operand_binary (multiply_binary htype) hc hd).1 ho with rfl | rfl
        · exact hleft.not_stretched (by decide) hstretched
        · exact hright.not_stretched (by decide) hstretched
    exact {
      size := fun _ => hsixteen
      stretched := fun h => absurd h hplain
      matrix := ⟨fun _ => rfl, fun _ => .product hn htype hport hc hd hmatrix (hright.matrix.2 rfl)⟩
      truth := fun h => by cases h
      whole := fun h => by cases h }
  · have hother : ¬p.Matrix d.source := fun h => by
      rw [hright.matrix.1 h] at hu
      exact absurd hu (by decide)
    have hvector : ¬p.Matrix e := by
      intro h
      cases h with
      | constant hn' htype' =>
        cases hn.symm.trans hn'
        exact absurd (htype.symm.trans htype') (by decide)
      | product hn' _ _ _ hd' _ h =>
        cases hn.symm.trans hn'
        cases hd.symm.trans hd'
        exact hother h
    exact {
      size := fun h => absurd (.product hn htype hport hc hd hmatrix hother) h
      stretched := fun _ => ⟨rfl, hsixteen⟩
      matrix := ⟨fun h => absurd h hvector, fun h => by cases h⟩
      truth := fun h => by cases h
      whole := fun h => by cases h }

theorem agrees_binary (hm : p.AgreesOn m) (hn : p.node? e.node = some n)
    (hk : Registry.builtin.get? n.type = some .binary) (hg : Fold.binary? n.type = some g) {c d : Connection}
    (hc : p.scene.inputAt? n.id leftPorts = some c) (hd : p.scene.inputAt? n.id rightPorts = some d)
    (hxs : m.value? c.source = some xs) (hys : m.value? d.source = some ys) (hzs : g xs ys = some zs)
    (ht : p.HasType e t) : p.Agrees e t zs := by
  obtain ⟨hport, c', d', u, v, hc', hd', hu, hv, ht⟩ := ht.rule hn hk
  cases hc.symm.trans hc'
  cases hd.symm.trans hd'
  have hleft := hm _ _ _ hxs hu
  have hright := hm _ _ _ hys hv
  rcases CompileNode.binaryType?_cases ht with ⟨htype, rfl, hproduct⟩ | ⟨w, rfl, hw, hfits, hfits', hcount⟩
  · obtain ⟨h, rfl, -⟩ := Fold.binary?_broadcast hg (by rw [htype]; decide)
    exact agrees_product hn hport htype hc hd hleft hright hproduct (Fold.broadcast_length hzs).1
  · have hops : ∀ o, p.Operand n o ↔
        ∃ a ∈ [OperandValue.mk c.source u xs, ⟨d.source, v, ys⟩], a.source = o := by
      simp [operand_binary hk hc hd, eq_comm]
    rw [resultType_binary hg]
    refine agrees_function hops (by simpa using ⟨hleft, hright⟩) (by simpa using ⟨hfits, hfits'⟩) hn hport hw
      (by simpa using hcount) (fun h => Fold.binary?_measuring hg h hzs) (fun hmeasuring => ?_)
      fun hkeeps hdivide hwhole => ?_
    · obtain ⟨h, rfl, -⟩ := Fold.binary?_broadcast hg hmeasuring
      obtain ⟨hx, hy, hlength⟩ := Fold.broadcast_length hzs
      simpa using ⟨⟨hx, hy⟩, hlength⟩
    · obtain ⟨h, rfl, hh⟩ := Fold.binary?_broadcast hg (CompileNode.measuring_of_keepsIntegers hkeeps)
      intro z hz
      obtain ⟨x, hx, y, hy, rfl⟩ := Fold.broadcast_mem hzs hz
      simp only [List.forall_mem_cons] at hwhole
      exact hh hkeeps hdivide x y (hwhole.1 x hx) (hwhole.2.1 y hy)

theorem not_matrix (hn : p.node? e.node = some n) (hk : Registry.builtin.get? n.type = some k) (hmatrix : k ≠ .matrix)
    (hbinary : k ≠ .binary) : ¬p.Matrix e := by
  intro h
  cases h with
  | constant hn' htype =>
    cases hn.symm.trans hn'
    exact hmatrix (Option.some.inj (hk.symm.trans (mat4_matrix htype)))
  | product hn' htype =>
    cases hn.symm.trans hn'
    exact hbinary (Option.some.inj (hk.symm.trans (multiply_binary htype)))

theorem agrees_constant (hn : p.node? e.node = some n) (hk : Registry.builtin.get? n.type = some k)
    (ht : k.constant? = some (e.port, t)) (h : t.Holds xs) : p.Agrees e t xs := by
  refine agrees_plain hn hk (by rintro rfl; cases ht) (by rintro rfl; cases ht) ⟨fun hmatrix => ?_, ?_⟩ h
  · by_cases hkind : k = .matrix
    · subst hkind
      exact (Prod.mk.inj (Option.some.inj ht)).2.symm
    · exact absurd hmatrix (not_matrix hn hk hkind (by rintro rfl; cases ht))
  · rintro rfl
    obtain ⟨htype, hport⟩ := Registry.builtin_matrix hk ht
    exact .constant hn htype hport

/-- A vector put together from components has the numbers of its type. -/
theorem agrees_combined (hn : p.node? e.node = some n) (hk : Registry.builtin.get? n.type = some .combine)
    (h : xs.length = CompileNode.combinedSize n) : p.Agrees e (.vector (CompileNode.combinedSize n)) xs := by
  have hmatrix := not_matrix hn hk (by decide) (by decide)
  rcases CompileNode.combinedSize_cases n with hsize | hsize | hsize <;> rw [hsize] at h ⊢
  all_goals exact agrees_plain hn hk (by decide) (by decide) ⟨fun h => absurd h hmatrix, nofun⟩ ⟨h, nofun, nofun⟩

/-- A component of a vector is a single number. -/
theorem agrees_component (hn : p.node? e.node = some n) (hk : Registry.builtin.get? n.type = some .split)
    (ht : p.HasType e t) (x : Float) : p.Agrees e t [x] := by
  obtain ⟨-, rfl⟩ := ht.rule hn hk
  have hmatrix := not_matrix hn hk (by decide) (by decide)
  exact agrees_plain hn hk (by decide) (by decide) ⟨fun h => absurd h hmatrix, nofun⟩ ⟨rfl, nofun, nofun⟩

theorem agrees_folded (hm : p.AgreesOn m) (hn : p.node? e.node = some n) (h : Bake.Folded p.scene m n e.port xs)
    (ht : p.HasType e t) : p.Agrees e t xs := by
  generalize hport : e.port = port at h
  cases h with
  | constant hk hconstant h =>
    subst hport
    cases (ht.rule hn hk).constant hconstant
    exact agrees_constant hn hk hconstant h
  | split hk =>
    have hcomponent := (ht.rule hn hk).1
    rw [hport] at hcomponent
    exact absurd hcomponent (by decide)
  | combine hk h =>
    obtain ⟨-, rfl⟩ := ht.rule hn hk
    exact agrees_combined hn hk h
  | unary hk hf hc hxs => exact agrees_unary hm hn hk hf hc hxs ht
  | binary hk hg hc hd hxs hys hzs => exact agrees_binary hm hn hk hg hc hd hxs hys hzs ht

end Prepared

/-! ## Baking -/

namespace BakedMap

variable {m : BakedMap} {id : String} {e : Endpoint} {xs : List Float}

theorem value?_put {port : String} {b : Baked} (h : (m.put id port b).value? e = some xs) :
    m.value? e = some xs ∨ e.node = id ∧ e.port = port ∧ b = .value xs := by
  unfold value? at h ⊢
  rw [get?_put] at h
  split_ifs at h with hkey
  · simp only [BakeKey.mk.injEq] at hkey
    cases b with
    | value ys =>
      cases h
      exact .inr ⟨hkey.1, hkey.2.1, rfl⟩
    | mesh | instances | pixels => cases hkey.2.2
  · exact .inl h

theorem value?_putAll {writes : List (String × Baked)} (h : (m.putAll id writes).value? e = some xs) :
    m.value? e = some xs ∨ e.node = id ∧ (e.port, .value xs) ∈ writes := by
  induction writes generalizing m with
  | nil => exact .inl h
  | cons w rest ih =>
    rcases ih h with hput | ⟨hnode, hmem⟩
    · rcases value?_put hput with hold | ⟨hnode, hport, hvalue⟩
      · exact .inl hold
      · exact .inr ⟨hnode, by rw [hport, ← hvalue]; exact List.mem_cons_self⟩
    · exact .inr ⟨hnode, List.mem_cons_of_mem _ hmem⟩

end BakedMap

namespace Bake

variable {face : Text.Face} {p : Prepared} {s : Scene} {m next : BakedMap} {n : Node} {order : List String}
  {e : Endpoint} {xs : List Float}

/-- What baking a constant puts there is its folded value, or a component of a vector. -/
theorem value_cases (h : (value s m n).value? e = some xs) : m.value? e = some xs ∨ e.node = n.id ∧
    (fold s m n = some (e.port, xs) ∨ n.type = "Split" ∧ ∃ x, xs = [x]) := by
  rw [value_eq_putAll] at h
  rcases BakedMap.value?_putAll h with hold | ⟨hnode, hmem⟩
  · exact .inl hold
  · refine .inr ⟨hnode, ?_⟩
    cases hfold : fold s m n with
    | none =>
      rw [hfold] at hmem
      cases hmem
    | some found =>
      obtain ⟨port, ys⟩ := found
      rw [hfold] at hmem
      dsimp only at hmem
      rcases List.mem_cons.1 hmem with hvalue | hcomponent
      · cases hvalue
        exact .inl rfl
      · split_ifs at hcomponent with hsplit
        · obtain ⟨c, -, hc⟩ := List.mem_map.1 hcomponent
          obtain ⟨-, hsingle⟩ := Prod.mk.inj hc
          exact .inr ⟨hsplit, _, (Baked.value.inj hsingle).symm⟩
        · cases hcomponent

/-- The nodes that can be compiled bake to their constant values, or to pixels. -/
theorem node_cases {k : NodeCompiler} (hk : Registry.builtin.get? n.type = some k) (h : node face s m n = .ok next)
    (hxs : next.value? e = some xs) : m.value? e = some xs ∨ (value s m n).value? e = some xs := by
  have hshapes : ∀ type ∈ ["Rect", "Circle", "Transform2D", "Instances"], Registry.builtin.get? type = none := by
    rw [Registry.builtin_eq]
    decide +kernel
  have hother : n.type ∉ ["Rect", "Circle", "Transform2D", "Instances"] := fun hmem => by
    cases hk.symm.trans (hshapes _ hmem)
  simp only [List.mem_cons, List.not_mem_nil, or_false, not_or] at hother
  unfold node at h
  split at h
  · exact absurd ‹_› hother.1
  · exact absurd ‹_› hother.2.1
  · exact absurd ‹_› hother.2.2.1
  · exact absurd ‹_› hother.2.2.2
  · unfold text at h
    split at h
    · cases h
      rcases BakedMap.value?_put hxs with hold | ⟨-, -, hpixels⟩
      · exact .inl hold
      · cases hpixels
    · cases h
  · cases h
    exact .inr hxs

/-- Baking a node keeps the agreement: its own outputs get values that agree, and all others keep theirs. -/
theorem node_agrees (hm : p.AgreesOn m) (hn : p.node? n.id = some n) (hconforms : Schema.builtin.Conforms n)
    (h : node face p.scene m n = .ok next) : p.AgreesOn next := by
  intro e xs t hxs ht
  by_cases hid : e.node = n.id
  · obtain ⟨n', k, hn', hk⟩ := ht.compiler
    have hself : p.node? e.node = some n := hid ▸ hn
    cases hself.symm.trans hn'
    rcases node_cases hk h hxs with hold | hvalue
    · exact hm e xs t hold ht
    · rcases value_cases hvalue with hold | ⟨-, hfold | ⟨hsplit, x, rfl⟩⟩
      · exact hm e xs t hold ht
      · exact Prepared.agrees_folded hm hself (fold_cases hconforms hfold) ht
      · have hsplits := Node.compiler_of_type ("Split", .split) (by decide) hsplit
        exact Prepared.agrees_component hself hsplits ht x
  · exact hm e xs t ((node_elsewhere h hid).value? ▸ hxs) ht

theorem nodes_agree (hconforms : ∀ n ∈ p.scene.nodes, Schema.builtin.Conforms n) (hm : p.AgreesOn m)
    (h : nodes face p.scene order m = .ok next) : p.AgreesOn next := by
  induction order generalizing m with
  | nil =>
    cases h
    exact hm
  | cons id rest ih =>
    cases hn : p.scene.indexed? id with
    | none => exact ih hm (nodes_missing hn ▸ h)
    | some n =>
      obtain ⟨between, hnode, hrest⟩ := (nodes_found_ok hn).1 h
      exact ih (node_agrees hm (Prepared.node?_self hn) (hconforms n (Scene.indexed?_eq_some hn).2) hnode) hrest

end Bake

/-- The constant value of a compiled output has the components of its type exactly if it is not stretched; it is a
truth value or a whole number where its type says so, and in the latter case it is not made of a quotient. -/
theorem Scene.baked_agrees {scene valid : Scene} {options : PrepareOptions} {accepts : String → Bool} {p : Prepared}
    {s u : Session} {e : Endpoint} {x : ShaderExpr} {xs : List Float}
    (hvalid : Schema.builtin.validate scene = .ok valid)
    (hp : (valid.prepare Schema.builtin options).outcome.1 = .ok p)
    (hs : ({ prepared := p, accepts } : ExprContext).Arises s)
    (hx : Yields (({ prepared := p, accepts } : ExprContext).compile e) s x u)
    (hxs : p.baked.value? e = some xs) :
    (xs.length = x.type.components ↔ ¬p.Stretched e) ∧ (x.type = .bool → xs = [0] ∨ xs = [1]) ∧
      (x.type = .int ∨ x.type = .uint → ¬p.Divided e → ∀ y ∈ xs, y.isFinite = true → isWhole y = true) := by
  obtain ⟨expanded, inlined, wrapped, hfrom⟩ := Scene.prepare_eq_ok hp
  have hempty : p.AgreesOn [] := fun e xs t h => by cases h
  have hbaked := Bake.nodes_agree (hfrom.readied.conforms Schema.builtin_sound hvalid) hempty hfrom.baked
  have hagrees := hbaked e xs x.type hxs (ExprContext.compile_hasType hs hx)
  refine ⟨⟨fun hsize hstretched => ?_, hagrees.size⟩, hagrees.truth, fun hint hdivided y hy hfinite => ?_⟩
  · obtain ⟨htype, hsixteen⟩ := hagrees.stretched hstretched
    rw [htype, hsixteen] at hsize
    exact absurd hsize (by decide)
  · exact isWhole_of_isFinite hfinite (hagrees.whole (by rcases hint with h | h <;> rw [h] <;> rfl) hdivided y hy)

/-- The rest of a division of integers, and a matrix times a float. -/
def Scene.summed : Scene where
  nodes := [{ id := "screen", type := "Screen" }, { id := "rp", type := "RenderPass" },
    { id := "seven", type := "Int", params := [("value", .num 7)] },
    { id := "two", type := "Int", params := [("value", .num 2)] }, { id := "rest", type := "Mod" },
    { id := "half", type := "Float", params := [("value", .num 0.5)] }, { id := "sum", type := "Add" },
    { id := "matrix", type := "Mat4" }, { id := "scaled", type := "Multiply" }]
  connections := [{ id := "c0", source := ⟨"seven", "value"⟩, target := ⟨"rest", "a"⟩ },
    { id := "c1", source := ⟨"two", "value"⟩, target := ⟨"rest", "b"⟩ },
    { id := "c2", source := ⟨"rest", "value"⟩, target := ⟨"sum", "a"⟩ },
    { id := "c3", source := ⟨"half", "value"⟩, target := ⟨"sum", "b"⟩ },
    { id := "c4", source := ⟨"matrix", "value"⟩, target := ⟨"scaled", "a"⟩ },
    { id := "c5", source := ⟨"sum", "value"⟩, target := ⟨"scaled", "b"⟩ },
    { id := "c6", source := ⟨"scaled", "value"⟩, target := ⟨"rp", "color"⟩ },
    { id := "c7", source := ⟨"rp", "pass"⟩, target := ⟨"screen", "pass"⟩ }]
  outputs := [("main", "screen")]

theorem Scene.summed_checks : (Schema.builtin.validate Scene.summed).toOption.any (fun valid =>
    (valid.prepare Schema.builtin {}).outcome.1.toOption.any fun p =>
      let c : ExprContext := { prepared := p }
      let scaled := (c.compile ⟨"scaled", "value"⟩).run.run {}
      scaled.1.toOption.any fun x => ((c.compile ⟨"rest", "value"⟩).run.run scaled.2).1.toOption.any fun y =>
        (p.baked.value? ⟨"scaled", "value"⟩).any fun xs => (p.baked.value? ⟨"rest", "value"⟩).any fun ys =>
          decide (x.type = .vec4 ∧ xs.length = 16 ∧ y.type = .int ∧ ys.length = 1) &&
          (p.node? "rest").any (fun n => n.type == "Mod" &&
            (p.scene.inputAt? n.id leftPorts).any (fun c => c.source == ⟨"seven", "value"⟩) &&
            (p.scene.inputAt? n.id rightPorts).any fun c => c.source == ⟨"two", "value"⟩) &&
          ["seven", "two"].all fun id => (p.node? id).any fun n => n.type == "Int") = true := by
  rw [Schema.builtin_eq, Registry.builtin_eq]
  decide +kernel

/-- The rest is a whole number, as its type says; the product has sixteen numbers, though its type has four. -/
theorem Scene.summed_agrees : ∃ valid p s u v x y xs ys, Schema.builtin.validate Scene.summed = .ok valid ∧
    (valid.prepare Schema.builtin {}).outcome.1 = .ok p ∧ ({ prepared := p } : ExprContext).Arises s ∧
    Yields (({ prepared := p } : ExprContext).compile ⟨"scaled", "value"⟩) {} x u ∧
    Yields (({ prepared := p } : ExprContext).compile ⟨"rest", "value"⟩) s y v ∧
    p.baked.value? ⟨"scaled", "value"⟩ = some xs ∧ p.baked.value? ⟨"rest", "value"⟩ = some ys ∧
    x.type = .vec4 ∧ xs.length = 16 ∧ p.Stretched ⟨"scaled", "value"⟩ ∧ y.type = .int ∧ ys.length = 1 ∧
    ¬p.Stretched ⟨"rest", "value"⟩ ∧ ∀ z ∈ ys, z.isFinite = true → isWhole z = true := by
  obtain ⟨valid, hvalid, hchecks⟩ := Option.any_eq_true _ _ |>.1 Scene.summed_checks
  obtain ⟨p, hp, hchecks⟩ := Option.any_eq_true _ _ |>.1 hchecks
  obtain ⟨x, hx, hchecks⟩ := Option.any_eq_true _ _ |>.1 hchecks
  obtain ⟨y, hy, hchecks⟩ := Option.any_eq_true _ _ |>.1 hchecks
  obtain ⟨xs, hxs, hchecks⟩ := Option.any_eq_true _ _ |>.1 hchecks
  obtain ⟨ys, hys, hchecks⟩ := Option.any_eq_true _ _ |>.1 hchecks
  simp only [Bool.and_eq_true, decide_eq_true_eq, Option.any_eq_true, beq_iff_eq, List.all_cons, List.all_nil,
    and_true] at hchecks
  obtain ⟨⟨⟨hvec, hsixteen, hint, hone⟩, n, hn, ⟨htype, c, hc, hleft⟩, d, hd, hright⟩, ⟨k, hk, hkint⟩, l, hl, hlint⟩ :=
    hchecks
  have hinteger : ∀ {id : String} {n : Node}, p.node? id = some n → n.type = "Int" → ¬p.Divided ⟨id, "value"⟩ :=
    fun hn htype => Prepared.not_divided hn
      (Node.compiler_of_type ("Int", .scalar .int) (by decide) htype) (by decide) (by decide)
  have hdivided : ¬p.Divided ⟨"rest", "value"⟩ := by
    intro h
    cases h with
    | quotient hn' htype' =>
      cases hn.symm.trans hn'
      exact absurd (htype.symm.trans htype') (by decide)
    | carried hn' _ ho _ h =>
      cases hn.symm.trans hn'
      have hbinary := Node.compiler_of_type ("Mod", .binary) (by decide) htype
      rcases (Prepared.operand_binary hbinary hc hd).1 ho with rfl | rfl
      · exact hinteger hk hkint (hleft ▸ h)
      · exact hinteger hl hlint (hright ▸ h)
  have hvalid := eq_ok_of_toOption hvalid
  have hp := eq_ok_of_toOption hp
  have hx := yields_run (eq_ok_of_toOption hx)
  have hy := yields_run (eq_ok_of_toOption hy)
  have harises := ExprContext.Arises.start (c := { prepared := p })
  have hproduct := Scene.baked_agrees hvalid hp harises hx hxs
  have hrest := Scene.baked_agrees hvalid hp (harises.compile _) hy hys
  refine ⟨valid, p, _, _, _, x, y, xs, ys, hvalid, hp, harises.compile _, hx, hy, hxs, hys, hvec, hsixteen, ?_, hint,
    hone, hrest.1.1 (by rw [hint, hone]; rfl), hrest.2.2 (.inl hint) hdivided⟩
  by_contra h
  have hsize := hproduct.1.2 h
  rw [hvec, hsixteen] at hsize
  exact absurd hsize (by decide)

/-- Two integers, one divided by the other. -/
def Scene.shared : Scene where
  nodes := [{ id := "screen", type := "Screen" }, { id := "rp", type := "RenderPass" },
    { id := "seven", type := "Int", params := [("value", .num 7)] },
    { id := "two", type := "Int", params := [("value", .num 2)] }, { id := "share", type := "Divide" }]
  connections := [{ id := "c0", source := ⟨"seven", "value"⟩, target := ⟨"share", "a"⟩ },
    { id := "c1", source := ⟨"two", "value"⟩, target := ⟨"share", "b"⟩ },
    { id := "c2", source := ⟨"share", "value"⟩, target := ⟨"rp", "color"⟩ },
    { id := "c3", source := ⟨"rp", "pass"⟩, target := ⟨"screen", "pass"⟩ }]
  outputs := [("main", "screen")]

theorem Scene.shared_checks : (Schema.builtin.validate Scene.shared).toOption.any (fun valid =>
    (valid.prepare Schema.builtin {}).outcome.1.toOption.any fun p =>
      ((({ prepared := p } : ExprContext).compile ⟨"share", "value"⟩).run.run {}).1.toOption.any fun x =>
        (p.baked.value? ⟨"share", "value"⟩).any fun xs =>
          decide (x.type = .int) && xs.any fun y => y.isFinite && !isWhole y) = true := by
  rw [Schema.builtin_eq, Registry.builtin_eq]
  decide +kernel

/-- The quotient compiles to an integer, and its constant value is none. -/
theorem Scene.shared_broken : ∃ valid p x u xs, Schema.builtin.validate Scene.shared = .ok valid ∧
    (valid.prepare Schema.builtin {}).outcome.1 = .ok p ∧
    Yields (({ prepared := p } : ExprContext).compile ⟨"share", "value"⟩) {} x u ∧ x.type = .int ∧
    p.baked.value? ⟨"share", "value"⟩ = some xs ∧ ∃ y ∈ xs, y.isFinite = true ∧ isWhole y = false := by
  obtain ⟨valid, hvalid, hchecks⟩ := Option.any_eq_true _ _ |>.1 Scene.shared_checks
  obtain ⟨p, hp, hchecks⟩ := Option.any_eq_true _ _ |>.1 hchecks
  obtain ⟨x, hx, hchecks⟩ := Option.any_eq_true _ _ |>.1 hchecks
  obtain ⟨xs, hxs, hchecks⟩ := Option.any_eq_true _ _ |>.1 hchecks
  simp only [Bool.and_eq_true, decide_eq_true_eq, List.any_eq_true, Bool.not_eq_true'] at hchecks
  exact ⟨valid, p, x, _, xs, eq_ok_of_toOption hvalid, eq_ok_of_toOption hp, yields_run (eq_ok_of_toOption hx),
    hchecks.1, hxs, hchecks.2⟩

end SceneGraph
