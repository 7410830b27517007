import SceneGraph.Proofs.Confluence
import SceneGraph.Proofs.OutputTypes
import SceneGraph.Proofs.WholeNumbers

/-!
# Folding

What folding makes of a node, by the compiler of its type: a constant has the numbers of its type, a vector the
components that are put together, and functions keep lengths and whole numbers as far as they do.

* `ValueType.Holds`: the numbers of a value of a type.
* `Fold.unary?_lacksFraction`, `Fold.binary?_broadcast`: what functions make of whole numbers.
* `Node.constant_numbers`: a constant that conforms to the schema holds the numbers of its type.
* `Bake.fold_cases`: the constant value of a node, by its compiler.
-/
set_option autoImplicit false

namespace SceneGraph

/-- The numbers can be those of a value of the type. -/
structure ValueType.Holds (t : ValueType) (xs : List Float) : Prop where
  size : xs.length = t.components
  truth : t = .bool → xs = [0] ∨ xs = [1]
  whole : t.isIntegral = true → ∀ x ∈ xs, lacksFraction x = true

/-! ## Functions -/

namespace CompileNode

/-- The functions that make a single number of vectors. -/
def measuring (type : String) : Bool := ["Length", "Dot", "Distance"].contains type

theorem measuring_of_keepsIntegers {type : String} (h : keepsIntegers type = true) : measuring type = false := by
  have hall : ∀ type ∈ ["Abs", "Negate", "Add", "Subtract", "Multiply", "Divide", "Mod", "Min", "Max"],
      measuring type = false := by decide
  exact hall type (List.contains_iff_mem.1 h)

end CompileNode

namespace Fold

open CompileNode Elementary

variable {type : String} {f : List Float → List Float} {g : List Float → List Float → Option (List Float)}
  {h : Float → Float → Float} {xs ys zs : List Float}

/-- An operand has as many components as the result, or a single one. -/
theorem broadcast_length (hbroadcast : broadcast h xs ys = some zs) : (xs.length = 1 ∨ xs.length = zs.length) ∧
    (ys.length = 1 ∨ ys.length = zs.length) ∧ (xs.length = zs.length ∨ ys.length = zs.length) := by
  unfold broadcast at hbroadcast
  split at hbroadcast
  · split_ifs at hbroadcast
    cases hbroadcast
    simp
  · split_ifs at hbroadcast
    cases hbroadcast
    simp
  · split_ifs at hbroadcast with hlength
    cases hbroadcast
    simp [hlength]

/-- Every component of the result is made of a component of each operand. -/
theorem broadcast_mem (hbroadcast : broadcast h xs ys = some zs) {z : Float} (hz : z ∈ zs) :
    ∃ x ∈ xs, ∃ y ∈ ys, z = h x y := by
  unfold broadcast at hbroadcast
  split at hbroadcast
  · split_ifs at hbroadcast
    cases hbroadcast
    obtain ⟨y, hy, rfl⟩ := List.mem_map.1 hz
    exact ⟨_, by simp, y, hy, rfl⟩
  · split_ifs at hbroadcast
    cases hbroadcast
    obtain ⟨x, hx, rfl⟩ := List.mem_map.1 hz
    exact ⟨x, hx, _, by simp, rfl⟩
  · split_ifs at hbroadcast with hlength
    cases hbroadcast
    obtain ⟨i, hi, rfl⟩ := List.mem_iff_getElem.1 hz
    rw [List.length_zipWith] at hi
    exact ⟨xs[i], List.getElem_mem _, ys[i], List.getElem_mem _, List.getElem_zipWith⟩

theorem unary?_length (hf : unary? type = some f) (xs : List Float) :
    (f xs).length = if type = "Length" then 1 else xs.length := by
  unfold unary? at hf
  split at hf <;> cases hf <;> simp

theorem unary?_mem (hf : unary? type = some f) : type ∈ unaryTypes := by
  unfold unary? at hf
  split at hf <;> first | cases hf; done | decide

theorem binary?_mem (hg : binary? type = some g) : type ∈ binaryTypes := by
  unfold binary? at hg
  split at hg <;> first | cases hg; done | decide

/-- A function of one value that keeps integers makes whole numbers of whole numbers. -/
theorem unary?_lacksFraction (hf : unary? type = some f) (hkeeps : keepsIntegers type = true)
    (hxs : ∀ x ∈ xs, lacksFraction x = true) : ∀ y ∈ f xs, lacksFraction y = true := by
  have hmap : ∀ h : Float → Float, (∀ x, lacksFraction x = true → lacksFraction (h x) = true) →
      ∀ y ∈ xs.map h, lacksFraction y = true := fun h hh y hy => by
    obtain ⟨x, hx, rfl⟩ := List.mem_map.1 hy
    exact hh x (hxs x hx)
  unfold unary? at hf
  split at hf <;> cases hf
  case h_4 => exact hmap _ fun x => lacksFraction_magnitude
  case h_11 => exact hmap _ fun x => lacksFraction_neg
  all_goals cases hkeeps

/-- A function of two values that makes no single number of them works on every component; one that keeps integers
makes whole numbers of whole numbers, unless it divides. -/
theorem binary?_broadcast (hg : binary? type = some g) (hmeasuring : measuring type = false) :
    ∃ h, g = broadcast h ∧ (keepsIntegers type = true → type ≠ "Divide" → ∀ x y, lacksFraction x = true →
      lacksFraction y = true → lacksFraction (h x y) = true) := by
  unfold binary? at hg
  split at hg <;> cases hg
  case h_1 => exact ⟨_, rfl, fun _ _ _ _ => lacksFraction_add⟩
  case h_2 => exact ⟨_, rfl, fun _ _ _ _ => lacksFraction_sub⟩
  case h_3 => exact ⟨_, rfl, fun _ _ _ _ => lacksFraction_mul⟩
  case h_4 => exact ⟨_, rfl, fun _ h => absurd rfl h⟩
  case h_5 => exact ⟨_, rfl, fun _ _ _ _ => lacksFraction_minimum⟩
  case h_6 => exact ⟨_, rfl, fun _ _ _ _ => lacksFraction_maximum⟩
  case h_8 => exact ⟨_, rfl, fun _ _ _ _ => lacksFraction_modulo⟩
  case h_11 => cases hmeasuring
  case h_12 => cases hmeasuring
  all_goals exact ⟨_, rfl, fun hkeeps => by cases hkeeps⟩

theorem binary?_measuring (hg : binary? type = some g) (hmeasuring : measuring type = true) (hzs : g xs ys = some zs) :
    zs.length = 1 := by
  unfold binary? at hg
  split at hg <;> cases hg
  case h_11 =>
    dsimp only at hzs
    split_ifs at hzs
    cases hzs
    rfl
  case h_12 =>
    obtain ⟨d, -, rfl⟩ := Option.map_eq_some_iff.1 hzs
    rfl
  all_goals cases hmeasuring

end Fold

/-! ## Constants -/

/-- The parameter takes the numbers of a type, and so does its default. -/
def ParamSpec.takes (p : ParamSpec) (t : ValueType) : Bool :=
  (match p.type with
    | .float | .bool => t.components == 1 && !t.isIntegral
    | .int => t.components == 1
    | .color => t == .vec4
    | .vec2 | .vec3 | .vec4 | .mat4 => p.length == t.components && decide (0 < p.length) && !t.isIntegral
    | _ => false) &&
  p.default.all fun v => v.toFloats?.any fun xs => xs.length == t.components && xs.all lacksFraction

theorem Schema.builtin_takes : Registry.builtin.all (fun e => e.2.constant?.all fun r => r.2 == .bool ||
    ((builtin.nodeType? e.1).bind fun t => t.params.get? "value").any fun p => p.takes r.2) = true := by
  rw [Schema.builtin_eq, Registry.builtin_eq]
  decide +kernel

theorem Value.Colored.length_eq {v : Value} {channels : List Float} (h : v.Colored channels) : channels.length = 4 := by
  cases h <;> rfl

theorem Value.toFloats?_numbers (xs : List Float) : (Value.list (xs.map .num)).toFloats? = some xs := by
  simp only [toFloats?]
  induction xs with
  | nil => rfl
  | cons x xs ih => simp [List.mapM_cons, ih, toFloat?]

/-- A normal form of a parameter that takes the numbers of a type has these numbers, one case for each kind of form. -/
theorem ParamSpec.Normal.numbers {p : ParamSpec} {v : Value} (h : p.Normal v v) {t : ValueType}
    (htakes : p.takes t = true)
    {xs : List Float} (hxs : v.toFloats? = some xs) :
    xs.length = t.components ∧ (t.isIntegral = true → ∀ x ∈ xs, lacksFraction x = true) := by
  simp only [ParamSpec.takes, Bool.and_eq_true] at htakes
  obtain ⟨htype, -⟩ := htakes
  cases h with
  | number hwhole =>
    cases hxs
    rcases hwhole with hfloat | ⟨hint | huint, hwhole⟩
    · simp only [hfloat, Bool.and_eq_true, beq_iff_eq, Bool.not_eq_true'] at htype
      exact ⟨htype.1.symm, fun h => by cases h.symm.trans htype.2⟩
    · simp only [hint, beq_iff_eq] at htype
      exact ⟨htype.symm, fun _ => by simpa using lacksFraction_of_isWhole hwhole⟩
    · simp [huint] at htype
  | bool h =>
    cases hxs
    simp only [h, Bool.and_eq_true, beq_iff_eq, Bool.not_eq_true'] at htype
    exact ⟨htype.1.symm, fun h => by cases h.symm.trans htype.2⟩
  | text h | choice h | other h => simp [h] at htype
  | color h hcolor =>
    cases (Value.toFloats?_numbers _).symm.trans hxs
    simp only [h, beq_iff_eq] at htype
    subst htype
    exact ⟨hcolor.length_eq, fun h => by cases h⟩
  | vector h hlength =>
    cases (Value.toFloats?_numbers _).symm.trans hxs
    have htype : (p.length == t.components && decide (0 < p.length) && !t.isIntegral) = true := by
      simp only [List.mem_cons, List.not_mem_nil, or_false] at h
      rcases h with h | h | h | h <;> simpa [h] using htype
    simp only [Bool.and_eq_true, beq_iff_eq, decide_eq_true_eq, Bool.not_eq_true'] at htype
    have hsize := hlength htype.1.2
    exact ⟨by omega, fun h => by cases h.symm.trans htype.2⟩

theorem Node.constant_numbers {n : Node} (hn : Schema.builtin.Conforms n) {k : NodeCompiler} {port : String}
    {t : ValueType} (hk : Registry.builtin.get? n.type = some k) (ht : k.constant? = some (port, t)) (hbool : t ≠ .bool)
    {xs : List Float} (hxs : n.floats? "value" = some xs) : t.Holds xs := by
  suffices h : xs.length = t.components ∧ (t.isIntegral = true → ∀ x ∈ xs, lacksFraction x = true) from
    ⟨h.1, fun htruth => absurd htruth hbool, h.2⟩
  have htakes := List.all_eq_true.1 Schema.builtin_takes _ (Table.mem_of_get? hk)
  simp only [ht, Option.all_some, Bool.or_eq_true, beq_iff_eq, hbool, false_or, Option.any_eq_true,
    Option.bind_eq_some_iff] at htakes
  obtain ⟨p, ⟨d, hd, hp⟩, htakes⟩ := htakes
  unfold floats? param at hxs
  cases hv : n.params.get? "value" with
  | none =>
    rw [hv] at hxs
    cases hxs
  | some v =>
    rw [hv] at hxs
    have hsource : "value" ∉ Images.sourceKeys := by decide
    rcases hn d hd _ (Table.mem_of_get? hv) hsource p hp with hnormal | hsame
    · exact hnormal.numbers htakes hxs
    · simp only [ParamSpec.takes, Bool.and_eq_true] at htakes
      obtain ⟨-, hdefault⟩ := htakes
      simp only [hsame, Option.all_some, Option.any_eq_true, Bool.and_eq_true, beq_iff_eq, List.all_eq_true] at hdefault
      obtain ⟨ys, hys, hsize, hwhole⟩ := hdefault
      cases hys.symm.trans hxs
      exact ⟨hsize, fun _ => hwhole⟩

/-! ## Folding a node -/

/-- The compilers of the node types that have constant values. -/
def foldingCompilers : List (String × NodeCompiler) :=
  ([("Float", .scalar .float), ("Int", .scalar .int), ("Bool", .scalar .bool), ("Vec2", .vector .vec2),
    ("Vec3", .vector .vec3), ("Vec4", .vector .vec4), ("Color", .color), ("Mat4", .matrix), ("Split", .split),
    ("Combine", .combine)] : List (String × NodeCompiler)) ++
  CompileNode.unaryTypes.map (fun type => (type, NodeCompiler.unary)) ++
  CompileNode.binaryTypes.map fun type => (type, NodeCompiler.binary)

theorem Registry.builtin_folding : ∀ e ∈ foldingCompilers, builtin.get? e.1 = some e.2 := by
  rw [Registry.builtin_eq]
  decide +kernel

theorem Node.compiler_of_type {n : Node} (e : String × NodeCompiler) (he : e ∈ foldingCompilers) (h : n.type = e.1) :
    Registry.builtin.get? n.type = some e.2 :=
  h ▸ Registry.builtin_folding e he

theorem Registry.builtin_matrix {type port : String} {k : NodeCompiler} (hk : builtin.get? type = some k)
    (ht : k.constant? = some (port, .mat4)) : type = "Mat4" ∧ port = "value" := by
  have hall : builtin.all (fun e => e.2.constant?.all fun r =>
      r.2 != .mat4 || e.1 == "Mat4" && r.1 == "value") = true := by
    rw [builtin_eq]
    decide +kernel
  simpa [ht] using List.all_eq_true.1 hall _ (Table.mem_of_get? hk)

theorem CompileNode.combinedSize_cases (n : Node) : combinedSize n = 2 ∨ combinedSize n = 3 ∨ combinedSize n = 4 := by
  unfold combinedSize
  omega

namespace Bake

variable {s : Scene} {m : BakedMap} {n : Node} {port : String} {xs : List Float}

/-- The constant value of a node, by its compiler. -/
inductive Folded (s : Scene) (m : BakedMap) (n : Node) : String → List Float → Prop where
  | constant {k : NodeCompiler} {port : String} {t : ValueType} {xs : List Float}
      (hk : Registry.builtin.get? n.type = some k) (ht : k.constant? = some (port, t)) (h : t.Holds xs) :
      Folded s m n port xs
  | split {xs : List Float} (hk : Registry.builtin.get? n.type = some .split) : Folded s m n "value" xs
  | combine {xs : List Float} (hk : Registry.builtin.get? n.type = some .combine)
      (h : xs.length = CompileNode.combinedSize n) : Folded s m n "value" xs
  | unary {f : List Float → List Float} {c : Connection} {xs : List Float}
      (hk : Registry.builtin.get? n.type = some .unary) (hf : Fold.unary? n.type = some f)
      (hc : s.inputAt? n.id unaryPorts = some c) (hxs : m.value? c.source = some xs) : Folded s m n "value" (f xs)
  | binary {g : List Float → List Float → Option (List Float)} {c d : Connection} {xs ys zs : List Float}
      (hk : Registry.builtin.get? n.type = some .binary) (hg : Fold.binary? n.type = some g)
      (hc : s.inputAt? n.id leftPorts = some c) (hd : s.inputAt? n.id rightPorts = some d)
      (hxs : m.value? c.source = some xs) (hys : m.value? d.source = some ys) (hzs : g xs ys = some zs) :
      Folded s m n "value" zs

theorem replaceComponents_length {id : String} {names : List String} {ys : List Float}
    (h : replaceComponents s m id names xs = some ys) : ys.length = xs.length := by
  induction names generalizing xs ys with
  | nil =>
    cases h
    rfl
  | cons name names ih =>
    cases xs with
    | nil =>
      cases h
      rfl
    | cons x xs =>
      have hrest : ∀ y, ((replaceComponents s m id names xs).bind fun zs => some (y :: zs)) = some ys →
          ys.length = (x :: xs).length := fun y hy => by
        obtain ⟨zs, hzs, hcons⟩ := Option.bind_eq_some_iff.1 hy
        cases hcons
        rw [List.length_cons, List.length_cons, ih hzs]
      simp only [replaceComponents, Option.pure_def, Option.bind_eq_bind] at h
      split at h
      · exact hrest _ h
      · exact hrest _ h
      · cases h

theorem wired_eq_some {id : String} {ports : List String} {x? : Option (List Float)}
    (h : wired s m id ports = some x?) : ∃ c, s.inputAt? id ports = some c ∧ m.value? c.source = x? :=
  Option.map_eq_some_iff.1 h

theorem folded_numbers (hn : Schema.builtin.Conforms n) {e : String × NodeCompiler} (he : e ∈ foldingCompilers)
    {r : String × ValueType} (htype : n.type = e.1) (ht : e.2.constant? = some r) (hbool : r.2 ≠ .bool)
    (h : (n.floats? "value").map (fun xs => (r.1, xs)) = some (port, xs)) : Folded s m n port xs := by
  obtain ⟨ys, hys, hxs⟩ := Option.map_eq_some_iff.1 h
  cases hxs
  have hk := Node.compiler_of_type e he htype
  exact .constant hk ht (Node.constant_numbers hn hk ht hbool hys)

/-- A vector folds to its numbers, some of which may be replaced. -/
theorem folded_vector (hn : Schema.builtin.Conforms n) {e : String × NodeCompiler} (he : e ∈ foldingCompilers)
    {t : ValueType} (htype : n.type = e.1) (ht : e.2.constant? = some ("value", t)) (hvector : t.isVector = true)
    (h : (do
      let xs ← n.floats? "value"
      let ys ← replaceComponents s m n.id componentNames xs
      return ("value", ys)) = some (port, xs)) : Folded s m n port xs := by
  simp only [Option.pure_def, Option.bind_eq_bind, Option.bind_eq_some_iff, Option.some.injEq] at h
  obtain ⟨ys, hys, zs, hzs, hxs⟩ := h
  cases hxs
  have hbool : t ≠ .bool := by
    rintro rfl
    cases hvector
  have hk := Node.compiler_of_type e he htype
  have hholds := Node.constant_numbers hn hk ht hbool hys
  have hplain := ValueType.not_isIntegral_of_isFloating (ValueType.isFloating_of_isVector hvector)
  exact .constant hk ht ⟨(replaceComponents_length hzs).trans hholds.size, fun h => absurd h hbool,
    fun h => by cases h.symm.trans hplain⟩

theorem fold_cases (hn : Schema.builtin.Conforms n) (h : fold s m n = some (port, xs)) : Folded s m n port xs := by
  unfold fold at h
  split at h
  · exact folded_numbers hn (e := ("Float", .scalar .float)) (by decide) ‹_› rfl (by decide) h
  · exact folded_numbers hn (e := ("Int", .scalar .int)) (by decide) ‹_› rfl (by decide) h
  · exact folded_numbers hn (e := ("Mat4", .matrix)) (by decide) ‹_› rfl (by decide) h
  · obtain ⟨b, -, hxs⟩ := Option.map_eq_some_iff.1 h
    cases hxs
    have hk := Node.compiler_of_type ("Bool", .scalar .bool) (by decide) ‹_›
    refine .constant hk rfl ⟨rfl, fun _ => ?_, fun h => by cases h⟩
    cases b
    · exact .inl rfl
    · exact .inr rfl
  · exact folded_numbers hn (e := ("Color", .color)) (by decide) ‹_› rfl (by decide) h
  · exact folded_vector hn (e := ("Vec2", .vector .vec2)) (by decide) ‹_› rfl (by decide) h
  · exact folded_vector hn (e := ("Vec3", .vector .vec3)) (by decide) ‹_› rfl (by decide) h
  · exact folded_vector hn (e := ("Vec4", .vector .vec4)) (by decide) ‹_› rfl (by decide) h
  · simp only [Option.pure_def, Option.bind_eq_bind, Option.bind_eq_some_iff, Option.some.injEq] at h
    obtain ⟨_, -, _, -, hxs⟩ := h
    cases hxs
    exact .split (Node.compiler_of_type ("Split", .split) (by decide) ‹_›)
  · simp only [Option.pure_def, Option.bind_eq_bind, Option.bind_eq_some_iff, Option.some.injEq] at h
    obtain ⟨ys, hys, hxs⟩ := h
    cases hxs
    refine .combine (Node.compiler_of_type ("Combine", .combine) (by decide) ‹_›) ?_
    rw [replaceComponents_length hys, List.length_replicate]
    rfl
  · split at h
    · rename_i f hf
      simp only [Option.pure_def, Option.bind_eq_bind, Option.bind_eq_some_iff, Option.some.injEq] at h
      obtain ⟨_, hwired, ys, rfl, hxs⟩ := h
      cases hxs
      obtain ⟨c, hc, hys⟩ := wired_eq_some hwired
      refine .unary (Node.compiler_of_type (n.type, .unary) ?_ rfl) hf hc hys
      exact List.mem_append_left _ (List.mem_append_right _ (List.mem_map_of_mem (Fold.unary?_mem hf)))
    · split at h
      · rename_i g hg
        simp only [Option.pure_def, Option.bind_eq_bind, Option.bind_eq_some_iff, Option.some.injEq] at h
        obtain ⟨_, hleft, ys, rfl, _, hright, zs, rfl, ws, hws, hxs⟩ := h
        cases hxs
        obtain ⟨c, hc, hys⟩ := wired_eq_some hleft
        obtain ⟨d, hd, hzs⟩ := wired_eq_some hright
        refine .binary (Node.compiler_of_type (n.type, .binary) ?_ rfl) hg hc hd hys hzs hws
        exact List.mem_append_right _ (List.mem_map_of_mem (Fold.binary?_mem hg))
      · cases h

end Bake

end SceneGraph
