import SceneGraph.Proofs.Expressions
import SceneGraph.Proofs.Tables

/-!
# Node compilers are sound

Every built-in node compiler keeps the session sound and makes a sound expression, given that compiling
the outputs wired into its node does so. By induction on the depth, compiling an output is sound.

* `NodeContext.Sound`: compiling other outputs is sound.
* `NodeCompiler.run_sound`: one compiler after the other.
* `ExprContext.compile_sound`: compiling an output of the scene.
-/
set_option autoImplicit false

namespace SceneGraph

open Session

/-- Compiling other outputs keeps sessions sound and makes sound expressions of existing nodes. -/
def NodeContext.Sound (c : NodeContext) : Prop :=
  ∀ e s x t, Yields (c.compile e) s x t → s.Sound c.prepared →
    Compiled c.prepared e.node s t [x] ∧ ∃ n, c.prepared.node? e.node = some n

/-- Running a computation keeps sessions sound and makes a sound expression of a node's output. -/
def SessionM.Sound (p : Prepared) (id : String) (x : SessionM ShaderExpr) : Prop :=
  ∀ s e t, Yields x s e t → s.Sound p → Compiled p id s t [e]

/-! ## Inputs -/

theorem Scene.inputAt?_eq_some {s : Scene} {id : String} {ports : List String} {c : Connection}
    (h : s.inputAt? id ports = some c) : c ∈ s.connections ∧ c.target.node = id := by
  obtain ⟨port, _, hport⟩ := List.exists_of_findSome?_eq_some h
  have htarget := List.find?_some hport
  simp only [Bool.and_eq_true, beq_iff_eq] at htarget
  exact ⟨List.mem_of_find?_eq_some hport, htarget.1⟩

@[simp]
theorem NodeContext.yields_atPort {α : Type} (n : Node) (port expected : String) (x : SessionM α)
    (s t : Session) (a : α) :
    Yields (NodeContext.atPort n port expected x) s a t ↔ port = expected ∧ Yields x s a t := by
  unfold NodeContext.atPort NodeContext.unknownPort
  simp

@[simp]
theorem SessionM.yields_constant (node param : String) (values : List Float) (type : ValueType)
    (s t : Session) (e : ShaderExpr) :
    Yields (SessionM.constant node param values type) s e t ↔
      e = { code := Session.slotCode (s.store ⟨node, param⟩ values).1 type, type } ∧
        t = (s.store ⟨node, param⟩ values).2 := by
  unfold SessionM.constant
  simp only [yields_bind, yields_modifyGet, yields_pure]
  constructor
  · rintro ⟨_, _, ⟨rfl, rfl⟩, rfl, rfl⟩
    exact ⟨rfl, rfl⟩
  · rintro ⟨rfl, rfl⟩
    exact ⟨_, _, ⟨rfl, rfl⟩, rfl, rfl⟩

theorem Code.convert?_texture (e : Code) (source : ValueType) (h : source ≠ .texture) :
    e.convert? source .texture = none := by
  cases source <;> simp_all [Code.convert?, ValueType.isVector]

namespace Session.Compiled

variable {c : NodeContext} {n : Node} {s t u : Session} {es : List ShaderExpr} {e x : ShaderExpr}
  {ports : List String}

theorem input? (hc : c.Sound) (hn : c.prepared.node? n.id = some n) (h : Compiled c.prepared n.id s t es)
    {x? : Option ShaderExpr} (hrun : Yields (c.input? n ports) t x? u) :
    Compiled c.prepared n.id s u (x?.toList ++ es) := by
  unfold NodeContext.input? at hrun
  split at hrun
  · obtain ⟨rfl, rfl⟩ := (yields_pure _ _ _ _).1 hrun
    exact h
  · rename_i conn hconn
    simp only [yields_bind, yields_pure] at hrun
    obtain ⟨x, _, hcompile, rfl, rfl⟩ := hrun
    obtain ⟨hmem, htarget⟩ := Scene.inputAt?_eq_some hconn
    obtain ⟨hx, hsource⟩ := hc _ _ _ _ hcompile h.sound
    have hreach : c.prepared.Reaches conn.source.node n.id :=
      Relation.ReflTransGen.single ⟨conn, hmem, rfl, htarget, hsource, ⟨n, hn⟩⟩
    refine ⟨hx.sound, h.grows.trans hx.grows, fun e he => ?_⟩
    rcases List.mem_append.1 he with he | he
    · obtain rfl : e = x := by simpa using he
      exact (hx.exprs e (by simp)).mono List.prefix_rfl hreach
    · exact (h.exprs e he).mono hx.grows .refl

theorem require (hc : c.Sound) (hn : c.prepared.node? n.id = some n) (h : Compiled c.prepared n.id s t es)
    (hrun : Yields (c.require n ports) t x u) : Compiled c.prepared n.id s u (x :: es) := by
  unfold NodeContext.require at hrun
  obtain ⟨x?, v, hinput, hrest⟩ := (yields_bind _ _ _ _ _).1 hrun
  have hv := h.input? hc hn hinput
  cases x? with
  | none => exact absurd hrest (yields_throw _ _ _ _)
  | some y =>
    obtain ⟨rfl, rfl⟩ := (yields_pure _ _ _ _).1 hrest
    exact hv

variable {p : Prepared} {id : String}

theorem convert (h : Compiled p id s t es) (he : e ∈ es) {port : String} {want : ValueType}
    (hrun : Yields (e.convert n port want) t x u) : Compiled p id s u (x :: es) ∧ x.type = want := by
  unfold ShaderExpr.convert at hrun
  split at hrun
  · rename_i htype
    obtain ⟨rfl, rfl⟩ := (yields_pure _ _ _ _).1 hrun
    exact ⟨h.push (h.exprs x he), htype⟩
  · rename_i htype
    split at hrun
    · rename_i code hcode
      obtain ⟨rfl, rfl⟩ := (yields_pure _ _ _ _).1 hrun
      have hwant : want ≠ .texture := by
        rintro rfl
        rw [Code.convert?_texture _ _ htype] at hcode
        cases hcode
      refine ⟨h.push (.derive hwant ?_), ShaderExpr.derive_type _ _ _⟩
      simpa using h.exprs e he
    · exact absurd hrun (yields_throw _ _ _ _)

theorem floating (h : Compiled p id s t es) (he : e ∈ es) {port : String}
    (hrun : Yields (e.floating n port) t x u) : Compiled p id s u (x :: es) ∧ x.type ≠ .texture := by
  unfold ShaderExpr.floating at hrun
  split at hrun
  · rename_i htype
    obtain ⟨rfl, rfl⟩ := (yields_pure _ _ _ _).1 hrun
    refine ⟨h.push (h.exprs x he), ?_⟩
    intro htexture
    simp [htexture, ValueType.isVector] at htype
  · split at hrun
    · obtain ⟨hx, htype⟩ := h.convert he hrun
      exact ⟨hx, by simp [htype]⟩
    · exact absurd hrun (yields_throw _ _ _ _)

theorem requireType (hc : c.Sound) (hn : c.prepared.node? n.id = some n) (h : Compiled c.prepared n.id s t es)
    {want : ValueType} (hrun : Yields (c.requireType n want ports) t x u) :
    Compiled c.prepared n.id s u (x :: es) := by
  unfold NodeContext.requireType at hrun
  simp only [yields_bind] at hrun
  obtain ⟨y, v, hy, hx⟩ := hrun
  exact ((h.require hc hn hy).convert (by simp) hx).1.subset (by simp; tauto)

theorem constant (h : Compiled p id s t es) {node param : String} {values : List Float} {type : ValueType}
    (htype : type ≠ .texture) (hrun : Yields (SessionM.constant node param values type) t x u) :
    Compiled p id s u (x :: es) := by
  obtain ⟨rfl, rfl⟩ := (SessionM.yields_constant _ _ _ _ _ _ _).1 hrun
  exact (h.keep (store_memo _ _ _) (store_bindings _ _ _)).noTextures rfl htype

theorem addHelper (h : Compiled p id s t es) (f : HelperFunction) : Compiled p id s (t.addHelper f) es :=
  h.keep (addHelper_memo t f) (addHelper_bindings t f)

theorem ignoreExtra (h : Compiled p id s t es) {accepted : List String} {a : Unit}
    (hrun : Yields (c.ignoreExtra n accepted) t a u) : Compiled p id s u es := by
  unfold NodeContext.ignoreExtra at hrun
  generalize c.prepared.scene.unusedInputs n.id accepted = conns at hrun
  induction conns generalizing t with
  | nil =>
    obtain ⟨-, rfl⟩ := (yields_pure _ _ _ _).1 hrun
    exact h
  | cons conn rest ih =>
    obtain ⟨_, v, hdebug, hrest⟩ := (yields_bind _ _ _ _ _).1 hrun
    obtain rfl := (yields_modify _ _ _ _).1 hdebug
    refine ih ?_ hrest
    exact h.keep rfl rfl

end Session.Compiled

namespace CompileNode

variable {c : NodeContext} {n : Node} {port : String}

/-! ## Constants and frame values -/

theorem scalarConstant_sound {p : Prepared} {id : String} {type : ValueType} (htype : type ≠ .texture) :
    SessionM.Sound p id (scalarConstant type n port) := by
  intro s e t h hs
  unfold scalarConstant scalarConstant.liftExcept at h
  simp only [NodeContext.yields_atPort, yields_bind, yields_result] at h
  obtain ⟨_, x, _, ⟨_, rfl⟩, hconst⟩ := h
  exact (Compiled.refl _ hs).constant htype hconst

theorem yields_floatsParam {key : String} {size : Nat} {xs : List Float} {s t : Session}
    (h : Yields (floatsParam n key size) s xs t) : t = s := by
  unfold floatsParam at h
  split at h
  · simp only [yields_ite, yields_throw, and_false, false_or, yields_pure] at h
    exact h.2.2
  · simp only [yields_ite, yields_throw, and_false, or_false, yields_pure] at h
    exact h.2.2

theorem componentCodes_compiled (hc : c.Sound) (hn : c.prepared.node? n.id = some n) {default : String → Code}
    {names : List String} {s t u : Session} {es : List ShaderExpr} {r : List Code × List ShaderExpr}
    (h : Compiled c.prepared n.id s t es) (hrun : Yields (componentCodes c n default names) t r u) :
    Compiled c.prepared n.id s u (r.2 ++ es) := by
  induction names generalizing t es r with
  | nil =>
    obtain ⟨rfl, rfl⟩ := (yields_pure _ _ _ _).1 hrun
    exact h
  | cons name rest ih =>
    unfold componentCodes at hrun
    obtain ⟨x?, v, hinput, hrest⟩ := (yields_bind _ _ _ _ _).1 hrun
    have hv := h.input? hc hn hinput
    cases x? with
    | none =>
      simp only [yields_bind, yields_pure] at hrest
      obtain ⟨r', w, hr', rfl, rfl⟩ := hrest
      have hw := ih hv hr'
      exact hw
    | some y =>
      simp only [yields_bind, yields_pure] at hrest
      obtain ⟨y', w, hy', r', w', hr', rfl, rfl⟩ := hrest
      have hw := (hv.convert (by simp) hy').1
      exact (ih hw hr').subset (by simp; tauto)

theorem vectorConstant_sound (hc : c.Sound) (hn : c.prepared.node? n.id = some n) {type : ValueType}
    (htype : type ≠ .texture) : SessionM.Sound c.prepared n.id (vectorConstant type c n port) := by
  intro s e t h hs
  unfold vectorConstant at h
  simp only [NodeContext.yields_atPort, yields_bind] at h
  obtain ⟨_, xs, _, hfloats, base, _, hbase, ⟨codes, wired⟩, _, hcodes, hrest⟩ := h
  obtain rfl := yields_floatsParam hfloats
  have hv := (Compiled.refl n.id hs).constant htype hbase
  have hw := componentCodes_compiled hc hn hv hcodes
  simp only [yields_ite, yields_pure] at hrest
  rcases hrest with ⟨_, rfl, rfl⟩ | ⟨_, rfl, rfl⟩
  · exact hw.subset (by simp)
  · exact hw.derive htype (by simp; tauto)

theorem color_sound {p : Prepared} {id : String} : SessionM.Sound p id (color n port) := by
  intro s e t h hs
  unfold color at h
  obtain ⟨_, h⟩ := (NodeContext.yields_atPort _ _ _ _ _ _ _).1 h
  split at h
  · exact (Compiled.refl _ hs).constant (by simp) h
  · exact (Compiled.refl _ hs).constant (by simp) h
  · exact (Compiled.refl _ hs).constant (by simp) h
  · exact absurd h (yields_throw _ _ _ _)

theorem matrix_sound {p : Prepared} {id : String} : SessionM.Sound p id (matrix n port) := by
  intro s e t h hs
  unfold matrix at h
  simp only [NodeContext.yields_atPort, yields_bind] at h
  obtain ⟨_, xs, _, hfloats, hconst⟩ := h
  obtain rfl := yields_floatsParam hfloats
  exact (Compiled.refl _ hs).constant (by simp) hconst

theorem clock_sound {p : Prepared} {id : String} : SessionM.Sound p id (clock n port) := by
  intro s e t h hs
  unfold clock at h
  simp only [NodeContext.yields_atPort, yields_bind, yields_pure] at h
  obtain ⟨_, speed, _, hspeed, rfl, rfl⟩ := h
  have hv := (Compiled.refl id hs).constant (by simp) hspeed
  exact hv.forget.noTextures rfl (by simp)

/-- A computation that only returns an expression without textures is sound. -/
theorem pureExpr_sound {p : Prepared} {id expected : String} {e : ShaderExpr} (htextures : e.textures = [])
    (htype : e.type ≠ .texture) : SessionM.Sound p id (NodeContext.atPort n port expected (pure e)) := by
  intro s e' t h hs
  simp only [NodeContext.yields_atPort, yields_pure] at h
  obtain ⟨_, rfl, rfl⟩ := h
  exact (Compiled.refl _ hs).noTextures htextures htype

/-! ## Mathematical nodes -/

theorem unify?_ne_texture {a b t : ValueType} (h : a.unify? b = some t) : t ≠ .texture := by
  rintro rfl
  cases a <;> cases b <;> simp_all [ValueType.unify?, ValueType.isNumeric, ValueType.isVector, ValueType.isNumber]

theorem applyUnary_compiled {p : Prepared} {id : String} {s t u : Session} {es : List ShaderExpr}
    {x e : ShaderExpr} (h : Compiled p id s t es) (hx : x ∈ es) (htype : x.type ≠ .texture)
    (hrun : Yields (applyUnary n x) t e u) : Compiled p id s u [e] := by
  have hsub : ∀ i ∈ [x], i ∈ es := by simpa using hx
  unfold applyUnary at hrun
  split at hrun
  · obtain ⟨rfl, rfl⟩ := (yields_pure _ _ _ _).1 hrun
    exact h.derive (by simp) hsub
  · simp only [yields_ite, yields_throw, and_false, or_false, yields_pure] at hrun
    obtain ⟨_, rfl, rfl⟩ := hrun
    exact h.derive htype hsub
  · obtain ⟨rfl, rfl⟩ := (yields_pure _ _ _ _).1 hrun
    exact h.derive htype hsub
  · obtain ⟨rfl, rfl⟩ := (yields_pure _ _ _ _).1 hrun
    exact h.derive htype hsub

theorem unary_sound (hc : c.Sound) (hn : c.prepared.node? n.id = some n) :
    SessionM.Sound c.prepared n.id (unary c n port) := by
  intro s e t h hs
  unfold unary at h
  simp only [NodeContext.yields_atPort, yields_bind, yields_ite] at h
  obtain ⟨_, _, _, hextra, x, _, hx, hrest⟩ := h
  have hv := ((Compiled.refl n.id hs).ignoreExtra hextra).require hc hn hx
  rcases hrest with ⟨hint, hrun⟩ | ⟨_, y, _, hy, hrun⟩
  · refine applyUnary_compiled hv (by simp) ?_ hrun
    intro htexture
    simp [htexture] at hint
  · obtain ⟨hw, htype⟩ := hv.floating (by simp) hy
    exact applyUnary_compiled hw (by simp) htype hrun

theorem operandType_ne_texture (type : String) {t : ValueType} (h : t ≠ .texture) :
    operandType type t ≠ .texture := by
  unfold operandType
  split
  · simp
  · split
    · simp
    · exact h

theorem applyBinary_compiled {p : Prepared} {id : String} {s t u : Session} {es : List ShaderExpr}
    {a b e : ShaderExpr} (h : Compiled p id s t es) (ha : a ∈ es) (hb : b ∈ es)
    (hrun : Yields (applyBinary n a b) t e u) : Compiled p id s u [e] := by
  unfold applyBinary at hrun
  split at hrun
  · exact absurd hrun (yields_throw _ _ _ _)
  · rename_i common hcommon
    have htype := operandType_ne_texture n.type (unify?_ne_texture hcommon)
    simp only [yields_bind, yields_ite, yields_throw, false_and, exists_false, and_false, false_or,
      yields_pure] at hrun
    obtain ⟨_, a', _, ha', b', _, hb', rfl, rfl⟩ := hrun
    have hv := (h.convert ha ha').1
    have hw := (hv.convert (by simp [hb]) hb').1
    refine hw.derive ?_ (by simp)
    unfold resultType
    split
    · simp
    · exact htype

theorem binary_sound (hc : c.Sound) (hn : c.prepared.node? n.id = some n) :
    SessionM.Sound c.prepared n.id (binary c n port) := by
  intro s e t h hs
  unfold binary at h
  simp only [NodeContext.yields_atPort, yields_bind, yields_ite] at h
  obtain ⟨_, _, _, hextra, a, _, ha, b, _, hb, hrest⟩ := h
  have hv := (((Compiled.refl n.id hs).ignoreExtra hextra).require hc hn ha).require hc hn hb
  rcases hrest with ⟨_, hrun⟩ | ⟨_, hrun⟩
  · have hvector : ∀ w, (∃ b' v, Yields (b.convert n "b" .vec4) w b' v ∧ e = .derive (.binary "*" a.code b'.code)
        .vec4 [a, b'] ∧ t = v) → Compiled c.prepared n.id s w [b, a] → Compiled c.prepared n.id s t [e] := by
      rintro w ⟨b', v, hb', rfl, rfl⟩ hw
      exact ((hw.convert (by simp) hb').1).derive (by simp) (by simp)
    split at hrun
    · obtain ⟨rfl, rfl⟩ := (yields_pure _ _ _ _).1 hrun
      exact hv.derive (by simp) (by simp)
    · simp only [yields_bind, yields_pure] at hrun
      exact hvector _ hrun hv
    · simp only [yields_bind, yields_pure] at hrun
      exact hvector _ hrun hv
    · simp only [yields_bind, yields_pure] at hrun
      exact hvector _ hrun hv
    · exact applyBinary_compiled hv (by simp) (by simp) hrun
  · exact applyBinary_compiled hv (by simp) (by simp) hrun

theorem floatType_ne_texture {t u : ValueType} {operands : List (String × ShaderExpr)}
    (h : floatType n t operands = .ok u) (ht : t ≠ .texture) : u ≠ .texture := by
  induction operands generalizing t with
  | nil =>
    cases h
    exact ht
  | cons operand rest ih =>
    simp only [floatType] at h
    split at h
    · cases h
    · rename_i common hcommon
      refine ih h ?_
      split
      · simp
      · exact unify?_ne_texture hcommon

theorem convertAll_compiled {p : Prepared} {id : String} {s t u : Session} {es rs : List ShaderExpr}
    {type : ValueType} {operands : List (String × ShaderExpr)} (h : Compiled p id s t es)
    (hmem : ∀ o ∈ operands, o.2 ∈ es) (hrun : Yields (convertAll n type operands) t rs u) :
    Compiled p id s u (rs ++ es) := by
  induction operands generalizing t es rs with
  | nil =>
    obtain ⟨rfl, rfl⟩ := (yields_pure _ _ _ _).1 hrun
    exact h
  | cons operand rest ih =>
    unfold convertAll at hrun
    simp only [yields_bind, yields_pure] at hrun
    obtain ⟨x, _, hx, rs', _, hrs', rfl, rfl⟩ := hrun
    have hv := (h.convert (hmem operand (by simp)) hx).1
    have hw := ih hv (fun o ho => List.mem_cons_of_mem x (hmem o (List.mem_cons_of_mem operand ho))) hrs'
    exact hw.subset (by simp; tauto)

theorem unifyFloat_compiled {p : Prepared} {id : String} {s t u : Session} {es : List ShaderExpr}
    {operands : List (String × ShaderExpr)} {r : ValueType × List ShaderExpr} (h : Compiled p id s t es)
    (hmem : ∀ o ∈ operands, o.2 ∈ es) (hrun : Yields (unifyFloat n operands) t r u) :
    Compiled p id s u (r.2 ++ es) ∧ r.1 ≠ .texture := by
  unfold unifyFloat at hrun
  simp only [yields_bind, yields_result, yields_pure] at hrun
  obtain ⟨type, _, ⟨htype, rfl⟩, rs, _, hrs, rfl, rfl⟩ := hrun
  exact ⟨convertAll_compiled h hmem hrs, floatType_ne_texture htype (by simp)⟩

theorem mix_sound (hc : c.Sound) (hn : c.prepared.node? n.id = some n) :
    SessionM.Sound c.prepared n.id (mix c n port) := by
  intro s e t h hs
  unfold mix at h
  simp only [NodeContext.yields_atPort, yields_bind, yields_pure] at h
  obtain ⟨_, a, _, ha, b, _, hb, share, _, hshare, ⟨type, rs⟩, _, hrs, share', _, hshare', rfl, rfl⟩ := h
  have hv := (((Compiled.refl n.id hs).require hc hn ha).require hc hn hb).require hc hn hshare
  obtain ⟨hw, htype⟩ := unifyFloat_compiled hv (by simp) hrs
  have hx := (hw.convert (by simp) hshare').1
  exact hx.derive htype (by simp; tauto)

theorem clampBound_compiled (hc : c.Sound) (hn : c.prepared.node? n.id = some n) {s t u : Session}
    {es : List ShaderExpr} {e : ShaderExpr} {name : String} {default : Float}
    (h : Compiled c.prepared n.id s t es) (hrun : Yields (clampBound c n name default) t e u) :
    Compiled c.prepared n.id s u (e :: es) := by
  unfold clampBound at hrun
  obtain ⟨x?, v, hinput, hrest⟩ := (yields_bind _ _ _ _ _).1 hrun
  have hv := h.input? hc hn hinput
  cases x? with
  | some y =>
    obtain ⟨rfl, rfl⟩ := (yields_pure _ _ _ _).1 hrest
    exact hv
  | none => exact hv.constant (by simp) hrest

theorem clamp_sound (hc : c.Sound) (hn : c.prepared.node? n.id = some n) :
    SessionM.Sound c.prepared n.id (clamp c n port) := by
  intro s e t h hs
  unfold clamp at h
  simp only [NodeContext.yields_atPort, yields_bind, yields_pure] at h
  obtain ⟨_, _, _, hextra, x, _, hx, low, _, hlow, high, _, hhigh, ⟨type, rs⟩, _, hrs, rfl, rfl⟩ := h
  have hv := ((Compiled.refl n.id hs).ignoreExtra hextra).require hc hn hx
  have hw := clampBound_compiled hc hn (clampBound_compiled hc hn hv hlow) hhigh
  obtain ⟨hy, htype⟩ := unifyFloat_compiled hw (by simp) hrs
  exact hy.derive htype (by simp; tauto)

theorem smoothstep_sound (hc : c.Sound) (hn : c.prepared.node? n.id = some n) :
    SessionM.Sound c.prepared n.id (smoothstep c n port) := by
  intro s e t h hs
  unfold smoothstep at h
  simp only [NodeContext.yields_atPort, yields_bind, yields_pure] at h
  obtain ⟨_, low, _, hlow, high, _, hhigh, x, _, hx, ⟨type, rs⟩, _, hrs, rfl, rfl⟩ := h
  have hv := (((Compiled.refl n.id hs).require hc hn hlow).require hc hn hhigh).require hc hn hx
  obtain ⟨hw, htype⟩ := unifyFloat_compiled hv (by simp) hrs
  exact hw.derive htype (by simp; tauto)

/-! ## Logic and structure of values -/

theorem compare_sound (hc : c.Sound) (hn : c.prepared.node? n.id = some n) :
    SessionM.Sound c.prepared n.id (compare c n port) := by
  intro s e t h hs
  unfold compare at h
  simp only [NodeContext.yields_atPort, yields_bind, yields_ite, yields_throw, false_and, exists_false, and_false,
    false_or, yields_pure] at h
  obtain ⟨_, _, a, _, ha, b, _, hb, _, _, a', _, ha', b', _, hb', rfl, rfl⟩ := h
  have hv := ((Compiled.refl n.id hs).require hc hn ha).require hc hn hb
  have hw := (hv.convert (by simp) ha').1
  have hx := (hw.convert (by simp) hb').1
  exact hx.derive (by simp) (by simp)

theorem choiceType?_ne_texture {a b t : ValueType} (h : choiceType? a b = some t) : t ≠ .texture := by
  unfold choiceType? at h
  split at h
  · rename_i hab
    cases h
    simp only [Bool.and_eq_true, decide_eq_true_eq] at hab
    exact hab.2
  · exact unify?_ne_texture h

theorem select_sound (hc : c.Sound) (hn : c.prepared.node? n.id = some n) :
    SessionM.Sound c.prepared n.id (select c n port) := by
  intro s e t h hs
  unfold select at h
  simp only [NodeContext.yields_atPort, yields_bind] at h
  obtain ⟨_, cond, _, hcond, a, _, ha, b, _, hb, hrest⟩ := h
  have hv := (((Compiled.refl n.id hs).requireType hc hn hcond).require hc hn ha).require hc hn hb
  split at hrest
  · exact absurd hrest (yields_throw _ _ _ _)
  · rename_i type htype
    simp only [yields_bind, yields_pure] at hrest
    obtain ⟨a', _, ha', b', _, hb', rfl, rfl⟩ := hrest
    have hw := (hv.convert (by simp) ha').1
    have hx := (hw.convert (by simp) hb').1
    exact hx.derive (choiceType?_ne_texture htype) (by simp)

theorem connective_sound (op : String) (hc : c.Sound) (hn : c.prepared.node? n.id = some n) :
    SessionM.Sound c.prepared n.id (connective op c n port) := by
  intro s e t h hs
  unfold connective at h
  simp only [NodeContext.yields_atPort, yields_bind, yields_pure] at h
  obtain ⟨_, a, _, ha, b, _, hb, rfl, rfl⟩ := h
  have hv := ((Compiled.refl n.id hs).requireType hc hn ha).requireType hc hn hb
  exact hv.derive (by simp) (by simp)

theorem negation_sound (hc : c.Sound) (hn : c.prepared.node? n.id = some n) :
    SessionM.Sound c.prepared n.id (negation c n port) := by
  intro s e t h hs
  unfold negation at h
  simp only [NodeContext.yields_atPort, yields_bind, yields_pure] at h
  obtain ⟨_, x, _, hx, rfl, rfl⟩ := h
  exact ((Compiled.refl n.id hs).requireType hc hn hx).derive (by simp) (by simp)

theorem split_sound (hc : c.Sound) (hn : c.prepared.node? n.id = some n) :
    SessionM.Sound c.prepared n.id (split c n port) := by
  intro s e t h hs
  unfold CompileNode.split NodeContext.unknownPort at h
  split at h
  · exact absurd h (yields_throw _ _ _ _)
  · simp only [yields_bind, yields_ite, yields_throw, and_false, false_or, yields_pure] at h
    obtain ⟨v, _, hv, hrest⟩ := h
    have hw := (Compiled.refl n.id hs).require hc hn hv
    rcases hrest with ⟨_, hrun⟩ | ⟨_, _, _, rfl, rfl⟩
    · exact ((hw.convert (by simp) hrun).1).subset (by simp)
    · exact hw.derive (by simp) (by simp)

theorem vector_ne_texture (size : Nat) : ValueType.vector size ≠ .texture := by
  unfold ValueType.vector
  split <;> simp

theorem combine_sound (hc : c.Sound) (hn : c.prepared.node? n.id = some n) :
    SessionM.Sound c.prepared n.id (combine c n port) := by
  intro s e t h hs
  unfold combine at h
  simp only [NodeContext.yields_atPort, yields_bind, yields_pure] at h
  obtain ⟨_, ⟨codes, wired⟩, _, hcodes, rfl, rfl⟩ := h
  have hv := componentCodes_compiled hc hn (Compiled.refl n.id hs) hcodes
  exact hv.derive (vector_ne_texture _) (by simp)

/-! ## Textures -/

theorem sampleCoordinates_compiled (hc : c.Sound) (hn : c.prepared.node? n.id = some n) {s t u : Session}
    {es : List ShaderExpr} {e : ShaderExpr} (h : Compiled c.prepared n.id s t es)
    (hrun : Yields (sampleCoordinates c n) t e u) : Compiled c.prepared n.id s u (e :: es) := by
  unfold sampleCoordinates at hrun
  obtain ⟨x?, v, hinput, hrest⟩ := (yields_bind _ _ _ _ _).1 hrun
  have hv := h.input? hc hn hinput
  cases x? with
  | none =>
    obtain ⟨rfl, rfl⟩ := (yields_pure _ _ _ _).1 hrest
    exact hv.noTextures rfl (by simp)
  | some y => exact (hv.convert (by simp) hrest).1.subset (by simp; tauto)

theorem bindTexture_compiled {p : Prepared} (hn : p.node? n.id = some n) {s t : Session} {es : List ShaderExpr}
    {source : String} (sampler : SamplerKind) (hsource : p.Reaches source n.id) (h : Compiled p n.id s t es) :
    Compiled p n.id s (t.addBinding ⟨n.id, p.nameOf n.id, source, sampler⟩).2 es := by
  rcases t.addBinding_cases ⟨n.id, p.nameOf n.id, source, sampler⟩ with ⟨old, _, heq⟩ | ⟨_, heq⟩
  · rw [heq]
    exact h
  · rw [heq]
    refine h.step rfl (List.prefix_append _ _) ?_
    intro b hb
    rcases List.mem_append.1 hb with hb | hb
    · exact h.sound.bindings b hb
    · obtain rfl := List.mem_singleton.1 hb
      exact ⟨⟨n, hn⟩, rfl, hsource⟩

theorem sample_compiled (hc : c.Sound) (hn : c.prepared.node? n.id = some n) {s t u : Session}
    {es : List ShaderExpr} {e : ShaderExpr} {source : String} (hsource : c.prepared.Reaches source n.id)
    (h : Compiled c.prepared n.id s t es) (hrun : Yields (sample c n source) t e u) :
    Compiled c.prepared n.id s u [e] := by
  unfold sample SessionM.bindTexture SessionM.helper at hrun
  simp only [yields_bind, yields_modifyGet, yields_modify, yields_pure] at hrun
  obtain ⟨uv, v, huv, _, _, ⟨rfl, rfl⟩, _, _, rfl, rfl, rfl⟩ := hrun
  have hv := bindTexture_compiled hn (.ofNode n) hsource (sampleCoordinates_compiled hc hn h huv)
  have hbound := v.addBinding_find? ⟨n.id, c.prepared.nameOf n.id, source, .ofNode n⟩
  generalize (v.addBinding ⟨n.id, c.prepared.nameOf n.id, source, .ofNode n⟩).2 = w at hv hbound ⊢
  have hx := hv.addHelper flipHelper
  refine hx.forget.push ⟨ShaderExpr.nodup_addNew _ _ (ShaderExpr.derive_nodup _ _ _), ?_, ?_⟩
  · intro key hkey
    rcases (ShaderExpr.mem_addNew _ _ _).1 hkey with hkey | hkey
    · obtain ⟨i, hi, hmem⟩ := (ShaderExpr.mem_derive _ _ _ _).1 hkey
      exact (hx.exprs i (List.mem_cons.2 (.inl (by simpa using hi)))).sampled key hmem
    · obtain rfl := List.mem_singleton.1 hkey
      exact ⟨by rw [addHelper_bindings]; exact hbound, .refl⟩
  · intro htype
    simp at htype

theorem textureSource_sound (hc : c.Sound) (hn : c.prepared.node? n.id = some n) :
    SessionM.Sound c.prepared n.id (textureSource c n port) := by
  intro s e t h hs
  unfold textureSource NodeContext.unknownPort at h
  simp only [yields_ite, yields_throw, and_false, or_false, yields_pure] at h
  rcases h with ⟨_, rfl, rfl⟩ | ⟨_, _, hrun⟩
  · exact (Compiled.refl n.id hs).push ⟨List.nodup_nil, by simp [ShaderExpr.ofTexture], fun _ => .refl⟩
  · exact sample_compiled hc hn .refl (Compiled.refl n.id hs) hrun

theorem target_sound {p : Prepared} : SessionM.Sound p n.id (target n port) := by
  intro s e t h hs
  unfold target at h
  simp only [NodeContext.yields_atPort, yields_pure] at h
  obtain ⟨_, rfl, rfl⟩ := h
  exact (Compiled.refl n.id hs).push ⟨List.nodup_nil, by simp [ShaderExpr.ofTexture], fun _ => .refl⟩

theorem sampleTexture_sound (hc : c.Sound) (hn : c.prepared.node? n.id = some n) :
    SessionM.Sound c.prepared n.id (sampleTexture c n port) := by
  intro s e t h hs
  unfold sampleTexture at h
  simp only [NodeContext.yields_atPort, yields_bind, yields_ite, yields_throw, false_and, exists_false, and_false,
    false_or] at h
  obtain ⟨_, x, _, hx, htype, hrun⟩ := h
  have hv := (Compiled.refl n.id hs).require hc hn hx
  exact sample_compiled hc hn ((hv.exprs x (by simp)).source (by simpa using htype)) hv hrun

/-! ## Snippets -/

theorem yields_snippetArg {q : Port} {a : SnippetArg} {s t : Session} (h : Yields (snippetArg n q) s a t) :
    t = s := by
  unfold snippetArg at h
  split at h
  · exact absurd h (yields_throw _ _ _ _)
  · split at h
    · exact ((yields_pure _ _ _ _).1 h).2
    · split at h
      · exact ((yields_pure _ _ _ _).1 h).2
      · exact absurd h (yields_throw _ _ _ _)

theorem snippetInputs_compiled (hc : c.Sound) (hn : c.prepared.node? n.id = some n) {ports : List Port}
    {s t u : Session} {es : List ShaderExpr} {r : List (SnippetArg × ShaderExpr)}
    (h : Compiled c.prepared n.id s t es) (hrun : Yields (snippetInputs c n ports) t r u) :
    Compiled c.prepared n.id s u (r.map Prod.snd ++ es) := by
  induction ports generalizing t es r with
  | nil =>
    obtain ⟨rfl, rfl⟩ := (yields_pure _ _ _ _).1 hrun
    exact h
  | cons q rest ih =>
    unfold snippetInputs at hrun
    simp only [yields_bind, yields_pure] at hrun
    obtain ⟨a, _, ha, e, _, he, r', _, hr', rfl, rfl⟩ := hrun
    obtain rfl := yields_snippetArg ha
    have hw := ih (h.requireType hc hn he) hr'
    exact hw.subset (by simp; tauto)

theorem trySnippet_compiled {p : Prepared} {id : String} {snippet : Snippet} {stages : List SnippetStage}
    {isFirst : Bool} {s t u : Session} {es : List ShaderExpr} {a : Bool} (h : Compiled p id s t es)
    (hrun : Yields (trySnippet c n snippet isFirst stages) t a u) : Compiled p id s u es := by
  induction stages generalizing t isFirst with
  | nil =>
    obtain ⟨rfl, rfl⟩ := (yields_pure _ _ _ _).1 hrun
    exact h
  | cons stage rest ih =>
    unfold trySnippet SessionM.debug at hrun
    simp only [yields_ite, yields_bind, yields_modify, yields_pure] at hrun
    rcases hrun with ⟨_, ⟨_, _, _, rfl, _, rfl⟩ | ⟨_, _, rfl⟩⟩ | ⟨_, _, v, rfl, hrest⟩
    · exact h.keep rfl rfl
    · exact h
    · refine ih ?_ hrest
      exact h.keep rfl rfl

theorem checkSnippet_compiled {p : Prepared} {id : String} {snippet : Snippet} {s t u : Session}
    {es : List ShaderExpr} {a : Unit} (h : Compiled p id s t es)
    (hrun : Yields (checkSnippet c n snippet) t a u) : Compiled p id s u es := by
  unfold checkSnippet at hrun
  simp only [yields_bind, yields_ite, yields_throw, and_false, false_or, yields_pure] at hrun
  obtain ⟨_, _, htry, _, _, rfl⟩ := hrun
  exact trySnippet_compiled h htry

theorem yields_snippetText {text : String} {s t : Session} (h : Yields (snippetText n) s text t) : t = s := by
  unfold snippetText at h
  split at h
  · simp only [yields_ite, yields_throw, and_false, false_or, yields_pure] at h
    exact h.2.2
  · exact absurd h (yields_throw _ _ _ _)

theorem yields_snippetType {type : ValueType} {s t : Session} (h : Yields (snippetType n) s type t) :
    t = s ∧ type ≠ .texture := by
  unfold snippetType at h
  simp only at h
  split at h
  · rename_i t' ht'
    obtain ⟨rfl, rfl⟩ := (yields_pure _ _ _ _).1 h
    refine ⟨rfl, ?_⟩
    rintro rfl
    unfold Snippet.typeOf? at ht'
    split at ht'
    · split at ht'
      · rename_i htype
        cases ht'
        simp [ValueType.isScalar, ValueType.isVector] at htype
      · cases ht'
    · cases ht'
  · exact absurd h (yields_throw _ _ _ _)

theorem snippet_sound (hc : c.Sound) (hn : c.prepared.node? n.id = some n) :
    SessionM.Sound c.prepared n.id (snippet c n port) := by
  intro s e t h hs
  unfold snippet SessionM.helper at h
  simp only [NodeContext.yields_atPort, yields_bind, yields_modify, yields_pure] at h
  obtain ⟨_, text, _, htext, type, _, htype, inputs, _, hinputs, _, _, hcheck, _, _, rfl, rfl, rfl⟩ := h
  obtain rfl := yields_snippetText htext
  obtain ⟨rfl, hne⟩ := yields_snippetType htype
  have hv := checkSnippet_compiled (snippetInputs_compiled hc hn (Compiled.refl n.id hs) hinputs) hcheck
  refine (hv.addHelper _).forget.push ⟨ShaderExpr.derive_nodup _ _ _, ?_, ?_⟩
  · intro key hkey
    obtain ⟨i, hi, hmem⟩ := (ShaderExpr.mem_derive _ _ _ _).1 hkey
    exact ((hv.addHelper _).exprs i (by simpa using hi)).sampled key hmem
  · intro htexture
    exact absurd (by simpa using htexture) hne

end CompileNode

/-! ## All compilers -/

/-- The compiler makes no constants that are textures. -/
def NodeCompiler.makesValues : NodeCompiler → Bool
  | .scalar t => t ≠ .texture
  | .vector t => t ≠ .texture
  | _ => true

theorem NodeCompiler.run_sound (k : NodeCompiler) (hk : k.makesValues = true) {c : NodeContext} (hc : c.Sound)
    {n : Node} (hn : c.prepared.node? n.id = some n) (port : String) :
    SessionM.Sound c.prepared n.id (k.run c n port) := by
  cases k with
  | scalar t => exact CompileNode.scalarConstant_sound (by simpa [makesValues] using hk)
  | vector t => exact CompileNode.vectorConstant_sound hc hn (by simpa [makesValues] using hk)
  | color => exact CompileNode.color_sound
  | matrix => exact CompileNode.matrix_sound
  | clock => exact CompileNode.clock_sound
  | coordinates => exact CompileNode.pureExpr_sound rfl (by simp)
  | targetSize => exact CompileNode.pureExpr_sound rfl (by simp)
  | instanceNumber => exact CompileNode.pureExpr_sound rfl (by simp)
  | unary => exact CompileNode.unary_sound hc hn
  | binary => exact CompileNode.binary_sound hc hn
  | mix => exact CompileNode.mix_sound hc hn
  | clamp => exact CompileNode.clamp_sound hc hn
  | smoothstep => exact CompileNode.smoothstep_sound hc hn
  | compare => exact CompileNode.compare_sound hc hn
  | select => exact CompileNode.select_sound hc hn
  | connective op => exact CompileNode.connective_sound op hc hn
  | negation => exact CompileNode.negation_sound hc hn
  | split => exact CompileNode.split_sound hc hn
  | combine => exact CompileNode.combine_sound hc hn
  | textureSource => exact CompileNode.textureSource_sound hc hn
  | target => exact CompileNode.target_sound
  | sampleTexture => exact CompileNode.sampleTexture_sound hc hn
  | snippet => exact CompileNode.snippet_sound hc hn

theorem Registry.builtin_makesValues {type : String} {k : NodeCompiler}
    (h : Registry.builtin.get? type = some k) : k.makesValues = true := by
  have hall : Registry.builtin.all (fun e => e.2.makesValues) = true := by
    rw [Registry.builtin_eq]
    decide
  obtain ⟨e, he, rfl⟩ := Option.map_eq_some_iff.1 h
  exact List.all_eq_true.1 hall e (List.mem_of_find?_eq_some he)

/-- All compilers of the context make values. -/
def ExprContext.MakesValues (c : ExprContext) : Prop :=
  ∀ type k, c.registry.get? type = some k → k.makesValues = true

theorem SessionM.yields_attempt {α : Type} (x : SessionM α) (s t : Session) (a : α) :
    Yields (SessionM.attempt x) s (.ok a) t ↔ Yields x s a t := by
  have hrun : (SessionM.attempt x).run.run s = (.ok (x.run.run s).1, (x.run.run s).2) := rfl
  unfold Yields
  rw [hrun]
  constructor
  · intro h
    obtain ⟨h1, h2⟩ := Prod.mk.inj h
    exact Prod.ext (Except.ok.inj h1) h2
  · intro h
    rw [h]

namespace ExprContext

theorem compilerOf_eq_ok {c : ExprContext} {e : Endpoint} {n : Node} {k : NodeCompiler}
    (h : c.compilerOf e = .ok (n, k)) : c.prepared.node? e.node = some n ∧ c.registry.get? n.type = some k := by
  unfold compilerOf at h
  split at h
  · cases h
  · split at h
    · cases h
    · rename_i hn _ _ hk
      cases h
      exact ⟨hn, hk⟩

theorem compileWithin_sound (c : ExprContext) (hvalues : c.MakesValues) (fuel : Nat) :
    NodeContext.Sound ⟨c.prepared, c.compileWithin fuel, c.accepts⟩ := by
  induction fuel with
  | zero =>
    intro e s x t h
    exact absurd h (yields_throw _ _ _ _)
  | succ fuel ih =>
    intro e s x t h hs
    simp only [compileWithin, yields_bind, yields_get] at h
    obtain ⟨_, _, ⟨rfl, rfl⟩, h⟩ := h
    split at h
    · -- a remembered expression is sound by assumption
      rename_i y hy
      obtain ⟨rfl, rfl⟩ := (yields_pure _ _ _ _).1 h
      obtain ⟨m, hm, rfl⟩ := Option.map_eq_some_iff.1 hy
      have hkey : m.1 = e := by simpa using List.find?_some hm
      obtain ⟨hsound, hnode⟩ := hs.memo m (List.mem_of_find?_eq_some hm)
      rw [hkey] at hsound hnode
      exact ⟨(Compiled.refl _ hs).push hsound, hnode⟩
    · simp only [yields_ite, yields_bind, yields_throw, false_and, exists_false, and_false, false_or, yields_result,
        yields_modify] at h
      obtain ⟨_, ⟨n, k⟩, _, ⟨hcompiler, rfl⟩, _, _, rfl, r, v, hrun, _, _, rfl, h⟩ := h
      cases r with
      | error err => exact absurd h (yields_throw _ _ _ _)
      | ok y =>
        obtain ⟨_, w, hremember, hret⟩ := (yields_bind _ _ _ _ _).1 h
        obtain rfl := (yields_modify _ _ _ _).1 hremember
        obtain ⟨rfl, rfl⟩ := (yields_pure _ _ _ _).1 hret
        obtain ⟨hn, hget⟩ := compilerOf_eq_ok hcompiler
        have hk := hvalues _ _ hget
        obtain ⟨hid, _⟩ := Prepared.node?_eq_some hn
        have hentered : Session.Sound c.prepared (Session.enter _ e) := ⟨hs.bindings, hs.memo⟩
        have hy := k.run_sound hk ih (by rw [hid]; exact hn) e.port _ _ _
          ((SessionM.yields_attempt _ _ _ _).1 hrun) hentered
        rw [hid] at hy
        refine ⟨⟨⟨hy.sound.bindings, ?_⟩, hy.grows, hy.exprs⟩, n, hn⟩
        intro m hm
        rcases List.mem_cons.1 hm with rfl | hm
        · exact ⟨hy.exprs _ (by simp), n, hn⟩
        · exact hy.sound.memo m hm

/-- Compiling an output keeps the session sound and makes a sound expression. -/
theorem compile_sound (c : ExprContext) (hvalues : c.MakesValues) : c.inputs.Sound :=
  compileWithin_sound c hvalues c.depthLimit

end ExprContext

end SceneGraph
