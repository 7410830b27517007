import SceneGraph.Expr.Basic
import SceneGraph.Gpu

/-!
# Blend states of nodes

A node names a preset and may override single factors and operations of it. Presets that replace the
destination have no blend state and take no overrides.
-/
set_option autoImplicit false

namespace SceneGraph.Blend

def alpha : BlendState := ⟨⟨.srcAlpha, .oneMinusSrcAlpha, .add⟩, ⟨.one, .oneMinusSrcAlpha, .add⟩⟩

/-- Source over destination, the source multiplied by its alpha beforehand. -/
def premultiplied : BlendState := ⟨⟨.one, .oneMinusSrcAlpha, .add⟩, ⟨.one, .oneMinusSrcAlpha, .add⟩⟩

def additive : BlendState := ⟨⟨.one, .one, .add⟩, ⟨.one, .one, .add⟩⟩

def multiply : BlendState := ⟨⟨.dst, .oneMinusSrcAlpha, .add⟩, ⟨.one, .oneMinusSrcAlpha, .add⟩⟩

/-- The complement of the product of the complements. -/
def screen : BlendState := ⟨⟨.one, .oneMinusSrc, .add⟩, ⟨.one, .oneMinusSrcAlpha, .add⟩⟩

/-- The preset with a name: a blend state, or none where the source replaces the destination. -/
def preset? (name : String) : Option (Option BlendState) :=
  match name with
  | "alpha" => some (some alpha)
  | "premultiplied" => some (some premultiplied)
  | "additive" => some (some additive)
  | "multiply" => some (some multiply)
  | "screen" => some (some screen)
  | "replace" | "opaque" | "off" | "none" => some none
  | _ => none

/-- The factor that a parameter gives; the old one where it gives none. -/
def factorOr (n : Node) (param : String) (old : BlendFactor) : Except ExprError BlendFactor :=
  match n.string? param with
  | none => .ok old
  | some name =>
    match BlendFactor.ofSceneName? name with
    | some f => .ok f
    | none => .error (.unsupportedParam n.id param (.str name))

/-- The operation that a parameter gives; the old one where it gives none. -/
def operationOr (n : Node) (param : String) (old : BlendOperation) : Except ExprError BlendOperation :=
  match n.string? param with
  | none => .ok old
  | some name =>
    match BlendOperation.ofSceneName? name with
    | some o => .ok o
    | none => .error (.unsupportedParam n.id param (.str name))

def override (n : Node) (st : BlendState) : Except ExprError BlendState := do
  let colorSrc ← factorOr n "blendSrcFactor" st.color.src
  let colorDst ← factorOr n "blendDstFactor" st.color.dst
  let alphaSrc ← factorOr n "blendSrcAlphaFactor" st.alpha.src
  let alphaDst ← factorOr n "blendDstAlphaFactor" st.alpha.dst
  let colorOp ← operationOr n "blendOperation" st.color.operation
  let alphaOp ← operationOr n "blendAlphaOperation" st.alpha.operation
  return ⟨⟨colorSrc, colorDst, colorOp⟩, ⟨alphaSrc, alphaDst, alphaOp⟩⟩

/-- The blend state of a node, with a default preset. -/
def ofNode (n : Node) (default : String) : Except ExprError (Option BlendState) :=
  let name := n.stringOr "blend" default
  match preset? name with
  | none => .error (.unsupportedParam n.id "blend" (.str name))
  | some none => .ok none
  | some (some st) => do
    let st ← override n st
    return some st

end SceneGraph.Blend
