import SceneGraph.Expr.Input

/-!
# Constants and frame values

Compilers for constant nodes, whose values live in slots, and for nodes that read the frame or the
fragment.
-/
set_option autoImplicit false

namespace SceneGraph.CompileNode

open NodeContext

def components : List String := ["x", "y", "z", "w"]

/-- The value of a scalar constant; an absent one is zero. -/
def scalarValue (n : Node) : Except ExprError Float :=
  match n.param "value" with
  | .null => .ok 0
  | raw =>
    match raw.toFloat? with
    | some x => .ok x
    | none => .error (.unsupportedParam n.id "value" raw)

def scalarConstant (t : ValueType) (n : Node) (port : String) : SessionM ShaderExpr :=
  atPort n port "value" do
    let x ← liftExcept (scalarValue n)
    SessionM.constant n.id "value" [x] t
where
  /-- A result without effects. -/
  liftExcept {α : Type} (r : Except ExprError α) : SessionM α := ExceptT.mk (pure r)

/-- The numbers of a parameter that has a given size; absent ones are zeros. -/
def floatsParam (n : Node) (key : String) (size : Nat) : SessionM (List Float) :=
  match n.floats? key with
  | none =>
    if n.hasParam key then throw (.unsupportedParam n.id key (n.param key))
    else pure (List.replicate size 0)
  | some xs => if xs.length = size then pure xs else throw (.unsupportedParam n.id key (n.param key))

/-- The components of a vector: those wired, converted to floats, and the others from `default`. Comes
with the expressions that are wired. -/
def componentCodes (c : NodeContext) (n : Node) (default : String → Code) :
    List String → SessionM (List Code × List ShaderExpr)
  | [] => pure ([], [])
  | name :: rest => do
    match ← c.input? n [name] with
    | none =>
      let (codes, wired) ← componentCodes c n default rest
      return (default name :: codes, wired)
    | some e =>
      let e ← e.convert n name .float
      let (codes, wired) ← componentCodes c n default rest
      return (e.code :: codes, e :: wired)

/-- Compiles a vector constant whose components may be wired. -/
def vectorConstant (t : ValueType) (c : NodeContext) (n : Node) (port : String) : SessionM ShaderExpr :=
  atPort n port "value" do
    let xs ← floatsParam n "value" t.components
    let base ← SessionM.constant n.id "value" xs t
    let (codes, wired) ← componentCodes c n (.part base.code) (components.take t.components)
    if wired.isEmpty then return base
    else return .derive (.construct t codes) t wired

def color (n : Node) (port : String) : SessionM ShaderExpr :=
  atPort n port "color" do
    match n.floats? "value" with
    | none => SessionM.constant n.id "value" [1, 1, 1, 1] .vec4
    | some [r, g, b] => SessionM.constant n.id "value" [r, g, b, 1] .vec4
    | some [r, g, b, a] => SessionM.constant n.id "value" [r, g, b, a] .vec4
    | some _ => throw (.unsupportedParam n.id "value" (n.param "value"))

def matrix (n : Node) (port : String) : SessionM ShaderExpr :=
  atPort n port "value" do
    let xs ← floatsParam n "value" 16
    SessionM.constant n.id "value" xs .mat4

def clock (n : Node) (port : String) : SessionM ShaderExpr :=
  atPort n port "time" do
    let speed ← SessionM.constant n.id "speed" [n.floatOr "speed" 1] .float
    return { code := .binary "*" .time speed.code, type := .float, isAnimated := true }

def coordinates (n : Node) (port : String) : SessionM ShaderExpr :=
  atPort n port "uv" (pure { code := .uv, type := .vec2, isVarying := true })

def targetSize (n : Node) (port : String) : SessionM ShaderExpr :=
  atPort n port "resolution" (pure { code := .resolution, type := .vec2 })

def instanceNumber (n : Node) (port : String) : SessionM ShaderExpr :=
  atPort n port "index"
    (pure { code := .instanceIndex, type := .uint, isVarying := true, isInstanced := true })

end SceneGraph.CompileNode
