import SceneGraph.Expr.Session

/-!
# Inputs of nodes

What node compilers share: access to the expressions wired into a node, and conversions to the type
that an input expects.
-/
set_option autoImplicit false

namespace SceneGraph

/-- What a node compiler works with: the scene, the way to compile other outputs, and a checker of the shading
language. -/
structure NodeContext where
  prepared : Prepared
  compile : Endpoint → SessionM ShaderExpr
  /-- A text is a valid module of the shading language. -/
  accepts : String → Bool

namespace NodeContext

/-- The expression wired into the first of the ports that has a connection. -/
def input? (c : NodeContext) (n : Node) (ports : List String) : SessionM (Option ShaderExpr) :=
  match c.prepared.scene.inputAt? n.id ports with
  | none => pure none
  | some conn => do
    let e ← c.compile conn.source
    return some e

/-- The expression of a mandatory input; the first port names it in failures. -/
def require (c : NodeContext) (n : Node) (ports : List String) : SessionM ShaderExpr := do
  match ← c.input? n ports with
  | some e => return e
  | none => throw (.missingInput n.id (ports.headD ""))

end NodeContext

namespace ShaderExpr

/-- Converts an expression, or fails naming the input. -/
def convert (e : ShaderExpr) (n : Node) (port : String) (want : ValueType) : SessionM ShaderExpr :=
  if e.type = want then pure e
  else match e.code.convert? e.type want with
    | some code => pure (derive code want [e])
    | none => throw (.typeMismatch n.id port want.name e.type)

/-- Turns integers and truth values into floats; matrices and textures are refused. -/
def floating (e : ShaderExpr) (n : Node) (port : String) : SessionM ShaderExpr :=
  if e.type = .float || e.type.isVector then pure e
  else if e.type.isScalar then e.convert n port .float
  else throw (.typeMismatch n.id port "float or vector" e.type)

end ShaderExpr

namespace NodeContext

/-- The expression of a mandatory input, converted to a type. -/
def requireType (c : NodeContext) (n : Node) (want : ValueType) (ports : List String) :
    SessionM ShaderExpr := do
  let e ← c.require n ports
  e.convert n (ports.headD "") want

/-- Reports connections on ports that a node does not read. -/
def ignoreExtra (c : NodeContext) (n : Node) (accepted : List String) : SessionM Unit :=
  (c.prepared.scene.unusedInputs n.id accepted).forM fun conn =>
    SessionM.debug "expr: ignoring connection on unused port"
      [("node", n.id), ("type", n.type), ("port", conn.target.port), ("connection", conn.id)]

def unknownPort {α : Type} (n : Node) (port : String) : SessionM α :=
  throw (.unsupportedParam n.id "output port" (.str port))

def atPort {α : Type} (n : Node) (port expected : String) (x : SessionM α) : SessionM α :=
  if port = expected then x else unknownPort n port

end NodeContext

end SceneGraph
