import SceneGraph.Expr.Input

/-!
# Mathematical nodes

Compilers for functions of one, two and three values. Operands are brought to a common type first.
-/
set_option autoImplicit false

namespace SceneGraph.CompileNode

open NodeContext

def unaryCode (type : String) (x : Code) : Code :=
  match type with
  | "Sin" => .call "sin" [x]
  | "Cos" => .call "cos" [x]
  | "Tan" => .call "tan" [x]
  | "Abs" => .call "abs" [x]
  | "Floor" => .call "floor" [x]
  | "Ceil" => .call "ceil" [x]
  | "Fract" => .call "fract" [x]
  | "Sqrt" => .call "sqrt" [x]
  | "Exp" => .call "exp" [x]
  | "Log" => .call "log" [x]
  | "Negate" => .signed "-" x
  | "OneMinus" => .binary "-" (.one .float) x
  | "Length" => .call "length" [x]
  | _ => .verbatim ""

def binaryCode (type : String) (a b : Code) : Code :=
  match type with
  | "Add" => .binary "+" a b
  | "Subtract" => .binary "-" a b
  | "Multiply" => .binary "*" a b
  | "Divide" => .binary "/" a b
  | "Mod" => .binary "%" a b
  | "Min" => .call "min" [a, b]
  | "Max" => .call "max" [a, b]
  | "Pow" => .call "pow" [a, b]
  | "Step" => .call "step" [a, b]
  | "Atan2" => .call "atan2" [a, b]
  | "Dot" => .call "dot" [a, b]
  | "Distance" => .call "distance" [a, b]
  | _ => .verbatim ""

def keepsIntegers (type : String) : Bool :=
  ["Abs", "Negate", "Add", "Subtract", "Multiply", "Divide", "Mod", "Min", "Max"].contains type

/-- Code of a float spread over the components of a type. -/
def spread (e : Code) (t : ValueType) : Code := (e.convert? .float t).getD (.verbatim "")

/-- Applies a function of one value to a converted operand. -/
def applyUnary (n : Node) (x : ShaderExpr) : SessionM ShaderExpr :=
  match n.type with
  | "Length" => pure (.derive (.call "length" [x.code]) .float [x])
  | "Normalize" =>
    if x.type.isVector then pure (.derive (.call "normalize" [x.code]) x.type [x])
    else throw (.typeMismatch n.id "x" "vector" x.type)
  | "Saturate" =>
    let low := spread (.zero .float) x.type
    let high := spread (.one .float) x.type
    pure (.derive (.call "clamp" [x.code, low, high]) x.type [x])
  | type => pure (.derive (unaryCode type x.code) x.type [x])

def unary (c : NodeContext) (n : Node) (port : String) : SessionM ShaderExpr :=
  atPort n port "value" do
    c.ignoreExtra n unaryPorts
    let x ← c.require n unaryPorts
    if keepsIntegers n.type && x.type == .int then applyUnary n x
    else applyUnary n (← x.floating n "x")

/-- The type in which a function of two values works, from the common type of its operands. -/
def operandType (type : String) (t : ValueType) : ValueType :=
  if (t = .int || t = .uint) && !keepsIntegers type then .float
  else if t = .uint && type = "Subtract" then .int
  else t

/-- The type of a function's result, from the type of its operands. -/
def resultType (type : String) (t : ValueType) : ValueType :=
  if type = "Dot" || type = "Distance" then .float else t

/-- Applies a function of two values in the common type of its operands. -/
def applyBinary (n : Node) (a b : ShaderExpr) : SessionM ShaderExpr :=
  match a.type.unify? b.type with
  | none => throw (.typeMismatch n.id "b" a.type.name b.type)
  | some common => do
    let t := operandType n.type common
    if n.type = "Dot" && !t.isVector then throw (.typeMismatch n.id "a" "vector" t)
    let a ← a.convert n "a" t
    let b ← b.convert n "b" t
    return .derive (binaryCode n.type a.code b.code) (resultType n.type t) [a, b]

/-- Compiles a function of two values. A matrix times a vector is a vector. -/
def binary (c : NodeContext) (n : Node) (port : String) : SessionM ShaderExpr :=
  atPort n port "value" do
    c.ignoreExtra n (leftPorts ++ rightPorts)
    let a ← c.require n leftPorts
    let b ← c.require n rightPorts
    -- A matrix on the right is no map to be applied; it goes the common way.
    if n.type = "Multiply" && a.type = .mat4 then
      match b.type with
      | .mat4 => return .derive (.binary "*" a.code b.code) .mat4 [a, b]
      | .vec4 | .vec3 | .float =>
        let b ← b.convert n "b" .vec4
        return .derive (.binary "*" a.code b.code) .vec4 [a, b]
      | _ => applyBinary n a b
    else applyBinary n a b

/-- The common float type of named operands, starting from a type. -/
def floatType (n : Node) : ValueType → List (String × ShaderExpr) → Except ExprError ValueType
  | t, [] => .ok t
  | t, (port, e) :: rest =>
    match t.unify? e.type with
    | none => .error (.typeMismatch n.id port t.name e.type)
    | some u => floatType n (if u = .int || u = .uint then .float else u) rest

def convertAll (n : Node) (t : ValueType) : List (String × ShaderExpr) → SessionM (List ShaderExpr)
  | [] => pure []
  | (port, e) :: rest => do
    let e ← e.convert n port t
    let es ← convertAll n t rest
    return e :: es

/-- Brings named operands to their common float type. -/
def unifyFloat (n : Node) (operands : List (String × ShaderExpr)) :
    SessionM (ValueType × List ShaderExpr) := do
  let t ← ExceptT.mk (pure (floatType n .float operands))
  let es ← convertAll n t operands
  return (t, es)

def callOn (function : String) (t : ValueType) (es : List ShaderExpr) : ShaderExpr :=
  .derive (.call function (es.map ShaderExpr.code)) t es

def mix (c : NodeContext) (n : Node) (port : String) : SessionM ShaderExpr :=
  atPort n port "value" do
    let a ← c.require n ["a"]
    let b ← c.require n ["b"]
    let share ← c.require n ["t"]
    let (t, es) ← unifyFloat n [("a", a), ("b", b)]
    let share ← share.convert n "t" (if share.type = t then t else .float)
    return callOn "mix" t (es ++ [share])

/-- A bound of a clamped value: wired, or a parameter. -/
def clampBound (c : NodeContext) (n : Node) (name : String) (default : Float) : SessionM ShaderExpr := do
  match ← c.input? n [name] with
  | some e => return e
  | none => SessionM.constant n.id name [n.floatOr name default] .float

def clamp (c : NodeContext) (n : Node) (port : String) : SessionM ShaderExpr :=
  atPort n port "value" do
    c.ignoreExtra n (unaryPorts ++ ["min", "max"])
    let x ← c.require n unaryPorts
    let low ← clampBound c n "min" 0
    let high ← clampBound c n "max" 1
    let (t, es) ← unifyFloat n [("x", x), ("min", low), ("max", high)]
    return callOn "clamp" t es

def smoothstep (c : NodeContext) (n : Node) (port : String) : SessionM ShaderExpr :=
  atPort n port "value" do
    let low ← c.require n ["edge0"]
    let high ← c.require n ["edge1"]
    let x ← c.require n ["x"]
    let (t, es) ← unifyFloat n [("edge0", low), ("edge1", high), ("x", x)]
    return callOn "smoothstep" t es

end SceneGraph.CompileNode
