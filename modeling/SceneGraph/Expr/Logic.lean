import SceneGraph.Expr.Constant

/-!
# Logic and structure of values

Compilers for comparisons, choices, truth values, and the taking apart and putting together of
vectors.
-/
set_option autoImplicit false

namespace SceneGraph.CompileNode

open NodeContext

def comparisons : List String := ["<", "<=", ">", ">=", "==", "!="]

def comparisonType (op : String) (a b : ValueType) : ValueType :=
  let t := (a.unify? b).getD a
  if t = .bool && op ≠ "==" && op ≠ "!=" then .float else t

def compare (c : NodeContext) (n : Node) (port : String) : SessionM ShaderExpr :=
  atPort n port "value" do
    let op := n.stringOr "op" "<"
    if !comparisons.contains op then throw (.unsupportedParam n.id "op" (.str op))
    let a ← c.require n ["a"]
    let b ← c.require n ["b"]
    if !a.type.isScalar then throw (.typeMismatch n.id "a" "scalar" a.type)
    if !b.type.isScalar then throw (.typeMismatch n.id "b" "scalar" b.type)
    let t := comparisonType op a.type b.type
    let a ← a.convert n "a" t
    let b ← b.convert n "b" t
    return .derive (.binary op a.code b.code) .bool [a, b]

def choiceType? (a b : ValueType) : Option ValueType :=
  if a = b && a ≠ .texture then some a else a.unify? b

/-- Compiles a choice: the first value where the condition holds. -/
def select (c : NodeContext) (n : Node) (port : String) : SessionM ShaderExpr :=
  atPort n port "value" do
    let cond ← c.requireType n .bool ["cond"]
    let a ← c.require n ["a"]
    let b ← c.require n ["b"]
    match choiceType? a.type b.type with
    | none => throw (.typeMismatch n.id "b" a.type.name b.type)
    | some t =>
      let a ← a.convert n "a" t
      let b ← b.convert n "b" t
      return .derive (.call "select" [b.code, a.code, cond.code]) t [cond, a, b]

def connective (op : String) (c : NodeContext) (n : Node) (port : String) : SessionM ShaderExpr :=
  atPort n port "value" do
    let a ← c.requireType n .bool ["a"]
    let b ← c.requireType n .bool ["b"]
    return .derive (.binary op a.code b.code) .bool [a, b]

def negation (c : NodeContext) (n : Node) (port : String) : SessionM ShaderExpr :=
  atPort n port "value" do
    let x ← c.requireType n .bool ["x"]
    return .derive (.signed "!" x.code) .bool [x]

/-- Compiles a component of a vector; a scalar has only itself. -/
def split (c : NodeContext) (n : Node) (port : String) : SessionM ShaderExpr :=
  match components.findIdx? (· == port) with
  | none => unknownPort n port
  | some i => do
    let v ← c.require n ["value"]
    if v.type.isScalar then v.convert n "value" .float
    else if !v.type.isVector then throw (.typeMismatch n.id "value" "vector" v.type)
    else if i ≥ v.type.components then
      throw (.typeMismatch n.id "value" (ValueType.vector (i + 1)).name v.type)
    else return .derive (.part v.code port) .float [v]

/-- Compiles a vector put together from components; missing ones are zero. -/
def combine (c : NodeContext) (n : Node) (port : String) : SessionM ShaderExpr :=
  atPort n port "value" do
    let size := (min (max (n.intOr "size" 4) 2) 4).toNat
    let (codes, wired) ← componentCodes c n (fun _ => .zero .float) (components.take size)
    let t := ValueType.vector size
    return .derive (.construct t codes) t wired

end SceneGraph.CompileNode
