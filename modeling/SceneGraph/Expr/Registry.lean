import SceneGraph.Expr.Logic
import SceneGraph.Expr.Math
import SceneGraph.Expr.Snippet
import SceneGraph.Expr.Texture
import SceneGraph.Wgsl.Module

/-!
# The registry of node compilers

Which compiler takes which type of node, and the compilation of a node output through it.
`ExprContext.compile` remembers what it compiles and refuses outputs that depend on themselves.
-/
set_option autoImplicit false

namespace SceneGraph

/-- The kinds of node compilers. -/
inductive NodeCompiler where
  | scalar (t : ValueType)
  | vector (t : ValueType)
  | color
  | matrix
  | clock
  | coordinates
  | targetSize
  | instanceNumber
  | unary
  | binary
  | mix
  | clamp
  | smoothstep
  | compare
  | select
  | connective (op : String)
  | negation
  | split
  | combine
  | textureSource
  | target
  | sampleTexture
  | snippet
deriving Repr, DecidableEq

namespace NodeCompiler

def run (k : NodeCompiler) (c : NodeContext) (n : Node) (port : String) : SessionM ShaderExpr :=
  match k with
  | .scalar t => CompileNode.scalarConstant t n port
  | .vector t => CompileNode.vectorConstant t c n port
  | .color => CompileNode.color n port
  | .matrix => CompileNode.matrix n port
  | .clock => CompileNode.clock n port
  | .coordinates => CompileNode.coordinates n port
  | .targetSize => CompileNode.targetSize n port
  | .instanceNumber => CompileNode.instanceNumber n port
  | .unary => CompileNode.unary c n port
  | .binary => CompileNode.binary c n port
  | .mix => CompileNode.mix c n port
  | .clamp => CompileNode.clamp c n port
  | .smoothstep => CompileNode.smoothstep c n port
  | .compare => CompileNode.compare c n port
  | .select => CompileNode.select c n port
  | .connective op => CompileNode.connective op c n port
  | .negation => CompileNode.negation c n port
  | .split => CompileNode.split c n port
  | .combine => CompileNode.combine c n port
  | .textureSource => CompileNode.textureSource c n port
  | .target => CompileNode.target n port
  | .sampleTexture => CompileNode.sampleTexture c n port
  | .snippet => CompileNode.snippet c n port

end NodeCompiler

abbrev Registry := Table NodeCompiler

/-- Why a compiler cannot be registered. -/
inductive RegistryError where
  | noCompiler
  | taken (type : String)
deriving Repr, DecidableEq

def RegistryError.message : RegistryError → String
  | .noCompiler => "expr: Register compiler is nil"
  | .taken type => "expr: Register called twice for " ++ type

namespace Registry

def register (r : Registry) (type : String) (k : Option NodeCompiler) : Except RegistryError Registry :=
  match k with
  | none => .error .noCompiler
  | some k => if Table.has r type then .error (.taken type) else .ok (Table.insert type k r)

def unregister (r : Registry) (type : String) : Registry := Table.erase r type

def builtin : Registry := Table.ofList (
  ([("Float", .scalar .float), ("Int", .scalar .int), ("Bool", .scalar .bool), ("Vec2", .vector .vec2),
    ("Vec3", .vector .vec3), ("Vec4", .vector .vec4), ("Color", .color), ("Mat4", .matrix), ("Time", .clock),
    ("UV", .coordinates), ("Resolution", .targetSize), ("InstanceIndex", .instanceNumber)] :
    List (String × NodeCompiler))
  ++ ["Sin", "Cos", "Tan", "Abs", "Floor", "Ceil", "Fract", "Sqrt", "Exp", "Log", "Negate", "OneMinus",
    "Length", "Saturate", "Normalize"].map (fun type => (type, NodeCompiler.unary))
  ++ ["Add", "Subtract", "Multiply", "Divide", "Mod", "Min", "Max", "Pow", "Step", "Atan2", "Dot",
    "Distance"].map (fun type => (type, NodeCompiler.binary))
  ++ ([("Mix", .mix), ("Clamp", .clamp), ("Smoothstep", .smoothstep), ("Compare", .compare),
    ("Select", .select), ("And", .connective "&&"), ("Or", .connective "||"), ("Not", .negation),
    ("Split", .split), ("Combine", .combine), ("ImageTexture", .textureSource), ("Text", .textureSource),
    ("RenderTexture", .target), ("Screen", .target), ("SampleTexture", .sampleTexture),
    ("Expression", .snippet)] : List (String × NodeCompiler)))

end Registry

/-- What compiling needs to know: the scene, the compilers, and a checker of the shading language. -/
structure ExprContext where
  prepared : Prepared
  registry : Registry := Registry.builtin
  accepts : String → Bool := Wgsl.accepts

namespace ExprContext

def compilerOf (c : ExprContext) (e : Endpoint) : Except ExprError (Node × NodeCompiler) :=
  match c.prepared.node? e.node with
  | none => .error (.missingInput e.node e.port)
  | some n =>
    match c.registry.get? n.type with
    | none => .error (.unsupportedParam e.node "node type" (.str n.type))
    | some k => .ok (n, k)

/-- Compiles an output, at most `fuel` outputs deep. -/
def compileWithin (c : ExprContext) : Nat → Endpoint → SessionM ShaderExpr
  | 0, e => throw (.cycle ⟨[e.node]⟩)
  | fuel + 1, e => do
    let s ← get
    match s.compiled? e with
    | some x => return x
    | none =>
      if s.active.contains e then throw (.cycle ⟨[e.node]⟩)
      let (n, k) ← ExceptT.mk (pure (c.compilerOf e))
      modify fun s => s.enter e
      -- The mark comes off after a failure too, so that the output can be tried again.
      let r ← SessionM.attempt (k.run ⟨c.prepared, c.compileWithin fuel, c.accepts⟩ n e.port)
      modify fun s => s.leave e
      match r with
      | .error err => throw err
      | .ok x =>
        modify fun s => s.remember e x
        return x

/-- How deep outputs can be nested before one of them depends on itself: every output below the first
is the source of a connection. -/
def depthLimit (c : ExprContext) : Nat := c.prepared.scene.connections.length + 2

def compile (c : ExprContext) (e : Endpoint) : SessionM ShaderExpr := c.compileWithin c.depthLimit e

def inputs (c : ExprContext) : NodeContext := ⟨c.prepared, c.compile, c.accepts⟩

end ExprContext

end SceneGraph
