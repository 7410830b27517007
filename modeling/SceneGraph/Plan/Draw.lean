import SceneGraph.Plan.Builder

/-!
# Draw passes

The pass of a draw node: its color expression over its shape, or over the whole target. The transform
of the shape runs in the vertex stage, so it may read neither the fragment nor a texture.
-/
set_option autoImplicit false

namespace SceneGraph

def Code.identity : Code :=
  .call "mat4x4<f32>" ((List.range 16).map fun i => if i % 5 = 0 then .one .float else .zero .float)

namespace PlanContext

/-- The color of a draw node: wired, or white. -/
def drawColor (c : PlanContext) (n : Node) : SessionM ShaderExpr := do
  match ← c.exprs.inputs.input? n ["color"] with
  | some e => e.convert n "color" .vec4
  | none => return { code := .construct .vec4 [.one .float], type := .vec4 }

/-- The transform of a draw node: wired, a parameter, or the identity. -/
def drawTransform (c : PlanContext) (n : Node) : SessionM ShaderExpr := do
  match ← c.exprs.inputs.input? n ["transform"] with
  | none =>
    match n.floats? "transform" with
    | none => return { code := .identity, type := .mat4 }
    | some xs =>
      if xs.length = 16 then SessionM.constant n.id "transform" xs .mat4
      else throw (.unsupportedParam n.id "transform" (.list (xs.map .num)))
  | some e =>
    let t ← e.convert n "transform" .mat4
    if t.isVarying || !t.textures.isEmpty then
      throw (.unsupportedParam n.id "transform" (.str "per-fragment value"))
    return t

/-- Declares the buffers of a shape and completes a pass with them. -/
def withGeometry (c : PlanContext) (g : Geometry) (ps : Pass) : PlanM Pass := do
  if g.isFullscreen then return ps
  let name := c.prepared.nameOf g.source
  let vertexBuffer := name ++ "_vertices"
  PlanM.declare fun p => p.declareBuffer
    { name := vertexBuffer, kind := .vertex, data := Bytes.ofFloats (g.vertices.flatMap Vertex.toList)
      stride := 16 }
  let ps := { ps with vertexBuffer, vertices := g.vertices.length.toUInt32 }
  if g.instances.isEmpty then return ps
  let instanceBuffer := name ++ "_instances"
  PlanM.declare fun p => p.declareBuffer
    { name := instanceBuffer, kind := .instances
      data := Bytes.ofFloats (g.instances.flatMap Offset.toList), stride := 8 }
  return { ps with instanceBuffer, instances := g.instanceCount.toUInt32 }

def vertexProgram (g : Geometry) (transform : Code) : VertexProgram :=
  if g.isFullscreen then .fullscreen transform else .geometry transform (!g.instances.isEmpty)

def renderPass (c : PlanContext) (n : Node) (r : Route) : PlanM Unit := do
  let color ← PlanM.ofSession (c.drawColor n)
  let transform ← PlanM.ofSession (c.drawTransform n)
  let blend ← PlanM.ofExpr (Blend.ofNode n "alpha")
  let bindings ← c.bindingsFrom 0 color.textures
  let ps ← c.withGeometry r.geometry {
    id := "draw:" ++ n.id
    kind := .draw
    nodes := [n.id]
    target := r.domain.texture
    bindings
    blend
    isAnimated := color.isAnimated || transform.isAnimated
    vertices := 3
    instances := 1 }
  let st ← get
  PlanM.addPass { ps with
    shader := .generated {
      bindings
      helpers := st.session.helpersNamed color.helpers
      vertex := vertexProgram r.geometry transform.code
      fragment := [.result color.code] } }

end PlanContext

end SceneGraph
