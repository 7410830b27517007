import SceneGraph.Expr.Input

/-!
# Textures

Compilers for texture sources, targets and samplers. Texture rows are stored from the top, coordinates
start at the bottom, so every read goes through a flip.
-/
set_option autoImplicit false

namespace SceneGraph.CompileNode

open NodeContext

/-- The function that turns coordinates upside down. -/
def flipHelper : HelperFunction where
  name := Code.flipName
  source := textLines [
    "fn flip_uv(uv: vec2<f32>) -> vec2<f32> \x7b",
    "\treturn vec2<f32>(uv.x, 1.0 - uv.y);",
    "\x7d"]

/-- The coordinates at which a node samples: those wired, or those of the fragment. -/
def sampleCoordinates (c : NodeContext) (n : Node) : SessionM ShaderExpr := do
  match ← c.input? n ["uv"] with
  | none => return { code := .uv, type := .vec2, isVarying := true }
  | some e => e.convert n "uv" .vec2

/-- Samples a texture, bound under the id of the sampling node. -/
def sample (c : NodeContext) (n : Node) (source : String) : SessionM ShaderExpr := do
  let uv ← sampleCoordinates c n
  let b ← SessionM.bindTexture c.prepared n.id source (.ofNode n)
  SessionM.helper flipHelper
  let e := ShaderExpr.derive (.sample n.id b.name uv.code) .vec4 [uv]
  return { e with
    isVarying := true
    textures := ShaderExpr.addNew e.textures [n.id]
    helpers := ShaderExpr.addNew e.helpers [Code.flipName] }

/-- Compiles an image or text: as a texture, or sampled. -/
def textureSource (c : NodeContext) (n : Node) (port : String) : SessionM ShaderExpr :=
  if port = "texture" then pure (.ofTexture n.id)
  else if port = "color" then sample c n n.id
  else unknownPort n port

def target (n : Node) (port : String) : SessionM ShaderExpr :=
  atPort n port "texture" (pure (.ofTexture n.id))

def sampleTexture (c : NodeContext) (n : Node) (port : String) : SessionM ShaderExpr :=
  atPort n port "color" do
    let t ← c.require n ["texture"]
    if t.type ≠ .texture then throw (.typeMismatch n.id "texture" ValueType.texture.name t.type)
    sample c n t.source

end SceneGraph.CompileNode
