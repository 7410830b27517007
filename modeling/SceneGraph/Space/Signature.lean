import SceneGraph.Log
import SceneGraph.Space.Basic
import SceneGraph.Text.Utf8

/-!
# Signatures

A hash over everything that shapes the pipelines of a space: names, sizes, formats, shaders, bindings,
blend and load states, but neither the contents of buffers nor constants, clear colors or the number
of vertices. Spaces with equal signatures can share their pipelines. The hash runs over
`Signature.ofSpace`, a stream in which every list and text comes after its length.
-/
set_option autoImplicit false

namespace SceneGraph

namespace Signature

def word (n : UInt32) : List UInt8 := Bytes.ofUInt32 n

def text (s : String) : List UInt8 :=
  let bytes := (Text.toBytes s).toList
  word bytes.length.toUInt32 ++ bytes

def flag (b : Bool) : List UInt8 := [if b then 1 else 0]

def list {α : Type} (item : α → List UInt8) (items : List α) : List UInt8 :=
  word items.length.toUInt32 ++ items.flatMap item

def texture (t : TextureSpec) : List UInt8 :=
  text t.name ++ word t.width ++ word t.height ++ word t.format.number ++ word t.usage ++ text t.upload

def buffer (b : BufferSpec) : List UInt8 :=
  text b.name ++ word (Bytes.wordOf b.kind.code) ++ word b.stride

def sampler (s : SamplerSpec) : List UInt8 :=
  text s.name ++ word s.addressU.number ++ word s.addressV.number ++ word s.magFilter.number
    ++ word s.minFilter.number

def binding (b : TextureBinding) : List UInt8 :=
  word b.binding ++ text b.textureVar ++ text b.samplerVar ++ text b.texture ++ text b.sampler

/-- The part of a group of blended channels. -/
def component (c : BlendComponent) : List UInt8 :=
  word c.src.number ++ word c.dst.number ++ word c.operation.number

/-- The part of a blend: whether there is one, and what it is. -/
def blend : Option BlendState → List UInt8
  | none => flag false
  | some b => flag true ++ component b.color ++ component b.alpha

def pass (p : PassSpec) : List UInt8 :=
  text p.id ++ text p.kind.name ++ text p.shader.text ++ text p.vertexEntry ++ text p.fragmentEntry
    ++ text p.target ++ word p.format.number ++ word p.writeMask ++ blend p.blend ++ word p.load.number
    ++ list binding p.bindings ++ text p.vertexBuffer ++ text p.instanceBuffer ++ flag (p.vertices > 0)
    ++ flag p.isAnimated

def ofSpace (s : Space) : List UInt8 :=
  list texture s.textures ++ list buffer s.buffers ++ list sampler s.samplers ++ list pass s.passes
    ++ text s.sceneTexture ++ text s.presentTexture

end Signature

def Space.signature (s : Space) : UInt64 := Bytes.fnvOfList (Signature.ofSpace s)

/-- The textures that passes of a plan sample, without repetitions. -/
def Plan.sampledTextures (p : Plan) : List String :=
  (p.passes.flatMap fun ps => ps.bindings.map TextureBinding.texture).eraseDups

def Space.assembled (p : Plan) (s : Space) : LogEntry where
  level := .debug
  message := "shaderspace: assembled"
  fields := [("textures", toString s.textures.length), ("buffers", toString s.buffers.length),
    ("passes", toString s.passes.length), ("sampled", toString p.sampledTextures.length),
    ("signature", toString s.signature)]

end SceneGraph
