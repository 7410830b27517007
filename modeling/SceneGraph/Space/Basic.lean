import SceneGraph.Bytes.Basic
import SceneGraph.Plan.Basic

/-!
# Spaces

A plan as descriptions of the objects that a graphics device creates: sizes in words, usages, and the
layout of vertex buffers.
-/
set_option autoImplicit false

namespace SceneGraph

/-- A texture to create. -/
structure TextureSpec where
  name : String
  width : UInt32
  height : UInt32
  format : TextureFormat
  usage : UInt32
  /-- The pixel buffer that fills the texture. -/
  upload : String
  bytesPerRow : UInt32
deriving Repr, DecidableEq

/-- A buffer to create, with its first contents. -/
structure BufferSpec where
  name : String
  kind : BufferKind
  usage : UInt32
  data : ByteArray
  stride : UInt32
deriving Inhabited

/-- A sampler to create. -/
structure SamplerSpec where
  name : String
  addressU : AddressMode
  addressV : AddressMode
  magFilter : FilterMode
  minFilter : FilterMode
deriving Repr, DecidableEq

/-- How often a vertex buffer advances. -/
inductive StepMode where
  | vertex
  | perInstance
deriving Repr, DecidableEq

def StepMode.number : StepMode → Nat
  | .vertex => 2
  | .perInstance => 3

/-- The layout of a vertex buffer with one attribute. -/
structure VertexLayout where
  stride : Nat
  step : StepMode
  location : Nat
deriving Repr, DecidableEq

/-- A render pass and the pipeline that it draws with. -/
structure PassSpec where
  id : String
  kind : PassKind
  shader : Shader
  vertexEntry : String := "vs_main"
  fragmentEntry : String := "fs_main"
  target : String
  size : Size
  format : TextureFormat
  blend : Option BlendState
  writeMask : UInt32 := 15
  load : LoadOp
  clear : Color
  bindings : List TextureBinding
  vertexBuffer : String
  instanceBuffer : String
  layouts : List VertexLayout
  vertices : UInt32
  instances : UInt32
  isAnimated : Bool

/-- The pass draws; others only run their load operation. -/
def PassSpec.draws (p : PassSpec) : Bool := p.vertices > 0 && p.shader.text ≠ ""

/-- The objects and passes of a plan. -/
structure Space where
  textures : List TextureSpec := []
  buffers : List BufferSpec := []
  samplers : List SamplerSpec := []
  passes : List PassSpec := []
  params : List Float32 := []
  sceneTexture : String := ""
  presentTexture : String := ""
  size : Size := ⟨0, 0⟩
  isAnimated : Bool := false

namespace Usage

def textureCopySource : UInt32 := 1

def textureCopyTarget : UInt32 := 2

def textureBinding : UInt32 := 4

def renderAttachment : UInt32 := 16

def bufferCopySource : UInt32 := 4

def bufferCopyTarget : UInt32 := 8

def vertex : UInt32 := 32

def uniform : UInt32 := 64

def storage : UInt32 := 128

end Usage

namespace Space

def buffer? (s : Space) (name : String) : Option BufferSpec := s.buffers.find? fun b => b.name == name

/-- The uses of a texture: those with pixels are copied to, the others drawn into. -/
def textureUsage (uploaded : Bool) : UInt32 :=
  Usage.textureBinding ||| Usage.textureCopySource
    ||| (if uploaded then Usage.textureCopyTarget else Usage.renderAttachment)

def bufferUsage : BufferKind → UInt32
  | .vertex => Usage.vertex ||| Usage.bufferCopyTarget
  | .instances => Usage.vertex ||| Usage.bufferCopyTarget
  | .params => Usage.storage ||| Usage.bufferCopyTarget
  | .pixels => Usage.bufferCopySource ||| Usage.bufferCopyTarget
  | .unknown _ => Usage.bufferCopyTarget

def textureSpec (p : Plan) (t : TextureDecl) : TextureSpec where
  name := t.name
  width := Bytes.wordOf t.size.width
  height := Bytes.wordOf t.size.height
  format := t.format
  usage := textureUsage (p.textures.any fun u => u.name == t.name && u.upload != "")
  upload := t.upload
  bytesPerRow := Bytes.wordOf (t.size.width * t.format.bytesPerPixel)

def bufferSpec (b : BufferDecl) : BufferSpec where
  name := b.name
  kind := b.kind
  usage := bufferUsage b.kind
  data := b.data
  stride := b.stride

def samplerSpec (s : SamplerDecl) : SamplerSpec where
  name := s.name
  addressU := s.addressU
  addressV := s.addressV
  magFilter := s.filter
  minFilter := s.filter

def layoutsOf (p : Pass) : List VertexLayout :=
  (if p.vertexBuffer = "" then [] else [⟨16, .vertex, 0⟩])
    ++ if p.instanceBuffer = "" then [] else [⟨8, .perInstance, 1⟩]

def passSpec (p : Pass) : PassSpec where
  id := p.id
  kind := p.kind
  shader := p.shader
  target := p.target
  size := p.size
  format := p.format
  blend := p.blend
  load := p.load
  clear := p.clear
  bindings := p.bindings
  vertexBuffer := p.vertexBuffer
  instanceBuffer := p.instanceBuffer
  layouts := layoutsOf p
  vertices := p.vertices
  instances := p.instances
  isAnimated := p.isAnimated

def assemble (p : Plan) : Space where
  textures := p.textures.map (textureSpec p)
  buffers := p.buffers.map bufferSpec
  samplers := p.samplers.map samplerSpec
  passes := p.passes.map passSpec
  params := p.params
  sceneTexture := p.sceneTexture
  presentTexture := p.presentTexture
  size := p.size
  isAnimated := p.isAnimated

/-! ## The frame uniform -/

/-- The bytes of the frame uniform of a pass: clock, frame number and size. -/
def frameUniform (p : PassSpec) (time : Float32) (count : UInt32) : ByteArray :=
  ⟨(Bytes.ofUInt32 time.toBits ++ Bytes.ofUInt32 count
    ++ Bytes.ofUInt32 (floatOfInt p.size.width).toFloat32.toBits
    ++ Bytes.ofUInt32 (floatOfInt p.size.height).toFloat32.toBits).toArray⟩

end Space

end SceneGraph
