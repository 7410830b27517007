import SceneGraph.Expr.Basic
import SceneGraph.Gpu
import SceneGraph.Route
import SceneGraph.Shader.Module

/-!
# Render plans

The textures, buffers and samplers that a scene needs and the passes that draw it, in order. A
resource may be declared again only with the same parameters.
-/
set_option autoImplicit false

namespace SceneGraph

/-- The role of a buffer. -/
inductive BufferKind where
  | vertex
  | instances
  | pixels
  | params
  /-- A number that stands for no role. -/
  | unknown (code : Int)
deriving Repr, DecidableEq, Inhabited

def BufferKind.name : BufferKind → String
  | .vertex => "vertex"
  | .instances => "instance"
  | .pixels => "pixels"
  | .params => "params"
  | .unknown code => s!"BufferKind({code})"

def BufferKind.code : BufferKind → Int
  | .vertex => 1
  | .instances => 2
  | .pixels => 3
  | .params => 4
  | .unknown code => code

def BufferKind.ofCode (n : Int) : BufferKind :=
  ([.vertex, .instances, .pixels, .params].find? fun k => k.code == n).getD (.unknown n)

/-- The kinds of passes. -/
inductive PassKind where
  | draw
  | blit
  | blur
  | bloom
  | compose
  | clear
  | present
  | error
  | other (name : String)
deriving Repr, DecidableEq, Inhabited

def PassKind.name : PassKind → String
  | .draw => "draw"
  | .blit => "blit"
  | .blur => "blur"
  | .bloom => "bloom"
  | .compose => "compose"
  | .clear => "clear"
  | .present => "present"
  | .error => "error"
  | .other name => name

/-- A texture of a plan. -/
structure TextureDecl where
  name : String
  /-- The node that the texture belongs to. -/
  node : String := ""
  size : Size
  format : TextureFormat
  /-- The pixel buffer that fills the texture; targets have none. -/
  upload : String := ""
  /-- What the first pass that writes the texture clears it to. -/
  clear : Color := {}
deriving Inhabited

/-- A buffer of a plan with its contents. -/
structure BufferDecl where
  name : String
  kind : BufferKind
  data : ByteArray
  /-- The bytes of an element, or of a row of pixels. -/
  stride : UInt32
deriving Inhabited

/-- A sampler of a plan. -/
structure SamplerDecl where
  name : String
  addressU : AddressMode := .clampToEdge
  addressV : AddressMode := .clampToEdge
  filter : FilterMode := .linear
deriving Repr, DecidableEq, Inhabited

def SamplerKind.toDecl (k : SamplerKind) : SamplerDecl where
  name := "sampler_" ++ k.addressU ++ "_" ++ k.addressV ++ "_" ++ k.filter
  addressU := .ofSceneName k.addressU
  addressV := .ofSceneName k.addressV
  filter := .ofSceneName k.filter

structure Pass where
  /-- The id, made of the kind and the nodes that take part. -/
  id : String
  kind : PassKind
  nodes : List String := []
  /-- The texture that the pass draws into. -/
  target : String
  size : Size := ⟨0, 0⟩
  format : TextureFormat := .undefined
  shader : Shader := .absent
  bindings : List TextureBinding := []
  /-- How the pass blends; without a blend it replaces. -/
  blend : Option BlendState := none
  load : LoadOp := .undefined
  clear : Color := {}
  /-- The buffer of vertices; without one the pass draws a triangle over the target. -/
  vertexBuffer : String := ""
  instanceBuffer : String := ""
  vertices : UInt32 := 0
  instances : UInt32 := 0
  /-- The shader reads the clock. -/
  isAnimated : Bool := false
deriving Inhabited

/-- The resources and passes of a scene. -/
structure Plan where
  textures : List TextureDecl := []
  buffers : List BufferDecl := []
  samplers : List SamplerDecl := []
  passes : List Pass := []
  /-- The constants, four numbers per slot. -/
  params : List Float32 := []
  sceneTexture : String := ""
  presentTexture : String := ""
  size : Size := ⟨0, 0⟩
  isAnimated : Bool := false
deriving Inhabited

/-- Why a resource cannot be declared or used. -/
inductive ConflictReason where
  | resized (now before : Size)
  | differentContents
  | differentModes
  | undeclaredTarget (pass : String)
  | samplesTarget (pass : String)
  | unstated
deriving Repr, DecidableEq

def ConflictReason.message : ConflictReason → String
  | .resized now before =>
    s!"redeclared as {now.width}x{now.height} (was {before.width}x{before.height})"
  | .differentContents => "redeclared with different contents"
  | .differentModes => "redeclared with different modes"
  | .undeclaredTarget pass => "pass " ++ pass ++ " targets an undeclared texture"
  | .samplesTarget pass => "pass " ++ pass ++ " samples the texture it renders into"
  | .unstated => ""

/-- A resource in conflict with another or with its use. -/
structure ResourceConflict where
  kind : String
  name : String
  reason : ConflictReason
deriving Repr, DecidableEq

def ResourceConflict.message (e : ResourceConflict) : String :=
  "plan: " ++ e.kind ++ " " ++ Text.quoted e.name ++ ": " ++ e.reason.message

namespace Plan

def texture? (p : Plan) (name : String) : Option TextureDecl := p.textures.find? fun t => t.name == name

def buffer? (p : Plan) (name : String) : Option BufferDecl := p.buffers.find? fun b => b.name == name

def sampler? (p : Plan) (name : String) : Option SamplerDecl := p.samplers.find? fun s => s.name == name

def pass? (p : Plan) (id : String) : Option Pass := p.passes.find? fun s => s.id == id

def sameTexture (a b : TextureDecl) : Bool :=
  a.size = b.size && a.format = b.format && a.upload = b.upload

def declareTexture (p : Plan) (t : TextureDecl) : Except ResourceConflict Plan :=
  match p.texture? t.name with
  | none => .ok { p with textures := p.textures ++ [t] }
  | some old =>
    if sameTexture old t then .ok p
    else .error { kind := "texture", name := t.name, reason := .resized t.size old.size }

def sameBuffer (a b : BufferDecl) : Bool := a.kind = b.kind && a.stride = b.stride && a.data == b.data

def declareBuffer (p : Plan) (b : BufferDecl) : Except ResourceConflict Plan :=
  match p.buffer? b.name with
  | none => .ok { p with buffers := p.buffers ++ [b] }
  | some old =>
    if sameBuffer old b then .ok p
    else .error { kind := "buffer", name := b.name, reason := .differentContents }

def declareSampler (p : Plan) (s : SamplerDecl) : Except ResourceConflict Plan :=
  match p.sampler? s.name with
  | none => .ok { p with samplers := p.samplers ++ [s] }
  | some old =>
    if old = s then .ok p
    else .error { kind := "sampler", name := s.name, reason := .differentModes }

end Plan

end SceneGraph
