import SceneGraph.Space.Realize
import SceneGraph.Space.Signature
import SceneGraph.View.Scene

/-!
# Views of spaces

Expressions, spaces with the plans they were assembled from, and the calls of devices.
-/
set_option autoImplicit false

namespace SceneGraph

open View

def ShaderExpr.view (e : ShaderExpr) : Fields :=
  [("code", .str e.code.render), ("type", .str e.type.name), ("animated", .bool e.isAnimated),
    ("varying", .bool e.isVarying), ("instanced", .bool e.isInstanced), ("textures", .strings e.textures),
    ("helpers", .strings e.helpers), ("source", .str e.source)]

def Binding.view (b : Binding) : Json :=
  .strings [b.key, Code.textureVar b.name, Code.samplerVar b.name, b.source, b.sampler.name]

def Color.view (c : Color) : Json := .arr ([c.r, c.g, c.b, c.a].map .float)

def BlendComponent.view (c : BlendComponent) : Json := .strings [c.src.name, c.dst.name, c.operation.name]

def BlendState.view (b : BlendState) : Json := .arr [b.color.view, b.alpha.view]

def TextureSpec.view (d : TextureDecl) (t : TextureSpec) : Json :=
  .obj [("name", .str t.name), ("node", .str d.node), ("size", .arr [word t.width, word t.height]),
    ("format", .str t.format.name), ("usage", word t.usage), ("upload", .str t.upload),
    ("row", word t.bytesPerRow), ("clear", d.clear.view)]

/-- The view of a shader: its text, or with `hashed` the length and hash of it. -/
def Shader.view (hashed : Bool) (s : Shader) : Fields :=
  if hashed then [("shader_len", .nat s.text.utf8ByteSize),
    ("shader_fnv", .str (hashText (Bytes.fnv1a (Text.toBytes s.text))))]
  else [("shader", .str s.text)]

def PassSpec.view (hashed : Bool) (p : Pass) (s : PassSpec) : Json :=
  .obj ([("id", .str s.id), ("kind", .str s.kind.name), ("nodes", .strings p.nodes), ("target", .str s.target),
    ("size", s.size.view), ("format", .str s.format.name), ("load", .str s.load.name), ("clear", s.clear.view),
    ("blend", maybe BlendState.view s.blend),
    ("bindings", list (fun b => .arr [word b.binding, .str b.textureVar, .str b.samplerVar, .str b.texture,
      .str b.sampler]) s.bindings),
    ("layouts", list (fun l => .arr [.nat l.stride, .nat l.step.number, .nat l.location]) s.layouts),
    ("vertex_buffer", .str s.vertexBuffer), ("instance_buffer", .str s.instanceBuffer),
    ("vertices", word s.vertices), ("instances", word s.instances), ("animated", .bool s.isAnimated),
    ("draws", .bool s.draws)] ++ s.shader.view hashed)

def BufferSpec.view (b : BufferSpec) : Json :=
  .obj [("name", .str b.name), ("kind", .str b.kind.name), ("usage", word b.usage), ("stride", word b.stride),
    ("data", bytes b.data)]

def Space.view (hashed : Bool) (p : Plan) (s : Space) : Fields :=
  [("signature", .str (hashText s.signature)), ("size", s.size.view), ("scene_texture", .str s.sceneTexture),
    ("present_texture", .str s.presentTexture), ("animated", .bool s.isAnimated), ("params", floats s.params),
    ("textures", .arr (List.zipWith TextureSpec.view p.textures s.textures)),
    ("buffers", list BufferSpec.view s.buffers),
    ("samplers", list (fun m => .strings [m.name, m.addressU.name, m.addressV.name, m.magFilter.name,
      m.minFilter.name]) s.samplers),
    ("passes", .arr (List.zipWith (PassSpec.view hashed) p.passes s.passes))]

/-! ## Devices -/

def DeviceCall.name : DeviceCall → String
  | .createBuffer _ _ _ => "CreateBuffer"
  | .createTexture _ => "CreateTexture"
  | .createSampler _ => "CreateSampler"
  | .createShader _ _ => "CreateShaderModule"
  | .writeBuffer _ _ => "WriteBuffer"
  | .writeTexture _ _ _ => "WriteTexture"
  | .destroy _ => "Destroy"

def ObjectKind.name : ObjectKind → String
  | .buffer => "Buffer"
  | .texture => "Texture"
  | .sampler => "Sampler"
  | .shader => "ShaderModule"

def DeviceCall.line (c : DeviceCall) : String :=
  c.name ++ match c with
    | .createBuffer label size usage => s!" {label} size={size} usage={usage}"
    | .createTexture t =>
      s!" {t.name} {t.width}x{t.height}x1 mips=1 samples=1 format={t.format.name} usage={t.usage}"
    | .createSampler m =>
      s!" {m.name} {m.addressU.name} {m.addressV.name} ClampToEdge {m.magFilter.name} {m.minFilter.name}"
        ++ " Nearest aniso=1"
    | .createShader label (.text wgsl) => s!" {label} wgsl={wgsl.utf8ByteSize}"
    | .createShader label .binary => s!" {label} spirv=true"
    | .writeBuffer o data => s!" {o.label} off=0 n={data.size} fnv=" ++ hashText (Bytes.fnv1a data)
    | .writeTexture o data t =>
      s!" {o.label} n={data.size} row={t.bytesPerRow} rows={t.height} {t.width}x{t.height}x1"
    | .destroy o => o.kind.name ++ " " ++ o.label

/-- The lines of calls, each run of destructions in ascending order; `run` holds those of the last run. -/
def DeviceCall.lines (run : List String) : List DeviceCall → List String
  | [] => run.mergeSort (· ≤ ·)
  | .destroy o :: rest => lines (line (.destroy o) :: run) rest
  | c :: rest => run.mergeSort (· ≤ ·) ++ c.line :: lines [] rest

def Device.view (n : Nat) (d : Device) : String × Json :=
  ("calls", .strings (DeviceCall.lines [] ((d.events.drop n).map DeviceEvent.call)))

/-- The numbers of objects of a realized space. -/
def Resources.view (r : Resources) : Json :=
  .arr ([r.textures.length, r.buffers.length, r.samplers.length, r.shaders.length, r.frames.length].map .nat)

end SceneGraph
