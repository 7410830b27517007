import SceneGraph.Shader.Code

/-!
# Shader modules

A module of a render pass: the shared globals, texture bindings, helper functions, one of two vertex
programs and a fragment program. `ShaderModule.render` writes it out;
`ShaderModule.declaredHelpers`, `ShaderModule.declaredVariables` and `ShaderModule.codes` say what it
declares and which expressions it holds.
-/
set_option autoImplicit false

namespace SceneGraph

/-- A texture and a sampler bound to a pass; the sampler follows the texture. -/
structure TextureBinding where
  binding : UInt32
  textureVar : String
  samplerVar : String
  /-- The name of the bound texture. -/
  texture : String
  /-- The name of the bound sampler. -/
  sampler : String
deriving Repr, DecidableEq, Inhabited

/-- A function declared in a module. -/
structure HelperFunction where
  name : String
  source : String
deriving Repr, DecidableEq, Inhabited

/-- A statement of a fragment program. -/
inductive ShaderStatement where
  | bind (name : String) (value : Code)
  | variable (name : String) (value : Code)
  | increase (name : String) (value : Code)
  | result (value : Code)
deriving Inhabited

namespace ShaderStatement

def code : ShaderStatement → Code
  | .bind _ e => e
  | .variable _ e => e
  | .increase _ e => e
  | .result e => e

def render : ShaderStatement → String
  | .bind name e => "\tlet " ++ name ++ " = " ++ e.render ++ ";"
  | .variable name e => "\tvar " ++ name ++ " = " ++ e.render ++ ";"
  | .increase name e => "\t" ++ name ++ " += " ++ e.render ++ ";"
  | .result e => "\treturn " ++ e.render ++ ";"

end ShaderStatement

/-- A vertex program with the transform of its positions. -/
inductive VertexProgram where
  /-- One triangle that covers the target. -/
  | fullscreen (transform : Code)
  /-- Vertices in pixels around the center of the target, with an offset per instance or without. -/
  | geometry (transform : Code) (hasOffsets : Bool)
deriving Inhabited

def VertexProgram.transform : VertexProgram → Code
  | .fullscreen t => t
  | .geometry t _ => t

/-- Joins lines, each with an end of line. -/
def textLines (ls : List String) : String := String.join (ls.map (· ++ "\n"))

def VertexProgram.render : VertexProgram → String
  | .fullscreen t => textLines [
      "@vertex",
      "fn vs_main(@builtin(vertex_index) vi: u32, @builtin(instance_index) ii: u32) -> VertexOut \x7b",
      "\tlet p = vec2<f32>(f32((vi << 1u) & 2u), f32(vi & 2u)) * 2.0 - 1.0;",
      "\tvar out: VertexOut;",
      "\tout.position = " ++ t.render ++ " * vec4<f32>(p, 0.0, 1.0);",
      "\tout.uv = (p + 1.0) * 0.5;",
      "\tout.instance = ii;",
      "\treturn out;",
      "\x7d"]
  | .geometry t hasOffsets => textLines ([
      "struct VertexIn \x7b",
      "\t@location(0) pos_uv: vec4<f32>,"]
      ++ (if hasOffsets then ["\t@location(1) offset: vec2<f32>,"] else []) ++ [
      "\x7d",
      "",
      "@vertex",
      "fn vs_main(in: VertexIn, @builtin(instance_index) ii: u32) -> VertexOut \x7b",
      "\tlet world = " ++ t.render ++ " * vec4<f32>(in.pos_uv.xy"
        ++ (if hasOffsets then " + in.offset" else "") ++ ", 0.0, 1.0);",
      "\tvar out: VertexOut;",
      "\tout.position = vec4<f32>(world.xy * 2.0 / frame.resolution, world.z, world.w);",
      "\tout.uv = in.pos_uv.zw;",
      "\tout.instance = ii;",
      "\treturn out;",
      "\x7d"])

/-- A shader module of a render pass. -/
structure ShaderModule where
  bindings : List TextureBinding := []
  helpers : List HelperFunction := []
  vertex : VertexProgram
  fragment : List ShaderStatement
deriving Inhabited

namespace ShaderModule

/-- The declarations that all modules share: the frame uniform and the constants. -/
def globals : String := textLines [
  "struct Frame \x7b",
  "\ttime: f32,",
  "\tcount: u32,",
  "\tresolution: vec2<f32>,",
  "\x7d",
  "",
  "@group(0) @binding(0) var<uniform> frame: Frame;",
  "@group(0) @binding(1) var<storage, read> params: array<vec4<f32>>;"]

/-- What the vertex program hands to the fragment program. -/
def vertexOut : String := textLines [
  "struct VertexOut \x7b",
  "\t@builtin(position) position: vec4<f32>,",
  "\t@location(0) uv: vec2<f32>,",
  "\t@location(1) @interpolate(flat) instance: u32,",
  "\x7d"]

/-- The declaration of a bound texture and its sampler. -/
def renderBinding (b : TextureBinding) : String := textLines [
  s!"@group(0) @binding({b.binding}) var {b.textureVar}: texture_2d<f32>;",
  s!"@group(0) @binding({b.binding + 1}) var {b.samplerVar}: sampler;"]

def renderFragment (body : List ShaderStatement) : String := textLines [
  "@fragment",
  "fn fs_main(in: VertexOut) -> @location(0) vec4<f32> \x7b",
  "\n".intercalate (body.map ShaderStatement.render),
  "\x7d"]

def render (m : ShaderModule) : String :=
  globals ++ "\n"
    ++ String.join (m.bindings.map renderBinding)
    ++ (if m.bindings.isEmpty then "" else "\n")
    ++ String.join (m.helpers.map fun h => h.source ++ "\n")
    ++ vertexOut ++ "\n" ++ m.vertex.render ++ "\n" ++ renderFragment m.fragment

/-- The expressions that the programs of a module hold. -/
def codes (m : ShaderModule) : List Code := m.vertex.transform :: m.fragment.map ShaderStatement.code

def declaredHelpers (m : ShaderModule) : List String := m.helpers.map HelperFunction.name

def declaredVariables (m : ShaderModule) : List String :=
  m.bindings.flatMap fun b => [b.textureVar, b.samplerVar]

end ShaderModule

/-- The shader of a pass. -/
inductive Shader where
  /-- The pass draws nothing. -/
  | absent
  | verbatim (text : String)
  | generated (m : ShaderModule)
deriving Inhabited

def Shader.text : Shader → String
  | .absent => ""
  | .verbatim text => text
  | .generated m => m.render

end SceneGraph
