import SceneGraph.Schema.Basic

/-!
# The built-in schema

The node types that every scene may use: targets, draw passes, compositions, geometry, textures,
constants and inputs, mathematics and logic.
-/
set_option autoImplicit false

namespace SceneGraph.Builtin

/-! ## Shorthands -/

def numbers (xs : List Float) : Value := .list (xs.map .num)

def choice (name : String) (values : List String) (default : Option String) : ParamSpec :=
  { name, type := .choice, values, default := default.map .str }

def port (name type : String) : PortSpec := { name, type }

def paramTable (ps : List ParamSpec) : Table ParamSpec := Table.ofList (ps.map fun p => (p.name, p))

def formatNames : List String :=
  ["rgba8unorm", "rgba8unorm-srgb", "bgra8unorm", "rgba16float", "rgba32float"]

def blendNames : List String :=
  ["alpha", "premultiplied", "additive", "multiply", "screen", "replace", "opaque", "off", "none"]

def blendFactorNames : List String :=
  ["zero", "one", "src", "one-minus-src", "src-alpha", "one-minus-src-alpha", "dst", "one-minus-dst",
    "dst-alpha", "one-minus-dst-alpha", "src-alpha-saturated", "constant", "one-minus-constant"]

def blendOperationNames : List String := ["add", "subtract", "reverse-subtract", "min", "max"]

def blendParam (default : String) : ParamSpec := choice "blend" blendNames (some default)

def samplerParams : List ParamSpec :=
  [choice "addressModeU" ["clamp", "repeat", "mirror"] (some "clamp"),
    choice "addressModeV" ["clamp", "repeat", "mirror"] (some "clamp"),
    choice "filter" ["linear", "nearest"] (some "linear")]

def imageParams : List ParamSpec :=
  [{ name := "assetId", type := .string }, { name := "dataUrl", type := .string },
    { name := "path", type := .string }]

def identityMatrix : Value := numbers [1, 0, 0, 0, 0, 1, 0, 0, 0, 0, 1, 0, 0, 0, 0, 1]

/-! ## Targets -/

/-- The window or file that a scene is shown in. -/
def screen : NodeType :=
  { name := "Screen", category := "target"
    params := paramTable
      [{ name := "width", type := .int }, { name := "height", type := .int },
        choice "format" formatNames (some "rgba8unorm"),
        choice "encoding" ["linear", "srgb"] (some "linear"),
        { name := "clearColor", type := .color, default := some (numbers [0, 0, 0, 1]) }]
    inputs := [port "pass" "pass"]
    outputs := [port "texture" "texture"] }

def renderTexture : NodeType :=
  { name := "RenderTexture", category := "target"
    params := paramTable
      [{ name := "width", type := .int, min := some 0 }, { name := "height", type := .int, min := some 0 },
        { name := "scale", type := .float, min := some 0.0625, max := some 4, default := some (.num 1) },
        choice "format" formatNames (some "rgba8unorm"),
        { name := "clearColor", type := .color, default := some (numbers [0, 0, 0, 0]) }]
    inputs := [port "pass" "pass"]
    outputs := [port "texture" "texture"] }

/-! ## Draw passes -/

/-- Draws geometry, or the whole target, in a color. -/
def renderPass : NodeType :=
  { name := "RenderPass", category := "pass"
    params := paramTable
      [blendParam "alpha",
        choice "blendSrcFactor" blendFactorNames none, choice "blendDstFactor" blendFactorNames none,
        choice "blendOperation" blendOperationNames none,
        choice "blendSrcAlphaFactor" blendFactorNames none,
        choice "blendDstAlphaFactor" blendFactorNames none,
        choice "blendAlphaOperation" blendOperationNames none,
        { name := "transform", type := .mat4, default := some identityMatrix }]
    inputs := [port "color" "vec4", port "geometry" "geometry", port "transform" "mat4"]
    outputs := [port "pass" "pass"] }

def blit : NodeType :=
  { name := "Blit", category := "pass"
    params := paramTable (blendParam "premultiplied" :: samplerParams)
    inputs := [port "texture" "texture"]
    outputs := [port "pass" "pass"] }

def blur : NodeType :=
  { name := "Blur", category := "pass"
    params := paramTable
      [{ name := "radius", type := .float, min := some 0, max := some 64, default := some (.num 4) },
        { name := "iterations", type := .int, min := some 1, max := some 16, default := some (.num 2) },
        { name := "downscale", type := .int, min := some 1, max := some 8, default := some (.num 1) },
        blendParam "premultiplied"]
    inputs := [port "texture" "texture"]
    outputs := [port "pass" "pass"] }

/-- Lets the bright parts of a texture glow. -/
def bloom : NodeType :=
  { name := "Bloom", category := "pass"
    params := paramTable
      [{ name := "threshold", type := .float, min := some 0, default := some (.num 0.8) },
        { name := "intensity", type := .float, min := some 0, default := some (.num 1) },
        { name := "levels", type := .int, min := some 1, max := some 8, default := some (.num 4) },
        blendParam "replace"]
    inputs := [port "texture" "texture"]
    outputs := [port "pass" "pass"] }

def composite : NodeType :=
  { name := "Composite", category := "composite"
    params := paramTable [blendParam "premultiplied"]
    inputs := [port "pass" "pass", { name := "dynamic_", type := "pass", isFamily := true }]
    outputs := [port "pass" "pass"] }

def group : NodeType :=
  { name := "Group", category := "group", openInputs := true
    params := paramTable [{ name := "groupId", type := .string, required := true }] }

/-! ## Geometry -/

def rect : NodeType :=
  { name := "Rect", category := "geometry"
    params := paramTable
      [{ name := "width", type := .float, min := some 0, default := some (.num 100) },
        { name := "height", type := .float, min := some 0, default := some (.num 100) },
        { name := "center", type := .vec2, default := some (numbers [0, 0]) }]
    inputs := [port "width" "float", port "height" "float", port "center" "vec2"]
    outputs := [port "geometry" "geometry"] }

def circle : NodeType :=
  { name := "Circle", category := "geometry"
    params := paramTable
      [{ name := "radius", type := .float, min := some 0, default := some (.num 50) },
        { name := "segments", type := .int, min := some 3, max := some 1024, default := some (.num 32) },
        { name := "center", type := .vec2, default := some (numbers [0, 0]) }]
    inputs := [port "radius" "float", port "center" "vec2"]
    outputs := [port "geometry" "geometry"] }

/-- Moves, turns and scales geometry. -/
def transform2D : NodeType :=
  { name := "Transform2D", category := "geometry"
    params := paramTable
      [{ name := "translate", type := .vec2, default := some (numbers [0, 0]) },
        { name := "scale", type := .vec2, default := some (numbers [1, 1]) },
        { name := "rotate", type := .float, default := some (.num 0) }]
    inputs := [port "geometry" "geometry", port "translate" "vec2", port "scale" "vec2",
      port "rotate" "float"]
    outputs := [port "geometry" "geometry"] }

def instances : NodeType :=
  { name := "Instances", category := "geometry"
    params := paramTable
      [{ name := "count", type := .int, min := some 1, max := some 65536, default := some (.num 1) },
        { name := "columns", type := .int, min := some 1, default := some (.num 1) },
        { name := "spacing", type := .vec2, default := some (numbers [0, 0]) }]
    inputs := [port "geometry" "geometry", port "count" "int", port "columns" "int",
      port "spacing" "vec2"]
    outputs := [port "geometry" "geometry"] }

/-! ## Textures -/

/-- An image from an asset, a data URL or a file. -/
def imageFile : NodeType :=
  { name := "ImageFile", category := "image", params := paramTable imageParams
    outputs := [port "image" "image"] }

def imageTexture : NodeType :=
  { name := "ImageTexture", category := "texture"
    params := paramTable (imageParams ++ samplerParams)
    inputs := [port "image" "image", port "uv" "vec2"]
    outputs := [port "color" "vec4", port "texture" "texture"] }

def sampleTexture : NodeType :=
  { name := "SampleTexture", category := "texture", params := paramTable samplerParams
    inputs := [port "texture" "texture", port "uv" "vec2"]
    outputs := [port "color" "vec4"] }

def text : NodeType :=
  { name := "Text", category := "texture"
    params := paramTable
      [{ name := "text", type := .string, default := some (.str "") },
        { name := "scale", type := .int, min := some 1, max := some 16, default := some (.num 1) },
        { name := "color", type := .color, default := some (numbers [1, 1, 1, 1]) }]
    inputs := [port "uv" "vec2"]
    outputs := [port "color" "vec4", port "texture" "texture"] }

/-! ## Constants and inputs -/

def constant (name : String) (type : ParamType) (default : Value) (inputs : List PortSpec)
    (output : PortSpec) : NodeType :=
  { name, category := "constant"
    params := paramTable [{ name := "value", type, default := some default }]
    inputs, outputs := [output] }

def componentPorts (names : List String) : List PortSpec := names.map fun n => port n "float"

def constants : List NodeType :=
  [constant "Float" .float (.num 0) [] (port "value" "float"),
    constant "Int" .int (.num 0) [] (port "value" "int"),
    constant "Bool" .bool (.bool false) [] (port "value" "bool"),
    constant "Vec2" .vec2 (numbers [0, 0]) (componentPorts ["x", "y"]) (port "value" "vec2"),
    constant "Vec3" .vec3 (numbers [0, 0, 0]) (componentPorts ["x", "y", "z"]) (port "value" "vec3"),
    constant "Vec4" .vec4 (numbers [0, 0, 0, 0]) (componentPorts ["x", "y", "z", "w"])
      (port "value" "vec4"),
    constant "Color" .color (numbers [1, 1, 1, 1]) [] (port "color" "vec4"),
    constant "Mat4" .mat4 identityMatrix [] (port "value" "mat4")]

/-- The values that change from frame to frame or from pixel to pixel. -/
def frameInputs : List NodeType :=
  [{ name := "Time", category := "input"
     params := paramTable [{ name := "speed", type := .float, default := some (.num 1) }]
     outputs := [port "time" "float"] },
    { name := "UV", category := "input", outputs := [port "uv" "vec2"] },
    { name := "Resolution", category := "input", outputs := [port "resolution" "vec2"] },
    { name := "InstanceIndex", category := "input", outputs := [port "index" "uint"] }]

/-! ## Mathematics and logic -/

def unary (result name : String) : NodeType :=
  { name, category := "unary", openInputs := true, inputs := [port "x" "any"]
    outputs := [port "value" result] }

def binary (result name : String) : NodeType :=
  { name, category := "binary", openInputs := true, inputs := [port "a" "any", port "b" "any"]
    outputs := [port "value" result] }

def functions : List NodeType :=
  ["Sin", "Cos", "Tan", "Abs", "Floor", "Ceil", "Fract", "Sqrt", "Exp", "Log", "Negate", "Saturate",
    "OneMinus", "Normalize"].map (unary "any")
  ++ ["Length"].map (unary "float")
  ++ ["Add", "Subtract", "Multiply", "Divide", "Min", "Max", "Pow", "Mod", "Step",
    "Atan2"].map (binary "any")
  ++ ["Dot", "Distance"].map (binary "float")

def ternaries : List NodeType :=
  [{ name := "Mix", category := "math", inputs := [port "a" "any", port "b" "any", port "t" "any"]
     outputs := [port "value" "any"] },
    { name := "Clamp", category := "math", openInputs := true
      params := paramTable
        [{ name := "min", type := .float, default := some (.num 0) },
          { name := "max", type := .float, default := some (.num 1) }]
      inputs := [port "x" "any", port "min" "any", port "max" "any"]
      outputs := [port "value" "any"] },
    { name := "Smoothstep", category := "math"
      inputs := [port "edge0" "any", port "edge1" "any", port "x" "any"]
      outputs := [port "value" "any"] }]

def logic : List NodeType :=
  [{ name := "Compare", category := "logic"
     params := paramTable [choice "op" ["<", "<=", ">", ">=", "==", "!="] (some "<")]
     inputs := [port "a" "any", port "b" "any"]
     outputs := [port "value" "bool"] },
    { name := "Select", category := "logic"
      inputs := [port "cond" "bool", port "a" "any", port "b" "any"]
      outputs := [port "value" "any"] },
    { name := "And", category := "logic", inputs := [port "a" "bool", port "b" "bool"]
      outputs := [port "value" "bool"] },
    { name := "Or", category := "logic", inputs := [port "a" "bool", port "b" "bool"]
      outputs := [port "value" "bool"] },
    { name := "Not", category := "logic", inputs := [port "x" "bool"]
      outputs := [port "value" "bool"] }]

/-- Taking vectors apart and putting them together. -/
def vectors : List NodeType :=
  [{ name := "Split", category := "vector", inputs := [port "value" "any"]
     outputs := componentPorts ["x", "y", "z", "w"] },
    { name := "Combine", category := "vector"
      params := paramTable
        [{ name := "size", type := .int, min := some 2, max := some 4, default := some (.num 4) }]
      inputs := componentPorts ["x", "y", "z", "w"]
      outputs := [port "value" "any"] }]

def expression : NodeType :=
  { name := "Expression", category := "expression", declaredPorts := true
    params := paramTable
      [{ name := "source", type := .string, required := true },
        choice "type" ["float", "int", "uint", "bool", "vec2", "vec3", "vec4"] (some "float")]
    outputs := [port "value" "any"] }

/-! ## The schema -/

def nodeTypes : List NodeType :=
  [screen, renderTexture, renderPass, blit, blur, bloom, composite, group, rect, circle, transform2D,
    instances, imageFile, imageTexture, sampleTexture, text]
  ++ constants ++ frameInputs ++ functions ++ ternaries ++ logic ++ vectors ++ [expression]

/-- The output types that each input type accepts. -/
def compat : List (String × List String) :=
  [("float", ["float", "int", "uint", "any"]),
    ("int", ["int", "uint", "any"]),
    ("uint", ["uint", "int", "any"]),
    ("bool", ["bool", "any"]),
    ("vec2", ["vec2", "float", "any"]),
    ("vec3", ["vec3", "float", "any"]),
    ("vec4", ["vec4", "vec3", "float", "any"]),
    ("mat4", ["mat4", "any"]),
    ("texture", ["texture"]),
    ("image", ["image"]),
    ("geometry", ["geometry"]),
    ("pass", ["pass", "vec4", "vec3", "texture", "any"]),
    ("any", ["float", "int", "uint", "bool", "vec2", "vec3", "vec4", "mat4", "any"])]

end SceneGraph.Builtin

namespace SceneGraph.Schema

def builtin : Schema :=
  { types := Table.ofList (Builtin.nodeTypes.map fun t => (t.name, t))
    compat := Table.ofList Builtin.compat
    ignoredParams := ["label", "position", "collapsed", "comment", "color_tag"] }

end SceneGraph.Schema
