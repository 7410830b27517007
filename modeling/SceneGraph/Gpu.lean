/-!
# States of the graphics pipeline

Formats, load operations, sampler modes and blend states, with their names and the numbers that
stand for them in signatures.
-/
set_option autoImplicit false

namespace SceneGraph

/-- The layout of a texel. -/
inductive TextureFormat where
  | undefined
  | r8Unorm
  | rgba8Unorm
  | rgba8UnormSrgb
  | bgra8Unorm
  | bgra8UnormSrgb
  | rgba16Float
  | rgba32Float
deriving Repr, DecidableEq, Inhabited

namespace TextureFormat

def number : TextureFormat → UInt32
  | .undefined => 0
  | .r8Unorm => 0x01
  | .rgba8Unorm => 0x16
  | .rgba8UnormSrgb => 0x17
  | .bgra8Unorm => 0x1B
  | .bgra8UnormSrgb => 0x1C
  | .rgba16Float => 0x28
  | .rgba32Float => 0x29

def name : TextureFormat → String
  | .undefined => "Undefined"
  | .r8Unorm => "R8Unorm"
  | .rgba8Unorm => "RGBA8Unorm"
  | .rgba8UnormSrgb => "RGBA8UnormSrgb"
  | .bgra8Unorm => "BGRA8Unorm"
  | .bgra8UnormSrgb => "BGRA8UnormSrgb"
  | .rgba16Float => "RGBA16Float"
  | .rgba32Float => "RGBA32Float"

/-- The name of a format in scenes; formats that scenes cannot ask for have none. -/
def sceneName : TextureFormat → String
  | .rgba8Unorm => "rgba8unorm"
  | .rgba8UnormSrgb => "rgba8unorm-srgb"
  | .bgra8Unorm => "bgra8unorm"
  | .rgba16Float => "rgba16float"
  | .rgba32Float => "rgba32float"
  | _ => ""

def sceneFormats : List TextureFormat :=
  [.rgba8Unorm, .rgba8UnormSrgb, .bgra8Unorm, .rgba16Float, .rgba32Float]

def ofSceneName? (name : String) : Option TextureFormat := sceneFormats.find? fun f => f.sceneName == name

def bytesPerPixel : TextureFormat → Int
  | .rgba16Float => 8
  | .rgba32Float => 16
  | _ => 4

end TextureFormat

def isFloatFormatName (name : String) : Bool := name == "rgba16float" || name == "rgba32float"

/-- What happens to a target before a pass draws. -/
inductive LoadOp where
  | undefined
  | load
  | clear
deriving Repr, DecidableEq, Inhabited

def LoadOp.number : LoadOp → UInt32
  | .undefined => 0
  | .load => 1
  | .clear => 2

def LoadOp.name : LoadOp → String
  | .undefined => "Undefined"
  | .load => "Load"
  | .clear => "Clear"

/-- What a texture shows outside its bounds. -/
inductive AddressMode where
  | clampToEdge
  | tile
  | mirrorTile
deriving Repr, DecidableEq, Inhabited

def AddressMode.number : AddressMode → UInt32
  | .clampToEdge => 1
  | .tile => 2
  | .mirrorTile => 3

def AddressMode.name : AddressMode → String
  | .clampToEdge => "ClampToEdge"
  | .tile => "Repeat"
  | .mirrorTile => "MirrorRepeat"

/-- The address mode with a name in scenes; unknown names clamp. -/
def AddressMode.ofSceneName (name : String) : AddressMode :=
  match name with
  | "repeat" => .tile
  | "mirror" => .mirrorTile
  | _ => .clampToEdge

/-- How values between texels are found. -/
inductive FilterMode where
  | nearest
  | linear
deriving Repr, DecidableEq, Inhabited

def FilterMode.number : FilterMode → UInt32
  | .nearest => 1
  | .linear => 2

def FilterMode.name : FilterMode → String
  | .nearest => "Nearest"
  | .linear => "Linear"

/-- The filter with a name in scenes; unknown names are linear. -/
def FilterMode.ofSceneName (name : String) : FilterMode :=
  if name = "nearest" then .nearest else .linear

/-! ## Blending -/

/-- A factor of a blend. -/
inductive BlendFactor where
  | zero
  | one
  | src
  | oneMinusSrc
  | srcAlpha
  | oneMinusSrcAlpha
  | dst
  | oneMinusDst
  | dstAlpha
  | oneMinusDstAlpha
  | srcAlphaSaturated
  | constant
  | oneMinusConstant
deriving Repr, DecidableEq, Inhabited

namespace BlendFactor

/-- All factors, in the order of their numbers. -/
def all : List BlendFactor :=
  [.zero, .one, .src, .oneMinusSrc, .srcAlpha, .oneMinusSrcAlpha, .dst, .oneMinusDst, .dstAlpha,
    .oneMinusDstAlpha, .srcAlphaSaturated, .constant, .oneMinusConstant]

def number : BlendFactor → UInt32
  | .zero => 1
  | .one => 2
  | .src => 3
  | .oneMinusSrc => 4
  | .srcAlpha => 5
  | .oneMinusSrcAlpha => 6
  | .dst => 7
  | .oneMinusDst => 8
  | .dstAlpha => 9
  | .oneMinusDstAlpha => 10
  | .srcAlphaSaturated => 11
  | .constant => 12
  | .oneMinusConstant => 13

def name : BlendFactor → String
  | .zero => "Zero"
  | .one => "One"
  | .src => "Src"
  | .oneMinusSrc => "OneMinusSrc"
  | .srcAlpha => "SrcAlpha"
  | .oneMinusSrcAlpha => "OneMinusSrcAlpha"
  | .dst => "Dst"
  | .oneMinusDst => "OneMinusDst"
  | .dstAlpha => "DstAlpha"
  | .oneMinusDstAlpha => "OneMinusDstAlpha"
  | .srcAlphaSaturated => "SrcAlphaSaturated"
  | .constant => "Constant"
  | .oneMinusConstant => "OneMinusConstant"

def sceneName : BlendFactor → String
  | .zero => "zero"
  | .one => "one"
  | .src => "src"
  | .oneMinusSrc => "one-minus-src"
  | .srcAlpha => "src-alpha"
  | .oneMinusSrcAlpha => "one-minus-src-alpha"
  | .dst => "dst"
  | .oneMinusDst => "one-minus-dst"
  | .dstAlpha => "dst-alpha"
  | .oneMinusDstAlpha => "one-minus-dst-alpha"
  | .srcAlphaSaturated => "src-alpha-saturated"
  | .constant => "constant"
  | .oneMinusConstant => "one-minus-constant"

def ofSceneName? (name : String) : Option BlendFactor := all.find? fun f => f.sceneName == name

end BlendFactor

/-- How the two sides of a blend are joined. -/
inductive BlendOperation where
  | add
  | subtract
  | reverseSubtract
  | min
  | max
deriving Repr, DecidableEq, Inhabited

namespace BlendOperation

/-- All operations, in the order of their numbers. -/
def all : List BlendOperation := [.add, .subtract, .reverseSubtract, .min, .max]

def number : BlendOperation → UInt32
  | .add => 1
  | .subtract => 2
  | .reverseSubtract => 3
  | .min => 4
  | .max => 5

def name : BlendOperation → String
  | .add => "Add"
  | .subtract => "Subtract"
  | .reverseSubtract => "ReverseSubtract"
  | .min => "Min"
  | .max => "Max"

def sceneName : BlendOperation → String
  | .add => "add"
  | .subtract => "subtract"
  | .reverseSubtract => "reverse-subtract"
  | .min => "min"
  | .max => "max"

def ofSceneName? (name : String) : Option BlendOperation := all.find? fun o => o.sceneName == name

end BlendOperation

/-- The blend of a channel group. -/
structure BlendComponent where
  src : BlendFactor
  dst : BlendFactor
  operation : BlendOperation := .add
deriving Repr, DecidableEq, Inhabited

/-- The blend of color and alpha. -/
structure BlendState where
  color : BlendComponent
  alpha : BlendComponent
deriving Repr, DecidableEq, Inhabited

/-- A color of four doubles. -/
structure Color where
  r : Float := 0
  g : Float := 0
  b : Float := 0
  a : Float := 0
deriving Inhabited

end SceneGraph
