/-!
# Types of shader values

The types that compiled expressions have, their names in schemas and in shader text, and the common
type of two operands.
-/
set_option autoImplicit false

namespace SceneGraph

/-- The type of a shader value. -/
inductive ValueType where
  | invalid
  | float
  | int
  | uint
  | bool
  | vec2
  | vec3
  | vec4
  | mat4
  | texture
  | unknown (code : Int)
deriving Repr, DecidableEq, Inhabited

namespace ValueType

/-- The types that have names, in the order of their numbers. -/
def all : List ValueType := [.invalid, .float, .int, .uint, .bool, .vec2, .vec3, .vec4, .mat4, .texture]

def name : ValueType → String
  | .invalid => "invalid"
  | .float => "float"
  | .int => "int"
  | .uint => "uint"
  | .bool => "bool"
  | .vec2 => "vec2"
  | .vec3 => "vec3"
  | .vec4 => "vec4"
  | .mat4 => "mat4"
  | .texture => "texture"
  | .unknown code => s!"ValueType({code})"

def code : ValueType → Int
  | .invalid => 0
  | .float => 1
  | .int => 2
  | .uint => 3
  | .bool => 4
  | .vec2 => 5
  | .vec3 => 6
  | .vec4 => 7
  | .mat4 => 8
  | .texture => 9
  | .unknown code => code

def ofCode (n : Int) : ValueType := (all.find? fun t => t.code == n).getD (.unknown n)

def wgsl : ValueType → String
  | .float => "f32"
  | .int => "i32"
  | .uint => "u32"
  | .bool => "bool"
  | .vec2 => "vec2<f32>"
  | .vec3 => "vec3<f32>"
  | .vec4 => "vec4<f32>"
  | .mat4 => "mat4x4<f32>"
  | .texture => "texture_2d<f32>"
  | _ => ""

def ofName? (name : String) : Option ValueType := (all.drop 1).find? fun t => t.name == name

/-- The number of scalar components; zero for types without any. -/
def components : ValueType → Nat
  | .float | .int | .uint | .bool => 1
  | .vec2 => 2
  | .vec3 => 3
  | .vec4 => 4
  | .mat4 => 16
  | _ => 0

def isScalar : ValueType → Bool
  | .float | .int | .uint | .bool => true
  | _ => false

def isVector : ValueType → Bool
  | .vec2 | .vec3 | .vec4 => true
  | _ => false

def isNumeric : ValueType → Bool
  | .float | .int | .uint | .vec2 | .vec3 | .vec4 => true
  | _ => false

def isNumber : ValueType → Bool
  | .float | .int | .uint => true
  | _ => false

def vector (n : Nat) : ValueType :=
  match n with
  | 1 => .float
  | 2 => .vec2
  | 3 => .vec3
  | 4 => .vec4
  | _ => .invalid

/-- The common type of two operands: numbers widen to the vector beside them, and different numbers
meet as floats. Vectors of different sizes have none. -/
def unify? (a b : ValueType) : Option ValueType :=
  if a = b then if a.isNumeric then some a else none
  else if a.isVector && b.isNumber then some a
  else if b.isVector && a.isNumber then some b
  else if a.isNumber && b.isNumber then some .float
  else none

end ValueType

end SceneGraph
