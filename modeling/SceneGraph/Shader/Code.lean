import SceneGraph.Shader.ValueType

/-!
# Shader expressions

Expressions of the shading language as trees, and their text. `Code.helpers`, `Code.samples`,
`Code.slots` and `Code.readsTime` say what an expression refers to; `Code.convert?` wraps one in a
conversion between value types.
-/
set_option autoImplicit false

namespace SceneGraph

/-- An expression of the shading language. -/
inductive Code where
  | zero (t : ValueType)
  | one (t : ValueType)
  | decimal (text : String)
  /-- A four-component slot of the constants. -/
  | slot (i : Nat)
  /-- The clock of the frame. -/
  | time
  /-- The size of the target in pixels. -/
  | resolution
  /-- The texture coordinates of the fragment. -/
  | uv
  | instanceIndex
  | bound (name : String)
  | verbatim (text : String)
  | part (e : Code) (components : String)
  /-- The first three components of a value in parentheses. -/
  | firstThree (e : Code)
  /-- An operation in parentheses. -/
  | binary (op : String) (a b : Code)
  /-- An operation without parentheses. -/
  | bare (op : String) (a b : Code)
  | signed (op : String) (e : Code)
  | minus (e : Code)
  /-- A conversion, constructor or built-in function. -/
  | call (function : String) (args : List Code)
  /-- A function declared in the module. -/
  | helper (name : String) (args : List Code)
  /-- A texture read at coordinates whose origin is at the bottom left; `key` is the binding and
  `name` the stem of its variables. -/
  | sample (key name : String) (position : Code)
  /-- The size of a bound texture in texels. -/
  | dimensions (name : String)
deriving Inhabited

namespace Code

/-- The function that turns coordinates upside down. -/
def flipName : String := "flip_uv"

def textureVar (name : String) : String := "t_" ++ name

def samplerVar (name : String) : String := "s_" ++ name

def zeroText : ValueType → String
  | .float => "0.0"
  | .int => "0"
  | .uint => "0u"
  | .bool => "false"
  | _ => ""

def oneText : ValueType → String
  | .float => "1.0"
  | .int => "1"
  | .uint => "1u"
  | .bool => "true"
  | _ => ""

mutual

def render : Code → String
  | .zero t => zeroText t
  | .one t => oneText t
  | .decimal text => text
  | .slot i => s!"params[{i}]"
  | .time => "frame.time"
  | .resolution => "frame.resolution"
  | .uv => "in.uv"
  | .instanceIndex => "in.instance"
  | .bound name => name
  | .verbatim text => text
  | .part e components => render e ++ "." ++ components
  | .firstThree e => "(" ++ render e ++ ").xyz"
  | .binary op a b => "(" ++ render a ++ " " ++ op ++ " " ++ render b ++ ")"
  | .bare op a b => render a ++ " " ++ op ++ " " ++ render b
  | .signed op e => "(" ++ op ++ render e ++ ")"
  | .minus e => "-" ++ render e
  | .call function args => function ++ "(" ++ ", ".intercalate (renderAll args) ++ ")"
  | .helper name args => name ++ "(" ++ ", ".intercalate (renderAll args) ++ ")"
  | .sample _ name position =>
    "textureSample(" ++ textureVar name ++ ", " ++ samplerVar name ++ ", " ++ flipName ++ "("
      ++ render position ++ "))"
  | .dimensions name => "textureDimensions(" ++ textureVar name ++ ")"

def renderAll : List Code → List String
  | [] => []
  | e :: rest => render e :: renderAll rest

end

/-! ## What an expression refers to -/

mutual

/-- The leaves of an expression: everything in it that has no expressions below, with the functions
and bindings that it uses on the way. -/
def uses : Code → List Code
  | .part e _ => uses e
  | .firstThree e => uses e
  | .binary _ a b => uses a ++ uses b
  | .bare _ a b => uses a ++ uses b
  | .signed _ e => uses e
  | .minus e => uses e
  | .call _ args => usesAll args
  | .helper name args => .helper name [] :: usesAll args
  | .sample key name position => .sample key name (.verbatim "") :: uses position
  | e => [e]

def usesAll : List Code → List Code
  | [] => []
  | e :: rest => uses e ++ usesAll rest

end

/-- The functions of the module that an expression calls. -/
def helpers (e : Code) : List String :=
  e.uses.filterMap fun
    | .helper name _ => some name
    | .sample _ _ _ => some flipName
    | _ => none

/-- The bindings that an expression samples, by key. -/
def samples (e : Code) : List String :=
  e.uses.filterMap fun
    | .sample key _ _ => some key
    | _ => none

/-- The stems of the texture variables in an expression. -/
def textureNames (e : Code) : List String :=
  e.uses.filterMap fun
    | .sample _ name _ => some name
    | .dimensions name => some name
    | _ => none

def slots (e : Code) : List Nat :=
  e.uses.filterMap fun
    | .slot i => some i
    | _ => none

def readsTime (e : Code) : Bool :=
  e.uses.any fun
    | .time => true
    | _ => false

def readsInstance (e : Code) : Bool :=
  e.uses.any fun
    | .instanceIndex => true
    | _ => false

/-- An expression reads the texture coordinates of the fragment. -/
def readsUv (e : Code) : Bool :=
  e.uses.any fun
    | .uv => true
    | _ => false

/-! ## Conversions -/

def construct (t : ValueType) (args : List Code) : Code := .call t.wgsl args

/-- A truth value as a number: one where it holds, zero where not. -/
def numberOfBool (e : Code) (t : ValueType) : Code := .call "select" [.zero t, .one t, e]

def asFloat (e : Code) (source : ValueType) : Code :=
  match source with
  | .float => e
  | .bool => numberOfBool e .float
  | _ => construct .float [e]

/-- Converts an expression between types. Numbers convert freely, truth values become numbers, scalars
spread over vectors, vectors widen with zeros and an opaque alpha, and four components narrow to
three. -/
def convert? (e : Code) (source target : ValueType) : Option Code :=
  if source = target then some e
  else match target, source with
    | .float, .bool | .int, .bool | .uint, .bool => some (numberOfBool e target)
    | .float, .int | .float, .uint | .int, .float | .int, .uint | .uint, .float | .uint, .int =>
      some (construct target [e])
    | .vec3, .vec2 => some (construct .vec3 [e, .zero .float])
    | .vec4, .vec2 => some (construct .vec4 [e, .zero .float, .one .float])
    | .vec4, .vec3 => some (construct .vec4 [e, .one .float])
    | .vec3, .vec4 => some (.firstThree e)
    | _, _ =>
      if target.isVector && source.isScalar then some (construct target [asFloat e source]) else none

end Code

end SceneGraph
