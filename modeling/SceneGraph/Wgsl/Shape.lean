import SceneGraph.Wgsl.Tree

/-!
# Shapes of expressions

The shape of a value tells which components, fields and elements it has. `Environment.infer` finds the
shape of an expression, and refuses one that names something undeclared or takes something apart that
has no such part. Whether the operands of an operator agree is not looked at.
-/
set_option autoImplicit false

namespace SceneGraph.Wgsl

/-- What a value can be taken apart into. -/
inductive Shape where
  /-- Nothing is known of the value. -/
  | unknown
  | scalar
  | vector (size : Nat)
  | matrix (columns rows : Nat)
  | array (element : Shape)
  | record (name : String)
  | pointer (target : Shape)

/-- A declared name: the shape of its value, and whether it can be assigned to. -/
structure Binding where
  shape : Shape
  isPlace : Bool

/-- A declared function. -/
structure Signature where
  arity : Nat
  result : Shape

/-- What the declarations of a module make known. -/
structure Environment where
  records : List (String × List (String × TypeTree)) := []
  aliases : List (String × TypeTree) := []
  functions : List (String × Signature) := []
  globals : List (String × Binding) := []

/-- The names that are visible at some place, innermost first. -/
abbrev Scope := List (String × Binding)

/-! ## Types -/

def smallSize? (c : Char) : Option Nat :=
  match c with
  | '2' => some 2
  | '3' => some 3
  | '4' => some 4
  | _ => none

/-- The name of a vector or matrix type ends in nothing or in a mark of its element type. -/
def isElementMark (marks : List Char) : List Char → Bool
  | [] => true
  | [c] => marks.contains c
  | _ => false

/-- The shape that the name of a type stands for by itself. -/
def builtinShape? (name : String) : Option Shape :=
  match name.toList with
  | 'v' :: 'e' :: 'c' :: n :: mark => do
    if isElementMark ['f', 'i', 'u', 'h'] mark then return .vector (← smallSize? n) else none
  | 'm' :: 'a' :: 't' :: c :: 'x' :: r :: mark => do
    if isElementMark ['f', 'h'] mark then return .matrix (← smallSize? c) (← smallSize? r) else none
  | cs =>
    if ["f32", "i32", "u32", "bool", "f16", "atomic"].contains name then some .scalar
    else if name = "array" then some (.array .unknown)
    else if "texture_".toList.isPrefixOf cs || "sampler".toList.isPrefixOf cs then some .unknown
    else none

mutual

/-- The shape of a type; `fuel` bounds chains of aliases. -/
def Environment.shape? (env : Environment) : Nat → TypeTree → Option Shape
  | 0, _ => none
  | fuel + 1, .named "array" (element :: rest) => do
    let s ← env.shape? fuel element
    if rest.length ≤ 1 then return .array s else none
  | fuel + 1, .named "ptr" (_ :: target :: _) => return .pointer (← env.shape? fuel target)
  | fuel + 1, .named name args =>
    match env.aliases.lookup name with
    | some t => env.shape? fuel t
    | none =>
      if (env.records.lookup name).isSome then some (.record name)
      else match builtinShape? name with
        | some .unknown => some .unknown
        | some s => if env.allKnown fuel args then some s else none
        | none => none
  | _ + 1, .size _ => none

def Environment.allKnown (env : Environment) : Nat → List TypeTree → Bool
  | _, [] => true
  | 0, _ :: _ => false
  | fuel + 1, t :: rest => (env.shape? fuel t).isSome && env.allKnown fuel rest

end

/-- The longest chain of types that is followed. -/
def typeDepth : Nat := 64

def Environment.shapeOf? (env : Environment) (t : TypeTree) : Option Shape := env.shape? typeDepth t

/-! ## Parts -/

def componentIndex? (letters : List Char) (c : Char) : Option Nat := letters.findIdx? (· == c)

/-- The number of components that a field of a vector names; all come from one set of letters. -/
def swizzle? (size : Nat) (field : String) : Option Nat :=
  let cs := field.toList
  let within (letters : List Char) : Bool := cs.all fun c =>
    match componentIndex? letters c with
    | some i => i < size
    | none => false
  if 1 ≤ cs.length && cs.length ≤ 4 && (within ['x', 'y', 'z', 'w'] || within ['r', 'g', 'b', 'a'])
  then some cs.length else none

def Shape.ofSize (n : Nat) : Shape := if n = 1 then .scalar else .vector n

def Environment.field? (env : Environment) (field : String) : Shape → Option Shape
  | .unknown => some .unknown
  | .vector n => (swizzle? n field).map Shape.ofSize
  | .record name => do env.shapeOf? (← (← env.records.lookup name).lookup field)
  | .pointer target => env.field? field target
  | _ => none

def Shape.element? : Shape → Option Shape
  | .unknown => some .unknown
  | .vector _ => some .scalar
  | .matrix _ rows => some (.vector rows)
  | .array e => some e
  | .pointer target => target.element?
  | _ => none

/-! ## Functions -/

/-- What a built-in function gives. -/
inductive Outcome where
  /-- A value like its first argument. -/
  | alike
  | fixed (shape : Shape)

/-- The built-in functions with the numbers of their arguments and what they give. -/
def builtins : List (List String × List Nat × Outcome) :=
  [(["abs", "acos", "acosh", "asin", "asinh", "atan", "atanh", "ceil", "cos", "cosh", "countLeadingZeros",
      "countOneBits", "countTrailingZeros", "degrees", "dpdx", "dpdxCoarse", "dpdxFine", "dpdy",
      "dpdyCoarse", "dpdyFine", "exp", "exp2", "firstLeadingBit", "firstTrailingBit", "floor", "fract",
      "fwidth", "fwidthCoarse", "fwidthFine", "inverseSqrt", "log", "log2", "normalize", "quantizeToF16",
      "radians", "reverseBits", "round", "saturate", "sign", "sin", "sinh", "sqrt", "tan", "tanh",
      "trunc"], [1], .alike),
    (["atan2", "cross", "ldexp", "max", "min", "pow", "reflect", "step"], [2], .alike),
    (["clamp", "extractBits", "faceForward", "fma", "mix", "refract", "select", "smoothstep"], [3], .alike),
    (["insertBits"], [4], .alike),
    (["all", "any", "arrayLength", "determinant", "length", "pack2x16float", "pack2x16snorm",
      "pack2x16unorm", "pack4x8snorm", "pack4x8unorm", "pack4xI8", "pack4xU8", "pack4xI8Clamp",
      "pack4xU8Clamp", "atomicLoad"], [1], .fixed .scalar),
    (["distance", "dot", "dot4U8Packed", "dot4I8Packed", "atomicAdd", "atomicSub", "atomicMax", "atomicMin",
      "atomicAnd", "atomicOr", "atomicXor", "atomicExchange"], [2], .fixed .scalar),
    (["unpack2x16float", "unpack2x16snorm", "unpack2x16unorm"], [1], .fixed (.vector 2)),
    (["unpack4x8snorm", "unpack4x8unorm", "unpack4xI8", "unpack4xU8"], [1], .fixed (.vector 4)),
    (["frexp", "modf", "transpose", "workgroupUniformLoad"], [1], .fixed .unknown),
    (["outerProduct", "atomicStore"], [2], .fixed .unknown),
    (["atomicCompareExchangeWeak"], [3], .fixed .unknown),
    (["storageBarrier", "workgroupBarrier", "textureBarrier"], [0], .fixed .unknown),
    (["textureNumLayers", "textureNumLevels", "textureNumSamples"], [1], .fixed .scalar),
    (["textureDimensions"], [1, 2], .fixed .unknown),
    (["textureSample"], [3, 4, 5], .fixed .unknown),
    (["textureSampleLevel", "textureSampleBias", "textureSampleCompare", "textureSampleCompareLevel"],
      [4, 5, 6], .fixed .unknown),
    (["textureSampleGrad"], [5, 6, 7], .fixed .unknown),
    (["textureSampleBaseClampToEdge"], [3], .fixed (.vector 4)),
    (["textureLoad"], [2, 3, 4], .fixed .unknown),
    (["textureStore"], [3, 4], .fixed .unknown),
    (["textureGather"], [3, 4, 5, 6], .fixed (.vector 4)),
    (["textureGatherCompare"], [4, 5, 6], .fixed (.vector 4))]

def builtin? (name : String) : Option (List Nat × Outcome) :=
  (builtins.find? fun b => b.1.contains name).map Prod.snd

/-- The shape of what a function gives for arguments of some shapes. -/
def Outcome.shape (o : Outcome) (args : List Shape) : Shape :=
  match o with
  | .alike => args.head?.getD .unknown
  | .fixed s => s

/-- The shape of what an operator with two operands gives. -/
def combine (op : String) (a b : Shape) : Shape :=
  if op = "&&" || op = "||" then .scalar
  else match a, b with
    | .unknown, _ => .unknown
    | _, .unknown => .unknown
    | .scalar, b => b
    | a, .scalar => a
    | .matrix _ rows, .vector _ => .vector rows
    | .vector _, .matrix columns _ => .vector columns
    | .matrix _ rows, .matrix columns _ => if op = "*" then .matrix columns rows else .matrix columns rows
    | a, _ => a

/-! ## Expressions -/

/-- The shape of a type constructor's value, given the shapes of its arguments. -/
def Environment.constructed? (env : Environment) (t : TypeTree) (args : List Shape) : Option Shape := do
  match t with
  | .named "bitcast" [t] => env.shapeOf? t
  | .named "bitcast" _ => none
  | .named "array" [] => return .array (args.head?.getD .unknown)
  | t => env.shapeOf? t

mutual

/-- The shape of an expression; none when a name is undeclared or a part is missing. -/
def Environment.infer (env : Environment) (scope : Scope) : Tree → Option Shape
  | .number => some .scalar
  | .truth => some .scalar
  | .name s => (scope.lookup s).map Binding.shape
  | .apply op args => do
    match op, ← env.inferAll scope args with
    | "&", [a] => return .pointer a
    | "*", [.pointer a] => return a
    | "*", [.unknown] => return .unknown
    | "*", [_] => none
    | _, [a] => return a
    | op, [a, b] => return combine op a b
    | _, _ => none
  | .call function args => do
    let shapes ← env.inferAll scope args
    if (scope.lookup function).isSome then none
    else match env.functions.lookup function with
      | some f => if shapes.length = f.arity then some f.result else none
      | none =>
        match env.constructed? (.named function []) shapes with
        | some s => some s
        | none => do
          let (arities, outcome) ← builtin? function
          if arities.contains shapes.length then some (outcome.shape shapes) else none
  | .construct type args => do
    let shapes ← env.inferAll scope args
    if !env.sizesKnown scope type then none
    env.constructed? type shapes
  | .member e field => do env.field? field (← env.infer scope e)
  | .index e i => do
    let s ← env.infer scope e
    let _ ← env.infer scope i
    s.element?

def Environment.inferAll (env : Environment) (scope : Scope) : List Tree → Option (List Shape)
  | [] => some []
  | e :: rest => do
    let s ← env.infer scope e
    return s :: (← env.inferAll scope rest)

/-- The sizes among the parameters of a type are well formed. -/
def Environment.sizesKnown (env : Environment) (scope : Scope) : TypeTree → Bool
  | .named _ args => env.allSizesKnown scope args
  | .size e => (env.infer scope e).isSome

/-- The sizes among a list of parameters are well formed. -/
def Environment.allSizesKnown (env : Environment) (scope : Scope) : List TypeTree → Bool
  | [] => true
  | t :: rest => env.sizesKnown scope t && env.allSizesKnown scope rest

end

/-- The expression denotes a place that can be assigned to; several components at once are none. -/
def Environment.isPlace (env : Environment) (scope : Scope) : Tree → Bool
  | .name s => (scope.lookup s).any Binding.isPlace
  | .member e field =>
    env.isPlace scope e && match env.infer scope e with
      | some (.vector n) => swizzle? n field == some 1
      | _ => true
  | .index e _ => env.isPlace scope e
  | .apply "*" [_] => true
  | _ => false

end SceneGraph.Wgsl
