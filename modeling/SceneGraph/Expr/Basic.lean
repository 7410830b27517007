import SceneGraph.Graph.Order
import SceneGraph.Scene.Basic
import SceneGraph.Shader.Code
import SceneGraph.Text.Quoted

/-!
# Compiled expressions

A node output compiled to shader code, with its type and everything that the code depends on, and the
reasons why an output cannot be compiled.
-/
set_option autoImplicit false

namespace SceneGraph

/-- A compiled node output. -/
structure ShaderExpr where
  code : Code
  type : ValueType
  /-- The value depends on the clock. -/
  isAnimated : Bool := false
  /-- The code reads inputs of the fragment. -/
  isVarying : Bool := false
  /-- The code reads the number of the instance. -/
  isInstanced : Bool := false
  /-- The bindings that the code samples, by key. -/
  textures : List String := []
  /-- The functions that the code calls. -/
  helpers : List String := []
  /-- The texture node that a texture refers to. -/
  source : String := ""
deriving Inhabited

namespace ShaderExpr

def addNew (list : List String) (items : List String) : List String :=
  items.foldl (fun l x => if l.contains x then l else l ++ [x]) list

def inherit (e input : ShaderExpr) : ShaderExpr :=
  { e with
    isAnimated := e.isAnimated || input.isAnimated
    isVarying := e.isVarying || input.isVarying
    isInstanced := e.isInstanced || input.isInstanced
    textures := addNew e.textures input.textures
    helpers := addNew e.helpers input.helpers }

/-- An expression that depends on what its inputs depend on. -/
def derive (code : Code) (type : ValueType) (inputs : List ShaderExpr) : ShaderExpr :=
  inputs.foldl inherit { code, type }

/-- A texture, by the node that provides it. -/
def ofTexture (source : String) : ShaderExpr := { code := .verbatim "", type := .texture, source }

end ShaderExpr

/-- How a texture is read outside its bounds and between its texels. -/
structure SamplerKind where
  addressU : String := "clamp"
  addressV : String := "clamp"
  filter : String := "linear"
deriving Repr, DecidableEq, Inhabited

def SamplerKind.name (k : SamplerKind) : String := k.addressU ++ "-" ++ k.addressV ++ "-" ++ k.filter

def SamplerKind.ofNode (n : Node) : SamplerKind :=
  let base : SamplerKind := {}
  { addressU := n.stringOr "addressModeU" base.addressU
    addressV := n.stringOr "addressModeV" base.addressV
    filter := n.stringOr "filter" base.filter }

/-- A texture that expressions sample. -/
structure Binding where
  /-- The id of the sampling node. -/
  key : String
  /-- The stem of the shader variables. -/
  name : String
  /-- The id of the sampled texture node. -/
  source : String
  sampler : SamplerKind
deriving Repr, DecidableEq

/-- Why an output cannot be compiled. -/
inductive ExprError where
  /-- A required input is not connected, or its source does not exist. -/
  | missingInput (node port : String)
  /-- An input has the wrong type. -/
  | typeMismatch (node port expected : String) (got : ValueType)
  /-- A parameter has a value that no code expresses. -/
  | unsupportedParam (node param : String) (value : Value)
  /-- A snippet is no valid code; `source` is the module that was tried first. -/
  | snippetRefused (node source : String)
  /-- The output depends on itself. -/
  | cycle (e : CycleError)

/-- A stage of the pipeline that a snippet is tried in. -/
inductive SnippetStage where
  | fragment
  | vertex
  | compute
deriving Repr, DecidableEq

def SnippetStage.label : SnippetStage → String
  | .fragment => "fragment"
  | .vertex => "vertex"
  | .compute => "compute"

/-- The stages in the order in which a snippet is tried in them. -/
def snippetStages : List SnippetStage := [.fragment, .vertex, .compute]

def ExprError.message : ExprError → String
  | .missingInput node port =>
    "expr: node " ++ Text.quoted node ++ ": missing input " ++ Text.quoted port
  | .typeMismatch node port expected got =>
    "expr: node " ++ Text.quoted node ++ ": input " ++ Text.quoted port ++ ": expected " ++ expected
      ++ ", got " ++ got.name
  | .unsupportedParam node param value =>
    "expr: node " ++ Text.quoted node ++ ": unsupported " ++ param ++ " " ++ value.display
  | .snippetRefused node _ => "expr: node " ++ Text.quoted node ++ ": snippet translation failed"
  | .cycle e => e.message

end SceneGraph
