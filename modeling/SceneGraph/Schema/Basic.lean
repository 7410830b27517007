import SceneGraph.Scene.Basic
import SceneGraph.Text.Quoted

/-!
# Schemas

What a schema declares, and the ways in which a scene can break its rules.
-/
set_option autoImplicit false

/-!
## Validation failures

Which rule of the schema a scene breaks, where, and how the failure is worded.
-/

namespace SceneGraph

/-- The rules that a scene can break. -/
inductive ValidationKind where
  | unknownType
  | unknownParam
  | missingParam
  | paramType
  | paramRange
  | paramLength
  | unknownPort
  | typeMismatch
deriving Repr, DecidableEq

/-- All rules, in the order of their numbers. -/
def ValidationKind.all : List ValidationKind :=
  [.unknownType, .unknownParam, .missingParam, .paramType, .paramRange, .paramLength, .unknownPort,
    .typeMismatch]

def ValidationKind.label : ValidationKind → String
  | .unknownType => "unknown node type"
  | .unknownParam => "unknown parameter"
  | .missingParam => "missing parameter"
  | .paramType => "wrong parameter type"
  | .paramRange => "parameter out of range"
  | .paramLength => "wrong length"
  | .unknownPort => "unknown port"
  | .typeMismatch => "type mismatch"

/-- A broken rule with its place. -/
structure ValidationError where
  kind : ValidationKind
  node : String := ""
  connection : String := ""
  field : String := ""
  expected : String := ""
  got : String := ""
  /-- Both ends of a mismatched connection. -/
  source : String := ""
  target : String := ""
deriving Repr, DecidableEq

def ValidationError.message (e : ValidationError) : String :=
  let head := "schema: " ++ e.kind.label
  if e.kind = .typeMismatch then
    head ++ ": connection " ++ Text.quoted e.connection ++ " from " ++ e.source ++ " (" ++ e.got
      ++ ") to " ++ e.target ++ " (" ++ e.expected ++ ")"
  else
    let place :=
      if e.connection ≠ "" then ": connection " ++ Text.quoted e.connection
      else if e.node ≠ "" then ": node " ++ Text.quoted e.node
      else ""
    head ++ place ++ (if e.field = "" then "" else " field " ++ e.field)
      ++ (if e.expected = "" then "" else ": expected " ++ e.expected)
      ++ (if e.got = "" then "" else ", got " ++ e.got)

/-!
## Schemas

A schema says which node types exist, which parameters and ports each has, and which output port
types may feed an input port of a given type. Port types are open: a schema may name its own.
-/

/-- The types that a parameter may be declared with. A name outside the list accepts every value. -/
inductive ParamType where
  | float
  | int
  | uint
  | bool
  | vec2
  | vec3
  | vec4
  | mat4
  | string
  | color
  | choice
  | other (name : String)
deriving Repr, DecidableEq, Inhabited

namespace ParamType

def name : ParamType → String
  | .float => "float"
  | .int => "int"
  | .uint => "uint"
  | .bool => "bool"
  | .vec2 => "vec2"
  | .vec3 => "vec3"
  | .vec4 => "vec4"
  | .mat4 => "mat4"
  | .string => "string"
  | .color => "color"
  | .choice => "enum"
  | .other name => name

def ofName (name : String) : ParamType :=
  match name with
  | "float" => .float
  | "int" => .int
  | "uint" => .uint
  | "bool" => .bool
  | "vec2" => .vec2
  | "vec3" => .vec3
  | "vec4" => .vec4
  | "mat4" => .mat4
  | "string" => .string
  | "color" => .color
  | "enum" => .choice
  | name => .other name

/-- The number of elements of a vector type; zero means that any number is accepted. -/
def defaultLength : ParamType → Int
  | .vec2 => 2
  | .vec3 => 3
  | .vec4 => 4
  | .mat4 => 16
  | _ => 0

end ParamType

/-- A parameter of a node type. -/
structure ParamSpec where
  name : String
  type : ParamType
  min : Option Float := none
  max : Option Float := none
  length : Int := type.defaultLength
  /-- The texts that a choice accepts. -/
  values : List String := []
  required : Bool := false
  default : Option Value := none
deriving Inhabited

/-- A port of a node type. -/
structure PortSpec where
  name : String
  type : String
  /-- The port stands for every id that starts with its name. -/
  isFamily : Bool := false
deriving Repr, DecidableEq, Inhabited

/-- A kind of node. -/
structure NodeType where
  name : String
  category : String := ""
  /-- Connections may land on ports that the schema does not list. -/
  openInputs : Bool := false
  /-- Port types come from the ports that the node itself declares. -/
  declaredPorts : Bool := false
  params : Table ParamSpec := []
  inputs : List PortSpec := []
  outputs : List PortSpec := []
deriving Inhabited

/-- The node types, and the output types that each input type accepts. -/
structure Schema where
  types : Table NodeType := []
  compat : Table (List String) := []
  /-- Parameters that every node may carry without declaration. -/
  ignoredParams : List String := []
deriving Inhabited

/-! ## Ports -/

/-- The port that an id belongs to: the one of that name, else the first family that covers it. -/
def PortSpec.find? (ports : List PortSpec) (id : String) : Option PortSpec :=
  match ports.find? fun p => !p.isFamily && p.name == id with
  | some p => some p
  | none => ports.find? fun p => p.isFamily && p.name.toList.isPrefixOf id.toList

def NodeType.input? (t : NodeType) (id : String) : Option PortSpec := PortSpec.find? t.inputs id

def NodeType.output? (t : NodeType) (id : String) : Option PortSpec := PortSpec.find? t.outputs id

namespace Schema

def nodeType? (s : Schema) (name : String) : Option NodeType := s.types.get? name

/-- The names of all node types, ascending. -/
def typeNames (s : Schema) : List String := s.types.keys

/-- An output of one type may feed an input of another. -/
def compatible (s : Schema) (source target : String) : Bool :=
  source == target || ((s.compat.get? target).getD []).contains source

/-- The category of a node type; unknown types have none. -/
def category (s : Schema) (type : String) : String :=
  match s.nodeType? type with
  | some t => t.category
  | none => ""

/-- A declared type, where no type means any. -/
def orAny (type : String) : String := if type = "" then "any" else type

/-- The type of an output port of a node. A type that the node declares refines `any`. -/
def outputType? (s : Schema) (n : Node) (port : String) : Option String :=
  match s.nodeType? n.type with
  | none => none
  | some t =>
    if t.category = "group" then some "any"
    else
      let declared := n.declaredOutput? port
      match t.output? port with
      | some spec =>
        match declared with
        | some d => some (if spec.type = "any" ∧ d.type ≠ "" then d.type else spec.type)
        | none => some spec.type
      | none =>
        if t.declaredPorts then declared.map fun d => orAny d.type else none

def inputType? (s : Schema) (n : Node) (port : String) : Option String :=
  match s.nodeType? n.type with
  | none => none
  | some t =>
    match if t.declaredPorts then n.declaredInput? port else none with
    | some d => some (orAny d.type)
    | none =>
      match t.input? port with
      | some spec => some spec.type
      | none => if t.openInputs then some "any" else none

end Schema

end SceneGraph
