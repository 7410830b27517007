import SceneGraph.Scene.Value

/-!
# Scenes

A scene is a graph of nodes with typed ports, wired by connections, with named outputs, reusable
groups and a list of assets. Scenes are plain values: every change returns a new one.
-/
set_option autoImplicit false

namespace SceneGraph

/-- A port that a node declares itself. -/
structure Port where
  id : String := ""
  name : String := ""
  type : String := ""
deriving Repr, DecidableEq, Inhabited

/-- A vertex of the graph. -/
structure Node where
  id : String := ""
  /-- The kind of the node, a name of the schema. -/
  type : String := ""
  params : Table Value := []
  /-- Declared input ports; their order drives the order of dynamic layers. -/
  inputs : List Port := []
  /-- Declared output ports; a type given here overrides the schema. -/
  outputs : List Port := []
deriving Inhabited

/-- A port of a node. -/
structure Endpoint where
  node : String := ""
  port : String := ""
deriving Repr, DecidableEq, Inhabited

/-- A wire from an output port to an input port. -/
structure Connection where
  id : String := ""
  source : Endpoint := {}
  target : Endpoint := {}
deriving Repr, DecidableEq, Inhabited

/-- An entry of the asset list. -/
structure Asset where
  path : String := ""
  mimeType : String := ""
  givenName : String := ""
deriving Repr, DecidableEq, Inhabited

/-- A port of a group instance, mapped onto a port of an inner node. -/
structure GroupPort where
  id : String := ""
  node : String := ""
  port : String := ""
deriving Repr, DecidableEq, Inhabited

/-- Which empty lists a document spells out as lists rather than as null. -/
structure Spelled where
  nodes : Bool := false
  connections : Bool := false
deriving Repr, DecidableEq, Inhabited

/-- A reusable subgraph, instantiated by nodes of type `Group`. -/
structure Group where
  id : String := ""
  name : String := ""
  nodes : List Node := []
  connections : List Connection := []
  inputs : List GroupPort := []
  outputs : List GroupPort := []
  spelled : Spelled := {}
deriving Inhabited

/-- What a scene says about itself. -/
structure Metadata where
  name : String := ""
  created : String := ""
  modified : String := ""
deriving Repr, DecidableEq, Inhabited

/-- A node graph as its author wrote it. -/
structure Scene where
  version : String := ""
  metadata : Metadata := {}
  nodes : List Node := []
  connections : List Connection := []
  outputs : Table String := []
  groups : List Group := []
  assets : Table Asset := []
  spelled : Spelled := {}
deriving Inhabited

namespace Scene

def node? (s : Scene) (id : String) : Option Node := s.nodes.find? fun n => n.id == id

/-- The last node with an id: the one that an index by id holds. -/
def indexed? (s : Scene) (id : String) : Option Node :=
  s.nodes.reverse.find? fun n => n.id == id

def hasNode (s : Scene) (id : String) : Bool := s.nodes.any fun n => n.id == id

/-- The ids of the nodes, in scene order. -/
def nodeIds (s : Scene) : List String := s.nodes.map Node.id

/-- The connections that land on a node, in scene order. -/
def incomingTo (s : Scene) (id : String) : List Connection :=
  s.connections.filter fun c => c.target.node == id

/-- The connections that leave a node, in scene order. -/
def outgoingFrom (s : Scene) (id : String) : List Connection :=
  s.connections.filter fun c => c.source.node == id

def inputConnection? (s : Scene) (id port : String) : Option Connection :=
  s.connections.find? fun c => c.target.node == id && c.target.port == port

end Scene

namespace Node

def inputIndex? (n : Node) (port : String) : Option Nat := n.inputs.findIdx? fun p => p.id == port

def declaredOutput? (n : Node) (port : String) : Option Port := n.outputs.find? fun p => p.id == port

def declaredInput? (n : Node) (port : String) : Option Port := n.inputs.find? fun p => p.id == port

/-! ## Parameters -/

/-- The value of a parameter; an absent one is null. -/
def param (n : Node) (key : String) : Value := (n.params.get? key).getD .null

def float? (n : Node) (key : String) : Option Float := (n.param key).toFloat?

def floatOr (n : Node) (key : String) (default : Float) : Float := (n.float? key).getD default

/-- The integer part of a numeric parameter, or a default. -/
def intOr (n : Node) (key : String) (default : Int) : Int :=
  match n.float? key with
  | some x => toInt64 x
  | none => default

def string? (n : Node) (key : String) : Option String :=
  match n.param key with
  | .str s => some s
  | _ => none

/-- A text parameter that is not empty, or a default. -/
def stringOr (n : Node) (key default : String) : String :=
  match n.string? key with
  | some s => if s = "" then default else s
  | none => default

/-- A truth value; a number is true unless it is zero. -/
def bool? (n : Node) (key : String) : Option Bool :=
  match n.param key with
  | .bool b => some b
  | .num x => some (x != 0)
  | _ => none

/-- The numbers of a list parameter; a single number counts as a list of one. -/
def floats? (n : Node) (key : String) : Option (List Float) := (n.param key).toFloats?

def setParam (n : Node) (key : String) (v : Value) : Node := { n with params := n.params.insert key v }

def hasParam (n : Node) (key : String) : Bool :=
  match n.params.get? key with
  | some v => !v.isNull
  | none => false

end Node

end SceneGraph
