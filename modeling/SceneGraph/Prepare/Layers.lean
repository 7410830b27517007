import SceneGraph.Scene.Basic

/-!
# Layers

The layers of a composition in draw order: first those on the `pass` port, then those on dynamic
ports, declared ones by their position among the node's inputs and undeclared ones by their id. The
order of connections matters only between layers on one port.
-/
set_option autoImplicit false

namespace SceneGraph

/-- One layer of a composition. -/
structure Layer where
  node : String
  sourcePort : String
  port : String
deriving Repr, DecidableEq

namespace Layer

/-- What the ids of dynamic layer ports start with. -/
def dynamicStem : String := "dynamic_"

def isDynamic (port : String) : Bool := dynamicStem.toList.isPrefixOf port.toList

def ofConnection (c : Connection) : Layer := ⟨c.source.node, c.source.port, c.target.port⟩

/-- One port stands before or beside another: declared ports by position, then the others by id. -/
def portLe (n : Node) (a b : String) : Bool :=
  match n.inputIndex? a, n.inputIndex? b with
  | some i, some j => i < j || (i == j && a ≤ b)
  | some _, none => true
  | none, some _ => false
  | none, none => a ≤ b

def ordered (s : Scene) (composition : Node) : List Layer :=
  let landing := (s.connections.filter fun c => c.target.node == composition.id).map ofConnection
  -- The sort is stable: layers on one port keep the order of their connections.
  landing.filter (fun l => l.port == "pass")
    ++ (landing.filter fun l => isDynamic l.port).mergeSort fun a b => portLe composition a.port b.port

end Layer

/-- The first connection that lands on a node, at the first of the ports that has one. -/
def Scene.inputAt? (s : Scene) (id : String) (ports : List String) : Option Connection :=
  ports.findSome? fun p => s.inputConnection? id p

/-- The connections that land on a node at none of the ports. -/
def Scene.unusedInputs (s : Scene) (id : String) (ports : List String) : List Connection :=
  (s.incomingTo id).filter fun c => !ports.contains c.target.port

def unaryPorts : List String := ["x", "value", "in"]

/-- The port names that binary operations accept on the left. -/
def leftPorts : List String := ["a", "left", "x"]

/-- The port names that binary operations accept on the right. -/
def rightPorts : List String := ["b", "right", "y"]

end SceneGraph
