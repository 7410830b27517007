import SceneGraph.Bytes.Basic
import SceneGraph.Json.Value
import SceneGraph.Prepare.Basic
import SceneGraph.Scene.Delta
import SceneGraph.Schema.Basic
import SceneGraph.Text.Quoted

/-!
# Views of scenes

The means to write views, and those of scenes and what they are made of.
-/
set_option autoImplicit false

/-!
## Views

Compact JSON forms of the library's values, made for tools that show or compare them. Nothing is read
back from a view. Numbers of fixed width are shown by their bits, and long lists by a digest.
-/

namespace SceneGraph.View

abbrev Fields := List (String × Json)

def list {α : Type} (f : α → Json) (xs : List α) : Json := .arr (xs.map f)

def table {α : Type} (f : α → Json) (t : List (String × α)) : Json := .obj (t.map fun e => (e.1, f e.2))

def maybe {α : Type} (f : α → Json) : Option α → Json
  | some a => f a
  | none => .null

/-- The view of the answer to a lookup: the value or a replacement, and whether it was found. -/
def found {α : Type} (f : α → Json) (zero : Json) : Option α → Json
  | some a => .arr [f a, .bool true]
  | none => .arr [zero, .bool false]

def foundText : Option String → Json := found .str (.str "")

/-- The view of a result: true, or the members of its failure. -/
def succeeded {ε : Type} (f : ε → Fields) : Except ε Unit → Json
  | .ok () => .bool true
  | .error e => .obj (f e)

def word (n : UInt32) : Json := .nat n.toNat

def hashText (h : UInt64) : String := Text.hex 16 h.toNat

def double (x : Float) : Json := .str (if x.isNaN then "nan" else Text.hex 16 x.toBits.toNat)

def floatBits (x : Float32) : String := if x.isNaN then "nan" else Text.hex 8 x.toBits.toNat

/-- A digest of something long: its length, its hash and its beginning. -/
def digest (length : Nat) (data : ByteArray) (head : String) : Json :=
  .obj [("n", .nat length), ("fnv", .str (hashText (Bytes.fnv1a data))), ("head", .str head)]

/-- Floats by their bits; more than 512 are digested. -/
def floats (xs : List Float32) : Json :=
  let text (ys : List Float32) : String := " ".intercalate (ys.map floatBits)
  if 512 < xs.length then digest xs.length (Bytes.ofFloats xs) (text (xs.take 64)) else .str (text xs)

/-- Bytes in hexadecimal; more than 256 are digested. -/
def bytes (b : ByteArray) : Json :=
  if 256 < b.size then digest b.size b (Bytes.toHex (b.extract 0 64)) else .str (Bytes.toHex b)

def failed (kind message : String) : Fields := [("error", .str kind), ("message", .str message)]

end SceneGraph.View

/-!
## Views of scenes

Scenes, their parts, edits of scenes, and node types.
-/

namespace SceneGraph

open View

def Port.view (p : Port) : Json := .strings [p.id, p.name, p.type]

def Node.view (n : Node) : Json :=
  .obj [("id", .str n.id), ("type", .str n.type), ("params", table Value.toJson n.params),
    ("inputs", list Port.view n.inputs), ("outputs", list Port.view n.outputs)]

def Connection.view (c : Connection) : Json :=
  .strings [c.id, c.source.node, c.source.port, c.target.node, c.target.port]

def GroupPort.view (p : GroupPort) : Json := .strings [p.id, p.node, p.port]

def Scene.graphView (s : Scene) : Fields :=
  [("nodes", list Node.view s.nodes), ("connections", list Connection.view s.connections),
    ("outputs", table .str s.outputs)]

def Scene.view (s : Scene) : Json :=
  .obj ([("version", .str s.version),
    ("metadata", .strings [s.metadata.name, s.metadata.created, s.metadata.modified]),
    ("groups", list (fun g => .obj [("id", .str g.id), ("name", .str g.name),
      ("nodes", list Node.view g.nodes), ("connections", list Connection.view g.connections),
      ("inputs", list GroupPort.view g.inputs), ("outputs", list GroupPort.view g.outputs)]) s.groups),
    ("assets", table (fun a => .strings [a.path, a.mimeType, a.givenName]) s.assets)] ++ s.graphView)

def Edits.view {α : Type} (f : α → Json) (e : Edits α) : Json :=
  .obj [("added", list f e.added), ("updated", list f e.updated), ("removed", .strings e.removed)]

def Delta.view (d : Delta) : Json :=
  .obj [("version", .str d.version), ("empty", .bool d.isEmpty), ("nodes", d.nodes.view Node.view),
    ("connections", d.connections.view Connection.view), ("outputs", maybe (table .str) d.outputs)]

def Message.view (m : Message) : Json :=
  .obj ([("type", .str m.type)] ++ (m.scene.map fun s => ("scene", s.view)).toList
    ++ (m.delta.map fun d => ("delta", d.view)).toList)

def Size.view (s : Size) : Json := .arr [.int s.width, .int s.height]

def Layer.view (l : Layer) : Json := .strings [l.node, l.sourcePort, l.port]

/-! ## Node types -/

/-- The items of the view of a port of a node type. -/
def PortSpec.view (p : PortSpec) : List Json := [.str p.name, .str p.type, .bool p.isFamily]

def ParamSpec.view (p : ParamSpec) : Json :=
  .obj [("name", .str p.name), ("type", .str p.type.name), ("min", maybe .float p.min), ("max", maybe .float p.max),
    ("length", .int p.length), ("values", .strings p.values), ("required", .bool p.required),
    ("default", maybe Value.toJson p.default)]

def NodeType.view (t : NodeType) : Json :=
  .obj [("name", .str t.name), ("category", .str t.category), ("open_inputs", .bool t.openInputs),
    ("declared_ports", .bool t.declaredPorts), ("params", list (fun e => ParamSpec.view e.2) t.params),
    ("inputs", list (fun p => .arr (PortSpec.view p)) t.inputs),
    ("outputs", list (fun p => .arr (PortSpec.view p)) t.outputs)]

end SceneGraph
