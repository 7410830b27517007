import SceneGraph.Graph.Reach
import SceneGraph.Log
import SceneGraph.Prepare.Bake
import SceneGraph.Prepare.Groups
import SceneGraph.Prepare.Images
import SceneGraph.Prepare.Names
import SceneGraph.Prepare.Wrap

/-!
# Prepared scenes

A validated scene after these steps: groups expanded, image sources inlined, bare values wrapped,
unused nodes dropped, constants baked, and the output found. `Scene.prepare` runs them in
this order.
-/
set_option autoImplicit false

namespace SceneGraph

/-- How often each step applied. -/
structure PrepareStats where
  groups : Nat := 0
  images : Nat := 0
  wrapped : Nat := 0
  baked : Nat := 0
  shaken : Nat := 0
deriving Repr, DecidableEq

/-- A size in pixels. -/
structure Size where
  width : Int
  height : Int
deriving Repr, DecidableEq, Inhabited

structure PrepareOptions where
  /-- The size of an output node that declares none. -/
  resolution : Size := ⟨1280, 720⟩
  /-- How deep groups may be nested. -/
  maxGroupDepth : Int := 8
  /-- What texts are drawn with. -/
  face : Text.Face := .bitmap

/-- Options given as numbers; those that are not positive keep their default. -/
def PrepareOptions.ofNumbers (width height depth : Int) : PrepareOptions :=
  let base : PrepareOptions := {}
  { resolution := ⟨if width ≤ 0 then base.resolution.width else width,
      if height ≤ 0 then base.resolution.height else height⟩
    maxGroupDepth := if depth ≤ 0 then base.maxGroupDepth else depth }

/-- The output of a scene: a screen node and its texture. -/
structure SceneOutput where
  node : String
  texture : String
  size : Size
  format : String
  encoding : String
deriving Repr, DecidableEq

/-- A scene ready for planning. -/
structure Prepared where
  scene : Scene
  schema : Schema
  /-- The node ids in topological order. -/
  order : List String
  /-- The names of the nodes' resources. -/
  names : Table String
  output : SceneOutput
  baked : BakedMap
  stats : PrepareStats

def compositeType : String := "Composite"

def screenType : String := "Screen"

namespace Prepared

def node? (p : Prepared) (id : String) : Option Node := p.scene.indexed? id

def nameOf (p : Prepared) (id : String) : String := (p.names.get? id).getD ""

def categoryOf (p : Prepared) (id : String) : String :=
  match p.node? id with
  | some n => p.schema.category n.type
  | none => ""

/-- The type of a node; an unknown node has none. -/
def typeOf (p : Prepared) (id : String) : String :=
  match p.node? id with
  | some n => n.type
  | none => ""

def composites (p : Prepared) : List String := p.order.filter fun id => p.typeOf id == compositeType

def layersOf (p : Prepared) (id : String) : List Layer :=
  match p.node? id with
  | some n => if n.type = compositeType then Layer.ordered p.scene n else []
  | none => []

/-- The compositions that a layer feeds, once for each of its connections. -/
def compositesOf (p : Prepared) (layer : String) : List String :=
  p.composites.flatMap fun id => ((p.layersOf id).filter fun l => l.node == layer).map fun _ => id

end Prepared

namespace Output

/-- The first output, by name, that is a screen. -/
def firstScreen? (s : Scene) : Table String → Option String
  | [] => none
  | (_, id) :: rest =>
    match s.indexed? id with
    | some n => if n.type = screenType then some id else firstScreen? s rest
    | none => firstScreen? s rest

/-- The id that the outputs name: the main one, else the first screen among them. -/
def named (s : Scene) : String :=
  match s.outputs.get? "main" with
  | some id => id
  | none => (firstScreen? s s.outputs).getD ""

/-- The id of the output node, if the scene names or holds one. -/
def find (s : Scene) : String :=
  let id := named s
  if id ≠ "" then id
  else ((s.nodes.find? fun n => n.type == screenType).map Node.id).getD ""

def checkSize (n : Node) (fallback : Size) : List String → Except PrepareError Unit
  | [] => .ok ()
  | field :: rest =>
    match n.float? field with
    | some x =>
      -- The number is tested before it is cut to 64 bits.
      if x ≤ 0 then
        .error (.resolution { node := n.id, field, width := fallback.width, height := fallback.height })
      else checkSize n fallback rest
    | none => checkSize n fallback rest

def resolve (s : Scene) (fallback : Size) : Except PrepareError SceneOutput :=
  match s.indexed? (find s) with
  | none => .error .noOutput
  | some n =>
    if n.type ≠ screenType then .error .noOutput
    else do
      checkSize n fallback ["width", "height"]
      return {
        node := n.id
        texture := Names.sceneTexture
        size := ⟨n.intOr "width" fallback.width, n.intOr "height" fallback.height⟩
        format := n.stringOr "format" "rgba8unorm"
        encoding := n.stringOr "encoding" "linear" }

end Output

namespace Prepare

/-- Reports how often a step applied. -/
def counted (what : String) (count : Nat) : Logged PrepareError Unit :=
  Logged.debug ("prepare: " ++ what) [("count", toString count)]

/-- The result of a step, with its failure as a failure of preparation. -/
def stepped {α : Type} : Except StepError α → Logged PrepareError α
  | .ok a => pure a
  | .error e => throw (.step e)

/-- Connections of an expanded scene fit the schema; a scene without instances was checked before. -/
def recheck (schema : Schema) (count : Nat) (s : Scene) : Except PrepareError Unit :=
  if count = 0 then .ok ()
  else match schema.checkConnections s with
    | .ok () => .ok ()
    | .error e => .error (.validation e)

def ordered (s : Scene) : Except PrepareError (List String) :=
  match Graph.topologicalOrder s with
  | .ok order => .ok order
  | .error e => .error (.cycle e)

end Prepare

def Scene.prepare (s : Scene) (schema : Schema) (options : PrepareOptions) :
    Logged PrepareError Prepared := do
  let expansion := Groups.expand options.maxGroupDepth s
  let s ← Prepare.stepped expansion.result
  Logged.ofExcept (Prepare.recheck schema expansion.count s)
  Prepare.counted "groups expanded" expansion.count
  let inlining := Images.inline schema s
  let s ← Prepare.stepped inlining.result
  Prepare.counted "image files inlined" inlining.count
  let wrapping := Wrap.autoWrap schema s
  let s ← Prepare.stepped wrapping.result
  Prepare.counted "implicit passes inserted" wrapping.count
  let before := s.nodes.length
  let s := Graph.treeShake s
  let order ← Logged.ofExcept (Prepare.ordered s)
  let baked ← Logged.ofExcept (Bake.constants options.face s order)
  Prepare.counted "constants baked" baked.length
  let output ← Logged.ofExcept (Output.resolve s options.resolution)
  let p : Prepared := {
    scene := s
    schema := schema
    order := order
    names := Names.ofScene s output.node
    output := output
    baked := baked
    stats := {
      groups := expansion.count
      images := inlining.count
      wrapped := wrapping.count
      baked := baked.length
      shaken := before - s.nodes.length } }
  Logged.debug "prepare: done" [("nodes", toString s.nodes.length),
    ("connections", toString s.connections.length), ("composites", toString p.composites.length),
    ("width", toString output.size.width), ("height", toString output.size.height)]
  return p

end SceneGraph
