import SceneGraph.Scene.Basic

/-!
# Building scenes

Scenes written in code: a chain of steps over an empty scene. Connections without an id of their own
are numbered in the order in which they are made.
-/
set_option autoImplicit false

namespace SceneGraph

/-- A scene under construction. -/
structure SceneBuilder where
  scene : Scene
  /-- Connections numbered so far. -/
  numbered : Nat := 0

namespace SceneBuilder

def new (name : String) : SceneBuilder := { scene := { version := "1", metadata := { name } } }

def node (b : SceneBuilder) (n : Node) : SceneBuilder :=
  { b with scene := { b.scene with nodes := b.scene.nodes ++ [n] } }

def connectAs (b : SceneBuilder) (id : String) (source target : Endpoint) : SceneBuilder :=
  { b with scene := { b.scene with connections := b.scene.connections ++ [⟨id, source, target⟩] } }

def connect (b : SceneBuilder) (source target : Endpoint) : SceneBuilder :=
  let k := b.numbered + 1
  { b with numbered := k }.connectAs s!"c{k}" source target

def output (b : SceneBuilder) (name id : String) : SceneBuilder :=
  { b with scene := { b.scene with outputs := b.scene.outputs.insert name id } }

/-- Adds an asset, whose given name is its path. -/
def asset (b : SceneBuilder) (id path mimeType : String) : SceneBuilder :=
  { b with scene := { b.scene with assets := b.scene.assets.insert id ⟨path, mimeType, path⟩ } }

def group (b : SceneBuilder) (g : Group) : SceneBuilder :=
  { b with scene := { b.scene with groups := b.scene.groups ++ [g] } }

end SceneBuilder

end SceneGraph
