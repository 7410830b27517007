import SceneGraph.Scene.Basic
import SceneGraph.Text.Raster

/-!
# Baked results

What preparation knows about a node output before anything runs: a constant value, the vertices of a
shape, the offsets of its instances, or the pixels of a text.
-/
set_option autoImplicit false

namespace SceneGraph

/-- The forms of a baked result. -/
inductive BakeKind where
  | value
  | vertices
  | instances
  | pixels
deriving Repr, DecidableEq

def BakeKind.name : BakeKind → String
  | .value => "value"
  | .vertices => "vertices"
  | .instances => "instances"
  | .pixels => "pixels"

def BakeKind.number : BakeKind → Nat
  | .value => 1
  | .vertices => 2
  | .instances => 3
  | .pixels => 4

/-- A corner of a triangle: position in pixels around the center, y upward, and texture coordinates
from the bottom left. -/
structure Vertex where
  x : Float32
  y : Float32
  u : Float32
  v : Float32

def Vertex.toList (p : Vertex) : List Float32 := [p.x, p.y, p.u, p.v]

/-- The offset of an instance in pixels. -/
structure Offset where
  x : Float32
  y : Float32

def Offset.toList (o : Offset) : List Float32 := [o.x, o.y]

/-- A list of triangles with the size of what it draws. -/
structure Mesh where
  vertices : List Vertex := []
  width : Int := 0
  height : Int := 0

inductive Baked where
  | value (xs : List Float)
  | mesh (m : Mesh)
  | instances (offsets : List Offset)
  | pixels (image : Image)

def Baked.kind : Baked → BakeKind
  | .value _ => .value
  | .mesh _ => .vertices
  | .instances _ => .instances
  | .pixels _ => .pixels

/-- The smaller of two; a value that is no number spreads. -/
def lesser32 (a b : Float32) : Float32 :=
  if a.isNaN then a
  else if b.isNaN then b
  else if a < b then a
  else if b < a then b
  else if a.toBits >>> 31 == 1 then a
  else b

/-- The larger of two; a value that is no number spreads. -/
def greater32 (a b : Float32) : Float32 :=
  if a.isNaN then a
  else if b.isNaN then b
  else if a > b then a
  else if b > a then b
  else if a.toBits >>> 31 == 1 then b
  else a

/-- An axis-parallel box. -/
structure Bounds where
  minX : Float32
  minY : Float32
  maxX : Float32
  maxY : Float32

/-- The bounds of a mesh; a mesh without vertices has none around zero. -/
def Mesh.bounds (m : Mesh) : Bounds :=
  match m.vertices with
  | [] => ⟨0, 0, 0, 0⟩
  | p :: _ =>
    m.vertices.foldl (fun b q =>
      ⟨lesser32 b.minX q.x, lesser32 b.minY q.y, greater32 b.maxX q.x, greater32 b.maxY q.y⟩)
      ⟨p.x, p.y, p.x, p.y⟩

/-- A node output in one of its forms. -/
structure BakeKey where
  node : String
  port : String
  kind : BakeKind
deriving Repr, DecidableEq

/-- Baked results by node output and form. -/
abbrev BakedMap := List (BakeKey × Baked)

namespace BakedMap

def get? (m : BakedMap) (key : BakeKey) : Option Baked := (m.find? fun e => e.1 = key).map Prod.snd

/-- Puts a result under the key of its form. -/
def put (m : BakedMap) (node port : String) (b : Baked) : BakedMap :=
  let key : BakeKey := ⟨node, port, b.kind⟩
  if m.any fun e => e.1 = key then m.map fun e => if e.1 = key then (key, b) else e
  else m ++ [(key, b)]

def value? (m : BakedMap) (e : Endpoint) : Option (List Float) :=
  match m.get? ⟨e.node, e.port, .value⟩ with
  | some (.value xs) => some xs
  | _ => none

def mesh? (m : BakedMap) (e : Endpoint) : Option Mesh :=
  match m.get? ⟨e.node, e.port, .vertices⟩ with
  | some (.mesh g) => some g
  | _ => none

def instances? (m : BakedMap) (e : Endpoint) : Option (List Offset) :=
  match m.get? ⟨e.node, e.port, .instances⟩ with
  | some (.instances os) => some os
  | _ => none

def pixels? (m : BakedMap) (e : Endpoint) : Option Image :=
  match m.get? ⟨e.node, e.port, .pixels⟩ with
  | some (.pixels i) => some i
  | _ => none

end BakedMap

end SceneGraph
