import SceneGraph.Route
import SceneGraph.View.Scene

/-!
# Views of prepared scenes

Baked values, prepared scenes and routes.
-/
set_option autoImplicit false

namespace SceneGraph

open View

def Baked.view (e : BakeKey × Baked) : Json :=
  .obj (("key", .strings [e.1.node, e.1.port, e.1.kind.name]) :: match e.2 with
    | .value xs => [("values", floats (xs.map Float.toFloat32))]
    | .mesh m =>
      let b := m.bounds
      [("vertices", floats (m.vertices.flatMap Vertex.toList)), ("size", .arr [.int m.width, .int m.height]),
        ("bounds", floats [b.minX, b.minY, b.maxX, b.maxY])]
    | .instances os => [("instances", floats (os.flatMap Offset.toList)), ("count", .nat (max os.length 1))]
    | .pixels i => [("pixels", bytes i.pixels), ("size", .arr [.nat i.width, .nat i.height])])

/-- One key stands before another: by node, by port, by kind. -/
def BakeKey.precedes (x y : BakeKey) : Bool :=
  if x.node ≠ y.node then x.node ≤ y.node
  else if x.port ≠ y.port then x.port ≤ y.port
  else x.kind.number ≤ y.kind.number

/-- The view of all baked values, by key. -/
def BakedMap.view (m : BakedMap) : Json :=
  list Baked.view (m.mergeSort fun a b => a.1.precedes b.1)

def Prepared.view (p : Prepared) : Fields :=
  let o := p.output
  let st := p.stats
  let keyed {α : Type} (f : String → α) (ids : List String) : Table α := Table.ofList (ids.map fun id => (id, f id))
  let layerIds := p.composites.flatMap fun id => (p.layersOf id).map Layer.node
  p.scene.graphView ++ [("order", .strings p.order), ("names", table .str p.names),
    ("composites", .strings p.composites), ("layers", table (list Layer.view) (keyed p.layersOf p.composites)),
    ("layer_of", table .strings (keyed p.compositesOf layerIds)),
    ("categories", table .str (keyed p.categoryOf p.scene.nodeIds)),
    ("output", .arr [.str o.node, .str o.texture, .int o.size.width, .int o.size.height, .str o.format,
      .str o.encoding]),
    ("baked", p.baked.view),
    ("stats", .arr ([st.groups, st.images, st.wrapped, st.baked, st.shaken].map .nat))]

def Domain.view (d : Domain) : Json :=
  .arr [.str d.node, .str d.texture, .int d.size.width, .int d.size.height, .str d.format]

def Route.view (r : Route) : Json :=
  let g := r.geometry
  .obj [("node", .str r.node), ("type", .str r.type), ("domain", r.domain.view), ("explicit", .bool r.isExplicit),
    ("layers", list Layer.view r.layers),
    ("geometry", .obj [("source", .str g.source), ("vertices", .nat (4 * g.vertices.length)),
      ("instances", floats (g.instances.flatMap Offset.toList)), ("fullscreen", .bool g.isFullscreen),
      ("count", .nat g.instanceCount), ("box", floats [g.centerX, g.centerY, g.width, g.height])])]

def Routes.view (r : Routes) : Fields :=
  [("routes", list Route.view (r.order.filterMap r.route?)), ("textures", table Domain.view r.textures),
    ("edges", list (fun e => .strings [e.1, e.2]) r.consumerEdges)]

end SceneGraph
