import SceneGraph.Prepare.Basic

/-!
# Routes

Every draw pass and every composition renders into the texture of one target, its domain. A target
wired to the node's pass output decides; without one the node inherits the domain of the compositions
that it feeds. Draw passes also get the shape that they rasterize. `Prepared.resolve` finds all routes
or the node that has none.
-/
set_option autoImplicit false

namespace SceneGraph

/-- The texture that a node renders into. -/
structure Domain where
  /-- The target node that owns the texture. -/
  node : String
  texture : String
  size : Size
  format : String
deriving Repr, DecidableEq

/-- The shape that a draw pass rasterizes; one without vertices covers the whole domain. -/
structure Geometry where
  source : String := ""
  vertices : List Vertex := []
  instances : List Offset := []
  centerX : Float32 := 0
  centerY : Float32 := 0
  width : Float32 := 0
  height : Float32 := 0

/-- The shape covers the whole domain. -/
def Geometry.isFullscreen (g : Geometry) : Bool := g.vertices.isEmpty

/-- How often the shape is drawn, at least once. -/
def Geometry.instanceCount (g : Geometry) : Nat := max g.instances.length 1

/-- The placement of a draw pass or composition. -/
structure Route where
  node : String
  type : String
  domain : Domain
  geometry : Geometry := {}
  /-- A target is wired to the node itself. -/
  isExplicit : Bool
  /-- The layers of a composition, in draw order. -/
  layers : List Layer := []

/-- Why a node has no single target texture. -/
inductive UnresolvedReason where
  | manyTargets (ids : List String)
  | noTarget
  | differentTargets (ids : List String)
  | unbakedGeometry (source : String)
  | noRoute
  | unstated
deriving Repr, DecidableEq

def UnresolvedReason.message : UnresolvedReason → String
  | .manyTargets ids => s!"wired to {ids.length} targets " ++ LogEntry.names ids
  | .noTarget => "pass output reaches no Screen, RenderTexture or Composite"
  | .differentTargets ids => "feeds compositions with different targets " ++ LogEntry.names ids
  | .unbakedGeometry source => "geometry source " ++ Text.quoted source ++ " was not baked"
  | .noRoute => "no route"
  | .unstated => ""

/-- A node without a single target texture. -/
structure UnresolvedTargetError where
  node : String
  reason : UnresolvedReason
deriving Repr, DecidableEq

def UnresolvedTargetError.message (e : UnresolvedTargetError) : String :=
  "resolve: node " ++ Text.quoted e.node ++ " has no target texture: " ++ e.reason.message

/-- The routes of a scene. -/
structure Routes where
  byNode : Table Route
  /-- The nodes with a route, in topological order. -/
  order : List String
  textures : Table Domain
  /-- The connections from composition to composition. -/
  consumerEdges : List (String × String)

def isDrawType (type : String) : Bool :=
  type == "RenderPass" || type == "Blit" || type == "Blur" || type == "Bloom"

def isTargetType (type : String) : Bool := type == screenType || type == "RenderTexture"

def isRoutedType (type : String) : Bool := isDrawType type || type == compositeType

namespace Route

/-- A length scaled to the output and rounded, at least one. -/
def scaledLength (length : Int) (scale : Float) : Int :=
  max (Elementary.roundToInt64 (floatOfInt length * scale)) 1

/-- The domain of a target. A texture that declares no size is sized relative to the output. -/
def targetDomain (p : Prepared) (n : Node) : Domain :=
  let size : Size :=
    if n.id = p.output.node || n.type = screenType then p.output.size
    else
      let scale := n.floatOr "scale" 1
      let w := n.intOr "width" 0
      let h := n.intOr "height" 0
      ⟨if w ≤ 0 then scaledLength p.output.size.width scale else w,
        if h ≤ 0 then scaledLength p.output.size.height scale else h⟩
  { node := n.id, texture := p.nameOf n.id, size, format := n.stringOr "format" "rgba8unorm" }

def targetDomains (p : Prepared) : Table Domain :=
  p.order.foldl (fun t id =>
    match p.node? id with
    | some n => if isTargetType n.type then t.insert id (targetDomain p n) else t
    | none => t) []

/-- Adds an id at the end unless it is in the list. -/
def addOnce (ids : List String) (id : String) : List String :=
  if ids.contains id then ids else ids ++ [id]

/-- The nodes that take the pass output of a node, in connection order. -/
def passConsumers (p : Prepared) (id : String) : List Node :=
  (p.scene.outgoingFrom id).filterMap fun c =>
    if c.source.port = "pass" then p.node? c.target.node else none

def explicitTargets (consumers : List Node) : List String :=
  ((consumers.filter fun n => isTargetType n.type).map Node.id).foldl addOnce []

/-- The target nodes whose textures the consuming compositions render into. -/
def inheritedTargets (found : Table Route) (consumers : List Node) : List String :=
  let composites := consumers.filter fun n => !isTargetType n.type && n.type == compositeType
  (composites.filterMap fun n => (found.get? n.id).map fun r => r.domain.node).foldl addOnce []

/-- The target node of a node and whether it is wired directly. -/
def target (explicit inherited : List String) : Except UnresolvedReason (String × Bool) :=
  match explicit, inherited with
  | [t], _ => .ok (t, true)
  | _ :: _ :: _, _ => .error (.manyTargets explicit)
  | [], [] => .error .noTarget
  | [], [t] => .ok (t, false)
  | [], _ :: _ :: _ => .error (.differentTargets inherited)

def shape (p : Prepared) (n : Node) : Except UnresolvedReason Geometry :=
  if n.type ≠ "RenderPass" then .ok {}
  else match p.scene.inputAt? n.id ["geometry"] with
    | none => .ok {}
    | some c =>
      match p.baked.mesh? c.source with
      | none => .error (.unbakedGeometry c.source.node)
      | some m =>
        -- Offsets of instances do not widen the bounds.
        let b := m.bounds
        .ok {
          source := c.source.node
          vertices := m.vertices
          instances := (p.baked.instances? c.source).getD []
          centerX := (b.minX + b.maxX) / 2
          centerY := (b.minY + b.maxY) / 2
          width := b.maxX - b.minX
          height := b.maxY - b.minY }

def domainAt (textures : Table Domain) (id : String) : Domain :=
  (textures.get? id).getD { node := "", texture := "", size := ⟨0, 0⟩, format := "" }

/-- The route of a node, given the routes of all compositions that it feeds. -/
def ofNode (p : Prepared) (textures : Table Domain) (found : Table Route) (n : Node) :
    Except UnresolvedReason Route := do
  let consumers := passConsumers p n.id
  let (t, isExplicit) ← target (explicitTargets consumers) (inheritedTargets found consumers)
  let geometry ← shape p n
  return {
    node := n.id
    type := n.type
    domain := domainAt textures t
    geometry
    isExplicit
    layers := p.layersOf n.id }

/-- Finds the routes of a list of nodes in which consumers come first. -/
def findAll (p : Prepared) (textures : Table Domain) :
    List String → Table Route → Except UnresolvedTargetError (Table Route)
  | [], found => .ok found
  | id :: rest, found =>
    match p.node? id with
    | none => findAll p textures rest found
    | some n =>
      if isRoutedType n.type then
        match ofNode p textures found n with
        | .error reason => .error { node := n.id, reason }
        | .ok r => findAll p textures rest (found.insert n.id r)
      else findAll p textures rest found

/-- The connections that lead from composition to composition. -/
def consumerEdges (p : Prepared) : List (String × String) :=
  p.composites.flatMap fun id =>
    (p.scene.outgoingFrom id).filterMap fun c =>
      match p.node? c.target.node with
      | some n => if n.type = compositeType then some (id, n.id) else none
      | none => none

end Route

def Routes.route? (r : Routes) (id : String) : Option Route := r.byNode.get? id

/-- Finds the routes of a prepared scene. Consumers come later in topological order, so the walk goes
backwards. -/
def Prepared.resolve (p : Prepared) : Logged UnresolvedTargetError Routes := do
  let textures := Route.targetDomains p
  let byNode ← Logged.ofExcept (Route.findAll p textures p.order.reverse [])
  let edges := Route.consumerEdges p
  Logged.debug "resolve: done" [("routes", toString byNode.length),
    ("textures", toString textures.length), ("consumer_edges", toString edges.length)]
  return {
    byNode
    order := p.order.filter fun id => byNode.has id
    textures
    consumerEdges := edges }

end SceneGraph
