import SceneGraph.Plan.Effect

/-!
# Plans of scenes

Passes are planned in topological order. Draw nodes that inherit their target are drawn by their
composition, in layer order; a composition inside another one on the same target is drawn in its
place; layers on another target are copied once. `PlanContext.build` gives the plan of a scene.
-/
set_option autoImplicit false

namespace SceneGraph

/-- The texture that is shown when the scene's own needs encoding. -/
def presentTextureName : String := "present"

def paramsBufferName : String := "params"

namespace PlanContext

def clearColor (n : Node) : Color :=
  match n.floats? "clearColor" with
  | some (r :: g :: b :: rest) => ⟨r, g, b, rest.head?.getD 1⟩
  | _ => if n.type = screenType then ⟨0, 0, 0, 1⟩ else {}

def declareTarget (n : Node) (d : Domain) : PlanM Unit :=
  match TextureFormat.ofSceneName? d.format with
  | none => throw (.expr (.unsupportedParam n.id "format" (.str d.format)))
  | some format => PlanM.declare fun p => p.declareTexture
      { name := d.texture, node := n.id, size := d.size, format, clear := clearColor n }

/-- Marks a node as drawn; tells whether it was drawn before. -/
def markDrawn (id : String) : PlanM Bool := do
  let st ← get
  if st.drawn.contains id then return true
  set { st with drawn := id :: st.drawn }
  return false

def routeOf (c : PlanContext) (id : String) : PlanM Route :=
  match c.routes.route? id with
  | some r => pure r
  | none => throw (.unresolved { node := id, reason := .noRoute })

/-- Plans the passes of a draw node, once. -/
def draw (c : PlanContext) (n : Node) : PlanM Unit := do
  if ← markDrawn n.id then return
  let r ← c.routeOf n.id
  match n.type with
  | "RenderPass" => c.renderPass n r
  | "Blit" => c.blit n r
  | "Blur" => c.blur n r
  | "Bloom" => c.bloom n r
  | type => throw (.expr (.unsupportedParam n.id "pass type" (.str type)))

/-- The composition is a layer of another one on the same target. -/
def isNested (c : PlanContext) (id : String) : Bool :=
  match c.routes.route? id with
  | none => false
  | some r => (c.prepared.compositesOf id).any fun parent =>
      match c.routes.route? parent with
      | some q => q.domain.node == r.domain.node
      | none => false

/-- Copies a layer from another target into a composition, once for each pair. -/
def compose (layer : String) (source : Domain) (n : Node) (target : Domain) : PlanM Unit := do
  let st ← get
  if st.copied.contains (layer, target.node) then
    PlanM.debug "plan: compose blit deduplicated" [("from", layer), ("to", n.id)]
  else
    set { st with copied := (layer, target.node) :: st.copied }
    let blend ← PlanM.ofExpr (Blend.ofNode n "premultiplied")
    Effect.plan {
      -- Ids are not quoted, so an arrow within them reads like the one between them.
      id := "compose:" ++ layer ++ "->" ++ n.id
      kind := .compose
      nodes := [layer, n.id]
      inputs := [⟨"src", source.texture, {}⟩]
      target := target.texture
      body := Effect.copyBody
      blend }

/-- Plans one layer of a composition; `inner` plans a composition. -/
def layer (c : PlanContext) (inner : Node → PlanM Unit) (n : Node) (r : Route) (l : Layer) : PlanM Unit :=
  match c.prepared.node? l.node, c.routes.route? l.node with
  | some ln, some lr =>
    if lr.domain.node = r.domain.node then
      if ln.type = compositeType then inner ln
      -- A node with a target of its own is drawn at its own place in the order.
      else if isDrawType ln.type && !lr.isExplicit then c.draw ln
      else pure ()
    else compose ln.id lr.domain n r.domain
  | _, _ => pure ()

/-- Plans the layers of a composition, in order. -/
def layers (c : PlanContext) (inner : Node → PlanM Unit) (n : Node) (r : Route) :
    List Layer → PlanM Unit
  | [] => pure ()
  | l :: rest => do
    c.layer inner n r l
    c.layers inner n r rest

/-- Plans a composition, once, with compositions nested at most `depth` deep. -/
def compositeWithin (c : PlanContext) : Nat → Node → PlanM Unit
  | 0, _ => pure ()
  | depth + 1, n => do
    if ← markDrawn n.id then return
    let r ← c.routeOf n.id
    c.layers (c.compositeWithin depth) n r r.layers

/-- Plans a composition. Each level of nesting marks another node as drawn, so there are no more levels
than nodes. -/
def composite (c : PlanContext) (n : Node) : PlanM Unit :=
  c.compositeWithin (c.prepared.scene.nodes.length + 1) n

/-- Clears a target that nothing has drawn into yet. -/
def clearUnwritten (c : PlanContext) (n : Node) : PlanM Unit := do
  let texture := (Route.domainAt c.routes.textures n.id).texture
  let st ← get
  if st.written.contains texture then return
  PlanM.addPass { id := "clear:" ++ n.id, kind := .clear, nodes := [n.id], target := texture }

def node (c : PlanContext) (n : Node) : PlanM Unit :=
  if n.type = compositeType then
    if c.isNested n.id then pure () else c.composite n
  else if isDrawType n.type then
    match c.routes.route? n.id with
    | some r => if r.isExplicit then c.draw n else pure ()
    | none => pure ()
  else if isTargetType n.type then c.clearUnwritten n
  else pure ()

/-- Declares the textures of the targets among the nodes of an order. -/
def declareTargets (c : PlanContext) : List String → PlanM Unit
  | [] => pure ()
  | id :: rest => do
    match c.routes.textures.get? id, c.prepared.node? id with
    | some d, some n => declareTarget n d
    | _, _ => pure ()
    c.declareTargets rest

def nodes (c : PlanContext) : List String → PlanM Unit
  | [] => pure ()
  | id :: rest => do
    match c.prepared.node? id with
    | some n => c.node n
    | none => pure ()
    c.nodes rest

/-- Encodes a scene of floats for display, if its output asks for that. -/
def present (c : PlanContext) : PlanM Unit := do
  let o := c.prepared.output
  if o.encoding ≠ "srgb" || !isFloatFormatName o.format then return
  PlanM.declare fun p => p.declareTexture
    { name := presentTextureName, node := o.node, size := o.size, format := .rgba8Unorm }
  modify fun st => { st with plan := { st.plan with presentTexture := presentTextureName } }
  Effect.plan {
    id := "present:" ++ o.node
    kind := .present
    nodes := [o.node]
    inputs := [⟨"src", o.texture, {}⟩]
    target := presentTextureName
    body := Effect.displayBody }

/-- The constants, at least one slot of them. -/
def paramsOf (params : List Float32) : List Float32 := params ++ List.replicate (4 - params.length) 0

def declareParams : PlanM Unit := do
  let st ← get
  let params := paramsOf st.session.params
  set { st with plan := { st.plan with params } }
  PlanM.declare fun p => p.declareBuffer
    { name := paramsBufferName, kind := .params, data := Bytes.ofFloats params, stride := 16 }

def buildAll (c : PlanContext) : PlanM Unit := do
  c.declareTargets c.prepared.order
  c.nodes c.prepared.order
  c.present
  declareParams
  let p := (← get).plan
  PlanM.debug "plan: built" [("passes", toString p.passes.length), ("textures", toString p.textures.length),
    ("buffers", toString p.buffers.length), ("samplers", toString p.samplers.length),
    ("animated", toString p.isAnimated)]

def emptyPlan (c : PlanContext) : Plan where
  sceneTexture := c.prepared.output.texture
  presentTexture := c.prepared.output.texture
  size := c.prepared.output.size

def build (c : PlanContext) : Logged PlanError Plan :=
  let (r, st) := c.buildAll.run.run { plan := c.emptyPlan }
  Logged.replay (r.map fun _ => st.plan) st.session.log

end PlanContext

/-! ## The picture of an error -/

def errorColor : Color := ⟨1, 0, 1, 1⟩

/-- A number as a decimal of the shading language. -/
def shaderDecimal (x : Float) : String :=
  let text := NumberStyle.general.render x
  if text.toList.any fun c => c = '.' || c = 'e' then text else text ++ ".0"

/-- The plan that fills a target with a color. A size that is not positive becomes the default. -/
def errorPlan (size : Size) (c : Color) : Plan :=
  let size := if size.width ≤ 0 || size.height ≤ 0 then ({} : PrepareOptions).resolution else size
  let params : List Float32 := [0, 0, 0, 0]
  { textures := [{ name := Names.sceneTexture, size, format := .rgba8Unorm, clear := c }]
    buffers := [{ name := paramsBufferName, kind := .params, data := Bytes.ofFloats params, stride := 16 }]
    passes := [{
      id := PassKind.error.name
      kind := .error
      target := Names.sceneTexture
      size
      format := .rgba8Unorm
      shader := .generated {
        vertex := .fullscreen .identity
        fragment := [.result (.construct .vec4
          ([c.r, c.g, c.b, c.a].map fun x => .decimal (shaderDecimal x)))] }
      load := .clear
      clear := c
      vertices := 3
      instances := 1 }]
    params
    sceneTexture := Names.sceneTexture
    presentTexture := Names.sceneTexture
    size }

end SceneGraph
