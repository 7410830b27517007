import SceneGraph.Bytes.DataUrl
import SceneGraph.Bytes.Path
import SceneGraph.Expr.Registry
import SceneGraph.Image.Bmp
import SceneGraph.Image.Png
import SceneGraph.Plan.Blend
import SceneGraph.Plan.Basic

/-!
# Building plans

The state of planning and its elementary steps: declaring resources, adding passes, and turning
images and texts into textures.
-/
set_option autoImplicit false

namespace SceneGraph

/-- An image whose bytes are no image. -/
structure ImageError where
  node : String
  /-- The parameter that the image came from. -/
  source : String
deriving Repr, DecidableEq

def ImageError.message (e : ImageError) : String :=
  "plan: node " ++ Text.quoted e.node ++ ": image " ++ e.source ++ ": image: unknown format"

/-- Why a plan cannot be built. -/
inductive PlanError where
  | expr (e : ExprError)
  | conflict (e : ResourceConflict)
  | unresolved (e : UnresolvedTargetError)
  | image (e : ImageError)
  /-- The work cannot be carried out at all. -/
  | internal (detail : String)

def PlanError.message : PlanError → String
  | .expr e => e.message
  | .conflict e => e.message
  | .unresolved e => e.message
  | .image e => e.message
  | .internal detail => PrepareError.message (.internal detail)

/-- What a compiler uses without being part of it: the bytes of images, readers of their formats, a face for texts, and
a checker of the shading language. -/
structure Environment where
  asset? : String → Option ByteArray := fun _ => none
  /-- The bytes of a file below the base directory. -/
  file? : String → Option ByteArray := fun _ => none
  /-- The reader of files in other formats than PNG. -/
  further : ByteArray → Except ImageFault { i : Image // i.Filled } := fun file => (Bmp.decode file).bind Image.checked
  face : Text.Face := .bitmap
  /-- A text is a valid module of the shading language. -/
  accepts : String → Bool := Wgsl.accepts

/-- What planning works on. -/
structure PlanContext where
  prepared : Prepared
  routes : Routes
  registry : Registry := Registry.builtin
  environment : Environment := {}

def PlanContext.exprs (c : PlanContext) : ExprContext := ⟨c.prepared, c.registry, c.environment.accepts⟩

/-- The state of planning. -/
structure PlanState where
  session : Session := {}
  plan : Plan := {}
  /-- The textures that some pass has written. -/
  written : List String := []
  /-- The nodes that have been drawn. -/
  drawn : List String := []
  /-- The layers that have been copied, with the target they were copied to. -/
  copied : List (String × String) := []

abbrev PlanM (α : Type) := ExceptT PlanError (StateM PlanState) α

namespace PlanM

def ofSession {α : Type} (x : SessionM α) : PlanM α :=
  ExceptT.mk fun st =>
    let (r, s) := x.run.run st.session
    (r.mapError .expr, { st with session := s })

/-- A result that may fail like an expression. -/
def ofExpr {α : Type} (r : Except ExprError α) : PlanM α := ExceptT.mk (pure (r.mapError .expr))

def declare (f : Plan → Except ResourceConflict Plan) : PlanM Unit := do
  let st ← get
  match f st.plan with
  | .ok p => set { st with plan := p }
  | .error e => throw (.conflict e)

def report (e : LogEntry) : PlanM Unit := modify fun st => { st with session := st.session.report e }

def debug (message : String) (fields : List (String × String)) : PlanM Unit :=
  report ⟨.debug, message, fields⟩

/-- The load operation of the next pass that writes a texture: it clears on the first write and loads
on later ones. -/
def loadOf (st : PlanState) (t : TextureDecl) : LoadOp × Color :=
  if st.written.contains t.name then (.load, {}) else (.clear, t.clear)

/-- Adds a pass, completed by the declaration of its target. -/
def addPass (ps : Pass) : PlanM Unit := do
  let st ← get
  match st.plan.texture? ps.target with
  | none => throw (.conflict { kind := "texture", name := ps.target, reason := .undeclaredTarget ps.id })
  | some t =>
    if ps.bindings.any fun b => b.texture == ps.target then
      throw (.conflict { kind := "texture", name := ps.target, reason := .samplesTarget ps.id })
    let (op, color) := loadOf st t
    let full := { ps with size := t.size, format := t.format, load := op, clear := color }
    set { st with
      written := if st.written.contains t.name then st.written else t.name :: st.written
      plan := { st.plan with
        passes := st.plan.passes ++ [full]
        isAnimated := st.plan.isAnimated || full.isAnimated } }
    debug "plan: pass" [("id", ps.id), ("target", ps.target), ("load", op.name),
      ("bindings", toString ps.bindings.length)]

end PlanM

namespace PlanContext

/-! ## Uploaded textures -/

/-- Declares a texture and the buffer of pixels that fills it. -/
def upload (c : PlanContext) (n : Node) (i : Image) : PlanM String := do
  let name := c.prepared.nameOf n.id
  let buffer := name ++ "_pixels"
  PlanM.declare fun p => p.declareBuffer
    { name := buffer, kind := .pixels, data := i.pixels, stride := (4 * i.width).toUInt32 }
  PlanM.declare fun p => p.declareTexture
    { name, node := n.id, size := ⟨i.width, i.height⟩, format := .rgba8Unorm, upload := buffer }
  return name

def textTexture (c : PlanContext) (n : Node) : PlanM String :=
  match c.prepared.baked.pixels? ⟨n.id, "texture"⟩ with
  | some i => c.upload n i
  | none =>
    match Text.rasterize c.environment.face (n.stringOr "text" "") ⟨255, 255, 255, 255⟩ 1 with
    | .ok i => c.upload n i
    | .error words => throw (.internal words)

/-- One white pixel, in place of an image that cannot be obtained. -/
def placeholder : Image := ⟨1, 1, ⟨#[255, 255, 255, 255]⟩⟩

/-- The image of a file, copied into four bytes for each pixel. -/
def decodeImage (c : PlanContext) (bytes : ByteArray) : Except ImageFault Image := do
  let i ← if Png.isPng bytes then Png.decode bytes else (c.environment.further bytes).map Subtype.val
  match Image.reserve (4 * i.width * i.height) with
  | .ok () => return i
  | .error words => .error (.overflow words)

/-- The bytes of an image, by the parameter that names it. -/
def imageBytes? (c : PlanContext) : Option (String × String) → Option ByteArray
  | some ("assetId", id) => c.environment.asset? id
  | some ("dataUrl", url) => (DataUrl.decode url).toOption
  | some ("path", path) => if Path.isLocal path then c.environment.file? path else none
  | _ => none

def imageTexture (c : PlanContext) (n : Node) : PlanM String := do
  let source := Images.source? n
  let key := (source.map Prod.fst).getD ""
  -- Bytes that are missing have a stand-in; bytes that are no image are a failure, and so is one too large to store.
  match c.imageBytes? source with
  | none =>
    PlanM.report ⟨.warn, "plan: image unavailable, using placeholder", [("node", n.id), ("source", key)]⟩
    c.upload n placeholder
  | some bytes =>
    match c.decodeImage bytes with
    | .ok i => c.upload n i
    | .error .unreadable => throw (.image ⟨n.id, key⟩)
    | .error (.overflow words) => throw (.internal words)

/-- The name of the texture that a node provides. -/
def sourceTexture (c : PlanContext) (id : String) : PlanM String :=
  match c.routes.textures.get? id with
  | some d => pure d.texture
  | none =>
    match c.prepared.node? id with
    | none => throw (.expr (.missingInput id "texture"))
    | some n =>
      match n.type with
      | "ImageTexture" => c.imageTexture n
      | "Text" => c.textTexture n
      | type => throw (.expr (.unsupportedParam id "texture source" (.str type)))

def wiredTexture (c : PlanContext) (n : Node) : PlanM String := do
  let e ← PlanM.ofSession (c.exprs.inputs.require n ["texture"])
  if e.type ≠ .texture then
    throw (.expr (.typeMismatch n.id "texture" ValueType.texture.name e.type))
  c.sourceTexture e.source

/-- The number of the binding at a position; the frame and the constants come first. -/
def bindingNumber (i : Nat) : UInt32 := (2 + 2 * i).toUInt32

/-- The bindings for keys that an expression samples, from a position on. -/
def bindingsFrom (c : PlanContext) : Nat → List String → PlanM (List TextureBinding)
  | _, [] => pure []
  | i, key :: rest => do
    let st ← get
    match st.session.binding? key with
    | none => c.bindingsFrom (i + 1) rest
    | some b =>
      let texture ← c.sourceTexture b.source
      let sampler := b.sampler.toDecl
      PlanM.declare fun p => p.declareSampler sampler
      let more ← c.bindingsFrom (i + 1) rest
      return {
        binding := bindingNumber i
        textureVar := Code.textureVar b.name
        samplerVar := Code.samplerVar b.name
        texture
        sampler := sampler.name } :: more

end PlanContext

end SceneGraph
