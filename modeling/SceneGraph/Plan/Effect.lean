import SceneGraph.Plan.Draw

/-!
# Effect passes

Passes over the whole target that sample textures: copies, blurs and blooms, and the final encoding
for display.
-/
set_option autoImplicit false

namespace SceneGraph

/-- A texture that an effect samples, under the stem of its variables. -/
structure EffectInput where
  name : String
  texture : String
  sampler : SamplerKind := {}

/-- A pass over the whole target. -/
structure Effect where
  id : String
  kind : PassKind
  nodes : List String
  inputs : List EffectInput
  target : String
  body : List ShaderStatement
  blend : Option BlendState := none

namespace Effect

/-! ## Programs -/

def sampleAt (name : String) (position : Code) : Code := .sample name name position

def sampleHere (name : String) : Code := sampleAt name .uv

def copyBody : List ShaderStatement := [.result (sampleHere "src")]

def displayBody : List ShaderStatement :=
  let rgb : Code := .bound "rgb"
  [.bind "c" (sampleHere "src"),
    .bind "rgb" (.call "clamp" [.part (.bound "c") "rgb", .construct .vec3 [.zero .float],
      .construct .vec3 [.one .float]]),
    .bind "lo" (.bare "*" rgb (.decimal "12.92")),
    .bind "hi" (.bare "-" (.bare "*" (.decimal "1.055")
      (.call "pow" [rgb, .construct .vec3 [.bare "/" (.one .float) (.decimal "2.4")]])) (.decimal "0.055")),
    .result (.construct .vec4 [.call "select" [.bound "hi", .bound "lo",
      .bare "<=" rgb (.construct .vec3 [.decimal "0.0031308"])], .part (.bound "c") "a"])]

/-- The weights of a nine-point blur to one side of the center. -/
def sideWeights : List String := ["0.1945946", "0.1216216", "0.054054", "0.016216"]

def centerWeight : String := "0.227027"

/-- One pair of points of a blur, on both sides at a distance. -/
def blurPair (distance : Nat) (weight : String) : List ShaderStatement :=
  ["+", "-"].map fun side =>
    .increase "c" (.bare "*" (sampleAt "src" (.bare side .uv
      (.bare "*" (.bound "dt") (.decimal s!"{distance}.0")))) (.decimal weight))

/-- Blurs the source along a direction, over a radius in texels. -/
def blurBody (direction radius : Code) : List ShaderStatement :=
  [.bind "texel" (.bare "/" (.one .float) (.construct .vec2 [.dimensions "src"])),
    .bind "dt" (.bare "/" (.bare "*" (.bare "*" direction (.bound "texel"))
      (.call "max" [radius, .zero .float])) (.decimal "4.0")),
    .variable "c" (.bare "*" (sampleHere "src") (.decimal centerWeight))]
    ++ (sideWeights.zipIdx.flatMap fun (w, i) => blurPair (i + 1) w)
    ++ [.result (.bound "c")]

def horizontal : Code := .construct .vec2 [.one .float, .zero .float]

def vertical : Code := .construct .vec2 [.zero .float, .one .float]

/-- The weights of the channels in the brightness of a color. -/
def luma : Code := .construct .vec3 [.decimal "0.2126", .decimal "0.7152", .decimal "0.0722"]

def extractBody (threshold : Code) : List ShaderStatement :=
  [.bind "c" (sampleHere "src"),
    .bind "w" (.call "smoothstep" [threshold, .bare "+" threshold (.decimal "0.1"),
      .call "dot" [.part (.bound "c") "rgb", luma]]),
    .result (.bare "*" (.bound "c") (.bound "w"))]

/-- The mean of four points around the fragment. -/
def downBody : List ShaderStatement :=
  let ox : Code := .part (.bound "o") "x"
  let oy : Code := .part (.bound "o") "y"
  let corner (x y : Code) : Code := sampleAt "src" (.bare "+" .uv (.construct .vec2 [x, y]))
  [.bind "o" (.bare "/" (.decimal "0.5") (.construct .vec2 [.dimensions "src"])),
    .bind "c" (.bare "+" (.bare "+" (.bare "+" (corner (.minus ox) (.minus oy)) (corner ox (.minus oy)))
      (corner (.minus ox) oy)) (corner ox oy)),
    .result (.bare "*" (.bound "c") (.decimal "0.25"))]

def combineBody (intensity : Code) : List ShaderStatement :=
  [.result (.bare "+" (sampleHere "src") (.bare "*" (sampleHere "bloom") intensity))]

/-! ## Passes -/

def binding (i : Nat) (input : EffectInput) : TextureBinding where
  binding := PlanContext.bindingNumber i
  textureVar := Code.textureVar input.name
  samplerVar := Code.samplerVar input.name
  texture := input.texture
  sampler := input.sampler.toDecl.name

def moduleOf (bindings : List TextureBinding) (body : List ShaderStatement) : ShaderModule where
  bindings := bindings
  helpers := [CompileNode.flipHelper]
  vertex := .fullscreen .identity
  fragment := body

def declareSamplers : List EffectInput → PlanM Unit
  | [] => pure ()
  | i :: rest => do
    PlanM.declare fun p => p.declareSampler i.sampler.toDecl
    declareSamplers rest

def plan (e : Effect) : PlanM Unit := do
  declareSamplers e.inputs
  let bindings := e.inputs.zipIdx.map fun (input, i) => binding i input
  PlanM.addPass {
    id := e.id
    kind := e.kind
    nodes := e.nodes
    target := e.target
    shader := .generated (moduleOf bindings e.body)
    bindings
    blend := e.blend
    vertices := 3
    instances := 1 }

end Effect

namespace PlanContext

def blit (c : PlanContext) (n : Node) (r : Route) : PlanM Unit := do
  let source ← c.wiredTexture n
  let blend ← PlanM.ofExpr (Blend.ofNode n "premultiplied")
  Effect.plan {
    id := "blit:" ++ n.id
    kind := .blit
    nodes := [n.id]
    inputs := [⟨"src", source, .ofNode n⟩]
    target := r.domain.texture
    body := Effect.copyBody
    blend }

/-- A length divided by a number and rounded up, at least one. -/
def dividedLength (length : Int) (divisor : Int) : Int := max (Int.tdiv (wrap64 (length + divisor - 1)) divisor) 1

def scratch (n : Node) (name : String) (r : Route) (divisor : Int) : PlanM Unit :=
  match TextureFormat.ofSceneName? r.domain.format with
  | none => throw (.expr (.unsupportedParam n.id "format" (.str r.domain.format)))
  | some format => PlanM.declare fun p => p.declareTexture {
      name
      node := n.id
      size := ⟨dividedLength r.domain.size.width divisor, dividedLength r.domain.size.height divisor⟩
      format }

/-- An unblended pass of a node from one texture to another. -/
def stage (n : Node) (kind : PassKind) (label source target : String) (body : List ShaderStatement)
    (blend : Option BlendState) : Effect :=
  { id := kind.name ++ ":" ++ n.id ++ ":" ++ label
    kind
    nodes := [n.id]
    inputs := [⟨"src", source, {}⟩]
    target
    body
    blend }

/-- The rounds of a blur through two scratch textures, numbered from `i` on. -/
def blurRounds (n : Node) (first second : String) (radius : Code) : Nat → Nat → String → PlanM Unit
  | 0, _, _ => pure ()
  | rounds + 1, i, source => do
    (stage n .blur s!"h{i}" source first (Effect.blurBody Effect.horizontal radius) none).plan
    (stage n .blur s!"v{i}" first second (Effect.blurBody Effect.vertical radius) none).plan
    blurRounds n first second radius rounds (i + 1) second

/-- Plans a blur: rounds along rows and columns through scratch textures, then a copy. -/
def blur (c : PlanContext) (n : Node) (r : Route) : PlanM Unit := do
  let source ← c.wiredTexture n
  let blend ← PlanM.ofExpr (Blend.ofNode n "premultiplied")
  let rounds := max (n.intOr "iterations" 2) 1
  let downscale := max (n.intOr "downscale" 1) 1
  let radius ← PlanM.ofSession (SessionM.constant n.id "radius" [n.floatOr "radius" 4] .float)
  let name := c.prepared.nameOf n.id
  let first := name ++ "_blur_a"
  let second := name ++ "_blur_b"
  scratch n first r downscale
  scratch n second r downscale
  blurRounds n first second radius.code rounds.toNat 0 source
  (stage n .blur "out" second r.domain.texture Effect.copyBody blend).plan

/-- Plans the passes of a list, in order. -/
def planAll : List Effect → PlanM Unit
  | [] => pure ()
  | e :: rest => do
    e.plan
    planAll rest

/-- Declares the levels of a bloom, each half as large as the one before. -/
def bloomLevels (n : Node) (name : String) (r : Route) : List Nat → PlanM Unit
  | [] => pure ()
  | i :: rest => do
    scratch n s!"{name}_bloom_{i}" r (Nat.pow 2 (i + 1))
    bloomLevels n name r rest

/-- Plans a bloom: bright parts are extracted, halved level by level, added up again, and put over the
source. -/
def bloom (c : PlanContext) (n : Node) (r : Route) : PlanM Unit := do
  let source ← c.wiredTexture n
  let blend ← PlanM.ofExpr (Blend.ofNode n "replace")
  let levels := (min (max (n.intOr "levels" 4) 1) 8).toNat
  let threshold ← PlanM.ofSession (SessionM.constant n.id "threshold" [n.floatOr "threshold" 0.8] .float)
  let intensity ← PlanM.ofSession (SessionM.constant n.id "intensity" [n.floatOr "intensity" 1] .float)
  let name := c.prepared.nameOf n.id
  let level (i : Nat) : String := s!"{name}_bloom_{i}"
  bloomLevels n name r (List.range levels)
  (stage n .bloom "extract" source (level 0) (Effect.extractBody threshold.code) none).plan
  planAll ((List.range (levels - 1)).map fun i =>
    stage n .bloom s!"down{i + 1}" (level i) (level (i + 1)) Effect.downBody none)
  -- The smallest level first: each is added to the next larger one, which then holds both.
  planAll ((List.range (levels - 1)).reverse.map fun i =>
    stage n .bloom s!"up{i + 1}" (level (i + 1)) (level i) Effect.copyBody (some Blend.additive))
  let combine := stage n .bloom "combine" source r.domain.texture (Effect.combineBody intensity.code) blend
  let inputs := combine.inputs ++ [({ name := "bloom", texture := level 0 } : EffectInput)]
  Effect.plan { combine with inputs }

end PlanContext

end SceneGraph
