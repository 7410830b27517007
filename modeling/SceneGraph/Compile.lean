import SceneGraph.Failure
import SceneGraph.Plan.Build
import SceneGraph.Scene.Structure
import SceneGraph.Schema.Builtin
import SceneGraph.Schema.Validate
import SceneGraph.Space.Signature

/-!
# Compiling scenes

The way from a scene to a space: structure, validation, preparation, routes, plan and assembly. A scene
that cannot be compiled has a picture all the same, filled with the color of an error.
-/
set_option autoImplicit false

namespace SceneGraph

/-- The settings of a compiler. -/
structure Compiler where
  schema : Schema := Schema.builtin
  registry : Registry := Registry.builtin
  /-- The size of outputs that do not state one, and of the picture of an error. -/
  resolution : Size := ({} : PrepareOptions).resolution
  environment : Environment := {}

structure Compiled where
  scene : Scene
  prepared : Prepared
  plan : Plan
  space : Space

namespace Compiler

/-- Sets the default size, provided that it is positive. -/
def withResolution (c : Compiler) (size : Size) : Compiler :=
  if 0 < size.width && 0 < size.height then { c with resolution := size } else c

def options (c : Compiler) : PrepareOptions := { resolution := c.resolution, face := c.environment.face }

def assemble (c : Compiler) (p : Prepared) : Logged Failure (Plan × Space) := do
  let routes ← p.resolve.adapt .unresolved
  let context : PlanContext := { prepared := p, routes, registry := c.registry, environment := c.environment }
  let plan ← context.build.adapt .plan
  let space := Space.assemble plan
  Logged.report (space.assembled plan)
  return (plan, space)

def compile (c : Compiler) (s : Scene) : Logged Failure Compiled := do
  (Logged.ofExcept s.checkStructure).adapt .document
  let scene ← (Logged.ofExcept (c.schema.validate s)).adapt .validation
  let prepared ← (scene.prepare c.schema c.options).adapt .prepare
  let (plan, space) ← c.assemble prepared
  Logged.debug "shadergraph: compiled" [("scene", s.metadata.name), ("passes", toString plan.passes.length),
    ("textures", toString plan.textures.length), ("signature", Text.hex 16 space.signature.toNat)]
  return { scene, prepared, plan, space }

end Compiler

/-- What is drawn: a plan with its space, and the failure that it stands for, if any. -/
structure Picture where
  plan : Plan
  space : Space
  failure : Option Failure := none

namespace Picture

def ofCompiled (r : Compiled) : Picture := { plan := r.plan, space := r.space }

def signature (p : Picture) : UInt64 := p.space.signature

end Picture

def Failure.size? : Failure → Option Size
  | .prepare (.resolution e) => if 0 < e.width && 0 < e.height then some ⟨e.width, e.height⟩ else none
  | _ => none

def Compiler.errorPicture (c : Compiler) (e : Failure) : Picture :=
  let plan := errorPlan (e.size?.getD c.resolution) errorColor
  { plan, space := Space.assemble plan, failure := some e }

/-- What is counted about a compilation: the number of passes and the kind of failure. -/
structure Observation where
  passes : Nat
  kind : Option FailureKind
deriving Repr, DecidableEq

def Observation.ofOutcome : Except Failure Compiled → Observation
  | .ok r => ⟨r.plan.passes.length, none⟩
  | .error e => ⟨0, some e.kind⟩

end SceneGraph
