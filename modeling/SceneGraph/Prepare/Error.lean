import SceneGraph.Graph.Order
import SceneGraph.Schema.Basic

/-!
# Failures of preparation

Why a validated scene cannot be prepared for planning.
-/
set_option autoImplicit false

namespace SceneGraph

/-- The steps of preparation that can fail. -/
inductive PrepareStep where
  | groups
  | images
  | wrap
  | bake
  | other (name : String)
deriving Repr, DecidableEq

def PrepareStep.name : PrepareStep → String
  | .groups => "groups"
  | .images => "images"
  | .wrap => "wrap"
  | .bake => "bake"
  | .other name => name

/-- The reason behind a failed step. -/
inductive StepCause where
  | undefinedGroup (id : String)
  | tooDeep (limit : Int)
  | noInputPort (group port : String)
  | noOutputPort (group port : String)
  | outputOfPortlessGroup (output group : String)
  | missingImageSource (id : String)
  | notAnImageSource (id type : String)
  | inputNotConstant (port : String)
  | geometryNotConstant (node : String)
  | geometryNotConnected
  | emptyGrid (count columns : String)
  | validation (e : ValidationError)
  | noOutput
deriving Repr, DecidableEq

def noOutputMessage : String := "prepare: scene has no Screen output node"

def StepCause.message : StepCause → String
  | .undefinedGroup id => "group " ++ Text.quoted id ++ " is not defined"
  | .tooDeep limit => s!"group nesting exceeds {limit} levels"
  | .noInputPort group port =>
    "group " ++ Text.quoted group ++ " has no input port " ++ Text.quoted port
  | .noOutputPort group port =>
    "group " ++ Text.quoted group ++ " has no output port " ++ Text.quoted port
  | .outputOfPortlessGroup output group =>
    "output " ++ Text.quoted output ++ " names group " ++ Text.quoted group ++ " which has no outputs"
  | .missingImageSource id => "image source " ++ Text.quoted id ++ " is missing"
  | .notAnImageSource id type =>
    "node " ++ Text.quoted id ++ " of type " ++ type ++ " is not an image source"
  | .inputNotConstant port => "input " ++ Text.quoted port ++ " is not constant"
  | .geometryNotConstant node => "geometry input from " ++ Text.quoted node ++ " is not constant"
  | .geometryNotConnected => "geometry input is not connected"
  | .emptyGrid count columns =>
    "count and columns must be positive, got " ++ count ++ " and " ++ columns
  | .validation e => e.message
  | .noOutput => noOutputMessage

structure StepError where
  step : PrepareStep
  node : String := ""
  cause : StepCause
deriving Repr, DecidableEq

def StepError.message (e : StepError) : String :=
  let place := if e.node = "" then "" else "node " ++ Text.quoted e.node ++ ": "
  "prepare: " ++ e.step.name ++ ": " ++ place ++ e.cause.message

/-- An output size that is not positive, with the size that an error picture takes instead. -/
structure ResolutionError where
  node : String
  field : String
  width : Int
  height : Int
deriving Repr, DecidableEq

def ResolutionError.message (e : ResolutionError) : String :=
  "prepare: node " ++ Text.quoted e.node ++ ": " ++ e.field
    ++ s!" must be a positive integer (falling back to {e.width}x{e.height})"

/-- A failure of preparation. -/
inductive PrepareError where
  | step (e : StepError)
  | validation (e : ValidationError)
  | cycle (e : CycleError)
  | noOutput
  | resolution (e : ResolutionError)
  /-- The work cannot be carried out at all. -/
  | internal (detail : String)
deriving Repr, DecidableEq

def PrepareError.message : PrepareError → String
  | .step e => e.message
  | .validation e => e.message
  | .cycle e => e.message
  | .noOutput => noOutputMessage
  | .resolution e => e.message
  | .internal detail => "shadergraph: compile panicked: " ++ detail

end SceneGraph
