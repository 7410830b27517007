import SceneGraph.Export
import SceneGraph.Plan.Builder
import SceneGraph.Prepare.Error
import SceneGraph.Route
import SceneGraph.Scene.Structure
import SceneGraph.Schema.Basic
import SceneGraph.Space.Realize

/-!
# Failures

Everything that can go wrong between reading a scene and exporting a picture, and the short labels
under which failures are counted.
-/
set_option autoImplicit false

namespace SceneGraph

/-- The kinds of failures. -/
inductive FailureKind where
  | sceneParse
  | typeMismatch
  | schemaValidation
  | cycleDetected
  | noOutput
  | invalidResolution
  | unresolvedTarget
  | missingInput
  | unsupportedParam
  | snippetRefused
  | resourceConflict
  | imageDecode
  | shaderCompile
  | exportFormatMismatch
  | internal
  | other
deriving Repr, DecidableEq

def FailureKind.label : FailureKind → String
  | .sceneParse => "scene_parse"
  | .typeMismatch => "type_mismatch"
  | .schemaValidation => "schema_validation"
  | .cycleDetected => "cycle_detected"
  | .noOutput => "no_output"
  | .invalidResolution => "invalid_resolution"
  | .unresolvedTarget => "unresolved_target"
  | .missingInput => "missing_input"
  | .unsupportedParam => "unsupported_param"
  | .snippetRefused => "translation_failed"
  | .resourceConflict => "resource_conflict"
  | .imageDecode => "image_decode"
  | .shaderCompile => "shader_compile"
  | .exportFormatMismatch => "export_format_mismatch"
  | .internal => "internal"
  | .other => "other"

/-- The kind of a broken rule of the schema. -/
def ValidationError.failureKind (e : ValidationError) : FailureKind :=
  if e.kind = .typeMismatch then .typeMismatch else .schemaValidation

def StepError.failureKind (e : StepError) : FailureKind :=
  match e.cause with
  | .validation v => v.failureKind
  | .noOutput => .noOutput
  | _ => .other

def PrepareError.failureKind : PrepareError → FailureKind
  | .step e => e.failureKind
  | .validation e => e.failureKind
  | .cycle _ => .cycleDetected
  | .noOutput => .noOutput
  | .resolution _ => .invalidResolution
  | .internal _ => .internal

def ExprError.failureKind : ExprError → FailureKind
  | .missingInput _ _ => .missingInput
  | .typeMismatch _ _ _ _ => .typeMismatch
  | .unsupportedParam _ _ _ => .unsupportedParam
  | .snippetRefused _ _ => .snippetRefused
  | .cycle _ => .cycleDetected

def PlanError.failureKind : PlanError → FailureKind
  | .expr e => e.failureKind
  | .conflict _ => .resourceConflict
  | .unresolved _ => .unresolvedTarget
  | .image _ => .imageDecode
  | .internal _ => .internal

def RealizeError.failureKind : RealizeError → FailureKind
  | .shader _ => .shaderCompile
  | _ => .other

def ExportError.failureKind : ExportError → FailureKind
  | .formatMismatch _ _ => .exportFormatMismatch
  | _ => .other

/-- Anything that can go wrong. -/
inductive Failure where
  | document (e : DocumentError)
  | validation (e : ValidationError)
  | prepare (e : PrepareError)
  | unresolved (e : UnresolvedTargetError)
  | plan (e : PlanError)
  /-- A device failed, with its own wording. -/
  | realize (e : RealizeError) (cause : String)
  | exporting (e : ExportError)
  | other (text : String)

namespace Failure

def kind : Failure → FailureKind
  | .document _ => .sceneParse
  | .validation e => e.failureKind
  | .prepare e => e.failureKind
  | .unresolved _ => .unresolvedTarget
  | .plan e => e.failureKind
  | .realize e _ => e.failureKind
  | .exporting e => e.failureKind
  | .other _ => .other

def message : Failure → String
  | .document e => e.message
  | .validation e => e.message
  | .prepare e => e.message
  | .unresolved e => e.message
  | .plan e => e.message
  | .realize e cause => e.message cause
  | .exporting e => e.message
  | .other text => text

end Failure

end SceneGraph
