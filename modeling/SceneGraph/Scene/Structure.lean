import SceneGraph.Json.Value
import SceneGraph.Scene.Basic
import SceneGraph.Text.Quoted

/-!
# Structural soundness

Why a scene document is refused, and what a scene has to satisfy for all others to be built on it.
-/
set_option autoImplicit false

/-!
## Defects of scene documents

Why a scene document, message or archive was refused, and the wording of each refusal.
-/

namespace SceneGraph

/-- The reason behind a refused document. -/
inductive DocumentFault where
  | json (fault : Json.Fault)
  | trailingData
  | emptyNodeId
  | untypedNode (id : String)
  | duplicateNode (id : String)
  | danglingConnection (id node : String)
  | danglingOutput (node : String)
  | missingScene
  | missingDelta
  | unknownMessage (type : String)
  | notAnArchive
  | missingSceneEntry
  | missingEntry (path : String)
  /-- The archive ends too early. -/
  | truncatedArchive
  /-- The document could not be read from storage. -/
  | unreadable (text : String)
  | absent
  | other (text : String)
deriving Repr, DecidableEq

/-- The wording of a reason. Faults that a parser words for itself have a general text. -/
def DocumentFault.message : DocumentFault → String
  | .json .malformed => "malformed document"
  | .json .mistyped => "value of the wrong type"
  | .trailingData => "trailing data after scene object"
  | .emptyNodeId => "empty node id"
  | .untypedNode id => "node " ++ Text.quoted id ++ " has no type"
  | .duplicateNode id => "duplicate node id " ++ Text.quoted id
  | .danglingConnection id node =>
    "connection " ++ Text.quoted id ++ " references missing node " ++ Text.quoted node
  | .danglingOutput node => "output references missing node " ++ Text.quoted node
  | .missingScene => "missing scene"
  | .missingDelta => "missing delta"
  | .unknownMessage type => "unknown message type " ++ Text.quoted type
  | .notAnArchive => "open archive"
  | .missingSceneEntry => "archive has no scene.json entry"
  | .missingEntry path => "archive entry " ++ Text.quoted path ++ " not found"
  | .truncatedArchive => "unexpected EOF"
  | .unreadable text => text
  | .absent => ""
  | .other text => text

/-- A refused scene document, message or archive. -/
structure DocumentError where
  /-- The document, when it has a name. -/
  source : String := ""
  /-- The offending element. -/
  field : String := ""
  fault : DocumentFault
deriving Repr, DecidableEq

/-- The text of a refusal: the document, the element and the reason. -/
def DocumentError.message (e : DocumentError) : String :=
  "scene: " ++ (if e.source = "" then "" else e.source ++ ": ")
    ++ (if e.field = "" then "" else e.field ++ ": ") ++ e.fault.message

/-- Names the document of an error that does not name one. -/
def DocumentError.inSource (e : DocumentError) (source : String) : DocumentError :=
  if e.source = "" then { e with source } else e

end SceneGraph

/-!
## Structural soundness

A scene is structurally sound when its node ids are distinct and not empty, every node has a type,
and connections and outputs name existing nodes.
-/

namespace SceneGraph.Scene

/-- Checks the nodes from position `i` on, given the ids seen before. -/
def checkNodes : Nat → List String → List Node → Except DocumentError Unit
  | _, _, [] => .ok ()
  | i, seen, n :: rest =>
    if n.id = "" then .error { field := s!"nodes[{i}].id", fault := .emptyNodeId }
    else if n.type = "" then .error { field := s!"nodes[{i}].type", fault := .untypedNode n.id }
    else if seen.contains n.id then .error { field := s!"nodes[{i}].id", fault := .duplicateNode n.id }
    else checkNodes (i + 1) (n.id :: seen) rest

/-- Checks that the connections from position `i` on join existing nodes. -/
def checkEndpoints (ids : List String) : Nat → List Connection → Except DocumentError Unit
  | _, [] => .ok ()
  | i, c :: rest =>
    if !ids.contains c.source.node then
      .error { field := s!"connections[{i}].from", fault := .danglingConnection c.id c.source.node }
    else if !ids.contains c.target.node then
      .error { field := s!"connections[{i}].to", fault := .danglingConnection c.id c.target.node }
    else checkEndpoints ids (i + 1) rest

def checkOutputs (ids : List String) : Table String → Except DocumentError Unit
  | [] => .ok ()
  | (name, id) :: rest =>
    if ids.contains id then checkOutputs ids rest
    else .error { field := "outputs." ++ name, fault := .danglingOutput id }

def checkStructure (s : Scene) : Except DocumentError Unit := do
  checkNodes 0 [] s.nodes
  checkEndpoints s.nodeIds 0 s.connections
  checkOutputs s.nodeIds s.outputs

end SceneGraph.Scene
