import SceneGraph.Scene.Document

/-!
# Live messages

A live session receives whole scenes and deltas. A delta removes, adds and updates nodes, does the
same with connections, and may replace the outputs as a whole.
-/
set_option autoImplicit false

namespace SceneGraph

/-- Edits of one kind of element. -/
structure Edits (α : Type) where
  added : List α := []
  updated : List α := []
  removed : List String := []

def Edits.isEmpty {α : Type} (e : Edits α) : Bool :=
  e.added.isEmpty && e.updated.isEmpty && e.removed.isEmpty

/-- An incremental edit of a scene. -/
structure Delta where
  version : String := ""
  nodes : Edits Node := {}
  connections : Edits Connection := {}
  /-- When present, replaces all outputs. -/
  outputs : Option (Table String) := none

/-- The delta carries no edit; a new version alone is none. -/
def Delta.isEmpty (d : Delta) : Bool :=
  d.nodes.isEmpty && d.connections.isEmpty && d.outputs.isNone

/-- A message as it was received, before it is known to be complete. -/
structure Message where
  type : String := ""
  scene : Option Scene := none
  delta : Option Delta := none

namespace Document

def readEdits {α : Type} (read : Occurrences → Read α) : Occurrences → Read (Edits α) :=
  readRecord fun member => return {
    added := ← readList read (member "ADDED")
    updated := ← readList read (member "UPDATED")
    removed := ← readList readText (member "REMOVED") }

/-- Reads a part that may be missing: what stands after the last null. What stands before it is read as
well, though nothing of it is seen. -/
def readOptional {α : Type} (read : Occurrences → Read α) (js : Occurrences) : Read (Option α) := do
  let runs ← (js.splitOnP fun j => match j with
    | .null => true
    | _ => false).mapM fun run => if run.isEmpty then pure none else return some (← read run)
  return runs.getLast?.join

def readDelta : Occurrences → Read Delta :=
  readRecord fun member => return {
    version := ← readText (member "VERSION")
    nodes := ← readEdits readNode (member "NODES")
    connections := ← readEdits readConnection (member "CONNECTIONS")
    outputs := ← readOptional (readTable fun j => readText [j]) (member "OUTPUTS") }

def readMessage : Occurrences → Read Message :=
  readRecord fun member => return {
    type := ← readText (member "TYPE")
    scene := ← readOptional readScene (member "SCENE")
    delta := ← readOptional readDelta (member "DELTA") }

end Document

def Message.sourceName : String := "message"

/-- Checks that a message holds what its type announces. -/
def Message.check (m : Message) : Except DocumentError Unit :=
  let refuse (field : String) (fault : DocumentFault) : Except DocumentError Unit :=
    .error { source := Message.sourceName, field, fault }
  match m.type with
  | "scene" => if m.scene.isSome then .ok () else refuse "scene" .missingScene
  | "delta" => if m.delta.isSome then .ok () else refuse "delta" .missingDelta
  | type => refuse "type" (.unknownMessage type)

/-- Reads a message without looking at what it holds. -/
def Message.decode (text : String) : Except DocumentError Message :=
  match Json.parse text with
  | none => .error { source := Message.sourceName, fault := .json .malformed }
  | some j =>
    match Document.readMessage [j] with
    | .error fault => .error { source := Message.sourceName, fault := .json fault }
    | .ok m => .ok m

def Message.parse (text : String) : Except DocumentError Message := do
  let m ← Message.decode text
  m.check
  return m

end SceneGraph
