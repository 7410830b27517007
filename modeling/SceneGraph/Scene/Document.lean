import SceneGraph.Json.Parser
import SceneGraph.Json.Printer
import SceneGraph.Scene.Structure
import SceneGraph.Text.Utf8

/-!
# Scene documents

Scenes as JSON documents. Reading ignores unknown members, matches member names without regard to
case, and lets null stand for an absent value. A member may occur more than once: every part of a scene
is read from all its occurrences, oldest first. The last text wins, later records extend earlier ones,
and the items of a list lie on top of the items that earlier lists had at the same position, also of
those that a shorter list in between did not show.
-/
set_option autoImplicit false

namespace SceneGraph.Document

abbrev Read (α : Type) := Except Json.Fault α

/-- The upper-case form under which member names are matched. Besides the ASCII letters it covers the
two other characters whose case form is an ASCII letter. -/
def foldName (name : String) : String :=
  String.ofList <| name.toList.map fun c =>
    if c.toNat = 0x17F then 'S' else if c.toNat = 0x212A then 'K' else c.toUpper

/-- The occurrences of a value, oldest first. -/
abbrev Occurrences := List Json

/-- The members of all occurrences of a record, oldest first, under their matched names. -/
def members : Occurrences → Read (List (String × Json))
  | [] => .ok []
  | .null :: rest => members rest
  | .obj ms :: rest => return ms.map (fun m => (foldName m.1, m.2)) ++ (← members rest)
  | _ => .error .mistyped

def occurrences (ms : List (String × Json)) (name : String) : Occurrences :=
  ms.filterMap fun m => if m.1 = name then some m.2 else none

def readRecord {α : Type} (read : (String → Occurrences) → Read α) (js : Occurrences) : Read α := do
  read (occurrences (← members js))

/-- Reads a text: the last one that is not null. -/
def readText (js : Occurrences) : Read String :=
  js.foldlM (fun old j => match j with
    | .null => .ok old
    | .str s => .ok s
    | _ => .error .mistyped) ""

/-- The lists among the occurrences since the last that was null or empty. Earlier lists are returned
apart, in runs that a null or empty list ended: nothing of them is seen, yet they are read. -/
def listRuns : Occurrences → List (List Json) → List (List (List Json)) → Read (List (List (List Json)))
  | [], run, runs => .ok (run.reverse :: runs)
  | .null :: rest, run, runs => listRuns rest [] (run.reverse :: runs)
  | .arr [] :: rest, run, runs => listRuns rest [] (run.reverse :: runs)
  | .arr items :: rest, run, runs => listRuns rest (items :: run) runs
  | _, _, _ => .error .mistyped

/-- The occurrences of each item of a run of lists; `fuel` is at least the length of the longest. -/
def itemOccurrences : Nat → List (List Json) → List Occurrences
  | 0, _ => []
  | fuel + 1, run =>
    match run.filterMap List.head? with
    | [] => []
    | heads => heads :: itemOccurrences fuel (run.map List.tail)

/-- Reads a run of lists; as many items are seen as the last list has. -/
def readRun {α : Type} (read : Occurrences → Read α) (run : List (List Json)) : Read (List α) := do
  let longest := run.foldl (fun n items => max n items.length) 0
  let items ← (itemOccurrences longest run).mapM read
  return items.take ((run.getLast?.map List.length).getD 0)

def readList {α : Type} (read : Occurrences → Read α) (js : Occurrences) : Read (List α) := do
  let lists ← (← listRuns js [] []).mapM (readRun read)
  return lists.headD []

/-- Reads a table; later entries replace earlier ones, and null empties it. -/
def readTable {α : Type} (read : Json → Read α) (js : Occurrences) : Read (Table α) :=
  js.foldlM (fun old j => match j with
    | .null => .ok []
    | .obj ms => ms.foldlM (fun t m => return t.insert m.1 (← read m.2)) old
    | _ => .error .mistyped) []

/-- The list was written as an empty list at last. -/
def isSpelled (js : Occurrences) : Bool :=
  match js.getLast? with
  | some (.arr []) => true
  | _ => false

def readValue (j : Json) : Read Value :=
  match Value.ofJson? j with
  | some v => .ok v
  | none => .error .mistyped

def readPort : Occurrences → Read Port :=
  readRecord fun member => return {
    id := ← readText (member "ID")
    name := ← readText (member "NAME")
    type := ← readText (member "TYPE") }

def readNode : Occurrences → Read Node :=
  readRecord fun member => return {
    id := ← readText (member "ID")
    type := ← readText (member "TYPE")
    params := ← readTable readValue (member "PARAMS")
    inputs := ← readList readPort (member "INPUTS")
    outputs := ← readList readPort (member "OUTPUTS") }

def readEndpoint : Occurrences → Read Endpoint :=
  readRecord fun member => return {
    node := ← readText (member "NODEID")
    port := ← readText (member "PORTID") }

def readConnection : Occurrences → Read Connection :=
  readRecord fun member => return {
    id := ← readText (member "ID")
    source := ← readEndpoint (member "FROM")
    target := ← readEndpoint (member "TO") }

def readAsset : Occurrences → Read Asset :=
  readRecord fun member => return {
    path := ← readText (member "PATH")
    mimeType := ← readText (member "MIMETYPE")
    givenName := ← readText (member "ORIGINALNAME") }

def readGroupPort : Occurrences → Read GroupPort :=
  readRecord fun member => return {
    id := ← readText (member "ID")
    node := ← readText (member "NODEID")
    port := ← readText (member "PORTID") }

def readSpelled (member : String → Occurrences) : Spelled :=
  { nodes := isSpelled (member "NODES"), connections := isSpelled (member "CONNECTIONS") }

def readGroup : Occurrences → Read Group :=
  readRecord fun member => return {
    id := ← readText (member "ID")
    name := ← readText (member "NAME")
    nodes := ← readList readNode (member "NODES")
    connections := ← readList readConnection (member "CONNECTIONS")
    inputs := ← readList readGroupPort (member "INPUTS")
    outputs := ← readList readGroupPort (member "OUTPUTS")
    spelled := readSpelled member }

def readMetadata : Occurrences → Read Metadata :=
  readRecord fun member => return {
    name := ← readText (member "NAME")
    created := ← readText (member "CREATED")
    modified := ← readText (member "MODIFIED") }

def readScene : Occurrences → Read Scene :=
  readRecord fun member => return {
    version := ← readText (member "VERSION")
    metadata := ← readMetadata (member "METADATA")
    nodes := ← readList readNode (member "NODES")
    connections := ← readList readConnection (member "CONNECTIONS")
    outputs := ← readTable (fun j => readText [j]) (member "OUTPUTS")
    groups := ← readList readGroup (member "GROUPS")
    assets := ← readTable (fun j => readAsset [j]) (member "ASSETS")
    spelled := readSpelled member }

/-! ## Writing -/

/-- A member that is left out when its text is empty. -/
def optionalText (name text : String) : List (String × Json) :=
  if text = "" then [] else [(name, .str text)]

/-- A member that is left out when its list is empty. -/
def optionalList {α : Type} (name : String) (write : α → Json) (items : List α) :
    List (String × Json) :=
  if items.isEmpty then [] else [(name, .arr (items.map write))]

/-- A member that is left out when its table is empty. -/
def optionalTable {α : Type} (name : String) (write : α → Json) (t : Table α) :
    List (String × Json) :=
  if t.isEmpty then [] else [(name, .obj (t.map fun e => (e.1, write e.2)))]

/-- A list that is written as null when it is empty and not spelled out. -/
def spelledList {α : Type} (spelled : Bool) (write : α → Json) (items : List α) : Json :=
  if items.isEmpty && !spelled then .null else .arr (items.map write)

def writePort (p : Port) : Json :=
  .obj (("id", .str p.id) :: optionalText "name" p.name ++ optionalText "type" p.type)

def writeNode (n : Node) : Json :=
  .obj ([("id", .str n.id), ("type", .str n.type)] ++ optionalTable "params" Value.toJson n.params
    ++ optionalList "inputs" writePort n.inputs ++ optionalList "outputs" writePort n.outputs)

def writeEndpoint (e : Endpoint) : Json := .obj [("nodeId", .str e.node), ("portId", .str e.port)]

def writeConnection (c : Connection) : Json :=
  .obj [("id", .str c.id), ("from", writeEndpoint c.source), ("to", writeEndpoint c.target)]

def writeAsset (a : Asset) : Json :=
  .obj ([("path", .str a.path), ("mimeType", .str a.mimeType)]
    ++ optionalText "originalName" a.givenName)

def writeGroupPort (p : GroupPort) : Json :=
  .obj [("id", .str p.id), ("nodeId", .str p.node), ("portId", .str p.port)]

def writeGroup (g : Group) : Json :=
  .obj (("id", .str g.id) :: optionalText "name" g.name
    ++ [("nodes", spelledList g.spelled.nodes writeNode g.nodes),
        ("connections", spelledList g.spelled.connections writeConnection g.connections)]
    ++ optionalList "inputs" writeGroupPort g.inputs
    ++ optionalList "outputs" writeGroupPort g.outputs)

def writeMetadata (m : Metadata) : Json :=
  .obj (("name", .str m.name) :: optionalText "created" m.created
    ++ optionalText "modified" m.modified)

def writeScene (s : Scene) : Json :=
  .obj ([("version", .str s.version), ("metadata", writeMetadata s.metadata),
      ("nodes", spelledList s.spelled.nodes writeNode s.nodes),
      ("connections", spelledList s.spelled.connections writeConnection s.connections)]
    ++ optionalTable "outputs" .str s.outputs ++ optionalList "groups" writeGroup s.groups
    ++ optionalTable "assets" writeAsset s.assets)

end SceneGraph.Document

namespace SceneGraph.Scene

open Document

def marshal (s : Scene) : String := (writeScene s).pretty

def dropByteOrderMark (cs : List Char) : List Char :=
  match cs with
  | '\uFEFF' :: rest => rest
  | _ => cs

/-- Reads a scene without looking at its structure. -/
def parseUnchecked (text : String) : Except DocumentError Scene :=
  match Json.readValue (dropByteOrderMark text.toList) with
  | none => .error { fault := .json .malformed }
  | some (j, rest) =>
    match readScene [j] with
    | .error fault => .error { fault := .json fault }
    | .ok s =>
      if Json.skipBlanks rest = [] then .ok s else .error { fault := .trailingData }

def parse (text : String) : Except DocumentError Scene := do
  let s ← parseUnchecked text
  s.checkStructure
  return s

end SceneGraph.Scene

