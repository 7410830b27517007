import SceneGraph.Bytes.Path
import SceneGraph.Bytes.Zip
import SceneGraph.Scene.Document

/-!
# Scene archives

A scene together with the payloads of its assets. An archive holds the scene document under
`scene.json` and each payload under the cleaned path of its asset. Entry names are cleaned against the
root of the archive, so that no path leads out of it.
-/
set_option autoImplicit false

namespace SceneGraph

/-- A scene with the payload of every asset that it lists. -/
structure Archive where
  scene : Scene
  files : Table ByteArray

namespace Archive

def sceneEntry : String := "scene.json"

/-- The name under which a path is stored: separators unified, resolved against the root. -/
def cleanEntry (name : String) : String :=
  let unified := String.ofList (name.toList.map fun c => if c = '\\' then '/' else c)
  "/".intercalate (Path.resolveRooted (Path.components unified))

def entryNamed? (entries : List Zip.Entry) (name : String) : Option Zip.Entry :=
  -- Of entries whose names clean to the same one the last counts.
  entries.reverse.find? fun e => cleanEntry e.name == name

/-- The payload of an entry, or the refusal of the element that needs it. -/
def unpack (field : String) (e : Zip.Entry) : Except DocumentError ByteArray :=
  match e.unpack with
  | .ok data => .ok data
  | .error .truncated => .error { field, fault := .truncatedArchive }
  | .error fault => .error { field, fault := .other fault.message }

def readAssets (entries : List Zip.Entry) : Table Asset → Except DocumentError (Table ByteArray)
  | [] => .ok []
  | (id, asset) :: rest => do
    let field := "assets." ++ id
    match entryNamed? entries (cleanEntry asset.path) with
    | none => .error { field, fault := .missingEntry asset.path }
    | some e =>
      let data ← unpack field e
      return (id, data) :: (← readAssets entries rest)

def ofEntries (entries : List Zip.Entry) : Except DocumentError Archive := do
  match entryNamed? entries sceneEntry with
  | none => .error { field := sceneEntry, fault := .missingSceneEntry }
  | some e =>
    let data ← unpack sceneEntry e
    match Scene.parse (Text.ofBytes data) with
    | .error err => .error { err with source := sceneEntry }
    | .ok scene => return { scene, files := ← readAssets entries scene.assets }

def read (data : ByteArray) : Except DocumentError Archive :=
  match Zip.read data with
  | .error .truncated => .error { fault := .truncatedArchive }
  | .error _ => .error { fault := .notAnArchive }
  | .ok entries => ofEntries entries

def storedEntry (name : String) (data : ByteArray) : Zip.Entry :=
  { name, method := 0, checksum := (Bytes.crc32 data).toNat, size := data.size, packed := data }

/-- The entries of the assets, or the first asset without a payload. -/
def assetEntries (files : Table ByteArray) : Table Asset → Except String (List Zip.Entry)
  | [] => .ok []
  | (id, asset) :: rest =>
    match files.get? id with
    | none => .error id
    | some data => return storedEntry (cleanEntry asset.path) data :: (← assetEntries files rest)

/-- The entries of an archive that holds a scene and its payloads; the error names an asset without
a payload. -/
def toEntries (s : Scene) (files : Table ByteArray) : Except String (List Zip.Entry) :=
  return storedEntry sceneEntry (Text.toBytes s.marshal) :: (← assetEntries files s.assets)

def missingPayload (id : String) : String := "scene: no payload for asset " ++ Text.quoted id

def asset? (a : Archive) (id : String) : Option ByteArray := a.files.get? id

end Archive

end SceneGraph
