import SceneGraph.Live.Engine
import SceneGraph.Scene.Archive

/-!
# Watched files

A scene file or archive that is loaded into an engine whenever it changes. The assets of the last
archive stay available.
-/
set_option autoImplicit false

namespace SceneGraph

/-- A scene from a file, with the archive that it came in. -/
structure LoadedScene where
  scene : Scene
  archive : Option Archive := none

namespace LoadedScene

def isArchivePath (path : String) : Bool := (Path.extension path).toLower == ".zip"

/-- Reads a scene file or archive; `contents` is what storage holds under the path, or why it could not
be read. The structure of plain scenes is not checked. -/
def read (path : String) (contents : Except String ByteArray) : Except DocumentError LoadedScene :=
  match contents with
  | .error text => .error { source := path, fault := .unreadable text }
  | .ok data =>
    if isArchivePath path then
      match Archive.read data with
      | .ok a => .ok { scene := a.scene, archive := some a }
      | .error e => .error (e.inSource path)
    else return { scene := ← Scene.parseUnchecked (Text.ofBytes data) }

end LoadedScene

/-- The state of a watched file. -/
structure Watcher where
  path : String
  archive : Option Archive := none
  engine : Engine Picture := {}

namespace Watcher

def asset? (w : Watcher) (id : String) : Option ByteArray := w.archive.bind fun a => a.asset? id

def load (w : Watcher) (contents : Except String ByteArray) : Except DocumentError Unit × Watcher :=
  match LoadedScene.read w.path contents with
  | .error e => (.error e, w)
  | .ok l =>
    let w := match l.archive with
      | some a => { w with archive := some a }
      | none => w
    match w.engine.submitScene? l.scene with
    | some (e, _) => (.ok (), { w with engine := e })
    | none => (.ok (), w)

/-- Compiles the loaded scene, if there is one, with the assets of the last archive. -/
def step (w : Watcher) (c : Compiler) : Option (Outcome Failure Picture) × Watcher :=
  let c := { c with environment := { c.environment with asset? := w.asset? } }
  let (o, e, _) := w.engine.step c.backend
  (o, { w with engine := e })

end Watcher

end SceneGraph
