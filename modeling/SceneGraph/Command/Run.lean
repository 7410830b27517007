import SceneGraph.Command.Arguments
import SceneGraph.Command.Storage
import SceneGraph.Compile
import SceneGraph.Config.Basic
import SceneGraph.Image.Encoder
import SceneGraph.Live.Server
import SceneGraph.Live.Watcher
import SceneGraph.Schema.Document

/-!
# Commands

What each command does with its arguments, as a program on storage. The settings are read first, then the
scene and the node types; a failure ends the command, and what was printed and written before it stays.
What a command prints about a compiled scene is a report.
-/
set_option autoImplicit false

namespace SceneGraph.Command

/-! ## Reports -/

def isFileChar (c : Char) : Bool := Names.isIdentChar c || c == '-'

/-- The file name of a pass or texture: other characters become underscores. -/
def fileName (id : String) : String :=
  String.ofList (id.toList.map fun c => if isFileChar c then c else '_')

/-- Fills a text with blanks on the right up to a width. -/
def padRight (width : Nat) (s : String) : String := s ++ String.ofList (List.replicate (width - s.length) ' ')

/-- A number with blanks on the left up to a width of two. -/
def padNumber (n : Nat) : String :=
  let s := toString n
  String.ofList (List.replicate (2 - s.length) ' ') ++ s

def summary (r : Compiled) : List String :=
  let p := r.plan
  [ "scene:     " ++ r.scene.metadata.name,
    s!"size:      {p.size.width}x{p.size.height}",
    s!"passes:    {p.passes.length}",
    s!"textures:  {p.textures.length}",
    s!"buffers:   {p.buffers.length}",
    s!"animated:  {p.isAnimated}",
    "signature: " ++ signatureText r.space.signature]

/-- The line of a node at a place of the order. -/
def nodeLine (p : Prepared) (e : String × Nat) : String :=
  "  " ++ padNumber e.2 ++ " " ++ padRight 16 e.1 ++ " " ++ p.typeOf e.1

/-- The line of a pass at a place of the plan. -/
def passLine (e : Pass × Nat) : String :=
  let p := e.1
  "  " ++ padNumber e.2 ++ " " ++ padRight 24 p.id ++ " " ++ padRight 8 p.kind.name ++ " -> " ++ p.target
    ++ s!" {p.size.width}x{p.size.height}"

/-- The nodes in order and the passes of a compiled scene. -/
def listing (r : Compiled) : List String :=
  ["nodes:"] ++ r.prepared.order.zipIdx.map (nodeLine r.prepared) ++ ["passes:"]
    ++ r.plan.passes.zipIdx.map passLine

def validated (s : Scene) : String := s!"ok: {s.nodes.length} nodes, {s.connections.length} connections"

/-! ## Failures -/

/-- What went wrong in a command. -/
inductive Cause where
  | usage (e : UsageError)
  | config (e : ConfigError)
  | schema (file : String) (fault : SchemaFault)
  /-- The file of the node types could not be read. -/
  | schemaUnreadable (text : String)
  /-- A directory could not be made, or a shader not be written. -/
  | output (text : String)
  /-- A picture could not be written. -/
  | picture (text : String)
  | noPixels (texture buffer : String)
  | failure (e : Failure)

namespace Cause

def kind : Cause → FailureKind
  | .failure e => e.kind
  | _ => .other

def message : Cause → String
  | .usage e => e.message
  | .config e => e.message
  | .schema file fault => fault.message file
  | .schemaUnreadable text => "schema: " ++ text
  | .output text => text
  | .picture text => "export: " ++ text
  | .noPixels texture buffer => "sgc: texture " ++ texture ++ ": no upload buffer " ++ buffer
  | .failure e => e.message

end Cause

/-- Why a command fails. -/
structure CommandError where
  cause : Cause
  /-- The wording starts with the kind. -/
  isLabeled : Bool := false

def CommandError.message (e : CommandError) : String :=
  if e.isLabeled then e.cause.kind.label ++ ": " ++ e.cause.message else e.cause.message

abbrev CommandM (α : Type) := ExceptT CommandError Program α

namespace CommandM

variable {α ε : Type}

def stop (c : Cause) : CommandM α := throw { cause := c }

def ofExcept (f : ε → Cause) : Except ε α → CommandM α
  | .ok a => pure a
  | .error e => stop (f e)

def request (p : Program (Except ε α)) (f : ε → Cause) : CommandM α := do ofExcept f (← (p : Program _))

/-- States the kind of a failure in front of its wording. -/
def labeled (x : CommandM α) : CommandM α :=
  ExceptT.mk (do return (← ExceptT.run x).mapError fun e => { e with isLabeled := true })

end CommandM

def printed (lines : List String) : CommandM Unit := (Program.printLines lines : Program _)

/-! ## Settings -/

/-- Flags override settings: texts that are not empty and sizes that are positive. -/
def Arguments.override (a : Arguments) (c : Config) : Config :=
  let text (name old : String) : String := match a.text? name with
    | some s => if s = "" then old else s
    | none => old
  let size (name : String) (old : Int) : Int := match a.integer? name with
    | some i => if 0 < i then i else old
    | none => old
  { c with
    logLevel := text "log-level" c.logLevel
    logFormat := text "log-format" c.logFormat
    width := size "width" c.width
    height := size "height" c.height }

/-- The settings of a document, if one is named, changed by the environment. -/
def loadSettings (env : String → Option String) (file : String) : CommandM Config := do
  let c : Config ← if file = "" then pure {} else do
    let data ← CommandM.request (Program.read file) fun text => .config (.unreadable text)
    CommandM.ofExcept .config (({} : Config).decode file (Text.ofBytes data))
  CommandM.ofExcept .config (c.withEnvironment env).check

def settings (env : String → Option String) (a : Arguments) : CommandM Config := do
  let c ← loadSettings env ((a.text? "config").getD "")
  CommandM.ofExcept .config (a.override c).check

/-! ## Compiling -/

def loadScene (path : String) : CommandM LoadedScene := do
  let contents ← (Program.read path : Program _)
  CommandM.ofExcept (fun e => .failure (.document e)) (LoadedScene.read path contents)

/-- The node types that the settings name. -/
def loadSchema (c : Config) : CommandM Schema := do
  if c.schema = "" then return Schema.builtin
  let data ← CommandM.request (Program.read c.schema) .schemaUnreadable
  CommandM.ofExcept (.schema c.schema) (Schema.parse {} (Text.ofBytes data))

/-- The compiler that the settings describe, without images. -/
def loadCompiler (c : Config) : CommandM Compiler := do
  let schema ← loadSchema c
  return ({ schema } : Compiler).withResolution ⟨c.width, c.height⟩

def imagePath? (n : Node) : Option String :=
  match Images.source? n with
  | some ("path", path) => if Path.isLocal path then some path else none
  | _ => none

/-- The image files that a scene needs; a scene that cannot be prepared needs none. -/
def imagePaths (c : Compiler) (s : Scene) : List String :=
  let prepared : Logged Failure Prepared := do
    let scene ← (Logged.ofExcept (c.schema.validate s)).adapt .validation
    (scene.prepare c.schema c.options).adapt .prepare
  match prepared.outcome.1 with
  | .ok p => (p.scene.nodes.filterMap imagePath?).eraseDups
  | .error _ => []

/-- Reads files below a directory; those that cannot be read are left out. -/
def readFiles (dir : String) : List String → Table ByteArray → Program (Table ByteArray)
  | [], files => return files
  | path :: rest, files => do
    match ← Program.read (Path.join [dir, path]) with
    | .ok data => readFiles dir rest (files.insert path data)
    | .error _ => readFiles dir rest files

def loadImages (c : Config) (compiler : Compiler) (s : Scene) : Program (Table ByteArray) :=
  if c.baseDir = "" then return [] else readFiles c.baseDir (imagePaths compiler s) []

def shownEntries (c : Config) (log : List LogEntry) : List LogEntry :=
  let levels := LogLevel.shownFrom (LogLevel.read c.logLevel)
  log.filter fun e => levels.contains e.level

def compileFile (c : Config) (path : String) : CommandM Compiled := CommandM.labeled do
  let loaded ← loadScene path
  let compiler ← loadCompiler c
  let files ← (loadImages c compiler loaded.scene : Program _)
  let asset? (id : String) : Option ByteArray := loaded.archive.bind fun a => a.asset? id
  let (outcome, log) := ({ compiler with environment := { asset?, file? := files.get? } }.compile loaded.scene).outcome
  (Program.reportAll (shownEntries c log) : Program _)
  CommandM.ofExcept .failure outcome

/-! ## Writing -/

def makeDirectory (dir : String) : CommandM Unit :=
  CommandM.request (Program.makeDirectories dir) .output

def writeShader (dir name : String) (contents : FileContents) : CommandM Unit := do
  let path := Path.join [dir, name]
  CommandM.request (Program.write path contents) .output
  printed ["wrote " ++ path]

def forAll {α : Type} (step : α → CommandM Unit) : List α → CommandM Unit
  | [] => pure ()
  | a :: rest => do
    step a
    forAll step rest

/-- Writes the texts of all shaders into a directory and then, with `binary`, their binaries. -/
def writeShaders (dir : String) (s : Space) (binary : Bool) : CommandM Unit := do
  makeDirectory dir
  let drawing := s.passes.filter PassSpec.draws
  forAll (fun p => writeShader dir (fileName p.id ++ ".wgsl") (.bytes (Text.toBytes p.shader.text))) drawing
  if binary then
    let _ ← CommandM.labeled (CommandM.ofExcept (fun e => .failure (.realize e "")) s.compiledShaders)
    forAll (fun p => writeShader dir (fileName p.id ++ ".spv") (.shaderBinary p.shader.text)) drawing

def tryRealizing (s : Space) (binary : Bool) : CommandM Unit := do
  let _ ← CommandM.labeled (CommandM.ofExcept (fun e => .failure (.realize e "")) (s.realize binary {}).1)
  printed ["realize:   ok"]

def writePicture (dir ext : String) (s : Space) (t : TextureSpec) : CommandM Unit := do
  match s.buffer? t.upload with
  | none => CommandM.stop (.noPixels t.name t.upload)
  | some b =>
    let capture : Capture := {
      width := t.width.toNat
      height := t.height.toNat
      format := t.format
      pixels := b.data }
    let path := Path.join [dir, fileName t.name ++ ext]
    CommandM.labeled do
      let file ← CommandM.ofExcept (fun e => .failure (.exporting e)) (capture.toFile (Path.extension path))
      CommandM.request (Program.write path (.bytes file.bytes)) .picture
    printed ["wrote " ++ path]

/-! ## The commands -/

def compile (c : Config) (a : Arguments) (path : String) : CommandM Unit := do
  let r ← compileFile c path
  printed (summary r)
  let binary := a.isOn "spirv" || c.spirv
  let dir := (a.text? "out").getD ""
  if dir ≠ "" then writeShaders dir r.space binary
  if a.isOn "realize" then tryRealizing r.space binary

/-- Checks a scene against its node types. -/
def validate (c : Config) (path : String) : CommandM Unit := do
  let scene := (← CommandM.labeled (loadScene path)).scene
  CommandM.labeled (CommandM.ofExcept (fun e => .failure (.document e)) scene.checkStructure)
  let compiler ← loadCompiler c
  let _ ← CommandM.labeled
    (CommandM.ofExcept (fun e => .failure (.validation e)) (compiler.schema.validate scene))
  printed [validated scene]

/-- Prints the nodes and passes of a scene. -/
def graph (c : Config) (path : String) : CommandM Unit := do
  printed (listing (← compileFile c path))

/-- Writes the uploaded textures of a scene as pictures. -/
def bake (c : Config) (a : Arguments) (path : String) : CommandM Unit := do
  let r ← compileFile c path
  let dir := (a.text? "out").getD "."
  let ext := (a.text? "ext").getD ".png"
  makeDirectory dir
  let uploaded := r.space.textures.filter fun t => t.upload ≠ ""
  forAll (writePicture dir ext r.space) uploaded
  if uploaded.isEmpty then printed ["no baked textures"]

def perform (name : Name) (c : Config) (a : Arguments) : CommandM Unit :=
  let path := a.operands.headD ""
  match name with
  | .compile => compile c a path
  | .validate => validate c path
  | .graph => graph c path
  | .bake => bake c a path
  | .root | .serve | .completion | .help => pure ()

def run (env : String → Option String) (words : List String) : CommandM Unit := do
  let (name, rest) ← CommandM.ofExcept .usage (findCommand words)
  let a ← CommandM.ofExcept .usage (readArguments name rest)
  if a.wantsHelp || name = .root then return
  CommandM.ofExcept .usage (checkOperands name a)
  let c ← settings env a
  perform name c a

end SceneGraph.Command
