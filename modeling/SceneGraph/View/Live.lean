import SceneGraph.Command.Run
import SceneGraph.Live.Watcher
import SceneGraph.View.Scene

/-!
# Views of live sessions

Caches, outcomes of steps, replies, counts and settings, and the members of a failure: its kind and its
wording, or what stands for a wording that others chose.
-/
set_option autoImplicit false

namespace SceneGraph

open View

/-! ## Failures -/

def DocumentError.view (e : DocumentError) : Fields :=
  let kind := FailureKind.sceneParse.label
  let placed (cause : String) : Fields :=
    [("error", .str kind), ("cause", .str cause), ("where", .str (e.source ++ "|" ++ e.field))]
  match e.fault with
  | .json .malformed | .truncatedArchive => placed "syntax"
  | .json .mistyped => placed "type"
  | .notAnArchive => placed "zip"
  | .unreadable _ => failed kind e.message ++ [("cause", .str "io")]
  | _ => failed kind e.message

def ExprError.view (e : ExprError) : Fields :=
  match e with
  | .snippetRefused node source => [("error", .str e.failureKind.label), ("node", .str node),
      ("source", .str source), ("stages", .strings (snippetStages.map SnippetStage.label))]
  | _ => failed e.failureKind.label e.message

def Failure.view (e : Failure) : Fields :=
  let kind := ("error", Json.str e.kind.label)
  match e with
  | .document d => d.view
  | .prepare (.internal _) => [kind]
  | .plan (.expr x) => x.view
  | .plan (.image i) => [kind, ("node", .str i.node), ("source", .str i.source)]
  | .realize (.shader pass) _ => [kind, ("pass", .str pass)]
  | _ => failed e.kind.label e.message

def ConfigError.view : ConfigError → Fields
  | .document _ => [("error", .str "config"), ("cause", .str "yaml")]
  | e => failed "config" e.message

def Command.Cause.isRefusal : Command.Cause → Bool
  | .config (.unreadable _) | .schemaUnreadable _ | .output _ | .picture _ => true
  | _ => false

def Command.CommandError.view (e : Command.CommandError) : Fields :=
  let fields : Fields := match e.cause with
    | .failure f => f.view
    | c => failed c.kind.label c.message ++ if c.isRefusal then [("cause", .str "io")] else []
  fields.map fun f => if f.1 = "message" then (f.1, .str e.message) else f

/-! ## Sessions -/

def Cache.view (c : Cache) : Fields :=
  [("state", .str c.stateName), ("stats", .arr ([c.stats.replacements, c.stats.deltas, c.stats.pruned].map .nat))]

def Cache.contentsView (c : Cache) : Fields :=
  let s := c.materialize
  [("nodes", .strings (s.nodes.map fun n => n.id ++ ":" ++ n.type)),
    ("connections", .strings (s.connections.map Connection.id)), ("version", .str s.version)]

def Picture.view (p : Picture) : Json :=
  .obj [("signature", .str (hashText p.signature)), ("size", p.space.size.view),
    ("passes", .strings (p.plan.passes.map Pass.id)), ("params", floats p.space.params),
    ("error", .bool p.failure.isSome)]

/-- The members of the outcome of a step, if it ran. -/
def Outcome.view : Option (Outcome Failure Picture) → Fields
  | none => [("ran", .bool false)]
  | some o => [("ran", .bool true), ("source", .str o.source.name), ("rebuild", .bool o.rebuild)]
      ++ (o.failure.map fun e => ("err", Json.obj e.view)).toList

def Engine.view (e : Engine Picture) : Fields :=
  [("dropped", .nat e.queue.dropped), ("cache", .str e.cache.stateName), ("good", .bool e.good.isSome)]
    ++ (e.active.map fun p => ("active", p.view)).toList

def Metrics.view (m : Metrics) : Json :=
  let labeled (name label : String) (e : String × Nat) : String × Json :=
    (name ++ "\x7b" ++ label ++ "=" ++ e.1 ++ "\x7d", .nat e.2)
  .obj (m.compiles.map (labeled "compiles_total" "result") ++ m.messages.map (labeled "live_messages_total" "type")
    ++ [("compile_duration_seconds", .nat m.compileCount), ("live_sessions", .int m.sessions),
      ("live_superseded_total", .nat (nearestWhole m.superseded.counted)), ("pipeline_rebuilds_total", .nat m.rebuilds),
      ("plan_passes", .arr [.nat m.passes.length, .int (truncated m.passTotal), .arr (m.passBuckets.map .nat)])])

def Failure.isMalformed : Failure → Bool
  | .document e => match e.fault with
    | .json _ => true
    | _ => false
  | _ => false

/-- The view of a reply; the wording of malformed documents is left out. -/
def Reply.view (r : Reply) : Json :=
  .obj (r.members.map fun m =>
    if r.failure.any Failure.isMalformed && m.1 == "error" then ("error", .str "json") else m)

def Config.view (c : Config) : Fields :=
  [("log", .strings [c.logLevel, c.logFormat]), ("render", .arr [.int c.width, .int c.height, .bool c.spirv]),
    ("server", .arr [.str c.address, .int c.readLimit, .bool c.metrics]),
    ("debounce_ns", .int c.debounce.nanoseconds), ("schema", .str c.schema), ("base_dir", .str c.baseDir),
    ("level", .int (LogLevel.read c.logLevel))]

def FileContents.view (path : String) : FileContents → Json
  | .shaderBinary _ => .bool true
  | .bytes data =>
    let ext := Path.extension path
    if ext = ".png" then
      .arr ([16, 20].map fun i => .nat ((Bytes.bigEndian? data i 4).getD 0))
    else if [".tif", ".tiff", ".bmp"].contains ext then .bool true
    else View.bytes data

end SceneGraph
