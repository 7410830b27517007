import SceneGraph.Bytes.DataUrl
import SceneGraph.Bytes.Path
import SceneGraph.Json.Value
import SceneGraph.Live.Engine
import SceneGraph.Live.Metrics
import SceneGraph.Text.Utf8

/-!
# Live servers

The protocol of live sessions without its transport: clients open sessions and send messages, every
message is acknowledged or refused, and after each compilation all clients learn the status.

The server answers plain requests too. The path of a request is compared in its escaped form with its
clean form, and by segments, with their escapes undone, with the paths that are served.
-/
set_option autoImplicit false

namespace SceneGraph

/-! ## Plain requests -/

structure Request where
  method : String
  /-- The path and, after a question mark, the query. -/
  target : String
deriving Repr, DecidableEq

namespace Request

/-- The bytes that paths hold without an escape. -/
def isPathByte (b : UInt8) : Bool :=
  let c := Char.ofNat b.toNat
  c.isAlphanum || "-_.~$&+,/:;=@".toList.contains c

/-- The bytes that escaped paths may hold besides, because they once were. -/
def isLenientByte (b : UInt8) : Bool :=
  isPathByte b || "!'()*[]%".toList.contains (Char.ofNat b.toNat)

def escaped (b : UInt8) : String :=
  "%" ++ (String.singleton (Bytes.hexChar (b >>> 4)) ++ String.singleton (Bytes.hexChar (b &&& 15))).toUpper

def escapedPath (r : Request) : String :=
  let raw := String.ofList (r.target.toList.takeWhile (· ≠ '?'))
  let bytes := (Text.toBytes raw).toList
  if bytes.all isLenientByte then raw
  else match DataUrl.unescape bytes .empty with
    | some plain => String.join (plain.toList.map fun b =>
        if isPathByte b then String.singleton (Char.ofNat b.toNat) else escaped b)
    | none => raw

/-- The clean form of a rooted path: as short as possible, a separator at its end kept. -/
def cleanPath (path : String) : String :=
  let rooted := if path.startsWith "/" then path else "/" ++ path
  let clean := Path.clean rooted
  if rooted.toList.getLast? = some '/' && clean ≠ "/" then clean ++ "/" else clean

/-- The request leads elsewhere because its path is not clean. -/
def isRedirected (r : Request) : Bool := r.method ≠ "CONNECT" && cleanPath r.escapedPath ≠ r.escapedPath

def names (r : Request) (path : String) : Bool :=
  match r.escapedPath.toList with
  | '/' :: rest =>
    match DataUrl.unescape (Text.toBytes (String.ofList rest)).toList .empty with
    | some bytes => !rest.contains '/' && Text.ofBytes bytes = path
    | none => false
  | _ => false

end Request

/-! ## Replies -/

/-- The kinds of replies. -/
inductive ReplyKind where
  | session
  | ack
  | error
  | status
deriving Repr, DecidableEq

def ReplyKind.name : ReplyKind → String
  | .session => "session"
  | .ack => "ack"
  | .error => "error"
  | .status => "status"

/-- A reply to a client. -/
structure Reply where
  kind : ReplyKind
  session : String := ""
  signature : String := ""
  source : String := ""
  rebuild : Bool := false
  failure : Option Failure := none

/-- A text member; one without text is left out. -/
def textMember (name text : String) : List (String × Json) := if text = "" then [] else [(name, .str text)]

def Reply.members (r : Reply) : List (String × Json) :=
  [("type", Json.str r.kind.name)] ++ textMember "session" r.session ++ textMember "signature" r.signature
    ++ textMember "source" r.source ++ (if r.rebuild then [("rebuild", .bool true)] else [])
    ++ match r.failure with
      | none => []
      | some e => textMember "error" e.message ++ textMember "kind" e.kind.label

def signatureText (n : UInt64) : String := Text.hex 16 n.toNat

/-- The state of a live server. -/
structure Server where
  compiler : Compiler := {}
  /-- The longest message in bytes. -/
  readLimit : Nat := 16777216
  /-- Messages, sessions and steps are counted, and the counts are served. -/
  countsSessions : Bool := true
  engine : Engine Picture := {}
  metrics : Metrics := {}
  sessions : List String := []

/-- What becomes of a received message. -/
inductive Received where
  | reply (r : Reply)
  /-- The message was too long, and the session is closed. -/
  | tooLong

namespace Server

/-- Changes the counts, if sessions are counted. -/
def count (s : Server) (f : Metrics → Metrics) : Server :=
  if s.countsSessions then { s with metrics := f s.metrics } else s

def openSession (s : Server) (id : String) : Reply × Server :=
  ({ kind := .session, session := id }, { s with sessions := s.sessions ++ [id] }.count Metrics.sessionOpened)

/-- Closes a session, if it is open. -/
def closeSession (s : Server) (id : String) : Server :=
  if s.sessions.contains id then
    { s with sessions := s.sessions.filter (· ≠ id) }.count Metrics.sessionClosed
  else s

def submit (s : Server) (id : String) (m : Message) : Reply × Server :=
  let s := s.count (·.observeMessage m.type)
  match s.engine.submit? m with
  | none => ({ kind := .error, session := id, failure := some (.other (unknownMessage m.type)) }, s)
  | some (e, _) => ({ kind := .ack, session := id }, { s with engine := e })

def receive (s : Server) (id text : String) : Received × Server :=
  if text.utf8ByteSize > s.readLimit then (.tooLong, s.closeSession id)
  else match Message.parse text with
    | .error e => (.reply { kind := .error, session := id, failure := some (.document e) }, s)
    | .ok m =>
      let (r, s) := s.submit id m
      (.reply r, s)

def observation (o : Outcome Failure Picture) : Observation :=
  match o.failure with
  | none => ⟨o.active.plan.passes.length, none⟩
  | some e => ⟨0, some e.kind⟩

/-- The status that all clients learn after a step. -/
def statusReply (o : Outcome Failure Picture) : Reply where
  kind := .status
  signature := signatureText o.active.signature
  source := o.source.name
  rebuild := o.rebuild
  failure := o.failure

def countStep (s : Server) (o : Outcome Failure Picture) : Server :=
  let s := { s with metrics := s.metrics.observe (observation o) }
  s.count fun m =>
    let m := m.setSuperseded s.engine.queue.dropped
    if o.rebuild then m.observeRebuild else m

/-- Compiles the queued scene and tells its status; none when nothing is queued. -/
def step (s : Server) : Option Reply × Server :=
  match s.engine.receive.2.step s.compiler.backend with
  | (none, e, _) => (none, { s with engine := e })
  | (some o, e, _) => (some (statusReply o), { s with engine := e }.countStep o)

/-! ## Requests without a session -/

def health (s : Server) : List (String × Json) :=
  let failure := s.engine.active.bind Picture.failure
  [("status", Json.str (if failure.isSome then "error-pipeline" else "ok")), ("sessions", .nat s.sessions.length)]
    ++ (match s.engine.active with
      | some p => textMember "signature" (signatureText p.signature)
      | none => [])
    ++ match failure with
      | some e => textMember "error" e.message
      | none => []

/-- The paths that are served, without the leading separator. -/
def paths (s : Server) : List String := ["live", "healthz"] ++ if s.countsSessions then ["metrics"] else []

/-- The status code of a plain request. A path that is not clean leads elsewhere, and a session needs more
than a plain request. -/
def statusCode (s : Server) (r : Request) : Nat :=
  if r.isRedirected then 307
  else match s.paths.find? r.names with
    | none => 404
    | some path => if r.method ≠ "GET" && r.method ≠ "HEAD" then 405 else if path = "live" then 400 else 200

end Server

end SceneGraph
