import SceneGraph.Compile
import SceneGraph.Live.Cache

/-!
# Live engines

Keeps a scene compiled while it is edited. Messages change the cache and queue the scene; a step
compiles the queued scene. A scene that cannot be compiled is never adopted: the last good result stays
active, or the picture of the failure if nothing was ever compiled. The engine works with any
`Backend`.

The queue is a slot: a place for one value that waits to be taken. A newer value supersedes one that
still waits. A signal tells the taker that something was offered; it may be stale.
-/
set_option autoImplicit false

namespace SceneGraph

/-! ## Slots -/

/-- A place for one waiting value. -/
structure Slot (α : Type) where
  pending : Option α := none
  /-- An offer has been signaled and the signal not yet received. -/
  signal : Bool := false
  /-- The values that were superseded. -/
  dropped : Nat := 0
deriving Repr, DecidableEq

namespace Slot

variable {α : Type}

/-- Stores a value, the first half of an offer. -/
def store (s : Slot α) (v : α) : Slot α :=
  { s with pending := some v, dropped := if s.pending.isSome then s.dropped + 1 else s.dropped }

/-- Raises the signal, the second half of an offer. -/
def notify (s : Slot α) : Slot α := { s with signal := true }

def offer (s : Slot α) (v : α) : Slot α := (s.store v).notify

def poll (s : Slot α) : Option α × Slot α := (s.pending, { s with pending := none })

/-- Receives the signal, if it is raised. -/
def receive (s : Slot α) : Bool × Slot α := (s.signal, { s with signal := false })

end Slot

/-! ## Results -/

/-- How scenes become results. -/
structure Backend (ε ρ : Type) where
  compile : Scene → Except ε ρ × List LogEntry
  errorResult : ε → ρ × List LogEntry
  signature : ρ → UInt64
  /-- The number of passes of a result. -/
  passes : ρ → Nat

/-- Where the active result comes from. -/
inductive Source where
  | fresh
  | lastGood
  | errorPipeline
deriving Repr, DecidableEq

/-- All sources, in the order of their numbers. -/
def Source.all : List Source := [.fresh, .lastGood, .errorPipeline]

def Source.name : Source → String
  | .fresh => "fresh"
  | .lastGood => "last-good"
  | .errorPipeline => "error-pipeline"

/-- What a step gives. -/
structure Outcome (ε ρ : Type) where
  active : ρ
  source : Source
  /-- Why the queued scene was not adopted. -/
  failure : Option ε := none
  /-- The pipelines differ from those of the active result before. -/
  rebuild : Bool

/-- The state of a live session. -/
structure Engine (ρ : Type) where
  cache : Cache := {}
  queue : Slot Scene := {}
  /-- The last result that was compiled. -/
  good : Option ρ := none
  active : Option ρ := none

def unknownMessage (type : String) : String := "shadergraph: unknown live message: " ++ Text.quoted type

namespace Engine

variable {ε ρ : Type}

/-- Changes a cache by a message; none when the message holds neither a scene nor a delta. -/
def absorb? (c : Cache) (m : Message) : Option (Cache × LogEntry) :=
  match m.type, m.scene, m.delta with
  | "scene", some s, _ =>
    let c := c.replace s
    some (c, c.replacedEntry)
  | "delta", _, some d =>
    let c := c.applyDelta d
    some (c, c.deltaEntry d)
  | _, _, _ => none

def pruneEntries (ids : List String) : List LogEntry :=
  Cache.prunedEntries ids
    ++ if ids.isEmpty then [] else [⟨.debug, "shadergraph: pruned connections", [("count", toString ids.length)]⟩]

/-- Takes in a message and queues the scene; none when the message is of no use. -/
def submit? (e : Engine ρ) (m : Message) : Option (Engine ρ × List LogEntry) :=
  (absorb? e.cache m).map fun (c, entry) =>
    -- Pruned before it is queued, so no queued scene has a connection that misses an end.
    let pruned := c.prune
    ({ e with cache := pruned, queue := e.queue.offer pruned.materialize }, entry :: pruneEntries c.dangling)

def submitScene? (e : Engine ρ) (s : Scene) : Option (Engine ρ × List LogEntry) :=
  e.submit? { type := "scene", scene := some s }

/-- The signature of a result differs from that of the active one. -/
def needsRebuild (b : Backend ε ρ) (e : Engine ρ) (r : ρ) : Bool :=
  match e.active with
  | none => true
  | some a => b.signature a != b.signature r

def adopt (b : Backend ε ρ) (e : Engine ρ) (s : Scene) (r : ρ) : Outcome ε ρ × Engine ρ × List LogEntry :=
  ({ active := r, source := .fresh, rebuild := e.needsRebuild b r }, { e with good := some r, active := some r },
    [⟨.info, "shadergraph: scene adopted", [("scene", s.metadata.name), ("passes", toString (b.passes r))]⟩])

/-- Rejects a scene that could not be compiled. -/
def reject (b : Backend ε ρ) (e : Engine ρ) (x : ε) : Outcome ε ρ × Engine ρ × List LogEntry :=
  match e.good with
  | some r =>
    ({ active := r, source := .lastGood, failure := some x, rebuild := e.needsRebuild b r },
      { e with active := some r }, [⟨.warn, "shadergraph: scene rejected, keeping last good", []⟩])
  | none =>
    -- The picture of the failure is shown, but it is no good result to come back to.
    let (r, log) := b.errorResult x
    ({ active := r, source := .errorPipeline, failure := some x, rebuild := e.needsRebuild b r },
      { e with active := some r },
      log ++ [⟨.error, "shadergraph: scene rejected, showing error pipeline", []⟩])

def compile (b : Backend ε ρ) (e : Engine ρ) (s : Scene) : Outcome ε ρ × Engine ρ × List LogEntry :=
  let (r, log) := b.compile s
  let (out, e, more) := match r with
    | .ok r => e.adopt b s r
    | .error x => e.reject b x
  (out, e, log ++ more)

/-- Compiles the queued scene, if there is one. -/
def step (b : Backend ε ρ) (e : Engine ρ) : Option (Outcome ε ρ) × Engine ρ × List LogEntry :=
  match e.queue.poll with
  | (none, _) => (none, e, [])
  | (some s, queue) =>
    let (out, e, log) := { e with queue }.compile b s
    (some out, e, log)

/-- Receives the signal that a scene is queued. -/
def receive (e : Engine ρ) : Bool × Engine ρ :=
  let (signal, queue) := e.queue.receive
  (signal, { e with queue })

end Engine

def Compiler.backend (c : Compiler) : Backend Failure Picture where
  compile s :=
    let (r, log) := (c.compile s).outcome
    (r.map Picture.ofCompiled, log)
  errorResult x :=
    let p := c.errorPicture x
    (p, [p.space.assembled p.plan])
  signature := Picture.signature
  passes p := p.plan.passes.length

end SceneGraph
