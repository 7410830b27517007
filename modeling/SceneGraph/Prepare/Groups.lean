import SceneGraph.Prepare.Error

/-!
# Expanding groups

Every instance of a group is replaced by a copy of the group's nodes and connections. Inner ids are
set behind the id of the instance, and connections on the instance's ports are rewired to the inner
ports that the group maps them to. Groups inside groups are expanded in further rounds.
-/
set_option autoImplicit false

namespace SceneGraph.Groups

def instanceType : String := "Group"

def innerId (inst id : String) : String := inst ++ "/" ++ id

def refuse {α : Type} (node : String) (cause : StepCause) : Except StepError α :=
  .error { step := .groups, node, cause }

/-- The inner ports that a port of the group stands for. -/
def portsOf (ports : List GroupPort) (id : String) : List GroupPort := ports.filter fun p => p.id == id

/-- A connection into an instance fans out to all inner ports behind its port; copies after the first
are numbered. -/
def fanOut (inst : String) (c : Connection) (targets : List GroupPort) : List Connection :=
  targets.zipIdx.map fun (p, i) =>
    { c with
      id := if i = 0 then c.id else s!"{c.id}#{i}"
      target := ⟨innerId inst p.node, p.port⟩ }

def rewire (inst : String) (g : Group) (c : Connection) : Except StepError (List Connection) :=
  -- The target goes first: a connection from the instance to itself keeps its source.
  if c.target.node = inst then
    match portsOf g.inputs c.target.port with
    | [] => refuse inst (.noInputPort g.id c.target.port)
    | targets => .ok (fanOut inst c targets)
  else if c.source.node = inst then
    match portsOf g.outputs c.source.port with
    | [] => refuse inst (.noOutputPort g.id c.source.port)
    | p :: _ => .ok [{ c with source := ⟨innerId inst p.node, p.port⟩ }]
  else .ok [c]

/-- Rewires connections around an instance, in order. -/
def rewireAll (inst : String) (g : Group) :
    List Connection → Except StepError (List Connection)
  | [] => .ok []
  | c :: rest => do
    let cs ← rewire inst g c
    return cs ++ (← rewireAll inst g rest)

def innerConnection (inst : String) (c : Connection) : Connection :=
  { id := innerId inst c.id
    source := ⟨innerId inst c.source.node, c.source.port⟩
    target := ⟨innerId inst c.target.node, c.target.port⟩ }

/-- Outputs that name the instance name the node behind the group's first output. -/
def rewireOutputs (inst : String) (g : Group) : Table String → Except StepError (Table String)
  | [] => .ok []
  | (name, id) :: rest =>
    if id = inst then
      match g.outputs with
      | [] => refuse inst (.outputOfPortlessGroup name g.id)
      | p :: _ => return (name, innerId inst p.node) :: (← rewireOutputs inst g rest)
    else return (name, id) :: (← rewireOutputs inst g rest)

def innerNodes (inst : String) (g : Group) : List Node :=
  g.nodes.map fun n => { n with id := innerId inst n.id }

/-- Rewires a scene's connections and outputs around an instance. -/
def instantiate (s : Scene) (inst : String) (g : Group) : Except StepError Scene := do
  let connections ← rewireAll inst g s.connections
  let outputs ← rewireOutputs inst g s.outputs
  return { s with connections := connections ++ g.connections.map (innerConnection inst), outputs }

/-- The group with an id; the last of several counts. -/
def find? (groups : List Group) (id : String) : Option Group :=
  groups.reverse.find? fun g => g.id == id

/-- Expands the instances among a list of nodes; returns the rewired scene, the nodes that take their
place and the number of instances. -/
def expandNodes (groups : List Group) :
    Scene → List Node → Except StepError (Scene × List Node × Nat)
  | s, [] => .ok (s, [], 0)
  | s, n :: rest =>
    if n.type = instanceType then
      let id := n.stringOr "groupId" ""
      match find? groups id with
      | none => refuse n.id (.undefinedGroup id)
      | some g => do
        let s ← instantiate s n.id g
        let (s, nodes, count) ← expandNodes groups s rest
        return (s, innerNodes n.id g ++ nodes, count + 1)
    else do
      let (s, nodes, count) ← expandNodes groups s rest
      return (s, n :: nodes, count)

/-- The outcome of an expansion that may stop early: instances expanded so far, and the scene. -/
structure Expansion where
  count : Nat
  result : Except StepError Scene

/-- Expands round after round while instances remain, at most `rounds` times. -/
def expandRounds (limit : Int) : Nat → Nat → Scene → Expansion
  | rounds, total, s =>
    match s.nodes.find? fun n => n.type == instanceType with
    | none => ⟨total, .ok s⟩
    | some n =>
      match rounds with
      | 0 => ⟨total, refuse n.id (.tooDeep limit)⟩
      | rounds + 1 =>
        match expandNodes s.groups s s.nodes with
        | .error e => ⟨total, .error e⟩
        | .ok (s, nodes, count) => expandRounds limit rounds (total + count) { s with nodes }

/-- Expands every group instance, with groups nested at most `maxDepth` deep. -/
def expand (maxDepth : Int) (s : Scene) : Expansion :=
  if s.groups.isEmpty then
    match s.nodes.find? fun n => n.type == instanceType with
    | none => ⟨0, .ok s⟩
    | some n => ⟨0, refuse n.id (.undefinedGroup (n.stringOr "groupId" ""))⟩
  else expandRounds maxDepth maxDepth.toNat 0 s

end SceneGraph.Groups
