import SceneGraph.Scene.Basic

/-!
# Topological order

An order of the nodes in which the source of every connection stands before its target. Among the
nodes that are ready the one that stands first in the scene goes first, so the order depends on
neither the order nor the number of parallel connections.
-/
set_option autoImplicit false

namespace SceneGraph

/-- The nodes that lie on a cycle or behind one, in scene order. -/
structure CycleError where
  remaining : List String
deriving Repr, DecidableEq

/-- The wording of a cycle: at most eight nodes are named. -/
def CycleError.message (e : CycleError) : String :=
  let named := ", ".intercalate (e.remaining.take 8)
  let more := if e.remaining.length > 8 then ", ..." else ""
  s!"graph: cycle detected among {e.remaining.length} nodes [{named}{more}]"

namespace Graph

/-- No remaining edge leads to the position. -/
def isReady (edges : List (Nat × Nat)) (i : Nat) : Bool := edges.all fun e => e.2 != i

/-- Takes the first ready position again and again: the positions taken, and those left over. -/
def drain (remaining : List Nat) (edges : List (Nat × Nat)) : List Nat × List Nat :=
  match _found : remaining.find? (isReady edges) with
  | none => ([], remaining)
  | some i =>
    -- The edges from the position go with it, which may make positions before it ready.
    let (order, rest) := drain (remaining.erase i) (edges.filter fun e => e.1 != i)
    (i :: order, rest)
termination_by remaining.length
decreasing_by
  have hmem := List.mem_of_find?_eq_some _found
  have hpos := List.length_pos_of_mem hmem
  rw [List.length_erase_of_mem hmem]
  omega

def position? (ids : List String) (id : String) : Option Nat :=
  -- Of several nodes with one id the last one is meant.
  (ids.reverse.findIdx? (· == id)).map fun i => ids.length - 1 - i

/-- The connections between existing nodes as pairs of positions. -/
def edges (s : Scene) : List (Nat × Nat) :=
  let ids := s.nodeIds
  s.connections.filterMap fun c =>
    match position? ids c.source.node, position? ids c.target.node with
    | some i, some j => some (i, j)
    | _, _ => none

def idsAt (s : Scene) (positions : List Nat) : List String :=
  positions.filterMap fun i => s.nodeIds[i]?

/-- The node ids in topological order, or the nodes that a cycle keeps from being ordered. -/
def topologicalOrder (s : Scene) : Except CycleError (List String) :=
  let (order, rest) := drain (List.range s.nodes.length) (edges s)
  if rest.isEmpty then .ok (idsAt s order) else .error ⟨idsAt s rest⟩

end Graph

end SceneGraph
