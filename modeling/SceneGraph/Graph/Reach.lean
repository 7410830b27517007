import SceneGraph.Scene.Basic

/-!
# Reachability

The nodes from which a chain of connections leads to a node, and the nodes that a chain from it
reaches. A node reaches itself only through a cycle. Ids without a node take part like all others.
Only nodes that a connection or an output names take part in a scene; shaking drops the others.
-/
set_option autoImplicit false

namespace SceneGraph.Graph

/-- The ids one edge away, once for each edge. -/
def successors (edges : List (String × String)) (id : String) : List String :=
  (edges.filter fun e => e.1 == id).map Prod.snd

/-- A search underway: the ids seen, and those still to be looked at, the same one perhaps more than once. -/
structure Search where
  seen : List String := []
  queue : List String
deriving Repr, DecidableEq

namespace Search

/-- A search from an id, which it does not see unless it is led back to it. -/
def start (edges : List (String × String)) (id : String) : Search := { queue := successors edges id }

/-- Looks at the first id of the queue. If it is new, the ids one edge away from it queue up. -/
def step (edges : List (String × String)) (x : Search) : Search :=
  match x.queue with
  | [] => x
  | id :: queue =>
    if x.seen.contains id then { x with queue }
    else { seen := x.seen ++ [id], queue := queue ++ successors edges id }

theorem step_of_seen {edges : List (String × String)} {seen queue : List String} {id : String} (h : id ∈ seen) :
    step edges ⟨seen, id :: queue⟩ = ⟨seen, queue⟩ := by
  simp [step, h]

theorem step_of_new {edges : List (String × String)} {seen queue : List String} {id : String} (h : id ∉ seen) :
    step edges ⟨seen, id :: queue⟩ = ⟨seen ++ [id], queue ++ successors edges id⟩ := by
  simp [step, h]

/-! ## Work left -/

/-- The edges whose starts are not seen yet. -/
def unfollowed (edges : List (String × String)) (seen : List String) : List (String × String) :=
  edges.filter fun e => !seen.contains e.1

theorem length_unfollowed (edges : List (String × String)) {seen : List String} {id : String} (h : id ∉ seen) :
    (unfollowed edges (seen ++ [id])).length + (successors edges id).length = (unfollowed edges seen).length := by
  unfold unfollowed successors
  induction edges with
  | nil => rfl
  | cons e rest ih =>
    by_cases he : e.1 = id
    · simp [he, h] at ih ⊢
      omega
    · by_cases hs : e.1 ∈ seen
      · simpa [he, hs] using ih
      · simp [he, hs] at ih ⊢
        omega

/-- What is queued, and the edges by which more can queue up. -/
def work (edges : List (String × String)) (x : Search) : Nat :=
  x.queue.length + (unfollowed edges x.seen).length

/-- An edge is followed once, so what queues up was counted before. -/
theorem work_step (edges : List (String × String)) {x : Search} (h : x.queue ≠ []) :
    (x.step edges).work edges + 1 = x.work edges := by
  obtain ⟨seen, queue⟩ := x
  cases queue with
  | nil => exact absurd rfl h
  | cons id queue =>
    by_cases hid : id ∈ seen
    · simp only [step_of_seen hid, work, List.length_cons]
      omega
    · have hlength := length_unfollowed edges hid
      simp only [step_of_new hid, work, List.length_append, List.length_cons]
      omega

/-- Steps until nothing is queued. -/
def run (edges : List (String × String)) (x : Search) : Search :=
  if _hqueue : x.queue = [] then x else (x.step edges).run edges
termination_by x.work edges
decreasing_by
  have := work_step edges _hqueue
  omega

end Search

/-- Everything that a chain of at least one edge reaches, in the order in which it is found. -/
def reachable (edges : List (String × String)) (start : String) : List String :=
  ((Search.start edges start).run edges).seen

/-- The connections as edges from targets to sources. -/
def backward (s : Scene) : List (String × String) := s.connections.map fun c => (c.target.node, c.source.node)

/-- The connections as edges from sources to targets. -/
def forward (s : Scene) : List (String × String) := s.connections.map fun c => (c.source.node, c.target.node)

/-- All ids from which a chain of connections leads to `start`. -/
def ancestors (s : Scene) (start : String) : List String := reachable (backward s) start

/-- All ids that a chain of connections from `start` reaches. -/
def descendants (s : Scene) (start : String) : List String := reachable (forward s) start

/-! ## Used nodes -/

def isUsed (s : Scene) (id : String) : Bool :=
  s.connections.any (fun c => c.source.node == id || c.target.node == id)
    || s.outputs.any fun o => o.2 == id

/-- The scene without the nodes that nothing names. -/
def treeShake (s : Scene) : Scene := { s with nodes := s.nodes.filter fun n => isUsed s n.id }

theorem nodeIds_treeShake (s : Scene) : (treeShake s).nodeIds = s.nodeIds.filter (isUsed s) := by
  simp only [Scene.nodeIds, treeShake, List.filter_map]
  rfl

end SceneGraph.Graph
