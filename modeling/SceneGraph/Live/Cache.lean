import SceneGraph.Log
import SceneGraph.Scene.Delta

/-!
# Live caches

The scene of an edit session as it is known from the messages so far. Nodes and connections are kept in
the order in which their ids appeared; an element that comes again takes the place of the earlier one,
and one that was removed goes to the end when it comes back.
-/
set_option autoImplicit false

namespace SceneGraph

namespace Live

variable {α : Type}

/-- Puts an item in the place of the one with the same id, or at the end. -/
def put (id : α → String) (item : α) : List α → List α
  | [] => [item]
  | x :: rest => if id x = id item then item :: rest else x :: put id item rest

def putAll (id : α → String) (items : List α) (list : List α) : List α :=
  items.foldl (fun l x => put id x l) list

def removeAll (id : α → String) (ids : List String) (list : List α) : List α :=
  list.filter fun x => !ids.contains (id x)

/-- Carries out edits: what is removed goes first, so an item that is removed and added stays. -/
def applyEdits (id : α → String) (e : Edits α) (list : List α) : List α :=
  putAll id (e.added ++ e.updated) (removeAll id e.removed list)

end Live

/-- How often a cache was changed. -/
structure CacheStats where
  replacements : Nat := 0
  deltas : Nat := 0
  /-- The connections that were pruned. -/
  pruned : Nat := 0
deriving Repr, DecidableEq

/-- The scene of an edit session. -/
structure Cache where
  /-- Some message has been received. -/
  isCached : Bool := false
  contents : Scene := {}
  stats : CacheStats := {}

namespace Cache

def stateName (c : Cache) : String := if c.isCached then "cached" else "empty"

def materialize (c : Cache) : Scene := c.contents

def contentsOf (s : Scene) : Scene :=
  { s with
    -- Of elements with one id the last one stays, in the place of the first.
    nodes := Live.putAll Node.id s.nodes []
    connections := Live.putAll Connection.id s.connections [] }

def replace (c : Cache) (s : Scene) : Cache where
  isCached := true
  contents := contentsOf s
  stats := { c.stats with replacements := c.stats.replacements + 1 }

def edited (s : Scene) (d : Delta) : Scene :=
  { s with
    nodes := Live.applyEdits Node.id d.nodes s.nodes
    connections := Live.applyEdits Connection.id d.connections s.connections
    outputs := d.outputs.getD s.outputs
    version := if d.version = "" then s.version else d.version }

def applyDelta (c : Cache) (d : Delta) : Cache where
  isCached := true
  contents := edited c.contents d
  stats := { c.stats with deltas := c.stats.deltas + 1 }

def isAttached (s : Scene) (c : Connection) : Bool := s.hasNode c.source.node && s.hasNode c.target.node

/-- The ids of the connections that miss an end. -/
def dangling (c : Cache) : List String :=
  (c.contents.connections.filter fun x => !isAttached c.contents x).map Connection.id

/-- Removes the connections that miss an end. -/
def prune (c : Cache) : Cache :=
  { c with
    contents := { c.contents with connections := c.contents.connections.filter (isAttached c.contents) }
    stats := { c.stats with pruned := c.stats.pruned + c.dangling.length } }

/-! ## Reports -/

def sizes (c : Cache) : List (String × String) :=
  [("nodes", toString c.contents.nodes.length), ("connections", toString c.contents.connections.length)]

def replacedEntry (c : Cache) : LogEntry := ⟨.debug, "live: replaced", c.sizes⟩

def deltaEntry (c : Cache) (d : Delta) : LogEntry :=
  ⟨.debug, "live: delta applied", c.sizes ++ [("outputs_replaced", toString d.outputs.isSome)]⟩

/-- The report on pruned connections, if there are any. -/
def prunedEntries (ids : List String) : List LogEntry :=
  if ids.isEmpty then [] else [⟨.debug, "live: pruned dangling connections", [("ids", LogEntry.names ids)]⟩]

end Cache

end SceneGraph
