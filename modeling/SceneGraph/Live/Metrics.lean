import SceneGraph.Compile
import SceneGraph.Number.Decimal
import SceneGraph.Table

/-!
# Metrics

What is counted about a live session: compilations by result, passes of plans, messages by type,
superseded scenes, rebuilds and open sessions.
-/
set_option autoImplicit false

namespace SceneGraph

/-- A running total that is told from outside and never falls. -/
structure RunningTotal where
  /-- The greatest total that was told. -/
  last : Nat := 0
  /-- The amounts that were counted, each as the nearest double. -/
  counted : Nat := 0
deriving Repr, DecidableEq

namespace RunningTotal

/-- Puts a greater total in the place of the expected one; tells whether it did. -/
def swap (t : RunningTotal) (expected total : Nat) : Bool × RunningTotal :=
  if t.last = expected then (true, { t with last := total }) else (false, t)

/-- Counts a whole amount. Amounts of 64 bits are added up with 64 bits. -/
def count (t : RunningTotal) (amount : Nat) : RunningTotal :=
  let word := 18446744073709551616
  { t with counted := if amount < word then t.counted / word * word + (t.counted + amount) % word
      else t.counted + amount }

/-- Counts an amount, as the nearest double. -/
def add (t : RunningTotal) (amount : Nat) : RunningTotal := t.count (nearestWhole amount)

/-- Takes in a total; one that is not greater than an earlier one is ignored. -/
def raise (t : RunningTotal) (total : Nat) : RunningTotal :=
  if total ≤ t.last then t else (t.swap t.last total).2.add (total - t.last)

end RunningTotal

/-- The counts of a live session. -/
structure Metrics where
  compiles : Table Nat := []
  /-- The passes of each plan that was compiled. -/
  passes : List Int := []
  messages : Table Nat := []
  superseded : RunningTotal := {}
  rebuilds : Nat := 0
  sessions : Int := 0

namespace Metrics

def increase (t : Table Nat) (name : String) : Table Nat := t.insert name ((t.get? name).getD 0 + 1)

/-- Counts a compilation; `kind` is empty for one that succeeded. -/
def observeCompile (m : Metrics) (passes : Int) (kind : String) : Metrics :=
  if kind = "" then { m with compiles := increase m.compiles "ok", passes := m.passes ++ [passes] }
  else { m with compiles := increase m.compiles kind }

def observe (m : Metrics) (o : Observation) : Metrics :=
  m.observeCompile o.passes ((o.kind.map FailureKind.label).getD "")

def observeMessage (m : Metrics) (type : String) : Metrics := { m with messages := increase m.messages type }

def setSuperseded (m : Metrics) (total : Nat) : Metrics := { m with superseded := m.superseded.raise total }

def observeRebuild (m : Metrics) : Metrics := { m with rebuilds := m.rebuilds + 1 }

def sessionOpened (m : Metrics) : Metrics := { m with sessions := m.sessions + 1 }

def sessionClosed (m : Metrics) : Metrics := { m with sessions := m.sessions - 1 }

def compileCount (m : Metrics) : Nat := m.compiles.foldl (fun n e => n + e.2) 0

/-- The passes of all plans together, added up as doubles. -/
def passTotal (m : Metrics) : Float := m.passes.foldl (fun sum n => sum + floatOfInt n) 0

/-- The upper bounds by which plans are sorted into buckets. -/
def passBounds : List Int := [1, 2, 4, 8, 16, 32, 64]

/-- How many plans have at most as many passes as each bound. -/
def passBuckets (m : Metrics) : List Nat := passBounds.map fun b => m.passes.countP (· ≤ b)

end Metrics

end SceneGraph
