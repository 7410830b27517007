import SceneGraph.Number.Decimal

/-!
# JSON documents

The tree of a JSON text. Members keep the order and the repetitions in which they were written, and
numbers keep their decimal value: readers of a document decide what either means to them.
-/
set_option autoImplicit false

namespace SceneGraph

/-- The tree of a JSON text. -/
inductive Json where
  | null
  | bool (b : Bool)
  | num (d : Decimal)
  | str (s : String)
  | arr (items : List Json)
  | obj (members : List (String × Json))
deriving Repr, Inhabited

namespace Json

/-- Why a text was not accepted as a document of the expected shape. -/
inductive Fault where
  /-- The text is no JSON text. -/
  | malformed
  /-- A value has the wrong type, or a number is out of range. -/
  | mistyped
deriving Repr, DecidableEq

def int (i : Int) : Json := .num ⟨i < 0, i.natAbs, 0⟩

def nat (n : Nat) : Json := .num ⟨false, n, 0⟩

/-- A finite double by its shortest decimal. -/
def float (x : Float) : Json := .num (Decimal.shortest x)

/-- The value of a member; the last of several with one name counts. -/
def get? (j : Json) (name : String) : Option Json :=
  match j with
  | .obj members => (members.reverse.find? fun m => m.1 == name).map Prod.snd
  | _ => none

def strings (xs : List String) : Json := .arr (xs.map .str)

end Json

end SceneGraph
