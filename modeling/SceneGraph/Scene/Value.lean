import SceneGraph.Json.Value
import SceneGraph.Number.Numeral
import SceneGraph.Table

/-!
# Parameter values

The values that node parameters hold: null, truth values, doubles, texts, lists, and records whose
fields are listed by ascending name. `Value.ofJson?` reads one from a document, `Value.display` writes
one into a diagnostic.
-/
set_option autoImplicit false

namespace SceneGraph

/-- The value of a node parameter. -/
inductive Value where
  | null
  | bool (b : Bool)
  | num (x : Float)
  | str (s : String)
  | list (items : List Value)
  | record (fields : List (String × Value))
deriving Inhabited

namespace Value

mutual

/-- The value of a document tree; a number beyond the range of doubles has none. -/
def ofJson? : Json → Option Value
  | .null => some .null
  | .bool b => some (.bool b)
  | .num d => if d.toFloat.isInf then none else some (.num d.toFloat)
  | .str s => some (.str s)
  | .arr items => (listOfJson? items).map .list
  | .obj members => (recordOfJson? members []).map .record

def listOfJson? : List Json → Option (List Value)
  | [] => some []
  | j :: rest => do
    let v ← ofJson? j
    let vs ← listOfJson? rest
    return v :: vs

/-- The record of a list of members on top of earlier fields; the last of equal names counts. -/
def recordOfJson? : List (String × Json) → Table Value → Option (Table Value)
  | [], fields => some fields
  | (name, j) :: rest, fields => do
    let v ← ofJson? j
    recordOfJson? rest (fields.insert name v)

end

mutual

def toJson : Value → Json
  | .null => .null
  | .bool b => .bool b
  | .num x => .float x
  | .str s => .str s
  | .list items => .arr (listToJson items)
  | .record fields => .obj (recordToJson fields)

def listToJson : List Value → List Json
  | [] => []
  | v :: rest => toJson v :: listToJson rest

def recordToJson : List (String × Value) → List (String × Json)
  | [] => []
  | (name, v) :: rest => (name, toJson v) :: recordToJson rest

end

mutual

def display : Value → String
  | .null => "<nil>"
  | .bool true => "true"
  | .bool false => "false"
  | .num x => NumberStyle.general.render x
  | .str s => s
  | .list items => "[" ++ " ".intercalate (displayItems items) ++ "]"
  | .record fields => "map[" ++ " ".intercalate (displayFields fields) ++ "]"

def displayItems : List Value → List String
  | [] => []
  | v :: rest => display v :: displayItems rest

/-- The fields of a record as diagnostics show them. -/
def displayFields : List (String × Value) → List String
  | [] => []
  | (name, v) :: rest => (name ++ ":" ++ display v) :: displayFields rest

end

/-- The number that a value stands for: truth values count as one and zero, and texts may be numerals. -/
def toFloat? : Value → Option Float
  | .num x => some x
  | .bool b => some (if b then 1 else 0)
  | .str s => Numeral.toFloat? s
  | _ => none

def component? (fields : Table Value) (names : String × String) : Option Value :=
  match fields.get? names.1 with
  | some v => some v
  | none => fields.get? names.2

/-- The leading components of a record, by position or color names, up to the first that is absent. -/
def components? (fields : Table Value) : List (String × String) → Option (List Float)
  | [] => some []
  | names :: rest =>
    match component? fields names with
    | none => some []
    | some v => do
      let x ← v.toFloat?
      let xs ← components? fields rest
      return x :: xs

def componentNames : List (String × String) := [("x", "r"), ("y", "g"), ("z", "b"), ("w", "a")]

/-- The numbers that a value stands for: the items of a list, the components of a record, or one. -/
def toFloats? : Value → Option (List Float)
  | .list items => items.mapM toFloat?
  | .record fields =>
    match components? fields componentNames with
    | some (x :: xs) => some (x :: xs)
    | _ => none
  | v => v.toFloat?.map fun x => [x]

def isNull : Value → Bool
  | .null => true
  | _ => false

end Value

end SceneGraph
