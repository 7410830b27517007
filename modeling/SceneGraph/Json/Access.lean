import SceneGraph.Json.Value
import SceneGraph.Number.Decimal

/-!
# Lenient access to JSON documents

Reads a document whose shape is known. What is missing or has another type reads as an empty text, zero
or an empty list.
-/
set_option autoImplicit false

namespace SceneGraph.Json

def asText : Json → String
  | .str s => s
  | _ => ""

def asFloat : Json → Float
  | .num d => d.toFloat
  | _ => 0

/-- The number of a value without its fraction. Numbers beyond 64 bits are read as doubles first. -/
def asInt : Json → Int
  | .num d =>
    if d.exponent = 0 && d.digits < 18446744073709551616 then (if d.negative then -(d.digits : Int) else d.digits)
    else toInt64 d.toFloat
  | _ => 0

/-- The number of a value without its fraction; negative ones count as zero. -/
def asNat (j : Json) : Nat := j.asInt.toNat

def asList : Json → List Json
  | .arr xs => xs
  | _ => []

def asMembers : Json → List (String × Json)
  | .obj ms => ms
  | _ => []

def asTexts (j : Json) : List String := j.asList.map asText

def asFloats (j : Json) : List Float := j.asList.map asFloat

def asFloats32 (j : Json) : List Float32 := j.asFloats.map Float.toFloat32

def item (j : Json) (i : Nat) : Json := j.asList.getD i .null

def field (j : Json) (name : String) : Json := (j.get? name).getD .null

def textAt (j : Json) (name : String) : String := (j.field name).asText

def intAt (j : Json) (name : String) : Int := (j.field name).asInt

def has (j : Json) (name : String) : Bool :=
  match j.get? name with
  | none | some .null => false
  | some _ => true

/-- The truth value of a member, or a default. -/
def boolAt (j : Json) (name : String) (default : Bool) : Bool :=
  match j.get? name with
  | some (.bool b) => b
  | _ => default

end SceneGraph.Json
