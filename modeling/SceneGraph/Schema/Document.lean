import SceneGraph.Hcl.Eval
import SceneGraph.Schema.Builtin
import SceneGraph.Text.Quoted

/-!
# Schema documents

Reads a schema from a document: `compat` blocks say which output types an input type accepts, `node`
blocks declare node types with their parameters and ports. The language of the documents is left to a reader.
-/
set_option autoImplicit false

namespace SceneGraph

/-- Why a schema document was refused. -/
inductive SchemaFault where
  | malformed
  /-- The document has elements that a schema does not have, or lacks one. -/
  | misshapen
  | duplicateType (name : String)
  | badDefault (node param : String)
deriving Repr, DecidableEq

/-- The wording of a refused schema document; the details of malformed documents are left out. -/
def SchemaFault.message (file : String) : SchemaFault → String
  | .malformed => "schema: failed to parse " ++ file
  | .misshapen => "schema: failed to decode " ++ file
  | .duplicateType name => "schema: " ++ file ++ ": node type " ++ Text.quoted name ++ " declared twice"
  | .badDefault node param =>
    "schema: " ++ file ++ ": node " ++ Text.quoted node ++ " param " ++ Text.quoted param ++ " default"

/-- A reader of the language of schema documents. -/
structure Hcl.Reader where
  parse? : String → Option Hcl.Body := Hcl.parse?
  /-- The value of an expression. -/
  eval? : Hcl.Expr → Option Hcl.Datum := Hcl.Expr.eval?
  /-- A value as one of a kind. -/
  convert? : Hcl.Kind → Hcl.Datum → Option Hcl.Datum := Hcl.Datum.convert?

namespace Schema.Document

open Hcl

variable (reader : Hcl.Reader)

abbrev Read (α : Type) := Except SchemaFault α

/-- The result of a reading that may find nothing, as a refusal. -/
def orMisshapen {α : Type} : Option α → Read α
  | some a => .ok a
  | none => .error .misshapen

/-- Checks that a body holds no attribute and no block beyond those listed. -/
def checkShape (body : Body) (attributes blocks : List String) : Read Unit :=
  if body.attributes.all (fun a => attributes.contains a.1)
      && body.blocks.all (fun b => blocks.contains b.1) then .ok ()
  else .error .misshapen

def attribute? (body : Body) (name : String) : Read (Option Datum) :=
  match body.attributes.find? fun a => a.1 == name with
  | none => .ok none
  | some (_, e) => return some (← orMisshapen (reader.eval? e))

def textOfDatum (d : Datum) : Read String :=
  match reader.convert? .string d with
  | some (.str s) => .ok s
  | _ => .error .misshapen

def textOr (body : Body) (name default : String) : Read String := do
  match ← attribute? reader body name with
  | none => return default
  | some d => textOfDatum reader d

def textOf (body : Body) (name : String) : Read String := do
  match ← attribute? reader body name with
  | none => .error .misshapen
  | some d => textOfDatum reader d

/-- A truth value attribute, false when absent. -/
def boolOf (body : Body) (name : String) : Read Bool := do
  match ← attribute? reader body name with
  | none => return false
  | some d =>
    match reader.convert? .bool d with
    | some (.bool b) => return b
    | _ => .error .misshapen

/-- A list of texts; null counts as empty. -/
def textsOf (d : Datum) : Read (List String) :=
  match reader.convert? (.list .string) d with
  | some (.null _) => .ok []
  | some (.list _ items) => items.mapM (textOfDatum reader)
  | _ => .error .misshapen

def listOr (body : Body) (name : String) : Read (List String) := do
  match ← attribute? reader body name with
  | none => return []
  | some d => textsOf reader d

/-- A number attribute; null counts as absent. -/
def numberOf (body : Body) (name : String) : Read (Option Wide) := do
  match ← attribute? reader body name with
  | none => return none
  | some d =>
    match reader.convert? .number d with
    | some (.null _) => return none
    | some (.num x) => return some x
    | _ => .error .misshapen

/-- A number attribute as a double; a finite number beyond the range of doubles is refused. -/
def floatOf (body : Body) (name : String) : Read (Option Float) := do
  match ← numberOf reader body name with
  | none => return none
  | some x => if x.toFloat.isInf && !x.isInfinite then .error .misshapen else return some x.toFloat

def integerOf (body : Body) (name : String) : Read (Option Int) := do
  match ← numberOf reader body name with
  | none => return none
  | some x =>
    match x.toInt? with
    | some i => if leastInt64 ≤ i && i < -leastInt64 then return some i else .error .misshapen
    | none => .error .misshapen

def labelOf : List String → Read String
  | [name] => .ok name
  | _ => .error .misshapen

def blocksOf (body : Body) (type : String) : Read (List (String × Body)) :=
  (body.blocks.filter fun b => b.1 == type).mapM fun b => return (← labelOf b.2.1, b.2.2)

/-- A parameter, with its default still to be evaluated. -/
def readParam (name : String) (body : Body) : Read (ParamSpec × Option Hcl.Expr) := do
  checkShape body ["type", "default", "min", "max", "length", "values", "required"] []
  let type := ParamType.ofName (← textOf reader body "type")
  let min ← floatOf reader body "min"
  let max ← floatOf reader body "max"
  let length := (← integerOf reader body "length").getD type.defaultLength
  let values ← listOr reader body "values"
  let required ← boolOf reader body "required"
  let default := (body.attributes.find? fun a => a.1 == "default").map Prod.snd
  return ({ name, type, min, max, length, values, required }, default)

def readPort (name : String) (body : Body) : Read PortSpec := do
  checkShape body ["type", "prefix"] []
  return { name, type := ← textOf reader body "type", isFamily := ← boolOf reader body "prefix" }

/-- A node type as it is declared, with the defaults of its parameters still to be evaluated. -/
structure Declaration where
  type : NodeType
  params : List (ParamSpec × Option Hcl.Expr)

def readNodeType (name : String) (body : Body) : Read Declaration := do
  checkShape body ["category", "open_inputs", "declared_ports"] ["param", "input", "output"]
  let category ← textOr reader body "category" ""
  let openInputs ← boolOf reader body "open_inputs"
  let declaredPorts ← boolOf reader body "declared_ports"
  let params ← (← blocksOf body "param").mapM fun b => readParam reader b.1 b.2
  let inputs ← (← blocksOf body "input").mapM fun b => readPort reader b.1 b.2
  let outputs ← (← blocksOf body "output").mapM fun b => readPort reader b.1 b.2
  return { type := { name, category, openInputs, declaredPorts, inputs, outputs }, params }

def readCompat (name : String) (body : Body) : Read (String × List String) := do
  checkShape body ["from"] []
  match ← attribute? reader body "from" with
  | none => .error .misshapen
  | some d => return (name, ← textsOf reader d)

def withDefault (node : String) (p : ParamSpec × Option Hcl.Expr) : Read ParamSpec :=
  match p.2 with
  | none => .ok p.1
  | some e =>
    match (reader.eval? e).bind Datum.toValue? with
    | none => .error (.badDefault node p.1.name)
    | some .null => .ok p.1
    | some v => .ok { p.1 with default := some v }

def addTypes : Table NodeType → List Declaration → Read (Table NodeType)
  | types, [] => .ok types
  | types, d :: rest => do
    if types.has d.type.name then .error (.duplicateType d.type.name)
    else
      let params ← d.params.mapM (withDefault reader d.type.name)
      let type := { d.type with params := Builtin.paramTable params }
      addTypes (types.insert type.name type) rest

def readSchema (body : Body) : Read Schema := do
  checkShape body ["ignore_params"] ["compat", "node"]
  let ignoredParams ← listOr reader body "ignore_params"
  let compat ← (← blocksOf body "compat").mapM fun b => readCompat reader b.1 b.2
  let declarations ← (← blocksOf body "node").mapM fun b => readNodeType reader b.1 b.2
  return { types := ← addTypes reader [] declarations, compat := Table.ofList compat, ignoredParams }

end Schema.Document

def Schema.parse (reader : Hcl.Reader) (text : String) : Except SchemaFault Schema :=
  match reader.parse? text with
  | none => .error .malformed
  | some body => Schema.Document.readSchema reader body

end SceneGraph
