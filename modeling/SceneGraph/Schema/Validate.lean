import SceneGraph.Json.Parser
import SceneGraph.Schema.Basic

/-!
# Validation

`Schema.validate` checks every node and connection of a scene, inside groups too, and returns the
scene with parameters normalized: null parameters vanish, colors become four numbers, and defaults
are filled in.
-/
set_option autoImplicit false

namespace SceneGraph

def Value.kindName : Value → String
  | .null => "null"
  | .num _ => "number"
  | .str _ => "string"
  | .bool _ => "bool"
  | .list _ => "array"
  | .record _ => "object"

/-- Checks that all elements of a list are numbers; `i` is the position of the first. -/
def checkNumbers (node param : String) : Nat → List Value → Except ValidationError Unit
  | _, [] => .ok ()
  | i, .num _ :: rest => checkNumbers node param (i + 1) rest
  | i, v :: _ =>
    .error { kind := .paramType, node, field := s!"{param}[{i}]", expected := "number", got := v.kindName }

def colorChannel (n : Nat) : Value := .num ((Float.ofNat n) / 255)

/-- The four channels of a color written as `#rrggbb` or `#rrggbbaa`. -/
def parseHexColor? (s : String) : Option (List Value) :=
  let cs := match s.toList with
    | '#' :: rest => rest
    | cs => cs
  let channel (a b : Char) : Option Value := do
    let x ← Json.hexDigit? a
    let y ← Json.hexDigit? b
    return colorChannel (16 * x + y)
  match cs with
  | [a, b, c, d, e, f] => do return [← channel a b, ← channel c d, ← channel e f, colorChannel 255]
  | [a, b, c, d, e, f, g, h] => do
    return [← channel a b, ← channel c d, ← channel e f, ← channel g h]
  | _ => none

def showNumber (x : Float) : String := NumberStyle.general.render x

namespace ParamSpec

def wrongType (p : ParamSpec) (node : String) (v : Value) : ValidationError :=
  { kind := .paramType, node, field := p.name, expected := p.type.name, got := v.kindName }

/-- Checks a number against the bounds of a parameter. -/
def checkRange (p : ParamSpec) (node : String) (x : Float) : Except ValidationError Value :=
  let outside (expected : String) : Except ValidationError Value :=
    .error { kind := .paramRange, node, field := p.name, expected, got := showNumber x }
  if p.type = .uint ∧ x < 0 then outside ">= 0"
  else match p.min with
    | some lo => if x < lo then outside (">= " ++ showNumber lo) else upper outside
    | none => upper outside
where
  /-- The check against the upper bound. -/
  upper (outside : String → Except ValidationError Value) : Except ValidationError Value :=
    match p.max with
    | some hi => if x > hi then outside ("<= " ++ showNumber hi) else .ok (.num x)
    | none => .ok (.num x)

def checkNumber (p : ParamSpec) (node : String) (v : Value) : Except ValidationError Value :=
  match v with
  | .num x =>
    if p.type ≠ .float ∧ !isWhole x then .error (p.wrongType node v) else p.checkRange node x
  | _ => .error (p.wrongType node v)

/-- Checks a color: a hexadecimal text, or three or four numbers. -/
def checkColor (p : ParamSpec) (node : String) (v : Value) : Except ValidationError Value :=
  match v with
  | .str s =>
    match parseHexColor? s with
    | some channels => .ok (.list channels)
    | none =>
      .error { kind := .paramType, node, field := p.name, expected := "#rrggbb or #rrggbbaa", got := s }
  | .list items =>
    if items.length = 3 ∨ items.length = 4 then do
      checkNumbers node p.name 0 items
      return .list (if items.length = 3 then items ++ [.num 1] else items)
    else
      .error { kind := .paramLength, node, field := p.name, expected := "3 or 4 elements",
               got := toString items.length }
  | _ => .error (p.wrongType node v)

def checkVector (p : ParamSpec) (node : String) (v : Value) : Except ValidationError Value :=
  match v with
  | .list items =>
    if p.length > 0 ∧ (items.length : Int) ≠ p.length then
      .error { kind := .paramLength, node, field := p.name, expected := s!"{p.length} elements",
               got := toString items.length }
    else do
      checkNumbers node p.name 0 items
      return v
  | _ => .error (p.wrongType node v)

/-- Checks a value that is not null and returns its normal form. -/
def check (p : ParamSpec) (node : String) (v : Value) : Except ValidationError Value :=
  match p.type with
  | .float | .int | .uint => p.checkNumber node v
  | .bool =>
    match v with
    | .bool _ => .ok v
    | _ => .error (p.wrongType node v)
  | .string =>
    match v with
    | .str _ => .ok v
    | _ => .error (p.wrongType node v)
  | .choice =>
    match v with
    | .str s =>
      if p.values.contains s then .ok v
      else .error { kind := .paramRange, node, field := p.name,
                    expected := "one of " ++ ", ".intercalate p.values, got := s }
    | _ => .error (p.wrongType node v)
  | .color => p.checkColor node v
  | .vec2 | .vec3 | .vec4 | .mat4 => p.checkVector node v
  | .other _ => .ok v

end ParamSpec

namespace Schema

/-- Checks the given parameters in ascending order and returns those that remain. -/
def checkParams (s : Schema) (t : NodeType) (node : String) :
    Table Value → Except ValidationError (Table Value)
  | [] => .ok []
  | (key, v) :: rest =>
    match t.params.get? key with
    | none =>
      if s.ignoredParams.contains key then return (key, v) :: (← checkParams s t node rest)
      else .error { kind := .unknownParam, node, field := key,
                    expected := "one of " ++ ", ".intercalate t.params.keys }
    | some p => do
      if v.isNull then checkParams s t node rest
      else
        let nv ← p.check node v
        return (key, nv) :: (← checkParams s t node rest)

/-- Fills in the defaults of absent parameters in ascending order. -/
def fillDefaults : Table ParamSpec → Node → Except ValidationError Node
  | [], n => .ok n
  | (name, p) :: rest, n =>
    if n.hasParam name then fillDefaults rest n
    else if p.required then
      .error { kind := .missingParam, node := n.id, field := name, expected := p.type.name }
    else match p.default with
      -- Taken as the schema states it, without a check and not brought into normal form.
      | some v => fillDefaults rest (n.setParam name v)
      | none => fillDefaults rest n

/-- Checks the parameters of a node and fills in defaults. -/
def normalize (s : Schema) (n : Node) : Except ValidationError Node :=
  match s.nodeType? n.type with
  | none => .error { kind := .unknownType, node := n.id, field := "type", got := n.type }
  | some t => do
    let params ← s.checkParams t n.id n.params
    fillDefaults t.params { n with params }

def checkConnection (s : Schema) (source target : Node) (c : Connection) :
    Except ValidationError Unit :=
  match s.outputType? source c.source.port with
  | none =>
    .error { kind := .unknownPort, node := source.id, connection := c.id,
             field := "output " ++ c.source.port, expected := "an output port of " ++ source.type }
  | some given =>
    match s.inputType? target c.target.port with
    | none =>
      .error { kind := .unknownPort, node := target.id, connection := c.id,
               field := "input " ++ c.target.port, expected := "an input port of " ++ target.type }
    | some wanted =>
      if s.compatible given wanted then .ok ()
      else
        .error { kind := .typeMismatch, connection := c.id, expected := wanted, got := given,
                 source := c.source.node ++ "." ++ c.source.port,
                 target := c.target.node ++ "." ++ c.target.port }

def lastWithId? (nodes : List Node) (id : String) : Option Node :=
  nodes.reverse.find? fun n => n.id == id

/-- Checks the connections whose two ends are nodes of the list. -/
def checkAll (s : Schema) (nodes : List Node) : List Connection → Except ValidationError Unit
  | [] => .ok ()
  | c :: rest =>
    match lastWithId? nodes c.source.node, lastWithId? nodes c.target.node with
    | some source, some target => do
      s.checkConnection source target c
      checkAll s nodes rest
    | _, _ => checkAll s nodes rest

/-- Checks every connection of a scene whose ends exist. -/
def checkConnections (s : Schema) (sc : Scene) : Except ValidationError Unit :=
  s.checkAll sc.nodes sc.connections

/-- Normalizes the nodes of a group and checks its connections. -/
def normalizeGroup (s : Schema) (g : Group) : Except ValidationError Group := do
  let nodes ← g.nodes.mapM s.normalize
  s.checkAll nodes g.connections
  return { g with nodes }

/-- Checks a scene and returns it in normal form. -/
def validate (s : Schema) (sc : Scene) : Except ValidationError Scene := do
  let nodes ← sc.nodes.mapM s.normalize
  let groups ← sc.groups.mapM s.normalizeGroup
  s.checkAll nodes sc.connections
  return { sc with nodes, groups }

end Schema

end SceneGraph
