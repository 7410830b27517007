import SceneGraph.Expr.Basic
import SceneGraph.Prepare.Basic
import SceneGraph.Shader.Module

/-!
# Compile sessions

The state that compiling node outputs builds up: expressions by output, slots of constants, texture
bindings and helper functions. Constants live in slots of a shared buffer, so an edit of a constant
changes the buffer and no code. The state survives failures.
-/
set_option autoImplicit false

namespace SceneGraph

/-- A parameter of a node. -/
structure SlotKey where
  node : String
  param : String
deriving Repr, DecidableEq

/-- The state of a compile attempt. -/
structure Session where
  /-- The outputs compiled so far. -/
  memo : List (Endpoint × ShaderExpr) := []
  /-- The outputs being compiled. -/
  active : List Endpoint := []
  /-- The texture bindings, in order of registration. -/
  bindings : List Binding := []
  /-- The helper functions, in order of registration. -/
  helpers : List HelperFunction := []
  /-- The constants, four numbers per slot. -/
  params : List Float32 := []
  slots : List (SlotKey × Nat) := []
  log : List LogEntry := []

abbrev SessionM (α : Type) := ExceptT ExprError (StateM Session) α

namespace Session

/-! ## Constants -/

/-- Numbers of a constant, filled up with zeros to whole slots, at least one. -/
def padded (values : List Float) : List Float32 :=
  let count := 4 * max ((values.length + 3) / 4) 1
  values.map Float.toFloat32 ++ List.replicate (count - values.length) 0

/-- The slot of a constant, if it has one. -/
def slot? (s : Session) (key : SlotKey) : Option Nat := (s.slots.find? fun e => e.1 = key).map Prod.snd

/-- Stores a constant, unless it is stored; gives its first slot. -/
def store (s : Session) (key : SlotKey) (values : List Float) : Nat × Session :=
  match s.slot? key with
  -- The numbers of the first call stay, whatever comes later under the key.
  | some i => (i, s)
  | none =>
    let i := s.params.length / 4
    (i, { s with params := s.params ++ padded values, slots := s.slots ++ [(key, i)] })

/-- The code that reads a constant of a type from a slot. -/
def slotCode (i : Nat) : ValueType → Code
  | .float => .part (.slot i) "x"
  | .int => .call "i32" [.part (.slot i) "x"]
  | .uint => .call "u32" [.part (.slot i) "x"]
  | .bool => .binary "!=" (.part (.slot i) "x") (.zero .float)
  | .vec2 => .part (.slot i) "xy"
  | .vec3 => .part (.slot i) "xyz"
  | .vec4 => .slot i
  | .mat4 => .call "mat4x4<f32>" [.slot i, .slot (i + 1), .slot (i + 2), .slot (i + 3)]
  | _ => .verbatim ""

/-! ## Bindings and helpers -/

def binding? (s : Session) (key : String) : Option Binding := s.bindings.find? fun b => b.key == key

/-- Registers a binding, unless its key has one. -/
def addBinding (s : Session) (b : Binding) : Binding × Session :=
  match s.binding? b.key with
  | some old => (old, s)
  | none => (b, { s with bindings := s.bindings ++ [b] })

def helper? (s : Session) (name : String) : Option HelperFunction :=
  s.helpers.find? fun h => h.name == name

/-- Registers a helper function, unless its name has one. -/
def addHelper (s : Session) (h : HelperFunction) : Session :=
  match s.helper? h.name with
  | some _ => s
  | none => { s with helpers := s.helpers ++ [h] }

/-- The helper functions among given names, in order of registration. -/
def helpersNamed (s : Session) (names : List String) : List HelperFunction :=
  s.helpers.filter fun h => names.contains h.name

/-! ## Memory -/

def compiled? (s : Session) (e : Endpoint) : Option ShaderExpr :=
  (s.memo.find? fun m => m.1 = e).map Prod.snd

/-- Marks an output as being compiled. -/
def enter (s : Session) (e : Endpoint) : Session := { s with active := e :: s.active }

def leave (s : Session) (e : Endpoint) : Session := { s with active := s.active.erase e }

def remember (s : Session) (e : Endpoint) (x : ShaderExpr) : Session :=
  { s with memo := (e, x) :: s.memo }

def report (s : Session) (e : LogEntry) : Session := { s with log := s.log ++ [e] }

end Session

namespace SessionM

/-- Stores a constant and gives an expression that reads it. -/
def constant (node param : String) (values : List Float) (t : ValueType) : SessionM ShaderExpr := do
  let i ← modifyGet fun s => s.store ⟨node, param⟩ values
  return { code := Session.slotCode i t, type := t }

def bindTexture (p : Prepared) (key source : String) (sampler : SamplerKind) : SessionM Binding :=
  modifyGet fun s => s.addBinding ⟨key, p.nameOf key, source, sampler⟩

def helper (h : HelperFunction) : SessionM Unit := modify fun s => s.addHelper h

def debug (message : String) (fields : List (String × String)) : SessionM Unit :=
  modify fun s => s.report ⟨.debug, message, fields⟩

/-- The outcome of a computation, without ending on a failure. -/
def attempt {α : Type} (x : SessionM α) : SessionM (Except ExprError α) :=
  ExceptT.mk fun s =>
    let (r, s) := x.run.run s
    (.ok r, s)

end SessionM

end SceneGraph
