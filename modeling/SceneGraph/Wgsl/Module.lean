import SceneGraph.Shader.Module
import SceneGraph.Wgsl.Check
import SceneGraph.Wgsl.Parser

/-!
# Reading shader modules

A reader for the declarations of a module, and the check whether a shader can be compiled: a generated
module must declare all that it uses, a given text must be well formed and sound.
-/
set_option autoImplicit false

namespace SceneGraph.Wgsl

def skipAttributes : Nat → List Token → Option (List Token)
  | 0, _ => none
  | fuel + 1, ts =>
    match expect "@" ts with
    | none => some ts
    | some (.name _ :: rest) =>
      match expect "(" rest with
      | none => skipAttributes fuel rest
      | some rest => do
        let (_, rest) ← readArgs fuel rest
        skipAttributes fuel rest
    | some _ => none

/-- Reads a name and its type, with attributes before them. -/
def readTyped (fuel : Nat) (ts : List Token) : Option ((String × TypeTree) × List Token) := do
  let rest ← skipAttributes fuel ts
  let (name, rest) ← readField rest
  let rest ← expect ":" rest
  let (type, rest) ← readType fuel rest
  return ((name, type), rest)

/-- Reads names with types up to the closing symbol. -/
def readTypedList (close : String) : Nat → List Token → Option (List (String × TypeTree) × List Token)
  | 0, _ => none
  | fuel + 1, ts =>
    match expect close ts with
    | some rest => some ([], rest)
    | none => do
      let (field, rest) ← readTyped fuel ts
      match expect "," rest with
      | some rest =>
        let (more, rest) ← readTypedList close fuel rest
        return (field :: more, rest)
      | none => return ([field], ← expect close rest)

/-- Reads the result type that may follow the parameters of a function. -/
def readResultType (fuel : Nat) (ts : List Token) : Option (Option TypeTree × List Token) :=
  match expect "->" ts with
  | none => some (none, ts)
  | some rest => do
    let (t, rest) ← readType fuel (← skipAttributes fuel rest)
    return (some t, rest)

def readGlobal (fuel : Nat) (isPlace needsValue : Bool) (ts : List Token) :
    Option (Declaration × List Token) := do
  let (d, rest) ← readDeclared fuel needsValue ts
  return (.global isPlace d.name d.type d.value, ← expect ";" rest)

def readTopLevel (fuel : Nat) (ts : List Token) : Option (Declaration × List Token) := do
  match ← skipAttributes fuel ts with
  | .symbol ";" :: rest => return (.nothing, rest)
  | .name "struct" :: rest =>
    let (name, rest) ← readName rest
    let (fields, rest) ← readTypedList "\x7d" fuel (← expect "\x7b" rest)
    return (.record name fields, rest)
  | .name "fn" :: rest =>
    let (name, rest) ← readName rest
    let (params, rest) ← readTypedList ")" fuel (← expect "(" rest)
    let (result, rest) ← readResultType fuel rest
    let (body, rest) ← readBlock fuel rest
    return (.function name params result body, rest)
  | .name "var" :: rest => readGlobal fuel true false (← skipSpace fuel rest)
  | .name "const" :: rest => readGlobal fuel false true rest
  | .name "override" :: rest => readGlobal fuel false false rest
  | .name "alias" :: rest =>
    let (name, rest) ← readName rest
    let (type, rest) ← readType fuel (← expect "=" rest)
    return (.alias name type, ← expect ";" rest)
  | .name "enable" :: rest =>
    let (_, rest) ← readName rest
    return (.nothing, ← expect ";" rest)
  | .name "const_assert" :: rest =>
    let (_, rest) ← readTree fuel rest
    return (.nothing, ← expect ";" rest)
  | _ => none

def readAll : Nat → List Token → Option (List Declaration)
  | _, [] => some []
  | 0, _ :: _ => none
  | fuel + 1, ts => do
    let (d, rest) ← readTopLevel fuel ts
    return d :: (← readAll fuel rest)

def read? (text : String) : Option (List Declaration) := do
  let ts ← tokens? (text.toList ++ ['\n'])
  readAll (24 * ts.length + 64) ts

/-- A text is a well-formed and sound module. -/
def accepts (text : String) : Bool := (read? text).any isSoundModule

end SceneGraph.Wgsl

namespace SceneGraph

/-- A module declares every function, texture and sampler that its programs use. -/
def ShaderModule.isClosed (m : ShaderModule) : Bool :=
  m.codes.all fun e =>
    e.helpers.all m.declaredHelpers.contains
      && e.textureNames.all fun name =>
        m.declaredVariables.contains (Code.textureVar name) && m.declaredVariables.contains (Code.samplerVar name)

def Shader.compiles : Shader → Bool
  | .absent => true
  | .verbatim text => Wgsl.accepts text
  | .generated m => m.isClosed

end SceneGraph
