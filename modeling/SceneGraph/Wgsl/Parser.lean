import SceneGraph.Wgsl.Token
import SceneGraph.Wgsl.Tree

/-!
# Reading function bodies

A recursive reader for the types, expressions and statements of a function body.
-/
set_option autoImplicit false

namespace SceneGraph.Wgsl

def expect (s : String) : List Token → Option (List Token)
  | .symbol t :: rest => if s = t then some rest else none
  | _ => none

def readName : List Token → Option (String × List Token)
  | .name s :: rest => if keywords.contains s then none else some (s, rest)
  | _ => none

/-- Reads the name of a field or parameter, which may be a lone underscore. -/
def readField : List Token → Option (String × List Token)
  | .name "_" :: rest => some ("_", rest)
  | ts => readName ts

/-- The binary operators by rising strength. -/
def levels : List (List (List String)) :=
  [[["||"]], [["&&"]], [["|"]], [["^"]], [["&"]], [["=="], ["!="]],
    [["<="], [">", "="], ["<"], [">"]], [["<<"], [">", ">"]], [["+"], ["-"]], [["*"], ["/"], ["%"]]]

def dropSymbols : List String → List Token → Option (List Token)
  | [], ts => some ts
  | s :: more, ts => do dropSymbols more (← expect s ts)

/-- The operator among `ops` that the tokens begin with. A comparison is no part of a shift or of an
assignment. -/
def operator? (ops : List (List String)) (ts : List Token) : Option (String × List Token) :=
  ops.findSome? fun op =>
    match dropSymbols op ts with
    | none => none
    | some rest =>
      if op = [">"] && (expect ">" rest).isSome then none
      else if op = [">", ">"] && (expect "=" rest).isSome then none
      else some (String.join op, rest)

/-- The operators that may stand in a parameter of a type. -/
def sumLevels : List (List (List String)) := [[["+"], ["-"]], [["*"], ["/"], ["%"]]]

def endsTypeArg (ts : List Token) : Bool := (expect ">" ts).isSome || (expect "," ts).isSome

mutual

def readType : Nat → List Token → Option (TypeTree × List Token)
  | 0, _ => none
  | fuel + 1, ts => do
    let (name, rest) ← readName ts
    match expect "<" rest with
    | none => return (.named name [], rest)
    | some rest =>
      let (args, rest) ← readTypeArgs fuel rest
      return (.named name args, rest)

/-- Reads the parameters of a type up to the closing bracket. -/
def readTypeArgs : Nat → List Token → Option (List TypeTree × List Token)
  | 0, _ => none
  | fuel + 1, ts => do
    let (arg, rest) ← readTypeArg fuel ts
    match expect ">" rest with
    | some rest => return ([arg], rest)
    | none =>
      let rest ← expect "," rest
      match expect ">" rest with
      | some rest => return ([arg], rest)
      | none =>
        let (more, rest) ← readTypeArgs fuel rest
        return (arg :: more, rest)

/-- Reads a parameter of a type: a type, or else an expression without comparisons. -/
def readTypeArg : Nat → List Token → Option (TypeTree × List Token)
  | 0, _ => none
  | fuel + 1, ts =>
    let asSize : Option (TypeTree × List Token) := do
      let (e, rest) ← readLevel fuel sumLevels ts
      return (.size e, rest)
    match readType fuel ts with
    | some (t, rest) => if endsTypeArg rest then some (t, rest) else asSize
    | none => asSize

def readTree : Nat → List Token → Option (Tree × List Token)
  | 0, _ => none
  | fuel + 1, ts => readLevel fuel levels ts

/-- Reads an expression whose operators are at least as strong as the first level. -/
def readLevel : Nat → List (List (List String)) → List Token → Option (Tree × List Token)
  | 0, _, _ => none
  | fuel + 1, [], ts => readUnary fuel ts
  | fuel + 1, ops :: stronger, ts => do
    let (e, rest) ← readLevel fuel stronger ts
    readMore fuel ops stronger e rest

def readMore : Nat → List (List String) → List (List (List String)) → Tree → List Token →
    Option (Tree × List Token)
  | 0, _, _, _, _ => none
  | fuel + 1, ops, stronger, e, ts =>
    match operator? ops ts with
    | none => some (e, ts)
    | some (op, rest) => do
      let (f, rest) ← readLevel fuel stronger rest
      readMore fuel ops stronger (.apply op [e, f]) rest

def readUnary : Nat → List Token → Option (Tree × List Token)
  | 0, _ => none
  | fuel + 1, ts =>
    match ["-", "!", "~", "&", "*"].findSome? fun s => (expect s ts).map fun rest => (s, rest) with
    | some (s, rest) => do
      let (e, rest) ← readUnary fuel rest
      return (.apply s [e], rest)
    | none => do
      let (e, rest) ← readPrimary fuel ts
      readSuffixes fuel e rest

def readSuffixes : Nat → Tree → List Token → Option (Tree × List Token)
  | 0, _, _ => none
  | fuel + 1, e, ts =>
    match expect "." ts with
    | some rest => do
      let (field, rest) ← readField rest
      readSuffixes fuel (.member e field) rest
    | none =>
      match expect "[" ts with
      | some rest => do
        let (i, rest) ← readTree fuel rest
        let rest ← expect "]" rest
        readSuffixes fuel (.index e i) rest
      | none => some (e, ts)

def readPrimary : Nat → List Token → Option (Tree × List Token)
  | 0, _ => none
  | fuel + 1, ts =>
    match ts with
    | .number :: rest => some (.number, rest)
    | .symbol "(" :: rest => do
      let (e, rest) ← readTree fuel rest
      let rest ← expect ")" rest
      return (e, rest)
    | .name "true" :: rest => some (.truth, rest)
    | .name "false" :: rest => some (.truth, rest)
    | _ => do
      let (name, rest) ← readName ts
      if typeGenerators.contains name && (expect "<" rest).isSome then
        let (type, rest) ← readType fuel ts
        let rest ← expect "(" rest
        let (args, rest) ← readArgs fuel rest
        return (.construct type args, rest)
      else match expect "(" rest with
        | some rest =>
          let (args, rest) ← readArgs fuel rest
          return (.call name args, rest)
        | none => return (.name name, rest)

/-- Reads the arguments of a call up to the closing parenthesis. -/
def readArgs : Nat → List Token → Option (List Tree × List Token)
  | 0, _ => none
  | fuel + 1, ts =>
    match expect ")" ts with
    | some rest => some ([], rest)
    | none => do
      let (e, rest) ← readTree fuel ts
      match expect "," rest with
      | some rest =>
        let (more, rest) ← readArgs fuel rest
        return (e :: more, rest)
      | none => return ([e], ← expect ")" rest)

end

/-! ## Statements -/

def assignments : List (List String) :=
  [["="], ["+="], ["-="], ["*="], ["/="], ["%="], ["&="], ["|="], ["^="], ["<<="], [">", ">", "="]]

/-- Reads the type that may follow a declared name. -/
def readAnnotation (fuel : Nat) (ts : List Token) : Option (Option TypeTree × List Token) :=
  match expect ":" ts with
  | none => some (none, ts)
  | some rest => do
    let (t, rest) ← readType fuel rest
    return (some t, rest)

/-- Reads the value that may follow a declared name. -/
def readInitial (fuel : Nat) (ts : List Token) : Option (Option Tree × List Token) :=
  match expect "=" ts with
  | none => some (none, ts)
  | some rest => do
    let (e, rest) ← readTree fuel rest
    return (some e, rest)

/-- A declared name with its type and its value. -/
structure Declared where
  name : String
  type : Option TypeTree
  value : Option Tree

def readDeclared (fuel : Nat) (needsValue : Bool) (ts : List Token) : Option (Declared × List Token) := do
  let (name, rest) ← readName ts
  let (type, rest) ← readAnnotation fuel rest
  let (value, rest) ← readInitial fuel rest
  if needsValue && value.isNone then none
  else if type.isNone && value.isNone then none
  else return (⟨name, type, value⟩, rest)

/-- Reads the declaration of a local name after its keyword. -/
def readDeclaration (fuel : Nat) (isPlace : Bool) (ts : List Token) :
    Option (Statement × List Token) := do
  let (d, rest) ← readDeclared fuel (!isPlace) ts
  return (.declare isPlace d.name d.type d.value, rest)

/-- Skips the address space that may follow the keyword of a variable. -/
def skipSpace (fuel : Nat) (ts : List Token) : Option (List Token) :=
  match expect "<" ts with
  | none => some ts
  | some rest => do
    let (_, rest) ← readTypeArgs fuel rest
    return rest

/-- Reads an assignment, a step or a call. -/
def readSimple (fuel : Nat) (ts : List Token) : Option (Statement × List Token) :=
  match ts with
  | .name "let" :: rest => readDeclaration fuel false rest
  | .name "const" :: rest => readDeclaration fuel false rest
  | .name "var" :: rest => do readDeclaration fuel true (← skipSpace fuel rest)
  | .name "_" :: rest => do
    let rest ← expect "=" rest
    let (e, rest) ← readTree fuel rest
    return (.discard e, rest)
  | _ => do
    let (target, rest) ← readUnary fuel ts
    match operator? assignments rest with
    | some (_, rest) =>
      let (value, rest) ← readTree fuel rest
      return (.assign target value, rest)
    | none =>
      match expect "++" rest, expect "--" rest, target with
      | some rest, _, _ => return (.assign target .number, rest)
      | none, some rest, _ => return (.assign target .number, rest)
      | none, none, .call _ _ => return (.evaluate target, rest)
      | none, none, _ => none

/-- Reads a simple statement that may be missing, and the symbol after it. -/
def readOptional (fuel : Nat) (close : String) (ts : List Token) :
    Option (List Statement × List Token) :=
  match expect close ts with
  | some rest => some ([], rest)
  | none => do
    let (s, rest) ← readSimple fuel ts
    return ([s], ← expect close rest)

def readCondition (fuel : Nat) (ts : List Token) : Option (Option Tree × List Token) :=
  match expect ";" ts with
  | some rest => some (none, rest)
  | none => do
    let (e, rest) ← readTree fuel ts
    return (some e, ← expect ";" rest)

/-- The branches of a choice among values. -/
structure Cases where
  /-- The number of branches for all other values. -/
  defaults : Nat := 0
  labels : List Tree := []
  bodies : List Statement := []

def Cases.append (a b : Cases) : Cases :=
  ⟨a.defaults + b.defaults, a.labels ++ b.labels, a.bodies ++ b.bodies⟩

mutual

def readBlock : Nat → List Token → Option (List Statement × List Token)
  | 0, _ => none
  | fuel + 1, ts => do readStatements fuel (← expect "\x7b" ts)

def readStatements : Nat → List Token → Option (List Statement × List Token)
  | 0, _ => none
  | fuel + 1, ts =>
    match expect "\x7d" ts with
    | some rest => some ([], rest)
    | none =>
      match expect ";" ts with
      | some rest => readStatements fuel rest
      | none => do
        let (s, rest) ← readStatement fuel ts
        let (more, rest) ← readStatements fuel rest
        return (s :: more, rest)

def readStatement : Nat → List Token → Option (Statement × List Token)
  | 0, _ => none
  | fuel + 1, ts =>
    match ts with
    | .symbol "\x7b" :: _ => do
      let (body, rest) ← readBlock fuel ts
      return (.block body, rest)
    | .name "return" :: rest =>
      match expect ";" rest with
      | some rest => some (.result none, rest)
      | none => do
        let (e, rest) ← readTree fuel rest
        return (.result (some e), ← expect ";" rest)
    | .name "if" :: rest => readChoice fuel rest
    | .name "for" :: rest => do
      let rest ← expect "(" rest
      let (first, rest) ← readOptional fuel ";" rest
      let (condition, rest) ← readCondition fuel rest
      let (step, rest) ← readOptional fuel ")" rest
      let (body, rest) ← readBlock fuel rest
      return (.repeated first condition step body, rest)
    | .name "while" :: rest => do
      let (condition, rest) ← readTree fuel rest
      let (body, rest) ← readBlock fuel rest
      return (.repeated [] (some condition) [] body, rest)
    | .name "loop" :: rest => do
      let (body, rest) ← readBlock fuel rest
      return (.repeated [] none [] body, rest)
    | .name "continuing" :: rest => do
      let (body, rest) ← readBlock fuel rest
      return (.continuing body, rest)
    | .name "switch" :: rest => do
      let (subject, rest) ← readTree fuel rest
      let rest ← expect "\x7b" rest
      let (c, rest) ← readCases fuel rest
      return (.cases subject c.defaults c.labels c.bodies, rest)
    | .name "break" :: .name "if" :: rest => do
      let (condition, rest) ← readTree fuel rest
      return (.leaveIf condition, ← expect ";" rest)
    | .name "break" :: rest => do return (.leave, ← expect ";" rest)
    | .name "continue" :: rest => do return (.startOver, ← expect ";" rest)
    | .name "discard" :: rest => do return (.drop, ← expect ";" rest)
    | .name "const_assert" :: rest => do
      let (e, rest) ← readTree fuel rest
      return (.discard e, ← expect ";" rest)
    | _ => do
      let (s, rest) ← readSimple fuel ts
      return (s, ← expect ";" rest)

def readChoice : Nat → List Token → Option (Statement × List Token)
  | 0, _ => none
  | fuel + 1, ts => do
    let (condition, rest) ← readTree fuel ts
    let (yes, rest) ← readBlock fuel rest
    match rest with
    | .name "else" :: .name "if" :: rest =>
      let (no, rest) ← readChoice fuel rest
      return (.choose condition yes [no], rest)
    | .name "else" :: rest =>
      let (no, rest) ← readBlock fuel rest
      return (.choose condition yes no, rest)
    | _ => return (.choose condition yes [], rest)

/-- Reads the cases of a choice among values up to the closing brace. -/
def readCases : Nat → List Token → Option (Cases × List Token)
  | 0, _ => none
  | fuel + 1, ts =>
    match ts with
    | .symbol "\x7d" :: rest => some ({}, rest)
    | .name "default" :: rest => readCaseBody fuel { defaults := 1 } rest
    | .name "case" :: rest => do
      let (labels, rest) ← readLabels fuel rest
      readCaseBody fuel labels rest
    | _ => none

def readCaseBody : Nat → Cases → List Token → Option (Cases × List Token)
  | 0, _, _ => none
  | fuel + 1, c, ts => do
    let (body, rest) ← readBlock fuel ((expect ":" ts).getD ts)
    let (more, rest) ← readCases fuel rest
    return ({ c with bodies := [.block body] }.append more, rest)

def readLabels : Nat → List Token → Option (Cases × List Token)
  | 0, _ => none
  | fuel + 1, ts => do
    let (label, rest) ← match ts with
      | .name "default" :: rest => some (({ defaults := 1 } : Cases), rest)
      | _ => do
        let (e, rest) ← readTree fuel ts
        pure ({ labels := [e] }, rest)
    match expect "," rest with
    | some rest =>
      if (expect ":" rest).isSome || (expect "\x7b" rest).isSome then return (label, rest)
      else
        let (more, rest) ← readLabels fuel rest
        return (label.append more, rest)
    | none => return (label, rest)

end

end SceneGraph.Wgsl
