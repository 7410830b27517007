import SceneGraph.Expr.Input
import SceneGraph.Prepare.Names
import SceneGraph.Text.Blank

/-!
# Snippets

A snippet is a function body that the author of a scene writes in the shading language, over the
declared input ports of its node. It becomes a helper function, provided that it is valid code.
-/
set_option autoImplicit false

namespace SceneGraph

/-- An argument of a snippet. -/
structure SnippetArg where
  name : String
  type : ValueType
deriving Repr, DecidableEq

/-- A snippet as a function. -/
structure Snippet where
  name : String
  args : List SnippetArg
  result : ValueType
  /-- The statements of the function. -/
  body : String
deriving Repr, DecidableEq

namespace Snippet

/-- The statements of a written snippet; one without a return is a single expression. -/
def bodyOf (source : String) : String :=
  let text := Text.trim source
  -- The word counts wherever it stands, within a longer name too.
  if Text.contains text "return" then text
  else
    let e := match text.toList.reverse with
      | ';' :: rest => String.ofList rest.reverse
      | _ => text
    "return " ++ e ++ ";"

def source (s : Snippet) : String :=
  "fn " ++ s.name ++ "(" ++ ", ".intercalate (s.args.map fun a => a.name ++ ": " ++ a.type.wgsl) ++ ") -> "
    ++ s.result.wgsl ++ " \x7b\n\t" ++ s.body ++ "\n\x7d\n"

def toHelper (s : Snippet) : HelperFunction := ⟨s.name, s.source⟩

/-- The type in which an argument enters a stage; truth values travel as integers. -/
def stageType : ValueType → ValueType
  | .bool => .int
  | t => t

/-- The declaration of an argument among the inputs of a stage. Between the stages whole numbers are
not interpolated. -/
def stageInput (stage : SnippetStage) (i : Nat) (a : SnippetArg) : String :=
  let t := stageType a.type
  let flat := if stage = .fragment && (t = .int || t = .uint) then " @interpolate(flat)" else ""
  s!"\t@location({i})" ++ flat ++ " " ++ a.name ++ ": " ++ t.wgsl ++ ",\n"

def stageValue (a : SnippetArg) : String :=
  if a.type = .bool then "(in." ++ a.name ++ " != 0)" else "in." ++ a.name

/-- The entry point that runs the function once, on private variables. -/
def computeEntry (s : Snippet) : String :=
  String.join (s.args.map fun a => "var<private> in_" ++ a.name ++ ": " ++ a.type.wgsl ++ ";\n")
    ++ "var<private> out_value: " ++ s.result.wgsl ++ ";\n\n"
    ++ "@compute @workgroup_size(1)\nfn cs_main() \x7b\n\tout_value = " ++ s.name ++ "("
    ++ ", ".intercalate (s.args.map fun a => "in_" ++ a.name) ++ ");\n\x7d\n"

/-- The entry point that runs the function on the inputs of a drawing stage. -/
def drawEntry (s : Snippet) (stage : SnippetStage) : String :=
  let inputs :=
    if s.args.isEmpty then ""
    else "struct SnippetIn \x7b\n" ++ String.join (s.args.zipIdx.map fun (a, i) => stageInput stage i a)
      ++ "\x7d\n\n"
  let param := if s.args.isEmpty then "" else "in: SnippetIn"
  let out := ((Code.bound "r").convert? s.result .vec4).getD (.construct .vec4 [.zero .float])
  let head :=
    if stage = .fragment then "@fragment\nfn fs_main(" ++ param ++ ") -> @location(0) vec4<f32> \x7b\n"
    else "@vertex\nfn vs_main(" ++ param ++ ") -> @builtin(position) vec4<f32> \x7b\n"
  inputs ++ head
    ++ "\tlet r = " ++ s.name ++ "(" ++ ", ".intercalate (s.args.map stageValue) ++ ");\n"
    ++ "\treturn " ++ out.render ++ ";\n\x7d\n"

def stageModule (s : Snippet) (stage : SnippetStage) : String :=
  ShaderModule.globals ++ "\n" ++ s.source ++ "\n"
    ++ if stage = .compute then s.computeEntry else s.drawEntry stage

/-- A checker of the shading language takes the snippet in a stage. -/
def isValid (s : Snippet) (accepts : String → Bool) (stage : SnippetStage) : Bool := accepts (s.stageModule stage)

/-- A name that the shading language accepts for an argument. -/
def isIdentifier (s : String) : Bool :=
  match s.toList with
  | [] => false
  | c :: _ => !c.isDigit && s.toList.all Names.isIdentChar

def typeOf? (name : String) : Option ValueType :=
  match ValueType.ofName? name with
  | some t => if t.isScalar || t.isVector then some t else none
  | none => none

end Snippet

namespace CompileNode

open NodeContext

def snippetArg (n : Node) (p : Port) : SessionM SnippetArg :=
  if !Snippet.isIdentifier p.id then throw (.unsupportedParam n.id "input port" (.str p.id))
  else if p.type = "" then pure ⟨p.id, .float⟩
  else match Snippet.typeOf? p.type with
    | some t => pure ⟨p.id, t⟩
    | none => throw (.unsupportedParam n.id "input type" (.str p.type))

/-- The arguments of declared ports and the expressions wired into them. -/
def snippetInputs (c : NodeContext) (n : Node) : List Port → SessionM (List (SnippetArg × ShaderExpr))
  | [] => pure []
  | p :: rest => do
    let a ← snippetArg n p
    let e ← c.requireType n a.type [p.id]
    let more ← snippetInputs c n rest
    return (a, e) :: more

/-- Tries a snippet in stages until one accepts it; none may. -/
def trySnippet (c : NodeContext) (n : Node) (s : Snippet) : Bool → List SnippetStage → SessionM Bool
  | _, [] => pure false
  | isFirst, stage :: rest => do
    let fields := [("node", n.id), ("stage", stage.label)]
    if s.isValid c.accepts stage then
      if !isFirst then SessionM.debug "expr: snippet accepted on fallback stage" fields
      return true
    else
      SessionM.debug "expr: snippet rejected" fields
      trySnippet c n s false rest

/-- Checks that a snippet is valid code in some stage. -/
def checkSnippet (c : NodeContext) (n : Node) (s : Snippet) : SessionM Unit := do
  if !(← trySnippet c n s true snippetStages) then
    throw (.snippetRefused n.id (s.stageModule .fragment))

/-- The text of a snippet; one without any is refused. -/
def snippetText (n : Node) : SessionM String :=
  match n.string? "source" with
  | some text =>
    if Text.trim text = "" then throw (.unsupportedParam n.id "source" (n.param "source")) else pure text
  | none => throw (.unsupportedParam n.id "source" (n.param "source"))

def snippetType (n : Node) : SessionM ValueType :=
  let name := n.stringOr "type" "float"
  match Snippet.typeOf? name with
  | some t => pure t
  | none => throw (.unsupportedParam n.id "type" (.str name))

def snippet (c : NodeContext) (n : Node) (port : String) : SessionM ShaderExpr :=
  atPort n port "value" do
    let text ← snippetText n
    let result ← snippetType n
    let inputs ← snippetInputs c n n.inputs
    let s : Snippet := {
      name := "expr_" ++ c.prepared.nameOf n.id
      args := inputs.map Prod.fst
      result
      body := Snippet.bodyOf text }
    checkSnippet c n s
    SessionM.helper s.toHelper
    let es := inputs.map Prod.snd
    let e := ShaderExpr.derive (.helper s.name (es.map ShaderExpr.code)) result es
    return { e with helpers := ShaderExpr.addNew e.helpers [s.name] }

end CompileNode

end SceneGraph
