import SceneGraph.Wgsl.Shape

/-!
# Checking shader modules

A module is sound when every name is declared, every part that is taken exists, every assignment has a
place to go, and loops are left and started over only from within.
-/
set_option autoImplicit false

namespace SceneGraph.Wgsl

/-- Where a statement stands. -/
structure Position where
  /-- Within a loop that can be started over. -/
  inLoop : Bool := false
  /-- Within a loop or a choice that can be left. -/
  canLeave : Bool := false
  isLoopBody : Bool := false
  /-- Directly in what a loop does before it starts over. -/
  isContinuing : Bool := false

def Position.nested (p : Position) : Position := { p with isLoopBody := false, isContinuing := false }

def Position.loop : Position := { inLoop := true, canLeave := true, isLoopBody := true }

def Position.choice (p : Position) : Position := { p.nested with canLeave := true }

def Environment.isSoundOption (env : Environment) (scope : Scope) : Option Tree → Bool
  | none => true
  | some e => (env.infer scope e).isSome

/-- The shape of a declared name, from its type or else from its value. -/
def Environment.declared? (env : Environment) (scope : Scope) (type : Option TypeTree)
    (value : Option Tree) : Option Shape :=
  match type with
  | some t =>
    if env.sizesKnown scope t && env.isSoundOption scope value then env.shapeOf? t else none
  | none =>
    match value with
    | some e => env.infer scope e
    | none => none

def Environment.extend (env : Environment) (scope : Scope) : Statement → Scope
  | .declare isPlace name type value =>
    (name, ⟨(env.declared? scope type value).getD .unknown, isPlace⟩) :: scope
  | _ => scope

def Environment.extendAll (env : Environment) (scope : Scope) (body : List Statement) : Scope :=
  body.foldl env.extend scope

mutual

/-- A statement is sound; `isLast` tells whether it ends its block. -/
def Environment.isSound (env : Environment) (p : Position) (isLast : Bool) (scope : Scope) :
    Statement → Bool
  | .declare _ _ type value => (env.declared? scope type value).isSome
  | .assign target value =>
    (env.infer scope target).isSome && (env.infer scope value).isSome && env.isPlace scope target
  | .discard value => (env.infer scope value).isSome
  | .evaluate e => (env.infer scope e).isSome
  | .result value => env.isSoundOption scope value
  | .choose condition yes no =>
    (env.infer scope condition).isSome && env.allSound p.nested scope yes && env.allSound p.nested scope no
  | .repeated first condition step body =>
    let inner := env.extendAll scope first
    env.allSound p.nested scope first && env.isSoundOption inner condition
      && env.allSound p.nested inner step && env.allSound .loop inner body
  | .cases subject defaults labels bodies =>
    (env.infer scope subject).isSome && defaults == 1 && (env.inferAll scope labels).isSome
      && env.allSound p.choice scope bodies
  | .block body => env.allSound p.nested scope body
  | .continuing body => p.isLoopBody && isLast && env.allSound { isContinuing := true } scope body
  | .leave => p.canLeave
  | .leaveIf condition => p.isContinuing && isLast && (env.infer scope condition).isSome
  | .startOver => p.inLoop
  | .drop => true

def Environment.allSound (env : Environment) (p : Position) (scope : Scope) : List Statement → Bool
  | [] => true
  | s :: rest => env.isSound p rest.isEmpty scope s && env.allSound p (env.extend scope s) rest

end

/-! ## Modules -/

def Environment.ofTypes (ds : List Declaration) : Environment :=
  { records := ds.filterMap fun (d : Declaration) => match d with
      | .record name fields => some (name, fields)
      | _ => none
    aliases := ds.filterMap fun (d : Declaration) => match d with
      | .alias name type => some (name, type)
      | _ => none }

/-- The functions and global names of a module, given its types. -/
def Environment.withNames (env : Environment) (ds : List Declaration) : Environment :=
  let early : Scope := ds.filterMap fun (d : Declaration) => match d with
    | .global isPlace name _ _ => some (name, ⟨.unknown, isPlace⟩)
    | _ => none
  let env := { env with
    functions := ds.filterMap fun (d : Declaration) => match d with
      | .function name params result _ =>
        some (name, ⟨params.length, (result.bind env.shapeOf?).getD .unknown⟩)
      | _ => none }
  { env with
    globals := ds.filterMap fun (d : Declaration) => match d with
      | .global isPlace name type value =>
        some (name, ⟨(env.declared? early type value).getD .unknown, isPlace⟩)
      | _ => none }

/-- A function cannot call itself. -/
def Environment.without (env : Environment) (name : String) : Environment :=
  { env with functions := env.functions.filter fun f => f.1 ≠ name }

def Environment.isSoundDeclaration (env : Environment) : Declaration → Bool
  | .record _ fields => fields.all fun f => (env.shapeOf? f.2).isSome
  | .function name params result body =>
    let scope := params.map (fun p => (p.1, ⟨(env.shapeOf? p.2).getD .unknown, false⟩)) ++ env.globals
    params.all (fun p => (env.shapeOf? p.2).isSome) && result.all (fun t => (env.shapeOf? t).isSome)
      && (env.without name).allSound {} scope body
  | .global _ _ type value => (env.declared? env.globals type value).isSome
  | .alias _ type => (env.shapeOf? type).isSome
  | .nothing => true

def distinctNames : List String → Bool
  | [] => true
  | n :: rest => !rest.contains n && distinctNames rest

def isSoundModule (ds : List Declaration) : Bool :=
  let env := (Environment.ofTypes ds).withNames ds
  distinctNames (ds.filterMap Declaration.name?) && ds.all env.isSoundDeclaration

end SceneGraph.Wgsl
