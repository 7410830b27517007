/-!
# Programs of the shading language

Types, expressions, statements and declarations of a shader module, as they are written.
-/
set_option autoImplicit false

namespace SceneGraph.Wgsl

mutual

/-- A type as it is written, or a parameter of one that is no type. -/
inductive TypeTree where
  | named (name : String) (args : List TypeTree)
  | size (value : Tree)

inductive Tree where
  | number
  | truth
  | name (s : String)
  | apply (op : String) (args : List Tree)
  | call (function : String) (args : List Tree)
  | construct (type : TypeTree) (args : List Tree)
  | member (e : Tree) (field : String)
  | index (e i : Tree)

end

inductive Statement where
  /-- A name for a value, or for a place that holds one. -/
  | declare (isPlace : Bool) (name : String) (type : Option TypeTree) (value : Option Tree)
  | assign (target value : Tree)
  | discard (value : Tree)
  | evaluate (e : Tree)
  | result (value : Option Tree)
  | choose (condition : Tree) (yes no : List Statement)
  | repeated (first : List Statement) (condition : Option Tree) (step body : List Statement)
  /-- A choice among values, with the number of branches for all others. -/
  | cases (subject : Tree) (defaults : Nat) (labels : List Tree) (bodies : List Statement)
  | block (body : List Statement)
  /-- What a loop does before it starts over. -/
  | continuing (body : List Statement)
  /-- Leaves a loop or a choice among values. -/
  | leave
  | leaveIf (condition : Tree)
  | startOver
  /-- Gives up the pixel. -/
  | drop

/-- A declaration of a module. -/
inductive Declaration where
  | record (name : String) (fields : List (String × TypeTree))
  | function (name : String) (params : List (String × TypeTree)) (result : Option TypeTree)
      (body : List Statement)
  | global (isPlace : Bool) (name : String) (type : Option TypeTree) (value : Option Tree)
  | alias (name : String) (type : TypeTree)
  /-- A directive or an assertion, which declares nothing. -/
  | nothing

def Declaration.name? : Declaration → Option String
  | .record name _ => some name
  | .function name _ _ _ => some name
  | .global _ name _ _ => some name
  | .alias name _ => some name
  | .nothing => none

def keywords : List String :=
  ["alias", "break", "case", "const", "const_assert", "continue", "continuing", "default", "diagnostic",
    "discard", "else", "enable", "false", "fn", "for", "if", "let", "loop", "override", "requires", "return",
    "struct", "switch", "true", "var", "while", "_"]

def typeGenerators : List String :=
  ["vec2", "vec3", "vec4", "mat2x2", "mat2x3", "mat2x4", "mat3x2", "mat3x3", "mat3x4", "mat4x2", "mat4x3",
    "mat4x4", "array", "ptr", "atomic", "bitcast"]

end SceneGraph.Wgsl
