import SceneGraph.Number.Wide
import SceneGraph.Text.Blank

/-!
# Schema documents as trees

A document is a body of attributes and labelled blocks. Expressions keep their structure and are
evaluated later.
-/
set_option autoImplicit false

namespace SceneGraph.Hcl

inductive Expr where
  | number (value : Wide)
  | text (s : String)
  | bool (b : Bool)
  | null
  | variable (name : String)
  /-- The item that a repeated access is applied to. -/
  | item
  | call (name : String) (args : List Expr)
  | tuple (items : List Expr)
  /-- Keys and values; a `strict` key is never taken for a name. -/
  | object (entries : List (Bool × Expr × Expr))
  /-- One value for each element of a collection that meets the condition. -/
  | forTuple (key value : String) (collection body : Expr) (condition : Option Expr)
  /-- One entry for each element; with `grouped`, values of one key are collected. -/
  | forObject (key value : String) (collection name body : Expr) (grouped : Bool) (condition : Option Expr)
  /-- Parts that are joined to one text. -/
  | template (parts : List Expr)
  /-- The elements of a tuple joined to one text. -/
  | join (e : Expr)
  | group (e : Expr)
  | negate (e : Expr)
  | invert (e : Expr)
  | binary (op : String) (a b : Expr)
  | conditional (c a b : Expr)
  | index (e key : Expr)
  | attr (e : Expr) (name : String)
  /-- An access applied to each element. -/
  | splat (e each : Expr)
deriving Inhabited

/-- A body: attributes in order of appearance, then blocks in order of appearance. -/
inductive Body where
  | mk (attributes : List (String × Expr)) (blocks : List (String × List String × Body))
deriving Inhabited

def Body.attributes : Body → List (String × Expr)
  | .mk as _ => as

/-- The blocks of a body: type, labels and body. -/
def Body.blocks : Body → List (String × List String × Body)
  | .mk _ bs => bs

def Expr.isLiteral : Expr → Bool
  | .number _ | .bool _ | .null => true
  | .template [.text _] => true
  | _ => false

/-- The expression is a chain of fixed steps from a variable. -/
def Expr.isPath : Expr → Bool
  | .variable _ => true
  | .attr e _ => e.isPath
  | .index e key => e.isPath && key.isLiteral
  | _ => false

def Expr.word? : Expr → Option String
  | .variable n => some n
  | .bool true => some "true"
  | .bool false => some "false"
  | .null => some "null"
  | _ => none

/-!
## Templates

A template is read as a list of pieces: texts, values and directives. This module takes common
indentation away, and builds the expressions of a list of pieces, in which every opened directive must
be closed.
-/

/-- A piece of a template. -/
inductive Piece where
  | text (s : String)
  | value (e : Expr)
  | ifStart (condition : Expr)
  | elseMark
  | ifEnd
  | forStart (key value : String) (collection : Expr)
  | forEnd

/-- A piece that begins a line: its indentation, or nothing for a blank line. -/
def Piece.indent? : Piece → Option Nat
  | .text s =>
    let rest := s.toList.dropWhile Text.isBlank
    if rest.isEmpty && s.toList.getLast? == some '\n' then none
    else some (s.toList.length - rest.length)
  | _ => some 0

def Piece.endsLine : Piece → Bool
  | .text s => s.toList.getLast? == some '\n'
  | _ => false

/-- The indentations of all lines; `starts` tells whether the first piece begins one. -/
def indents (starts : Bool) : List Piece → List Nat
  | [] => []
  | p :: rest => (if starts then p.indent?.toList else []) ++ indents p.endsLine rest

/-- Takes so many characters away where lines begin that are not blank. -/
def outdent (n : Nat) (starts : Bool) : List Piece → List Piece
  | [] => []
  | p :: rest =>
    let cut := match p with
      | .text s =>
        if starts && p.indent?.isSome then .text (String.ofList (s.toList.drop n)) else .text s
      | p => p
    cut :: outdent n p.endsLine rest

/-- Takes the indentation that all lines share away. -/
def flush (ps : List Piece) : List Piece :=
  match indents true ps with
  | [] => ps
  | n :: more => outdent (more.foldl min n) true ps

def meld : List Piece → List Piece
  | [] => []
  | p :: rest =>
    match p, meld rest with
    | .text a, .text b :: more => .text (a ++ b) :: more
    | p, more => p :: more

/-- What the expressions of a directive end with. -/
inductive Closing where
  | top
  | ofIf
  | ofElse
  | ofFor
deriving Repr, DecidableEq

/-- Parts as one template; without parts it is empty. -/
def joined (parts : List Expr) : Expr := .template (if parts.isEmpty then [.text ""] else parts)

/-- The expressions up to what closes them, what closed them, and the pieces after it. -/
def buildParts : Nat → Closing → List Piece → Option (List Expr × Piece × List Piece)
  | 0, _, _ => none
  | _ + 1, closing, [] => if closing = .top then some ([], .ifEnd, []) else none
  | fuel + 1, closing, p :: rest => do
    let more (e : Expr) (rest : List Piece) : Option (List Expr × Piece × List Piece) := do
      let (es, last, rest) ← buildParts fuel closing rest
      return (e :: es, last, rest)
    match p with
    | .text s => more (.text s) rest
    | .value e => more e rest
    | .ifStart c =>
      let (yes, last, rest) ← buildParts fuel .ofIf rest
      match last with
      | .elseMark =>
        let (no, _, rest) ← buildParts fuel .ofElse rest
        more (.conditional c (joined yes) (joined no)) rest
      | _ => more (.conditional c (joined yes) (joined [])) rest
    | .forStart key value collection =>
      let (body, _, rest) ← buildParts fuel .ofFor rest
      more (.join (.forTuple key value collection (joined body) none)) rest
    | .elseMark => if closing = .ofIf then return ([], .elseMark, rest) else none
    | .ifEnd => if closing = .ofIf || closing = .ofElse then return ([], .ifEnd, rest) else none
    | .forEnd => if closing = .ofFor then return ([], .forEnd, rest) else none

/-- The expression of a template. A single value stands for itself, whatever its type. -/
def ofPieces? (isFlush : Bool) (ps : List Piece) : Option Expr :=
  let ps := if ps.isEmpty then [.text ""] else ps
  match meld (if isFlush then flush ps else ps) with
  | [.value e] => some (.group e)
  | ps => (buildParts (ps.length + 1) .top ps).map fun (parts, _, _) => .template parts

end SceneGraph.Hcl
