import SceneGraph.Hcl.Token
import SceneGraph.Hcl.Tree

/-!
# Reading schema documents

`Hcl.parse?` reads a document into a body. Line ends end attributes and entries of objects; within
other brackets they do not count.
-/
set_option autoImplicit false

namespace SceneGraph.Hcl

def skipLines (ts : List Token) : List Token := ts.dropWhile (· = .lineEnd)

/-- The binary operators by level, the loosest first. -/
def levels : List (List String) :=
  [["||"], ["&&"], ["==", "!="], ["<", ">", "<=", ">="], ["+", "-"], ["*", "/", "%"]]

/-- Within brackets line ends are skipped. -/
def within (nested : Bool) (ts : List Token) : List Token := if nested then skipLines ts else ts

/-- Drops an operator, which must come next. -/
def expectOp (nested : Bool) (op : String) (ts : List Token) : Option (List Token) :=
  match within nested ts with
  | .op s :: rest => if s = op then some rest else none
  | _ => none

/-- The variables of a loop and the word before its collection. -/
def readLoopHead (ts : List Token) : Option (String × String × List Token) :=
  match skipLines ts with
  | .name a :: ts =>
    match skipLines ts with
    | .op "," :: ts =>
      match skipLines ts with
      | .name b :: ts =>
        match skipLines ts with
        | .name "in" :: ts => some (a, b, ts)
        | _ => none
      | _ => none
    | .name "in" :: ts => some ("", a, ts)
    | _ => none
  | _ => none

def ofWord (n : String) : Expr :=
  if n = "true" then .bool true
  else if n = "false" then .bool false
  else if n = "null" then .null
  else .variable n

/-- The function that a name and what follows it calls: the name has parts, or a bracket comes next. -/
def callee? (nested : Bool) (name : String) (ts : List Token) : Option (String × List Token) :=
  match expectOp nested "(" ts with
  | some _ => some (name, ts)
  | none => (expectOp nested "::" ts).map fun ts => calleeParts (ts.length + 1) name ts
where
  /-- The further parts of a name; something else than a name ends them before no bracket. -/
  calleeParts : Nat → String → List Token → String × List Token
    | 0, name, _ => (name, [])
    | fuel + 1, name, ts =>
      match within nested ts with
      | .name part :: ts =>
        match expectOp nested "::" ts with
        | some ts => calleeParts fuel (name ++ "::" ++ part) ts
        | none => (name ++ "::" ++ part, ts)
      | _ => (name, [])

/-- Takes blanks at the end of the last piece away, if it is a text. -/
def trimLast (ps : List Piece) : List Piece :=
  match ps with
  | .text s :: rest => .text (String.ofList (Text.dropTrailing s.toList)) :: rest
  | ps => ps

mutual

/-- An expression; inside brackets it may run over several lines. -/
def readExpr : Nat → Bool → List Token → Option (Expr × List Token)
  | 0, _, _ => none
  | fuel + 1, nested, ts => do
    let (c, ts) ← readBinary fuel nested levels ts
    match within nested ts with
    | .op "?" :: ts =>
      let (a, ts) ← readExpr fuel nested ts
      let ts ← expectOp nested ":" ts
      let (b, ts) ← readExpr fuel nested ts
      return (.conditional c a b, ts)
    | _ => return (c, ts)

def readBinary : Nat → Bool → List (List String) → List Token → Option (Expr × List Token)
  | 0, _, _, _ => none
  | fuel + 1, nested, [], ts => readOperand fuel nested ts
  | fuel + 1, nested, level :: tighter, ts => do
    let (a, ts) ← readBinary fuel nested tighter ts
    readRest fuel nested level tighter a ts

/-- Further operands of a level, grouped to the left. -/
def readRest : Nat → Bool → List String → List (List String) → Expr → List Token →
    Option (Expr × List Token)
  | 0, _, _, _, _, _ => none
  | fuel + 1, nested, level, tighter, a, ts =>
    match within nested ts with
    | .op op :: rest =>
      if level.contains op then do
        let (b, ts) ← readBinary fuel nested tighter rest
        readRest fuel nested level tighter (.binary op a b) ts
      else some (a, ts)
    | _ => some (a, ts)

def readOperand : Nat → Bool → List Token → Option (Expr × List Token)
  | 0, _, _ => none
  | fuel + 1, nested, ts => do
    let (e, ts) ← readTerm fuel nested (within nested ts)
    readAccesses fuel nested e ts

def readAccesses : Nat → Bool → Expr → List Token → Option (Expr × List Token)
  | 0, _, _, _ => none
  | fuel + 1, nested, e, ts =>
    match within nested ts with
    | .op "." :: ts =>
      match within nested ts with
      | .name n :: ts => readAccesses fuel nested (.attr e n) ts
      | .number w false :: ts => readAccesses fuel nested (.index e (.number w)) ts
      | .op "*" :: ts => do
        let (each, ts) ← readAttributes fuel nested .item ts
        readAccesses fuel nested (.splat e each) ts
      | _ => none
    | .op "[" :: ts =>
      match within nested ts with
      | .op "*" :: ts => do
        let ts ← expectOp nested "]" ts
        let (each, ts) ← readAccesses fuel nested .item ts
        readAccesses fuel nested (.splat e each) ts
      | _ => do
        let (key, ts) ← readExpr fuel true ts
        readAccesses fuel nested (.index e key) (← expectOp true "]" ts)
    | _ => some (e, ts)

/-- Attribute accesses, which may be numbers, after an item of a repeated access. -/
def readAttributes : Nat → Bool → Expr → List Token → Option (Expr × List Token)
  | 0, _, _, _ => none
  | fuel + 1, nested, e, ts =>
    match within nested ts with
    | .op "." :: ts =>
      match within nested ts with
      | .name n :: ts => readAttributes fuel nested (.attr e n) ts
      | .number w false :: ts => readAttributes fuel nested (.index e (.number w)) ts
      | _ => none
    | _ => some (e, ts)

def readTerm : Nat → Bool → List Token → Option (Expr × List Token)
  | 0, _, _ => none
  | fuel + 1, nested, ts =>
    match ts with
    | .number w _ :: ts => some (.number w, ts)
    | .openQuote :: ts => do
      let (pieces, ts) ← readPieces fuel .closeQuote [] false ts
      return (← ofPieces? false pieces, ts)
    | .openLines isFlush :: ts => do
      let (pieces, ts) ← readPieces fuel .closeLines [] false ts
      return (← ofPieces? isFlush pieces, ts)
    | .name n :: ts =>
      match callee? nested n ts with
      | some (f, ts) => do
        let (args, ts) ← readSequence fuel ")" [] (← expectOp nested "(" ts)
        return (.call f args, ts)
      | none => some (ofWord n, ts)
    | .op "-" :: ts => (readOperand fuel nested ts).map fun (e, ts) => (.negate e, ts)
    | .op "!" :: ts => (readOperand fuel nested ts).map fun (e, ts) => (.invert e, ts)
    | .op "(" :: ts => do
      let (e, ts) ← readExpr fuel true ts
      return (.group e, ← expectOp true ")" ts)
    | .op "[" :: ts =>
      match skipLines ts with
      | .name "for" :: ts => readLoop fuel "]" ts
      | ts => do
        let (items, ts) ← readSequence fuel "]" [] ts
        return (.tuple items, ts)
    | .op "\x7b" :: ts =>
      match skipLines ts with
      | .name "for" :: ts => readLoop fuel "\x7d" ts
      | _ => do
        let (entries, ts) ← readEntries fuel [] ts
        return (.object entries, ts)
    | _ => none

/-- A loop that builds a tuple or an object, up to its closing bracket. -/
def readLoop : Nat → String → List Token → Option (Expr × List Token)
  | 0, _, _ => none
  | fuel + 1, close, ts => do
    let (key, value, ts) ← readLoopHead ts
    let (collection, ts) ← readExpr fuel true ts
    let (first, ts) ← readExpr fuel true (← expectOp true ":" ts)
    let (second, ts) ← match expectOp true "=>" ts with
      | some ts => (readExpr fuel true ts).map fun (e, ts) => (some e, ts)
      | none => some (none, ts)
    let (grouped, ts) := match expectOp true "..." ts with
      | some ts => (true, ts)
      | none => (false, ts)
    let (condition, ts) ← match skipLines ts with
      | .name "if" :: ts => (readExpr fuel true ts).map fun (e, ts) => (some e, ts)
      | ts => some (none, ts)
    let ts ← expectOp true close ts
    match second with
    | none =>
      if close = "]" && !grouped then return (.forTuple key value collection first condition, ts) else none
    | some body =>
      if close = "]" then none
      else return (.forObject key value collection first body grouped condition, ts)

/-- Comma-separated expressions up to a closing bracket; a trailing comma is allowed. Arguments of a call
may end in an ellipsis. -/
def readSequence : Nat → String → List Expr → List Token → Option (List Expr × List Token)
  | 0, _, _, _ => none
  | fuel + 1, close, acc, ts =>
    match expectOp true close ts with
    | some rest => some (acc.reverse, rest)
    | none => do
      let (e, ts) ← readExpr fuel true ts
      match skipLines ts with
      | .op "," :: ts => readSequence fuel close (e :: acc) ts
      | .op "..." :: ts =>
        if close = ")" then return ((e :: acc).reverse, ← expectOp true close ts) else none
      | ts => return ((e :: acc).reverse, ← expectOp true close ts)

/-- The entries of an object up to its closing brace, separated by commas or line ends. -/
def readEntries : Nat → List (Bool × Expr × Expr) → List Token →
    Option (List (Bool × Expr × Expr) × List Token)
  | 0, _, _ => none
  | fuel + 1, acc, ts =>
    match skipLines ts with
    | .op "\x7d" :: ts => some (acc.reverse, ts)
    | ts => do
      let strict := ts.head? == some (.op "(")
      let (key, ts) ← readExpr fuel false ts
      let ts ← match ts with
        | .op "=" :: ts => some ts
        | .op ":" :: ts => some ts
        | _ => none
      let (value, ts) ← readExpr fuel false ts
      let entry := (strict, key, value)
      match ts with
      | .op "," :: ts => readEntries fuel (entry :: acc) ts
      | .lineEnd :: ts => readEntries fuel (entry :: acc) ts
      | .op "\x7d" :: ts => return ((entry :: acc).reverse, ts)
      | _ => none

/-- The pieces of a template up to its end; `trim` takes blanks at the start of the next text away. -/
def readPieces : Nat → Token → List Piece → Bool → List Token → Option (List Piece × List Token)
  | 0, _, _, _, _ => none
  | fuel + 1, close, acc, trim, ts =>
    match ts with
    | [] => none
    | t :: ts =>
      if t = close then some (acc.reverse, ts)
      else match t with
        | .literal s =>
          let s := if trim then String.ofList (s.toList.dropWhile Text.isBlank) else s
          readPieces fuel close (.text s :: acc) false ts
        | .openCode trims => do
          let (e, ts) ← readExpr fuel true ts
          match skipLines ts with
          | .closeCode trim :: ts =>
            readPieces fuel close (.value e :: if trims then trimLast acc else acc) trim ts
          | _ => none
        | .openDirective trims => do
          let (p, ts) ← readDirective fuel (skipLines ts)
          match skipLines ts with
          | .closeCode trim :: ts => readPieces fuel close (p :: if trims then trimLast acc else acc) trim ts
          | _ => none
        | _ => none

def readDirective : Nat → List Token → Option (Piece × List Token)
  | 0, _ => none
  | fuel + 1, ts =>
    match ts with
    | .name "if" :: ts => (readExpr fuel true ts).map fun (e, ts) => (.ifStart e, ts)
    | .name "else" :: ts => some (.elseMark, ts)
    | .name "endif" :: ts => some (.ifEnd, ts)
    | .name "for" :: ts => do
      let (key, value, ts) ← readLoopHead ts
      let (e, ts) ← readExpr fuel true ts
      return (.forStart key value e, ts)
    | .name "endfor" :: ts => some (.forEnd, ts)
    | _ => none

end

/-! ## Bodies -/

/-- The texts of a quoted label up to the closing quote. -/
def readLabel (acc : String) : List Token → Option (String × List Token)
  | .literal s :: rest => readLabel (acc ++ s) rest
  | .closeQuote :: rest => some (acc, rest)
  | _ => none

/-- The labels of a block up to its opening brace; every label takes a token. -/
def readLabels : Nat → List String → List Token → Option (List String × List Token)
  | 0, _, _ => none
  | fuel + 1, acc, ts =>
    match ts with
    | .name n :: rest => readLabels fuel (n :: acc) rest
    | .openQuote :: rest => do
      let (s, rest) ← readLabel "" rest
      readLabels fuel (s :: acc) rest
    | .op "\x7b" :: rest => some (acc.reverse, rest)
    | _ => none

/-- What must follow an element of a body: a line end or the end of the document. -/
def endOfElement : List Token → Option (List Token)
  | .lineEnd :: rest => some rest
  | [] => some []
  | _ => none

mutual

/-- A body up to its closing brace, or up to the end of the document at the top. -/
def readBody : Nat → Bool → List (String × Expr) → List (String × List String × Body) → List Token →
    Option (Body × List Token)
  | 0, _, _, _, _ => none
  | fuel + 1, top, attributes, blocks, ts =>
    match skipLines ts with
    | [] => if top then some (.mk attributes.reverse blocks.reverse, []) else none
    | .op "\x7d" :: rest => if top then none else some (.mk attributes.reverse blocks.reverse, rest)
    | .name n :: .op "=" :: rest => do
      if attributes.any fun a => a.1 == n then none
      else
        let (e, rest) ← readExpr fuel false rest
        let rest ← endOfElement rest
        readBody fuel top ((n, e) :: attributes) blocks rest
    | .name n :: rest => do
      let (labels, rest) ← readLabels (rest.length + 1) [] rest
      let (body, rest) ← readBlock fuel rest
      let rest ← endOfElement rest
      readBody fuel top attributes ((n, labels, body) :: blocks) rest
    | _ => none

/-- The body of a block: on one line with at most one attribute, or on lines of its own. -/
def readBlock : Nat → List Token → Option (Body × List Token)
  | 0, _ => none
  | fuel + 1, ts =>
    match ts with
    | .op "\x7d" :: rest => some (.mk [] [], rest)
    | .lineEnd :: rest => readBody fuel false [] [] rest
    | .name n :: .op "=" :: rest => do
      let (e, rest) ← readExpr fuel false rest
      match rest with
      | .op "\x7d" :: rest => return (.mk [(n, e)] [], rest)
      | _ => none
    | _ => none

end

/-- The body of a document. Every step takes a token, and no expression nests deeper than the text is
long, so a multiple of its length bounds the steps. A leading byte order mark is skipped. -/
def parse? (text : String) : Option Body := do
  let cs := match text.toList with
    | '\uFEFF' :: rest => rest
    | cs => cs
  let ts ← tokens? cs
  let (body, _) ← readBody (16 * cs.length + 16) true [] [] ts
  return body

end SceneGraph.Hcl
