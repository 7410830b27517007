import SceneGraph.Hcl.Datum
import SceneGraph.Hcl.Parser

/-!
# Evaluating schema expressions

The only names in an expression are those that its own loops bind, and there are no functions. An
expression always has a value, which is unknown where evaluation fails; the failure is noted beside it,
because one in a part that does not count, such as a branch not taken, is forgotten.
-/
set_option autoImplicit false

namespace SceneGraph.Hcl

/-- A value, and whether something failed on the way to it. -/
structure Outcome where
  value : Datum
  failed : Bool := false
deriving Inhabited

namespace Outcome

/-- A failure, after which nothing is known. -/
def fail : Outcome := ⟨.unknown .dynamic, true⟩

/-- A failure, after which only the kind is known. -/
def failAs (kind : Kind) : Outcome := ⟨.unknown kind, true⟩

/-- The outcome, failed if an earlier step failed. -/
def after (earlier : Bool) (o : Outcome) : Outcome := { o with failed := earlier || o.failed }

def ofOption : Option Datum → Outcome
  | some d => { value := d }
  | none => fail

end Outcome

/-- What an expression can refer to: the names of loops, the innermost first, and the item of a repeated
access. -/
structure Scope where
  names : List (String × Datum) := []
  item : Datum := .unknown .dynamic
deriving Inhabited

def Scope.enter (s : Scope) (key value : String) (k v : Datum) : Scope :=
  { s with names := (value, v) :: if key.isEmpty then s.names else (key, k) :: s.names }

def Scope.get? (s : Scope) (name : String) : Option Datum :=
  (s.names.find? fun e => e.1 == name).map Prod.snd

/-! ## Operators -/

def arithmetic? (op : String) (a b : Wide) : Option Datum :=
  match op with
  | "+" => (a.add b).map .num
  | "-" => (a.sub b).map .num
  | "*" => (a.mul b).map .num
  | "/" => (a.div b).map .num
  | "%" => (a.mod b).map .num
  | "<" => some (.bool (a.order b == .lt))
  | ">" => some (.bool (a.order b == .gt))
  | "<=" => some (.bool (a.order b != .gt))
  | ">=" => some (.bool (a.order b != .lt))
  | _ => none

def resultKind (op : String) : Kind :=
  if ["+", "-", "*", "/", "%"].contains op then .number else .bool

def operandKind (op : String) : Kind :=
  if ["==", "!="].contains op then .dynamic
  else if ["&&", "||"].contains op then .bool
  else .number

/-- An operation of two values of the right kind; absent values have no result. -/
def operate? (op : String) (a b : Datum) : Option Datum :=
  match op with
  | "==" => some (match a.equal? b with
    | some r => .bool r
    | none => .unknown .bool)
  | "!=" => some (match a.equal? b with
    | some r => .bool (!r)
    | none => .unknown .bool)
  | op =>
    match a, b with
    | .null _, _ => none
    | _, .null _ => none
    | .unknown _, _ => some (.unknown (resultKind op))
    | _, .unknown _ => some (.unknown (resultKind op))
    | .bool x, .bool y => some (.bool (if op = "&&" then x && y else x || y))
    | .num x, .num y => arithmetic? op x y
    | _, _ => none

def settles (op : String) (d : Datum) : Bool :=
  match op, d with
  | "||", .bool b => b
  | "&&", .bool b => !b
  | "&&", .null _ => true
  | _, _ => false

/-- An operation of two outcomes. A side that settles it makes failures of the other count for nothing. -/
def binary (op : String) (a b : Outcome) : Outcome :=
  let kind := operandKind op
  match a.value.convert? kind, b.value.convert? kind with
  | some x, some y =>
    if settles op x then ⟨.bool (op == "||"), a.failed⟩
    else if settles op y then ⟨.bool (op == "||"), b.failed⟩
    else match operate? op x y with
      | some d => if a.failed || b.failed then .failAs (resultKind op) else ⟨d, false⟩
      | none => .failAs (resultKind op)
  | _, _ => .failAs (resultKind op)

def negate (o : Outcome) : Outcome :=
  match o.value.convert? .number with
  | some (.num x) => ⟨.num x.neg, o.failed⟩
  | some (.unknown _) => ⟨.unknown .number, o.failed⟩
  | _ => .failAs .number

def invert (o : Outcome) : Outcome :=
  match o.value.convert? .bool with
  | some (.bool b) => ⟨.bool (!b), o.failed⟩
  | some (.unknown _) => ⟨.unknown .bool, o.failed⟩
  | _ => .failAs .bool

/-- The kind of a value of either branch; a plain null has no say. -/
def branchKind? (a b : Datum) : Option Kind :=
  match a, b with
  | .null .dynamic, b => some b.kind
  | a, .null .dynamic => some a.kind
  | a, b => Kind.unify? [a.kind, b.kind]

/-- The branches have parts, and one of them is of unknown kind. -/
def branchOpen (a b : Datum) : Bool :=
  !a.isNull && !b.isNull && a.kind.isDynamic != b.kind.isDynamic
    && Kind.structured ([a.kind, b.kind].filter fun t => !t.isDynamic)

def settle (isOpen : Bool) (kind : Kind) (o : Outcome) : Outcome :=
  if isOpen then ⟨.unknown .dynamic, o.failed⟩
  else match o.value.convert? kind with
    | some d => ⟨d, o.failed⟩
    | none => .failAs kind

/-- A choice between two branches; failures of the one not taken count for nothing. -/
def choose (c a b : Outcome) : Outcome :=
  match branchKind? a.value b.value with
  | none => .fail
  | some kind =>
    let isOpen := branchOpen a.value b.value
    match c.value with
    | .null _ => .failAs kind
    | .unknown _ => ⟨.unknown kind, c.failed⟩
    | d =>
      match d.convert? .bool with
      | some (.bool true) => (settle isOpen kind a).after c.failed
      | some (.bool false) => (settle isOpen kind b).after c.failed
      | _ => .failAs kind

/-! ## Texts and collections -/

/-- Joins texts: what was joined so far, or nothing once a part is unknown, and whether a part failed. -/
def joinParts : Option String → Bool → List Outcome → Outcome
  | some s, failed, [] => ⟨.ofText s, failed⟩
  | none, failed, [] => ⟨.unknown .string, failed⟩
  | text, failed, o :: rest =>
    let failed := failed || o.failed
    match o.value with
    | .unknown _ => joinParts none failed rest
    | .null _ => joinParts text true rest
    | d =>
      match d.convert? .string with
      | some (.str s) => joinParts (text.map (· ++ s)) failed rest
      | _ => joinParts text true rest

def joinTuple (o : Outcome) : Outcome :=
  match o.value with
  | .tuple items => joinParts (some "") o.failed (items.map fun d => { value := d })
  | _ => ⟨.unknown .string, o.failed⟩

/-- What a condition decides about an element: whether it is taken, or nothing. -/
def taken? (condition : Option Outcome) : Option Bool :=
  match condition with
  | none => some true
  | some o =>
    match o.value.convert? .bool with
    | some (.bool b) => some b
    | _ => none

def decides (condition : Option Outcome) : Bool :=
  match condition with
  | none => true
  | some o => !o.value.isNull && (o.value.convert? .bool).isSome

def conditionFailed (condition : Option Outcome) : Bool :=
  match condition with
  | none => false
  | some o => o.failed || !decides (some o)

/-- The tuple of a loop, from the conditions and values of its elements. -/
def collectTuple (failed : Bool) (elements : List (Option Outcome × Outcome)) : Outcome :=
  let kept := elements.filter fun e => taken? e.1 == some true
  let failed := failed || elements.any (fun e => conditionFailed e.1) || kept.any fun e => e.2.failed
  if elements.all fun e => (taken? e.1).isSome then ⟨.tuple (kept.map fun e => e.2.value), failed⟩
  else ⟨.unknown .dynamic, failed⟩

def entryName? (key : Outcome) : Option String :=
  match key.value with
  | .null _ => none
  | d =>
    match d.convert? .string with
    | some (.str s) => some s
    | _ => none

/-- The key can be a name, though it may not be known yet. -/
def names (key : Outcome) : Bool := !key.value.isKnown || (entryName? key).isSome

/-- The fields of a loop that builds an object, and whether a name came twice. -/
def collectFields (grouped : Bool) :
    Table (List Datum) → Bool → List (String × Datum) → Table (List Datum) × Bool
  | fields, repeated, [] => (fields, repeated)
  | fields, repeated, (name, d) :: rest =>
    match fields.get? name with
    | none => collectFields grouped (fields.insert name [d]) repeated rest
    | some ds =>
      if grouped then collectFields grouped (fields.insert name (ds ++ [d])) repeated rest
      else collectFields grouped fields true rest

/-- The object of a loop, from the conditions, names and values of its elements. -/
def collectObject (grouped failed : Bool) (elements : List (Option Outcome × Outcome × Outcome)) : Outcome :=
  let kept := elements.filter fun e => taken? e.1 == some true
  let named := kept.filterMap fun e => (entryName? e.2.1).map fun s => (s, e.2.2.value)
  let (fields, repeated) := collectFields grouped [] false named
  let failed := failed || repeated || elements.any (fun e => conditionFailed e.1)
    || kept.any fun e => e.2.1.failed || !names e.2.1 || ((entryName? e.2.1).isSome && e.2.2.failed)
  let known := elements.all (fun e => (taken? e.1).isSome)
    && kept.all fun e => (entryName? e.2.1).isSome
  if known then
    ⟨.object (fields.map fun f => (f.1, if grouped then .tuple f.2 else f.2.headD default)), failed⟩
  else ⟨.unknown .dynamic, failed⟩

/-- The elements that a loop runs over, or the outcome when there are none to run over. -/
def loopEntries (collection : Outcome) : Except Outcome (List (Datum × Datum)) :=
  match collection.value with
  | .null _ => .error .fail
  | .unknown t =>
    if t.isDynamic || t.isList || t.isMap || t.isTuple || t.isObject then
      .error ⟨.unknown .dynamic, collection.failed⟩
    else .error .fail
  | d =>
    match d.entries? with
    | some entries => .ok entries
    | none => .error .fail

/-- The object of a list of keys and values; later entries win. -/
def buildObject (entries : List (Outcome × Outcome)) : Outcome :=
  let failed := entries.any fun e => e.1.failed || e.2.failed || !names e.1
  if entries.all fun e => !e.1.failed && (entryName? e.1).isSome then
    ⟨.object (Table.ofList (entries.filterMap fun e => (entryName? e.1).map fun s => (s, e.2.value))),
      failed⟩
  else ⟨.unknown .dynamic, failed⟩

/-- The source of a repeated access: its items and whether it is a list, or the outcome without any. A
value that is no sequence counts as its only item, and an absent one as no item. -/
def splatItems (source : Outcome) : Except Outcome (Bool × List Datum) :=
  let sequence := source.value.kind.isTuple || source.value.kind.isList
  if source.failed then .error .fail
  else match source.value with
    | .null _ => if sequence then .error .fail else .ok (false, [])
    | .unknown _ => .error ⟨.unknown .dynamic, false⟩
    | .list _ items => .ok (true, items)
    | .tuple items => .ok (false, items)
    | d => .ok (false, [d])

def splatResult (isList : Bool) (results : List Outcome) : Outcome :=
  if results.any fun o => o.failed then .fail
  else
    let ds := results.map fun o => o.value
    match isList, ds with
    | true, d :: _ => ⟨.list d.kind ds, false⟩
    | true, [] => ⟨.list .dynamic [], false⟩
    | false, ds => ⟨.tuple ds, false⟩

/-! ## Expressions -/

mutual

def Expr.eval : Expr → Scope → Outcome
  | .number x, _ => { value := .num x }
  | .text s, _ => { value := .ofText s }
  | .bool b, _ => { value := .bool b }
  | .null, _ => { value := .null .dynamic }
  | .variable name, scope => .ofOption (scope.get? name)
  | .item, scope => { value := scope.item }
  | .call _ _, _ => .fail
  | .tuple items, scope =>
    let os := evalAll items scope
    ⟨.tuple (os.map fun o => o.value), os.any fun o => o.failed⟩
  | .object entries, scope => buildObject (evalEntries entries scope)
  | .forTuple key value collection body condition, scope =>
    let c := collection.eval scope
    match loopEntries c with
    | .error o => o.after c.failed
    | .ok entries =>
      let blind := evalOption condition (scope.enter key value (.unknown .dynamic) (.unknown .dynamic))
      if conditionFailed blind then .fail
      else collectTuple c.failed (entries.map fun e =>
        let inner := scope.enter key value e.1 e.2
        (evalOption condition inner, body.eval inner))
  | .forObject key value collection name body grouped condition, scope =>
    let c := collection.eval scope
    match loopEntries c with
    | .error o => o.after c.failed
    | .ok entries =>
      let blind := evalOption condition (scope.enter key value (.unknown .dynamic) (.unknown .dynamic))
      if conditionFailed blind then .fail
      else collectObject grouped c.failed (entries.map fun e =>
        let inner := scope.enter key value e.1 e.2
        (evalOption condition inner, name.eval inner, body.eval inner))
  | .template parts, scope => joinParts (some "") false (evalAll parts scope)
  | .join e, scope => joinTuple (e.eval scope)
  | .group e, scope => e.eval scope
  | .negate e, scope => negate (e.eval scope)
  | .invert e, scope => invert (e.eval scope)
  | .binary op a b, scope => binary op (a.eval scope) (b.eval scope)
  | .conditional c a b, scope => choose (c.eval scope) (a.eval scope) (b.eval scope)
  | .index e key, scope =>
    let o := e.eval scope
    let k := key.eval scope
    (Outcome.ofOption (o.value.index? k.value)).after (o.failed || k.failed)
  | .attr e name, scope =>
    let o := e.eval scope
    (Outcome.ofOption (o.value.attr? name)).after o.failed
  | .splat e each, scope =>
    match splatItems (e.eval scope) with
    | .error o => o
    | .ok (isList, items) => splatResult isList (items.map fun d => each.eval { scope with item := d })

def evalAll : List Expr → Scope → List Outcome
  | [], _ => []
  | e :: rest, scope => e.eval scope :: evalAll rest scope

def evalOption : Option Expr → Scope → Option Outcome
  | none, _ => none
  | some e, scope => some (e.eval scope)

/-- The outcomes of keys and values. A lone word is a name, and a longer path is no key. -/
def evalEntries : List (Bool × Expr × Expr) → Scope → List (Outcome × Outcome)
  | [], _ => []
  | (strict, key, value) :: rest, scope =>
    let k := key.eval scope
    let k := if strict then k
      else match key.word? with
        | some s => { value := .ofText s }
        | none => if key.isPath then .fail else k
    (k, value.eval scope) :: evalEntries rest scope

end

/-- The value of an expression without names, unless something failed. -/
def Expr.eval? (e : Expr) : Option Datum :=
  let o := e.eval {}
  if o.failed then none else some o.value

end SceneGraph.Hcl
