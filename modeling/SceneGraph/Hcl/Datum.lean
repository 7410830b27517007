import SceneGraph.Number.Wide
import SceneGraph.Scene.Value
import SceneGraph.Text.Nfc

/-!
# Data of schema expressions

The values of expressions and the kinds of values. A value may be absent (`null`) or not yet known, and
then only its kind is known. `Datum.convert?` brings a value to a kind, and `Kind.unify?` finds the kind
that values of several kinds are brought to.
-/
set_option autoImplicit false

namespace SceneGraph.Hcl

/-- The kind of a value. -/
inductive Kind where
  /-- Nothing is known about the kind. -/
  | dynamic
  | bool
  | number
  | string
  | list (element : Kind)
  | map (element : Kind)
  | tuple (elements : List Kind)
  | object (fields : List (String × Kind))
deriving Inhabited

namespace Kind

mutual

def same : Kind → Kind → Bool
  | dynamic, dynamic => true
  | bool, bool => true
  | number, number => true
  | string, string => true
  | list a, list b => same a b
  | map a, map b => same a b
  | tuple as, tuple bs => sameAll as bs
  | object as, object bs => sameFields as bs
  | _, _ => false

def sameAll : List Kind → List Kind → Bool
  | [], [] => true
  | a :: as, b :: bs => same a b && sameAll as bs
  | _, _ => false

def sameFields : List (String × Kind) → List (String × Kind) → Bool
  | [], [] => true
  | (k, a) :: as, (l, b) :: bs => k == l && same a b && sameFields as bs
  | _, _ => false

end

mutual

/-- Values of the source kind may be brought to the target kind. -/
def accepts : Kind → Kind → Bool
  | dynamic, _ => true
  | _, dynamic => true
  | bool, source => match source with
    | bool | string => true
    | _ => false
  | number, source => match source with
    | number | string => true
    | _ => false
  | string, source => match source with
    | bool | number | string => true
    | _ => false
  | list t, source => match source with
    | list s => accepts t s
    | tuple ss => ss.all fun s => accepts t s
    | _ => false
  | map t, source => match source with
    | map s => accepts t s
    | object fields => fields.all fun f => accepts t f.2
    | _ => false
  | tuple ts, source => match source with
    | tuple ss => acceptsAll ts ss
    | _ => false
  | object fields, source => match source with
    | map s => acceptsFields fields fun _ => some s
    | object given => acceptsFields fields fun name => Table.get? given name
    | _ => false

def acceptsAll : List Kind → List Kind → Bool
  | [], [] => true
  | t :: ts, s :: ss => accepts t s && acceptsAll ts ss
  | _, _ => false

def acceptsFields : List (String × Kind) → (String → Option Kind) → Bool
  | [], _ => true
  | (name, t) :: rest, given =>
    (match given name with
      | some s => accepts t s
      | none => false) && acceptsFields rest given

end

mutual

def depth : Kind → Nat
  | list t => depth t + 1
  | map t => depth t + 1
  | tuple ts => depthAll ts + 1
  | object fields => depthFields fields + 1
  | _ => 0

def depthAll : List Kind → Nat
  | [] => 0
  | t :: ts => max (depth t) (depthAll ts)

def depthFields : List (String × Kind) → Nat
  | [] => 0
  | (_, t) :: rest => max (depth t) (depthFields rest)

end

def isDynamic : Kind → Bool
  | dynamic => true
  | _ => false

def isString : Kind → Bool
  | string => true
  | _ => false

def isList : Kind → Bool
  | list _ => true
  | _ => false

def isMap : Kind → Bool
  | map _ => true
  | _ => false

def isTuple : Kind → Bool
  | tuple _ => true
  | _ => false

def isObject : Kind → Bool
  | object _ => true
  | _ => false

def elements : Kind → List Kind
  | list t => [t]
  | map t => [t]
  | tuple ts => ts
  | object fields => fields.map Prod.snd
  | _ => []

def names : Kind → List String
  | object fields => fields.map Prod.fst
  | _ => []

/-- The kinds are all of one sort with elements, so that one of unknown kind leaves the result open. -/
def structured (kinds : List Kind) : Bool :=
  !kinds.isEmpty
    && (kinds.all isMap || kinds.all isList || kinds.all isObject || kinds.all isTuple)

/-- The first kind that all others may be brought to; texts are preferred. -/
def pick? (kinds : List Kind) : Option Kind :=
  let candidates := kinds.filter isString
    ++ kinds.filter (fun t => !t.isString && !t.isDynamic) ++ kinds.filter isDynamic
  candidates.find? fun t => kinds.all fun s => same s t || accepts t s

/-- The kind that values of several kinds are brought to; the fuel is more than their depth. -/
def unifyWith? : Nat → List Kind → Option Kind
  | 0, _ => none
  | fuel + 1, kinds =>
    let firm := kinds.filter fun t => !t.isDynamic
    let open? := firm.length < kinds.length
    let spread := firm.flatMap elements
    if structured firm && open? then some dynamic
    else if firm.all isMap && !firm.isEmpty then (unifyWith? fuel spread).map map
    else if firm.all isList && !firm.isEmpty then (unifyWith? fuel spread).map list
    else if firm.any isMap && firm.all (fun t => t.isMap || t.isObject) then
      match unifyWith? fuel spread with
      | some t => some (map t)
      | none => pick? kinds
    else if firm.any isList && firm.all (fun t => t.isList || t.isTuple) then
      match unifyWith? fuel spread with
      | some t => some (list t)
      | none => pick? kinds
    else match firm with
      | tuple ts :: others =>
        if others.all isTuple then
          if others.all fun t => t.elements.length == ts.length then
            ((List.range ts.length).mapM fun i =>
              unifyWith? fuel (firm.filterMap fun t => t.elements[i]?)).map tuple
          else (unifyWith? fuel spread).map list
        else if others.any isObject then none else pick? kinds
      | object fields :: others =>
        if others.all isObject then
          let names := fields.map Prod.fst
          if others.all fun t => t.names == names then
            ((List.range names.length).mapM fun i =>
              unifyWith? fuel (firm.filterMap fun t => t.elements[i]?)).map fun ts => object (names.zip ts)
          else (unifyWith? fuel spread).map map
        else if others.any isTuple then none else pick? kinds
      | _ => if firm.any isObject && firm.any isTuple then none else pick? kinds

def unify? (kinds : List Kind) : Option Kind := unifyWith? (depthAll kinds + 1) kinds

end Kind

/-- The value of an expression. Fields are listed by ascending name, and texts are in composed form. -/
inductive Datum where
  | null (kind : Kind)
  | unknown (kind : Kind)
  | bool (b : Bool)
  | num (x : Wide)
  | str (s : String)
  | list (kind : Kind) (items : List Datum)
  | map (kind : Kind) (fields : List (String × Datum))
  | tuple (items : List Datum)
  | object (fields : List (String × Datum))
deriving Inhabited

namespace Datum

def ofText (s : String) : Datum := str (Text.nfc s)

mutual

def kind : Datum → Kind
  | null t => t
  | unknown t => t
  | bool _ => .bool
  | num _ => .number
  | str _ => .string
  | list t _ => .list t
  | map t _ => .map t
  | tuple items => .tuple (kinds items)
  | object fields => .object (fieldKinds fields)

def kinds : List Datum → List Kind
  | [] => []
  | d :: rest => kind d :: kinds rest

def fieldKinds : List (String × Datum) → List (String × Kind)
  | [] => []
  | (name, d) :: rest => (name, kind d) :: fieldKinds rest

end

def isNull : Datum → Bool
  | null _ => true
  | _ => false

/-- The value itself is known; its parts may not be. -/
def isKnown : Datum → Bool
  | unknown _ => false
  | _ => true

/-! ## Conversion -/

def readBool? : String → Option Bool
  | "true" | "1" => some true
  | "false" | "0" => some false
  | _ => none

/-- A value that is absent or unknown, with another kind. -/
def recast? (t : Kind) (s : Kind) (d : Datum) : Option Datum :=
  if Kind.same t s || Kind.accepts t s then some d else none

mutual

def convert? : Kind → Datum → Option Datum
  | .dynamic, d => some d
  | .bool, d => match d with
    | null s => recast? .bool s (null .bool)
    | unknown s => recast? .bool s (unknown .bool)
    | bool b => some (bool b)
    | str s => (readBool? s).map bool
    | _ => none
  | .number, d => match d with
    | null s => recast? .number s (null .number)
    | unknown s => recast? .number s (unknown .number)
    | num x => some (num x)
    | str s => (Wide.ofText? s).map num
    | _ => none
  | .string, d => match d with
    | null s => recast? .string s (null .string)
    | unknown s => recast? .string s (unknown .string)
    | str s => some (str s)
    | num x => some (str x.toText)
    | bool b => some (str (if b then "true" else "false"))
    | _ => none
  | .list t, d => match d with
    | null s => recast? (.list t) s (null (.list t))
    | unknown s => recast? (.list t) s (unknown (.list t))
    | list _ items => (items.mapM fun d => convert? t d).map (list t)
    | tuple items => (items.mapM fun d => convert? t d).map (list t)
    | _ => none
  | .map t, d => match d with
    | null s => recast? (.map t) s (null (.map t))
    | unknown s => recast? (.map t) s (unknown (.map t))
    | map _ fields => (fields.mapM fun f => (convert? t f.2).map (Prod.mk f.1)).map (map t)
    | object fields => (fields.mapM fun f => (convert? t f.2).map (Prod.mk f.1)).map (map t)
    | _ => none
  | .tuple ts, d => match d with
    | null s => recast? (.tuple ts) s (null (.tuple ts))
    | unknown s => recast? (.tuple ts) s (unknown (.tuple ts))
    | tuple items => (convertAll? ts items).map tuple
    | _ => none
  | .object fs, d => match d with
    | null s => recast? (.object fs) s (null (.object fs))
    | unknown s => recast? (.object fs) s (unknown (.object fs))
    | map _ fields => (convertFields? fs fields).map object
    | object fields => (convertFields? fs fields).map object
    | _ => none

def convertAll? : List Kind → List Datum → Option (List Datum)
  | [], [] => some []
  | t :: ts, d :: ds => do return (← convert? t d) :: (← convertAll? ts ds)
  | _, _ => none

/-- Brings the values of the named fields to their kinds; other fields are dropped. -/
def convertFields? : List (String × Kind) → List (String × Datum) → Option (List (String × Datum))
  | [], _ => some []
  | (name, t) :: rest, fields => do
    let d ← Table.get? fields name
    return (name, ← convert? t d) :: (← convertFields? rest fields)

end

/-! ## Equality -/

mutual

/-- Whether two values are equal, if that is known. Absent values are equal whatever their kinds. -/
def equal? : Datum → Datum → Option Bool
  | unknown _, _ => none
  | null _, d => match d with
    | unknown _ => none
    | d => some d.isNull
  | bool a, d => match d with
    | unknown _ => none
    | bool b => some (a == b)
    | _ => some false
  | num a, d => match d with
    | unknown _ => none
    | num b => some (a.order b == .eq)
    | _ => some false
  | str a, d => match d with
    | unknown _ => none
    | str b => some (a == b)
    | _ => some false
  | list s as, d => match d with
    | unknown _ => none
    | list t bs => if Kind.same s t then equalAll? as bs else some false
    | _ => some false
  | map s as, d => match d with
    | unknown _ => none
    | map t bs => if Kind.same s t then equalFields? as bs else some false
    | _ => some false
  | tuple as, d => match d with
    | unknown _ => none
    | tuple bs => if Kind.sameAll (kinds as) (kinds bs) then equalAll? as bs else some false
    | _ => some false
  | object as, d => match d with
    | unknown _ => none
    | object bs =>
      if Kind.sameFields (fieldKinds as) (fieldKinds bs) then equalFields? as bs else some false
    | _ => some false

def equalAll? : List Datum → List Datum → Option Bool
  | [], [] => some true
  | a :: as, b :: bs => do
    if ← equal? a b then equalAll? as bs else return false
  | _, _ => some false

def equalFields? : List (String × Datum) → List (String × Datum) → Option Bool
  | [], [] => some true
  | (k, a) :: as, (l, b) :: bs => do
    if k != l then return false
    else if ← equal? a b then equalFields? as bs else return false
  | _, _ => some false

end

/-! ## Access -/

def items? : Datum → Option (List Datum)
  | list _ items => some items
  | tuple items => some items
  | _ => none

def entries? : Datum → Option (List (Datum × Datum))
  | list _ items => some ((List.range items.length).map (fun i => num (Wide.ofNat i)) |>.zip items)
  | tuple items => some ((List.range items.length).map (fun i => num (Wide.ofNat i)) |>.zip items)
  | map _ fields => some (fields.map fun f => (str f.1, f.2))
  | object fields => some (fields.map fun f => (str f.1, f.2))
  | _ => none

def position? (key : Datum) : Option Nat := do
  match key with
  | num x =>
    let i ← x.toInt?
    if 0 ≤ i then return i.toNat else none
  | _ => none

/-- The element under a key; absent values have none. -/
def index? (d key : Datum) : Option Datum := do
  if d.isNull || key.isNull then none
  else if d.kind.isDynamic || key.kind.isDynamic then return unknown .dynamic
  else match d.kind with
    | .list t =>
      match ← convert? .number key with
      | unknown _ => return unknown t
      | key =>
        match d.items? with
        | none => return unknown t
        | some items => items[← key.position?]?
    | .tuple ts =>
      match ← convert? .number key with
      | unknown _ => return unknown .dynamic
      | key =>
        match d.items? with
        | none => return unknown (← ts[← key.position?]?)
        | some items => items[← key.position?]?
    | .map t =>
      match ← convert? .string key, d with
      | str name, map _ fields => Table.get? fields name
      | _, _ => return unknown t
    | .object _ =>
      match ← convert? .string key, d with
      | str name, object fields => Table.get? fields name
      | _, _ => return unknown .dynamic
    | _ => none

def attr? (d : Datum) (name : String) : Option Datum :=
  let name := Text.nfc name
  match d with
  | object fields => Table.get? fields name
  | map _ fields => Table.get? fields name
  | unknown (.object fields) => (Table.get? fields name).map unknown
  | unknown (.map t) => some (unknown t)
  | unknown .dynamic => some (unknown .dynamic)
  | _ => none

/-! ## Parameter values -/

/-- The double of a number: the one nearest to its text, if it lies in the range of doubles. Magnitudes
far from the range need no text. -/
def toFloat? : Wide → Option Float
  | .infinite _ _ => none
  | .finite negative m e p =>
    let top : Int := Wide.bitLength m + e
    if m = 0 || top < -1200 then some (if negative then -0.0 else 0.0)
    else if top > 1200 then none
    else Numeral.toFloat? (Wide.finite negative m e p).toText

mutual

/-- The parameter value of a datum whose parts are all known and whose numbers are doubles. -/
def toValue? : Datum → Option Value
  | null _ => some .null
  | unknown _ => none
  | bool b => some (.bool b)
  | num x => (toFloat? x).map .num
  | str s => some (.str s)
  | list _ items => (itemsToValues? items).map .list
  | tuple items => (itemsToValues? items).map .list
  | map _ fields => (fieldsToValues? fields).map .record
  | object fields => (fieldsToValues? fields).map .record

def itemsToValues? : List Datum → Option (List Value)
  | [] => some []
  | d :: rest => do return (← toValue? d) :: (← itemsToValues? rest)

def fieldsToValues? : List (String × Datum) → Option (List (String × Value))
  | [] => some []
  | (k, d) :: rest => do return (k, ← toValue? d) :: (← fieldsToValues? rest)

end

end Datum

end SceneGraph.Hcl
