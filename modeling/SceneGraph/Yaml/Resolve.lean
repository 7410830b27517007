import SceneGraph.Bytes.Basic
import SceneGraph.Number.Numeral
import SceneGraph.Text.Utf8
import SceneGraph.Yaml.Node

/-!
# What YAML scalars stand for

Scalars that look like timestamps, and what a scalar with or without a tag stands for.
-/
set_option autoImplicit false

/-!
## Timestamps

A date with a year of four digits, and optionally a time of day, which has a zone unless a blank divides
it from the date. Only whether a text is a timestamp matters.
-/

namespace SceneGraph.Yaml.Timestamp

/-- A number of one or two digits at the head of a text. -/
def readTwo? : List Char → Option (Nat × List Char)
  | a :: b :: rest =>
    if !a.isDigit then none
    else if b.isDigit then some (10 * (a.toNat - 48) + (b.toNat - 48), rest)
    else some (a.toNat - 48, b :: rest)
  | [a] => if a.isDigit then some (a.toNat - 48, []) else none
  | [] => none

/-- Drops a character, which must come next. -/
def expect? (c : Char) : List Char → Option (List Char)
  | d :: rest => if d = c then some rest else none
  | [] => none

def isLeap (year : Nat) : Bool := year % 4 = 0 && (year % 100 ≠ 0 || year % 400 = 0)

def daysIn (month year : Nat) : Nat :=
  if month = 2 then if isLeap year then 29 else 28
  else if [4, 6, 9, 11].contains month then 30
  else 31

def readDate? (cs : List Char) : Option (List Char) := do
  let digits := cs.takeWhile Char.isDigit
  if digits.length ≠ 4 then none
  else
    let year ← Integer.magnitude? 10 digits
    let (month, cs) ← readTwo? (← expect? '-' (cs.drop 4))
    let (day, cs) ← readTwo? (← expect? '-' cs)
    if 1 ≤ month && month ≤ 12 && 1 ≤ day && day ≤ daysIn month year then return cs else none

/-- Reads a time of day, whose seconds may have a fraction. -/
def readTime? (cs : List Char) : Option (List Char) := do
  let (hour, cs) ← readTwo? cs
  let (minute, cs) ← readTwo? (← expect? ':' cs)
  let (second, cs) ← readTwo? (← expect? ':' cs)
  if 24 ≤ hour || 60 ≤ minute || 60 ≤ second then none
  else match cs with
    | mark :: rest =>
      if (mark = '.' || mark = ',') && rest.head?.any Char.isDigit then return rest.dropWhile Char.isDigit
      else return cs
    | [] => return []

/-- A zone: a letter, or a sign with hours and minutes. -/
def isZone : List Char → Bool
  | ['Z'] => true
  | [sign, a, b, ':', c, d] =>
    (sign = '+' || sign = '-') && [a, b, c, d].all Char.isDigit
      && (match readTwo? [a, b], readTwo? [c, d] with
        | some (hours, _), some (minutes, _) => hours ≤ 24 && minutes ≤ 60
        | _, _ => false)
  | _ => false

def isTimestamp (s : String) : Bool :=
  match readDate? s.toList with
  | none => false
  | some [] => true
  | some (c :: rest) =>
    if c = 'T' || c = 't' then (readTime? rest).any isZone
    else c = ' ' && (readTime? (rest.dropWhile (· = ' '))).any List.isEmpty

end SceneGraph.Yaml.Timestamp

/-!
## What YAML scalars stand for

A plain scalar without a tag stands for null, a truth value or a number where it looks like one. A tag
must agree with that, except that text and bytes may be written in any way and whole numbers are numbers.
-/

namespace SceneGraph.Yaml

/-- What a scalar stands for. -/
inductive Resolved where
  | null
  | bool (b : Bool)
  | int (i : Int)
  /-- A whole number beyond 64 bits with sign, yet within 64 bits without. -/
  | large (n : Nat)
  | float (x : Float)
  | timestamp
  | text (s : String)

def Resolved.tag : Resolved → String
  | .null => "!!null"
  | .bool _ => "!!bool"
  | .int _ => "!!int"
  | .large _ => "!!int"
  | .float _ => "!!float"
  | .timestamp => "!!timestamp"
  | .text _ => "!!str"

/-- The tags of the format itself have a short form. -/
def shortTag (tag : String) : String :=
  let long := "tag:yaml.org,2002:"
  if tag.startsWith long then "!!" ++ (tag.drop long.length).toString else tag

/-- A decimal number: digits with at most one point, and an exponent. -/
def isDecimal (cs : List Char) : Bool :=
  let (_, cs) := Numeral.splitSign cs
  let whole := cs.takeWhile Char.isDigit
  let rest := cs.dropWhile Char.isDigit
  let (places, rest) := match rest with
    | '.' :: r => (r.takeWhile Char.isDigit, r.dropWhile Char.isDigit)
    | r => ([], r)
  (!whole.isEmpty || !places.isEmpty) && match rest with
    | [] => true
    | e :: r =>
      let (_, digits) := Numeral.splitSign r
      (e = 'e' || e = 'E') && !digits.isEmpty && digits.all Char.isDigit

/-- A whole number whose sign stands after the mark of its base. -/
def lateSign? (cs : List Char) : Option Int :=
  let read (base : Nat) (cs : List Char) : Option Int :=
    let (negative, digits) := Numeral.splitSign cs
    match (Integer.magnitude? base digits).map (Integer.withSign negative) with
    | some (.ok i) => some i
    | _ => none
  match cs with
  | '0' :: 'b' :: rest => read 2 rest
  | '0' :: 'o' :: rest => read 8 rest
  | _ => none

/-- What a plain scalar that begins with a digit or a sign stands for, unless it is a timestamp. -/
def resolveNumber (s : String) : Resolved :=
  let bare := String.ofList (s.toList.filter (· ≠ '_'))
  let float? := if isDecimal bare.toList then Numeral.toFloat? bare else none
  match Integer.read bare with
  | .ok i => .int i
  | .error _ =>
    match (Integer.readMagnitude? bare.toList).filter (· < 18446744073709551616) with
    | some n => .large n
    | none =>
      match float?, lateSign? bare.toList with
      | some x, _ => .float x
      | none, some i => .int i
      | none, none => .text s

/-- What a scalar stands for by its looks. Timestamps are looked for only where `dates` says so. -/
def resolveLooks (dates : Bool) (s : String) : Resolved :=
  match s with
  | "" | "~" | "null" | "Null" | "NULL" => .null
  | "true" | "True" | "TRUE" => .bool true
  | "false" | "False" | "FALSE" => .bool false
  | ".nan" | ".NaN" | ".NAN" => .float (Float.ofBits 0x7FF8000000000000)
  | ".inf" | ".Inf" | ".INF" | "+.inf" | "+.Inf" | "+.INF" => .float (Float.ofBits 0x7FF0000000000000)
  | "-.inf" | "-.Inf" | "-.INF" => .float (Float.ofBits 0xFFF0000000000000)
  | _ =>
    match s.toList with
    | c :: _ =>
      if c = '.' then
        match Numeral.toFloat? s with
        | some x => .float x
        | none => .text s
      else if c = '+' || c = '-' || c.isDigit then
        if dates && Timestamp.isTimestamp s then .timestamp else resolveNumber s
      else .text s
    | [] => .null

/-- What a scalar stands for; nothing if that disagrees with its tag. -/
def resolve? (tag text : String) (isPlain : Bool) : Option Resolved :=
  match shortTag tag with
  | "" => some (if isPlain then resolveLooks true text else .text text)
  | "!!str" => some (.text text)
  | "!!binary" => (Base64.decode? text).map fun bytes => .text (Text.ofBytes bytes)
  | "!!merge" => if text = "<<" then some (.text text) else none
  | tag =>
    match tag, resolveLooks (tag = "!!timestamp") text with
    | "!!float", .int i => some (.float (floatOfInt i))
    | tag, r => if r.tag = tag then some r else none

/-- A key that stands for the entries of other mappings. -/
def Node.isMerge : Node → Bool
  | .scalar tag text isPlain => text = "<<" && ((tag = "" && isPlain) || shortTag tag = "!!merge")
  | _ => false

def Node.sameKey : Node → Node → Bool
  | .scalar _ s _, .scalar _ t _ => s = t
  | .alias s _, .alias t _ => s = t
  | .sequence _, .sequence _ => true
  | .mapping _, .mapping _ => true
  | _, _ => false

def Node.hasRepeats : List (Node × Node) → Bool
  | [] => false
  | (k, _) :: rest => rest.any (fun e => k.sameKey e.1) || hasRepeats rest

end SceneGraph.Yaml
