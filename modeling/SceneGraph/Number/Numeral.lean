import SceneGraph.Number.Decimal

/-!
# Numerals inside text

Parameters may spell numbers as text. A numeral is an optional sign followed by a decimal number,
a hexadecimal number with a binary exponent, or the name of an infinity; `nan` takes no sign. Single
underscores may stand between digits. A numeral beyond the range of doubles is refused.
-/
set_option autoImplicit false

namespace SceneGraph.Numeral

def splitSign (cs : List Char) : Bool × List Char :=
  match cs with
  | '-' :: rest => (true, rest)
  | '+' :: rest => (false, rest)
  | _ => (false, cs)

/-- Value of a digit in base ten, or in base sixteen when `hexadecimal`. -/
def digit? (hexadecimal : Bool) (c : Char) : Option Nat :=
  if '0' ≤ c ∧ c ≤ '9' then some (c.toNat - 48)
  else if hexadecimal ∧ 'a' ≤ c.toLower ∧ c.toLower ≤ 'f' then some (c.toLower.toNat - 87)
  else none

/-- What precedes a position while underscores are checked. -/
inductive Seen where
  | start
  | digit
  | underscore
  | other
deriving DecidableEq

def underscoresSeparate (hexadecimal : Bool) : Seen → List Char → Bool
  | seen, [] => seen ≠ .underscore
  | seen, c :: rest =>
    if (digit? hexadecimal c).isSome then underscoresSeparate hexadecimal .digit rest
    else if c = '_' then seen = .digit && underscoresSeparate hexadecimal .underscore rest
    else seen ≠ .underscore && underscoresSeparate hexadecimal .other rest

/-- The digits of a mantissa with at most one point: its value, the number of digits, the number of
digits after the point, and what follows. -/
def readMantissa (hexadecimal : Bool) :
    List Char → Bool → Nat → Nat → Nat → Nat × Nat × Nat × List Char
  | [], _, value, count, places => (value, count, places, [])
  | c :: rest, point, value, count, places =>
    match digit? hexadecimal c with
    | some d =>
      readMantissa hexadecimal rest point (value * (if hexadecimal then 16 else 10) + d) (count + 1)
        (if point then places + 1 else places)
    | none =>
      if c = '_' then readMantissa hexadecimal rest point value count places
      else if c = '.' ∧ ¬ point then readMantissa hexadecimal rest true value count places
      else (value, count, places, c :: rest)

/-- The exponent after its mark: a sign and digits to the end of the numeral. -/
def readExponent? (cs : List Char) : Option Int :=
  let (negative, cs) := splitSign cs
  match cs with
  | c :: _ =>
    if c.isDigit && cs.all (fun c => c.isDigit || c = '_') then
      let n := cs.foldl (fun n c => if c = '_' then n else if n < 10000 then n * 10 + (c.toNat - 48) else n) 0
      some (if negative then -(n : Int) else n)
    else none
  | [] => none

/-- What a text spells as a numeral. -/
inductive Reading where
  | number (x : Float)
  /-- The numeral lies beyond the range of doubles; `x` is the infinity on its side. -/
  | outOfRange (x : Float)
  | none

def Reading.ofMagnitude (x : Float) : Reading := if x.isInf then .outOfRange x else .number x

def Reading.neg : Reading → Reading
  | .number x => .number (-x)
  | .outOfRange x => .outOfRange (-x)
  | .none => .none

def Reading.toFloat? : Reading → Option Float
  | .number x => some x
  | _ => Option.none

def readMagnitude (cs : List Char) : Reading :=
  let (hexadecimal, digits) := match cs with
    | '0' :: x :: c :: rest => if x.toLower = 'x' then (true, c :: rest) else (false, cs)
    | _ => (false, cs)
  let before : Seen := if hexadecimal then .digit else .start
  if cs.contains '_' && !underscoresSeparate hexadecimal before digits then .none
  else
    let (value, count, places, rest) := readMantissa hexadecimal digits false 0 0 0
    if count = 0 then .none
    else match rest with
      | [] =>
        if hexadecimal then .none
        else .ofMagnitude (Decimal.toFloat ⟨false, value, -(places : Int)⟩)
      | mark :: rest =>
        if mark.toLower = (if hexadecimal then 'p' else 'e') then
          match readExponent? rest with
          | some e =>
            .ofMagnitude (if hexadecimal then scaledFloat value (e - 4 * places)
              else Decimal.toFloat ⟨false, value, e - places⟩)
          | Option.none => .none
        else .none

def read (s : String) : Reading :=
  let (negative, cs) := splitSign s.toList
  let word := String.ofList (cs.map Char.toLower)
  if word = "inf" || word = "infinity" then
    .number (if negative then Float.ofBits 0xFFF0000000000000 else Float.ofBits 0x7FF0000000000000)
  else if String.ofList (s.toList.map Char.toLower) = "nan" then .number (Float.ofBits 0x7FF8000000000000)
  else if negative then (readMagnitude cs).neg
  else readMagnitude cs

def toFloat? (s : String) : Option Float := (read s).toFloat?

end SceneGraph.Numeral

/-!
## Written integers

Integers of 64 bits as they are written: decimal ones, and ones whose base follows from how they begin
and whose digits may be grouped by underscores.
-/

namespace SceneGraph.Integer

/-- Why a text is no integer of 64 bits. -/
inductive Fault where
  | malformed
  | outOfRange
deriving Repr, DecidableEq

def Fault.message : Fault → String
  | .malformed => "invalid syntax"
  | .outOfRange => "value out of range"

def digitIn? (base : Nat) (c : Char) : Option Nat :=
  match Numeral.digit? true c with
  | some d => if d < base then some d else none
  | none => none

/-- The value of digits in a base; none when there are none or one is no digit. -/
def magnitude? (base : Nat) (cs : List Char) : Option Nat :=
  if cs.isEmpty then none
  else cs.foldlM (fun n c => (digitIn? base c).map fun d => n * base + d) 0

/-- The greatest and, less one, the negated least integer of 64 bits. -/
def greatest : Nat := 9223372036854775807

/-- A magnitude with its sign, if it has 64 bits. -/
def withSign (negative : Bool) (n : Nat) : Except Fault Int :=
  if negative then if n ≤ greatest + 1 then .ok (-(n : Int)) else .error .outOfRange
  else if n ≤ greatest then .ok n else .error .outOfRange

def readDecimal (s : String) : Except Fault Int :=
  let (negative, cs) := Numeral.splitSign s.toList
  match magnitude? 10 cs with
  | some n => withSign negative n
  | none => .error .malformed

/-- The base of an unsigned integer and its digits: `0x`, `0o` and `0b` lead to the bases sixteen, eight
and two, another leading zero to base eight. -/
def splitBase (cs : List Char) : Nat × List Char :=
  match cs with
  | '0' :: x :: rest =>
    if x.toLower = 'x' && !rest.isEmpty then (16, rest)
    else if x.toLower = 'o' && !rest.isEmpty then (8, rest)
    else if x.toLower = 'b' && !rest.isEmpty then (2, rest)
    else (8, x :: rest)
  | _ => (10, cs)

/-- The magnitude of an unsigned integer whose base follows from how it begins. -/
def readMagnitude? (cs : List Char) : Option Nat :=
  let (base, digits) := splitBase cs
  let before : Numeral.Seen := if base = 10 then .start else .digit
  if cs.contains '_' && !Numeral.underscoresSeparate (base = 16) before digits then none
  else magnitude? base (digits.filter (· ≠ '_'))

/-- Reads an integer whose base follows from how it begins. -/
def read (s : String) : Except Fault Int :=
  let (negative, cs) := Numeral.splitSign s.toList
  match readMagnitude? cs with
  | some n => withSign negative n
  | none => .error .malformed

end SceneGraph.Integer
