/-!
# Decimal numbers

Decimals `digits · 10^exponent` beside the binary values of double precision, and the two exact
conversions between them:

* `Decimal.toFloat` reads a decimal as the nearest double;
* `Decimal.shortest` selects, for a finite double, the decimal of fewest digits that reads back
  as that double, the nearest one when several have that length.

Selection works on the integers that the bits stand for, so it uses no rounded arithmetic.
-/
set_option autoImplicit false

namespace SceneGraph

/-- The decimal number `± digits · 10^exponent`. -/
structure Decimal where
  negative : Bool := false
  digits : Nat
  exponent : Int
deriving Repr, DecidableEq

namespace Decimal

/-- Number of decimal digits of a natural number; zero has one digit. -/
def digitCount (n : Nat) : Nat := (Nat.toDigits 10 n).length

/-- The nearest double, ties to even. Magnitudes beyond the range become infinite or zero before any
power of ten is formed. -/
def toFloat (d : Decimal) : Float :=
  let top : Int := d.exponent + digitCount d.digits
  let magnitude : Float :=
    if d.digits = 0 then 0
    else if top > 310 then Float.ofBits 0x7FF0000000000000
    else if top < -330 then 0
    else Float.ofScientific d.digits (d.exponent < 0) d.exponent.natAbs
  if d.negative then -magnitude else magnitude

/-! ## The binary side -/

/-- A finite non-negative binary value `m · 2^q`. -/
structure Binary where
  m : Nat
  q : Int
  /-- The gap to the next value below is half the gap to the next value above. -/
  narrowBelow : Bool

/-- The value behind the bits of a finite double, its sign dropped. -/
def Binary.ofBits (b : UInt64) : Binary :=
  let e := ((b >>> 52) &&& 0x7FF).toNat
  let f := (b &&& 0xFFFFFFFFFFFFF).toNat
  if e = 0 then ⟨f, -1074, false⟩ else ⟨Nat.pow 2 52 + f, (e : Int) - 1075, f = 0 && e > 1⟩

def compareScaled (a : Nat) (i : Int) (n : Nat) (j : Int) : Ordering :=
  compare (a * Nat.pow 10 i.toNat * Nat.pow 2 (-j).toNat) (n * Nat.pow 2 j.toNat * Nat.pow 10 (-i).toNat)

/-- The decimal `a · 10^i` lies among the reals that round to `x`: the ends of that interval belong to
it exactly when `m` is even. -/
def Binary.readsBack (x : Binary) (a : Nat) (i : Int) : Bool :=
  let lo := if x.narrowBelow then 4 * x.m - 1 else 4 * x.m - 2
  let hi := 4 * x.m + 2
  let closed := x.m % 2 = 0
  let below := compareScaled a i lo (x.q - 2)
  let above := compareScaled a i hi (x.q - 2)
  (below == .gt || (closed && below == .eq)) && (above == .lt || (closed && above == .eq))

/-- Raises `k` until the value lies below `10^k`, in at most `fuel` steps. -/
def Binary.raiseScale (x : Binary) : Nat → Int → Int
  | 0, k => k
  | fuel + 1, k => if compareScaled 1 k x.m x.q == .gt then k else x.raiseScale fuel (k + 1)

/-- The least `k` with `x < 10^k`, from an estimate by the binary logarithm. -/
def Binary.scale (x : Binary) : Int :=
  x.raiseScale 4 (((x.m.log2 : Int) + x.q) * 30103 / 100000 - 1)

/-- The value's neighbours on the grid `10^(k - n)` that read back: the closer one, an exact tie
going to the even one. -/
def Binary.candidate (x : Binary) (k : Int) (n : Nat) : Option (Nat × Int) :=
  let i : Int := k - n
  let num := x.m * Nat.pow 2 x.q.toNat * Nat.pow 10 (-i).toNat
  let den := Nat.pow 2 (-x.q).toNat * Nat.pow 10 i.toNat
  let lo := num / den
  let hi := lo + 1
  match x.readsBack lo i, x.readsBack hi i with
  | true, true =>
    let twice := 2 * (num % den)
    if twice < den || (twice = den && lo % 2 = 0) then some (lo, i) else some (hi, i)
  | true, false => some (lo, i)
  | false, true => some (hi, i)
  | false, false => none

/-- Moves trailing zeros of the digits into the exponent. -/
def stripZeros : Nat → Nat → Int → Nat × Int
  | 0, a, i => (a, i)
  | fuel + 1, a, i => if a ≠ 0 && a % 10 = 0 then stripZeros fuel (a / 10) (i + 1) else (a, i)

def Binary.exact (x : Binary) : Nat × Int :=
  if x.q ≥ 0 then (x.m * Nat.pow 2 x.q.toNat, 0) else (x.m * Nat.pow 5 (-x.q).toNat, x.q)

/-- The decimal of fewest digits that reads back as the finite double `x`. -/
def shortest (x : Float) : Decimal :=
  let bits := x.toBits
  let negative := bits >>> 63 == 1
  let b := Binary.ofBits bits
  if b.m = 0 then ⟨negative, 0, 0⟩
  else
    let k := b.scale
    let (a, i) := ((List.range 17).findSome? fun n => b.candidate k (n + 1)).getD b.exact
    let (a, i) := stripZeros 400 a i
    ⟨negative, a, i⟩

end Decimal

/-!
## Whole parts of doubles

Conversions from doubles to integers, exactly on the bits.
-/

/-- The integer part of a finite double, toward zero. -/
def truncated (x : Float) : Int :=
  let bits := x.toBits
  let b := Decimal.Binary.ofBits bits
  let magnitude : Nat := b.m * Nat.pow 2 b.q.toNat / Nat.pow 2 (-b.q).toNat
  if bits >>> 63 == 1 then -(magnitude : Int) else magnitude

/-- There are no binary digits behind the point. Infinities and values that are no number have none. -/
def lacksFraction (x : Float) : Bool :=
  let b := Decimal.Binary.ofBits x.toBits
  b.m % Nat.pow 2 (-b.q).toNat == 0

/-- The double equals its integer part, as infinities do. A value that is no number equals nothing. -/
def isWhole (x : Float) : Bool := !x.isNaN && lacksFraction x

/-- The least 64-bit integer, which also stands for every double without a 64-bit integer part. -/
def leastInt64 : Int := -9223372036854775808

/-- The integer wrapped into 64 bits. -/
def wrap64 (i : Int) : Int := Int.bmod i (Nat.pow 2 64)

/-- The 64-bit integer part of a double. -/
def toInt64 (x : Float) : Int :=
  if x.isNaN || x.isInf then leastInt64
  else
    let i := truncated x
    if i < leastInt64 || i > 9223372036854775807 then leastInt64 else i

/-- The double nearest to `m · 2^e`; magnitudes beyond the range become infinite or zero first. -/
def scaledFloat (m : Nat) (e : Int) : Float :=
  if m = 0 then 0
  else if (m.log2 : Int) + e > 1100 then Float.ofBits 0x7FF0000000000000
  else if (m.log2 : Int) + e < -1200 then 0
  else if e ≥ 0 then Float.ofScientific (m * Nat.pow 2 e.toNat) false 0
  else Float.ofScientific (m * Nat.pow 5 e.natAbs) true e.natAbs

/-- The natural number nearest to `n` among those with at most 53 binary digits before their zeros, which
are the ones that doubles hold; ties go to the even one. -/
def nearestWhole (n : Nat) : Nat :=
  let unit := Nat.pow 2 (n.log2 - 52)
  let low := n / unit
  let rest := 2 * (n % unit)
  (if unit < rest || (rest = unit && low % 2 = 1) then low + 1 else low) * unit

def floatOfInt (i : Int) : Float :=
  if i < 0 then -(scaledFloat i.natAbs 0) else scaledFloat i.natAbs 0

/-!
## Written numbers

How a double is laid out as text once its digits are chosen. Two styles share one layout:

* `NumberStyle.general` for diagnostics and generated code,
* `NumberStyle.document` for documents.
-/

/-- Layout decisions for a written double. -/
structure NumberStyle where
  /-- Least decimal exponent of the leading digit that is written positionally. -/
  plainFrom : Int
  /-- Exponents from here on use the exponent form. -/
  plainBelow : Int
  /-- Least number of exponent digits. -/
  exponentWidth : Nat

/-- Diagnostics and generated code: positional from `1e-4` to below `1e6`, exponents of two digits. -/
def NumberStyle.general : NumberStyle := ⟨-4, 6, 2⟩

/-- Documents: positional from `1e-6` to below `1e21`, and exponents are not padded. -/
def NumberStyle.document : NumberStyle := ⟨-6, 21, 1⟩

namespace NumberStyle

def digitChars (n : Nat) : List Char := Nat.toDigits 10 n

def padLeft (width : Nat) (cs : List Char) : List Char :=
  List.replicate (width - cs.length) '0' ++ cs

def positional (digits : List Char) (exponent : Int) : List Char :=
  if exponent ≥ 0 then digits ++ List.replicate exponent.toNat '0'
  else
    let places := (-exponent).toNat
    let padded := padLeft (places + 1) digits
    padded.take (padded.length - places) ++ '.' :: padded.drop (padded.length - places)

/-- A decimal written with one digit before the point and an exponent. -/
def scientific (style : NumberStyle) (digits : List Char) (lead : Int) : List Char :=
  let mantissa := match digits with
    | [] => []
    | [d] => [d]
    | d :: rest => d :: '.' :: rest
  let sign := if lead < 0 then '-' else '+'
  mantissa ++ 'e' :: sign :: padLeft style.exponentWidth (digitChars lead.natAbs)

def layout (style : NumberStyle) (d : Decimal) : String :=
  let digits := digitChars d.digits
  let lead : Int := if d.digits = 0 then 0 else d.exponent + digits.length - 1
  let body :=
    if style.plainFrom ≤ lead ∧ lead < style.plainBelow then positional digits d.exponent
    else scientific style digits lead
  String.ofList (if d.negative then '-' :: body else body)

/-- The text of a double in this style; the values that are no numbers have fixed names. -/
def render (style : NumberStyle) (x : Float) : String :=
  if x.isNaN then "NaN"
  else if x.isInf then (if x > 0 then "+Inf" else "-Inf")
  else style.layout (Decimal.shortest x)

end NumberStyle

end SceneGraph
