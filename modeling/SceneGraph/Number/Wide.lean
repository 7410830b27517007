import SceneGraph.Number.Decimal

/-!
# Wide numbers

Binary floating-point numbers that carry their own precision. A result has the larger precision of its
operands and is the nearest number of that precision, the even one of two. Texts are the shortest
decimals that read back at the precision of the number.
-/
set_option autoImplicit false

namespace SceneGraph

/-- A binary floating-point number: `± mantissa · 2^exponent`, or an infinity. -/
inductive Wide where
  | finite (negative : Bool) (mantissa : Nat) (exponent : Int) (precision : Nat)
  | infinite (negative : Bool) (precision : Nat)
deriving Repr, DecidableEq, Inhabited

namespace Wide

def textPrecision : Nat := 512

def countPrecision : Nat := 64

/-- The largest exponent, counted from above the leading bit. -/
def topExponent : Int := 2147483647

def bitLength (n : Nat) : Nat := if n = 0 then 0 else n.log2 + 1

/-- The sign of a number; zero has one too. -/
def isNegative : Wide → Bool
  | finite negative _ _ _ => negative
  | infinite negative _ => negative

def precision : Wide → Nat
  | finite _ _ _ p => p
  | infinite _ p => p

def isZero : Wide → Bool
  | finite _ m _ _ => m == 0
  | infinite _ _ => false

def isInfinite : Wide → Bool
  | finite _ _ _ _ => false
  | infinite _ _ => true

/-- The quotient of `m` by `2^s`, rounded to nearest, ties to even. -/
def roundShift (m s : Nat) : Nat :=
  let unit := Nat.pow 2 s
  let q := m / unit
  let rest := 2 * (m % unit)
  if unit < rest || (rest = unit && q % 2 = 1) then q + 1 else q

/-- The number of a precision nearest to `± m · 2^e`; magnitudes beyond all exponents become infinite
or zero. -/
def nearest (negative : Bool) (m : Nat) (e : Int) (p : Nat) : Wide :=
  let s := bitLength m - p
  let m := roundShift m s
  let e := e + s
  let top := (bitLength m : Int) + e
  if m = 0 then finite negative 0 0 p
  else if top > topExponent then infinite negative p
  else if top < -topExponent - 1 then finite negative 0 0 p
  else finite negative m e p

def ofNat (n : Nat) : Wide := nearest false n 0 countPrecision

def neg : Wide → Wide
  | finite negative m e p => finite (!negative) m e p
  | infinite negative p => infinite (!negative) p

/-- The sum as a number of a precision; opposite infinities have none. -/
def addAt (p : Nat) (x y : Wide) : Option Wide :=
  match x, y with
  | infinite s _, infinite t _ => if s = t then some (infinite s p) else none
  | infinite s _, finite _ _ _ _ => some (infinite s p)
  | finite _ _ _ _, infinite t _ => some (infinite t p)
  | finite s m e _, finite t n f _ =>
    if m = 0 && n = 0 then some (finite (s && t) 0 0 p)
    else
      let low := if m = 0 then f else if n = 0 then e else min e f
      let a : Int := m * Nat.pow 2 (e - low).toNat
      let b : Int := n * Nat.pow 2 (f - low).toNat
      let sum := (if s then -a else a) + (if t then -b else b)
      some (nearest (sum < 0) sum.natAbs low p)

/-- The product as a number of a precision; zero times an infinity has none. -/
def mulAt (p : Nat) (x y : Wide) : Option Wide :=
  let s := x.isNegative != y.isNegative
  match x, y with
  | finite _ m e _, finite _ n f _ => some (nearest s (m * n) (e + f) p)
  | _, _ => if x.isZero || y.isZero then none else some (infinite s p)

def common (x y : Wide) : Nat := max x.precision y.precision

def add (x y : Wide) : Option Wide := addAt (common x y) x y

def sub (x y : Wide) : Option Wide := addAt (common x y) x y.neg

def mul (x y : Wide) : Option Wide := mulAt (common x y) x y

/-- The quotient as a number of a precision; by zero it is infinite, and zero by zero or infinity by
infinity has none. -/
def divAt (p : Nat) (x y : Wide) : Option Wide :=
  let s := x.isNegative != y.isNegative
  match x, y with
  | infinite _ _, infinite _ _ => none
  | infinite _ _, finite _ _ _ _ => some (infinite s p)
  | finite _ _ _ _, infinite _ _ => some (finite s 0 0 p)
  | finite _ m e _, finite _ n f _ =>
    if n = 0 then if m = 0 then none else some (infinite s p)
    else
      let shift := p + 2 + bitLength n - bitLength m
      let scaled := m * Nat.pow 2 shift
      some (nearest s (2 * (scaled / n) + if scaled % n = 0 then 0 else 1) (e - f - shift - 1) p)

def div (x y : Wide) : Option Wide := divAt (common x y) x y

/-- The whole part, without the sign; an infinity has none. -/
def wholePart : Wide → Nat
  | finite _ m e _ => if 0 ≤ e then m * Nat.pow 2 e.toNat else m / Nat.pow 2 (-e).toNat
  | infinite _ _ => 0

/-- What is left of a division with a whole quotient, formed with the precision of the dividend. Dividing
by zero leaves the number as it is, and an infinite quotient has no whole part. -/
def mod (x y : Wide) : Option Wide := do
  if y.isZero then return x
  let q ← x.div y
  if q.isInfinite then none
  else
    let whole := q.wholePart
    let part ← mulAt x.precision y (nearest (q.isNegative && whole ≠ 0) whole 0 x.precision)
    addAt x.precision x part.neg

/-- Compares two numbers; the two zeros are the same. -/
def order (x y : Wide) : Ordering :=
  match x, y with
  | infinite s _, infinite t _ => if s = t then .eq else if s then .lt else .gt
  | infinite s _, finite _ _ _ _ => if s then .lt else .gt
  | finite _ _ _ _, infinite t _ => if t then .gt else .lt
  | finite s m e _, finite t n f _ =>
    if m = 0 && n = 0 then .eq
    else
      let low := if m = 0 then f else if n = 0 then e else min e f
      let a : Int := m * Nat.pow 2 (e - low).toNat
      let b : Int := n * Nat.pow 2 (f - low).toNat
      compare (if s then -a else a) (if t then -b else b)

def toInt? : Wide → Option Int
  | infinite _ _ => none
  | finite negative m e _ =>
    if m = 0 then some 0
    else if 0 ≤ e then
      if e > 4096 then none
      else some (if negative then -(m * Nat.pow 2 e.toNat : Nat) else (m * Nat.pow 2 e.toNat : Nat))
    else
      let unit := Nat.pow 2 (min (-e).toNat (bitLength m + 1))
      if m % unit = 0 then some (if negative then -(m / unit : Nat) else (m / unit : Nat)) else none

/-- The double nearest to a number. Enough leading bits count, with a last one for the rest. -/
def toFloat : Wide → Float
  | infinite negative _ => Float.ofBits (if negative then 0xFFF0000000000000 else 0x7FF0000000000000)
  | finite negative m e _ =>
    let s := bitLength m - 70
    let unit := Nat.pow 2 s
    let x := scaledFloat (2 * (m / unit) + if m % unit = 0 then 0 else 1) (e + s - 1)
    if negative then -x else x

/-! ## Reading -/

/-- Multiplies `z` by the powers `f`, `f²`, `f⁴`, … that the bits of `n` select. -/
def powerLoop : Nat → Nat → Wide → Wide → Wide
  | 0, _, z, _ => z
  | fuel + 1, n, z, f =>
    if n = 0 then z
    else
      let z := if n % 2 = 1 then (mulAt z.precision z f).getD z else z
      powerLoop fuel (n / 2) z ((mulAt f.precision f f).getD f)

/-- A power of five with a precision. Small powers are exact. -/
def powerOfFive (n p : Nat) : Wide :=
  if n ≤ 27 then nearest false (Nat.pow 5 n) 0 p
  else powerLoop 64 (n - 27) (nearest false (Nat.pow 5 27) 0 p) (nearest false 5 0 (p + 64))

/-- The number nearest to `± digits · 10^tens · 2^twos`, formed with spare bits; none when the exponent
is beyond all bounds. -/
def ofScaled? (negative : Bool) (digits : Nat) (tens twos : Int) : Option Wide :=
  let p := textPrecision
  let z := finite negative digits (tens + twos) p
  let power := powerOfFive tens.natAbs (p + 64)
  if digits = 0 then some (finite negative 0 0 p)
  else if (tens + twos + bitLength digits).natAbs > topExponent.natAbs then none
  else if tens = 0 then some (nearest negative digits twos p)
  else if tens < 0 then divAt p z power
  else mulAt p z power

def spanDigits (cs : List Char) : List Char × List Char := cs.span Char.isDigit

def digitsValue (ds : List Char) : Nat := ds.foldl (fun n c => n * 10 + (c.toNat - 48)) 0

/-- The exponent at the end of a text: a mark, a sign and digits. -/
def readExponent? : List Char → Option Int
  | [] => none
  | cs =>
    let (negative, ds) := match cs with
      | '-' :: rest => (true, rest)
      | '+' :: rest => (false, rest)
      | cs => (false, cs)
    if ds.isEmpty || !ds.all Char.isDigit then none
    else some (if negative then -(digitsValue ds : Int) else digitsValue ds)

/-- Reads digits with a point, and an exponent of ten or of two, without a sign before them. -/
def readMagnitude? (negative : Bool) (cs : List Char) : Option Wide := do
  let (whole, rest) := spanDigits cs
  let (fraction, rest) := match rest with
    | '.' :: tail => spanDigits tail
    | rest => ([], rest)
  if whole.isEmpty && fraction.isEmpty then none
  else
    let digits := digitsValue (whole ++ fraction)
    let places : Int := fraction.length
    match rest with
    | [] => ofScaled? negative digits (-places) 0
    | mark :: rest =>
      let e ← readExponent? rest
      if mark = 'e' || mark = 'E' then ofScaled? negative digits (e - places) 0
      else if mark = 'p' || mark = 'P' then ofScaled? negative digits (-places) e
      else none

/-- Reads a number with an optional sign; infinities have a name. -/
def ofText? (s : String) : Option Wide :=
  let (negative, cs) := match s.toList with
    | '-' :: rest => (true, rest)
    | '+' :: rest => (false, rest)
    | cs => (false, cs)
  if cs = ['I', 'n', 'f'] || cs = ['i', 'n', 'f'] then some (infinite negative textPrecision)
  else readMagnitude? negative cs

/-! ## Writing -/

/-- Digits with the place of the point: the value is `0.digits · 10^point`. The last digit is not zero. -/
structure Digits where
  digits : List Char
  point : Int
deriving Repr, DecidableEq

def Digits.trim (d : Digits) : Digits :=
  { d with digits := (d.digits.reverse.dropWhile (· == '0')).reverse }

def exactDigits (m : Nat) (e : Int) : Digits :=
  if m = 0 then ⟨[], 0⟩
  else
    let n := if 0 ≤ e then m * Nat.pow 2 e.toNat else m * Nat.pow 5 (-e).toNat
    let ds := (toString n).toList
    Digits.trim ⟨ds, ds.length + if 0 ≤ e then 0 else e⟩

def Digits.cut (d : Digits) (n : Nat) : Digits :=
  if d.digits.length ≤ n then d else Digits.trim { d with digits := d.digits.take n }

/-- Digits in reverse, with one added to the last. -/
def increment : List Char → List Char
  | [] => []
  | c :: rest => if c == '9' then increment rest else Char.ofNat (c.toNat + 1) :: rest

def Digits.raise (d : Digits) (n : Nat) : Digits :=
  if d.digits.length ≤ n then d
  else match increment (d.digits.take n).reverse with
    | [] => ⟨['1'], d.point + 1⟩
    | ds => { d with digits := ds.reverse }

/-- The first `n` digits, rounded to nearest, ties to even. -/
def Digits.round (d : Digits) (n : Nat) : Digits :=
  match d.digits.drop n with
  | [] => d
  | ['5'] =>
    match (d.digits.take n).getLast? with
    | some c => if c.toNat % 2 = 1 then d.raise n else d.cut n
    | none => d.cut n
  | c :: _ => if '5' ≤ c then d.raise n else d.cut n

/-- The fewest leading digits that lie between the neighbouring bounds, from position `i` on. The bounds
belong to the number when `inclusive`. -/
def shortenFrom (d : Digits) (lower upper : List Char) (inclusive : Bool) : Nat → List Char → Digits
  | _, [] => d
  | i, m :: rest =>
    let l := lower.getD i '0'
    let u := upper.getD i '0'
    let down := l != m || (inclusive && i + 1 == lower.length)
    let up := m != u && (inclusive || m.toNat + 1 < u.toNat || i + 1 < upper.length)
    if down && up then d.round (i + 1)
    else if down then d.cut (i + 1)
    else if up then d.raise (i + 1)
    else shortenFrom d lower upper inclusive (i + 1) rest

/-- The shortest digits that read back as `m · 2^e` at a precision. -/
def shortestDigits (m : Nat) (e : Int) (p : Nat) : Digits :=
  let d := exactDigits m e
  if m = 0 then d
  else
    let shift := p + 1 - bitLength m
    let half := m * Nat.pow 2 shift
    let e := e - shift
    shortenFrom d (exactDigits (half - 1) e).digits (exactDigits (half + 1) e).digits (half / 2 % 2 = 0) 0
      d.digits

/-- The text of a number, without an exponent. -/
def toText : Wide → String
  | infinite negative _ => if negative then "-Inf" else "+Inf"
  | finite negative m e p =>
    let d := shortestDigits m e p
    let body := if d.digits.isEmpty then ['0'] else NumberStyle.positional d.digits (d.point - d.digits.length)
    String.ofList (if negative then '-' :: body else body)

end Wide

end SceneGraph
