import SceneGraph.Number.Decimal

/-!
# Elementary functions of doubles

Constants are folded before a shader runs, so the functions that folding needs are defined here on
doubles: rational approximations after an exact reduction of the argument, and operations that are
exact on the bits.
-/
set_option autoImplicit false

namespace SceneGraph.Elementary

/-! ## Signs and special values -/

def infinity : Float := Float.ofBits 0x7FF0000000000000

def notANumber : Float := Float.ofBits 0x7FF8000000000000

def isSigned (x : Float) : Bool := x.toBits >>> 63 == 1

def withSign (x sign : Float) : Float :=
  Float.ofBits ((x.toBits &&& 0x7FFFFFFFFFFFFFFF) ||| (sign.toBits &&& 0x8000000000000000))

def magnitude (x : Float) : Float := Float.ofBits (x.toBits &&& 0x7FFFFFFFFFFFFFFF)

/-- The exact integer value behind a finite double, scaled: `± m · 2^q`. -/
def exact (x : Float) : Int × Int :=
  let b := Decimal.Binary.ofBits x.toBits
  (if isSigned x then -(b.m : Int) else b.m, b.q)

def nearest (m e : Int) : Float :=
  if m < 0 then -(scaledFloat m.natAbs e) else scaledFloat m.natAbs e

def fused (x y z : Float) : Float :=
  if x.isFinite && y.isFinite && z.isFinite then
    let (a, p) := exact x
    let (b, q) := exact y
    let (c, r) := exact z
    let e := min (p + q) r
    let sum := a * b * Nat.pow 2 (p + q - e).toNat + c * Nat.pow 2 (r - e).toNat
    if sum = 0 then x * y + z else nearest sum e
  else x * y + z

/-! ## Order -/

/-- The smaller of two; a value that is no number spreads, and negative zero lies below zero. -/
def lesser (x y : Float) : Float :=
  if x.isNaN || y.isNaN then notANumber
  else if x < y then x
  else if y < x then y
  else if isSigned x then x
  else y

/-- The larger of two; a value that is no number spreads, and negative zero lies below zero. -/
def greater (x y : Float) : Float :=
  if x.isNaN || y.isNaN then notANumber
  else if x > y then x
  else if y > x then y
  else if isSigned x then y
  else x

/-- The smaller of two, where negative infinity wins over everything. -/
def minimum (x y : Float) : Float :=
  if x == -infinity || y == -infinity then -infinity else lesser x y

/-- The larger of two, where infinity wins over everything. -/
def maximum (x y : Float) : Float :=
  if x == infinity || y == infinity then infinity else greater x y

def saturate (x : Float) : Float := lesser (greater x 0) 1

/-! ## Rounding -/

/-- The next integer below. Values without a fraction are kept as they are. -/
def floor (x : Float) : Float :=
  if x == 0 || !x.isFinite || lacksFraction x then x
  else
    let t := truncated x
    if isSigned x then floatOfInt (t - 1) else floatOfInt t

def ceil (x : Float) : Float := -(floor (-x))

/-- The integer part, toward zero. -/
def trunc (x : Float) : Float := if isSigned x then ceil x else floor x

/-- The 64-bit integer nearest to a double, halves away from zero. -/
def roundToInt64 (x : Float) : Int :=
  if !x.isFinite then leastInt64
  else
    let (m, q) := exact x
    let twice := (2 * m.natAbs * Nat.pow 2 q.toNat) / Nat.pow 2 (-q).toNat
    let i : Int := ((twice + 1) / 2 : Nat)
    let i := if m < 0 then -i else i
    if i < leastInt64 || i > 9223372036854775807 then leastInt64 else i

/-- The remainder of a division toward zero, exactly, with the sign of the dividend. -/
def modulo (x y : Float) : Float :=
  if y == 0 || x.isInf || x.isNaN || y.isNaN then notANumber
  else if y.isInf || x == 0 then x
  else
    let (a, p) := exact x
    let (b, q) := exact y
    let e := min p q
    let r := (a.natAbs * Nat.pow 2 (p - e).toNat) % (b.natAbs * Nat.pow 2 (q - e).toNat)
    withSign (scaledFloat r e) x

/-! ## Circular functions -/

def pi : Float := 3.14159265358979323846264338327950288419716939937510582097494459

/-- The first `1217` binary digits of `4 / π`. -/
def fourOverPi : Nat :=
  [0x1, 0x45F306DC9C882A53, 0xF84EAFA3EA69BB81, 0xB6C52B3278872083, 0xFCA2C757BD778AC3,
    0x6E48DC74849BA5C0, 0xC925DD413A32439, 0xFC3BD63962534E7D, 0xD1046BEA5D768909,
    0xD338E04D68BEFC82, 0x7323AC7306A673E9, 0x3908BF177BF25076, 0x3FF12FFFBC0B301F,
    0xDE5E2316B414DA3E, 0xDA6CFD9E4F96136E, 0x9E8C7ECD3CBFD45A, 0xEA4F758FD7CBE2F6,
    0x7A0E73EF14A525D4, 0xD7F6BF623F1ABA10, 0xAC06608DF8F6D757].foldl (fun n d => n * Nat.pow 2 64 + d) 0

/-- Octant and rest of a large argument, in units of `π / 4`: the product with the digits of `4 / π`
that matter is formed in two words. The rest is normalized to the word below the three bits of the octant,
and the places that become free are filled from the top of the lower word. -/
def reduceLarge (x : Float) : Nat × Float :=
  let bits := x.toBits.toNat
  let biased : Nat := bits / Nat.pow 2 52 % 2048
  let mantissa := bits % Nat.pow 2 52 + Nat.pow 2 52
  let offset : Nat := biased + 61 - 1075
  let window := fourOverPi / Nat.pow 2 (1088 - offset) % Nat.pow 2 192
  let high := window / Nat.pow 2 128
  let middle := window / Nat.pow 2 64 % Nat.pow 2 64
  let low := window % Nat.pow 2 64
  let product := (high * mantissa * Nat.pow 2 64 + middle * mantissa + low * mantissa / Nat.pow 2 64) % Nat.pow 2 128
  let octant := product / Nat.pow 2 125
  let fraction := product / Nat.pow 2 61 % Nat.pow 2 64
  let shift : Nat := 64 - fraction.log2
  let digits := fraction * Nat.pow 2 shift % Nat.pow 2 64 + product % Nat.pow 2 64 / Nat.pow 2 (64 - shift)
  let z := scaledFloat (Nat.pow 2 52 + digits / Nat.pow 2 12) (-52 - (shift : Int))
  if octant % 2 = 1 then ((octant + 1) % 8, (z - 1) * (pi / 4)) else (octant, z * (pi / 4))

/-- Octant and rest of a non-negative argument, in units of `π / 4`, with the rest around zero. -/
def reduce (x : Float) : Nat × Float :=
  if x ≥ 536870912 then reduceLarge x
  else
    let j := (truncated (x * (4 / pi))).toNat
    let j := if j % 2 = 1 then j + 1 else j
    let y := scaledFloat j 0
    let z := ((x - y * 7.85398125648498535156e-1) - y * 3.77489470793079817668e-8)
      - y * 2.69515142907905952645e-15
    (j % 8, z)

def sineSeries (z : Float) : Float :=
  let zz := z * z
  z + z * zz * ((((((1.58962301576546568060e-10 * zz) + -2.50507477628578072866e-8) * zz
    + 2.75573136213857245213e-6) * zz + -1.98412698295895385996e-4) * zz
    + 8.33333333332211858878e-3) * zz + -1.66666666666666307295e-1)

def cosineSeries (z : Float) : Float :=
  let zz := z * z
  1.0 - 0.5 * zz + zz * zz * ((((((-1.13585365213876817300e-11 * zz) + 2.08757008419747316778e-9) * zz
    + -2.75573141792967388112e-7) * zz + 2.48015872888517045348e-5) * zz
    + -1.38888888888730564116e-3) * zz + 4.16666666666665929218e-2)

def sineCosine (x : Float) : Float × Float :=
  if x == 0 then (x, 1)
  else if !x.isFinite then (notANumber, notANumber)
  else
    let (j, z) := reduce (magnitude x)
    let flip := j > 3
    let j := j % 4
    let s := if j = 1 || j = 2 then cosineSeries z else sineSeries z
    let c := if j = 1 || j = 2 then sineSeries z else cosineSeries z
    let s := if flip != (x < 0 : Bool) then -s else s
    let c := if flip != (j > 1 : Bool) then -c else c
    (s, c)

def sine (x : Float) : Float := (sineCosine x).1

def cosine (x : Float) : Float := (sineCosine x).2

def tangent (x : Float) : Float :=
  if x == 0 || x.isNaN then x
  else if x.isInf then notANumber
  else
    let (j, z) := reduce (magnitude x)
    let zz := z * z
    let y :=
      if zz > 1e-14 then
        z + z * (zz * (((-1.30936939181383734205e4 * zz) + 1.15351664838587416140e6) * zz
            + -1.79565251976484877988e7)
          / ((((zz + 1.36812963470692954678e4) * zz + -1.32089234440210967447e6) * zz
            + 2.50083801823357915839e7) * zz + -5.38695755929454629881e7))
      else z
    let y := if j / 2 % 2 = 1 then -1 / y else y
    if x < 0 then -y else y

/-- The angle whose tangent is `x`, for small `x`. -/
def arcTangentSmall (x : Float) : Float :=
  let z := x * x
  let z := z * ((((-8.750608600031904122785e-01 * z + -1.615753718733365076637e+01) * z
      + -7.500855792314704667340e+01) * z + -1.228866684490136173410e+02) * z
      + -6.485021904942025371773e+01)
    / (((((z + 2.485846490142306297962e+01) * z + 1.650270098316988542046e+02) * z
      + 4.328810604912902668951e+02) * z + 4.853903996359136964868e+02) * z
      + 1.945506571482613964425e+02)
  x * z + x

/-- The angle whose tangent is `x`, for positive `x`. -/
def arcTangentPositive (x : Float) : Float :=
  let rest : Float := 6.123233995736765886130e-17
  if x ≤ 0.66 then arcTangentSmall x
  else if x > 2.41421356237309504880 then pi / 2 - arcTangentSmall (1 / x) + rest
  else pi / 4 + arcTangentSmall ((x - 1) / (x + 1)) + 0.5 * rest

def arcTangent (x : Float) : Float :=
  if x == 0 then x
  else if x > 0 then arcTangentPositive x
  else -arcTangentPositive (-x)

/-- The angle of the point with ordinate `y` and abscissa `x`. -/
def angle (y x : Float) : Float :=
  if y.isNaN || x.isNaN then notANumber
  else if y == 0 then (if x ≥ 0 && !isSigned x then withSign 0 y else withSign pi y)
  else if x == 0 then withSign (pi / 2) y
  else if x.isInf then
    if x > 0 then (if y.isInf then withSign (pi / 4) y else withSign 0 y)
    else if y.isInf then withSign (3 * pi / 4) y
    else withSign pi y
  else if y.isInf then withSign (pi / 2) y
  else
    let q := arcTangent (y / x)
    if x < 0 then (if q ≤ 0 then q + pi else q - pi) else q

/-! ## Exponentials -/

/-- Fraction in `[1/2, 1)` and exponent of a finite value that is not zero. -/
def fractionExponent (x : Float) : Float × Int :=
  let (m, q) := exact x
  let k := (m.natAbs.log2 : Int) + 1
  (nearest m (-k), q + k)

def scale (x : Float) (e : Int) : Float :=
  if x == 0 || !x.isFinite then x
  else
    let (m, q) := exact x
    withSign (scaledFloat m.natAbs (q + e)) x

def roundToEven (x : Float) : Int :=
  let (m, q) := exact x
  if q ≥ 0 then m * Nat.pow 2 q.toNat
  else
    let d := Nat.pow 2 (-q).toNat
    let n := m.natAbs
    let k := n / d
    let r := 2 * (n % d)
    let k := if r > d || (r = d && k % 2 = 1) then k + 1 else k
    if m < 0 then -(k : Int) else k

def exponential (x : Float) : Float :=
  if x.isNaN then x
  else if x == infinity then x
  else if x == -infinity then 0
  else if x > 7.09782712893384e+02 then infinity
  else if x < -7.5e+02 then 0
  else
    let k := roundToEven (1.4426950408889634073599246810018920 * x)
    let kf := floatOfInt k
    let r := fused (-kf) 0.69314718055966295651160180568695068359375 x
    let r := fused (-kf) 0.28235290563031577122588448175013436025525412068e-12 r
    let r := r * 0.0625
    let p := fused 2.4801587301587301587e-5 r 1.9841269841269841270e-4
    let p := fused p r 1.3888888888888888889e-3
    let p := fused p r 8.3333333333333333333e-3
    let p := fused p r 4.1666666666666666667e-2
    let p := fused p r 1.6666666666666666667e-1
    let p := fused p r 0.5
    let p := fused p r 1.0
    let y := r * p
    let y := y * (y + 2)
    let y := y * (y + 2)
    let y := y * (y + 2)
    let y := fused y (y + 2) 1
    scale y k

/-- Fraction in `[1/2, 1)` and exponent as the bits state them. They fit the value of normal doubles only. -/
def statedFraction (x : Float) : Float × Int :=
  (Float.ofBits ((x.toBits &&& 0x000FFFFFFFFFFFFF) ||| 0x3FE0000000000000),
    ((x.toBits >>> 52).toNat % 2048 : Nat) - 0x3FE)

/-- The natural logarithm. Below the normal doubles the digits are taken as if they were those of a normal
one. -/
def logarithm (x : Float) : Float :=
  if x.isNaN || x == infinity then x
  else if x < 0 then notANumber
  else if x == 0 then -infinity
  else
    let (f1, ki) := statedFraction x
    let (f1, ki) := if f1 ≤ 0.70710678118654752440 then (f1 * 2, ki - 1) else (f1, ki)
    let f := f1 - 1
    let k := floatOfInt ki
    let s := f / (2 + f)
    let s2 := s * s
    let s4 := s2 * s2
    let t1 := s2 * (6.666666666666735130e-01 + s4 * (2.857142874366239149e-01
      + s4 * (1.818357216161805012e-01 + s4 * 1.479819860511658591e-01)))
    let t2 := s4 * (3.999999999940941908e-01 + s4 * (2.222219843214978396e-01
      + s4 * 1.531383769920937332e-01))
    let r := t1 + t2
    let hfsq := 0.5 * f * f
    k * 6.93147180369123816490e-01
      - ((hfsq - (s * (hfsq + r) + k * 1.90821492927058770002e-10)) - f)

def isOdd (x : Float) : Bool := x.isFinite && lacksFraction x && (truncated x) % 2 != 0

/-- Repeated squaring: the product of the powers of `x · 2^xe` whose bits are set in `n`, as a
fraction and an exponent. -/
def powerLoop : Nat → Nat → Float → Int → Float → Int → Float × Int
  | 0, _, _, _, a, ae => (a, ae)
  | fuel + 1, n, x, xe, a, ae =>
    if n = 0 then (a, ae)
    else if xe < -4096 || 4096 < xe then (a, ae + xe)
    else
      let (a, ae) := if n % 2 = 1 then (a * x, ae + xe) else (a, ae)
      let x := x * x
      let xe := 2 * xe
      let (x, xe) := if x < 0.5 then (x + x, xe - 1) else (x, xe)
      powerLoop fuel (n / 2) x xe a ae

def powerFinite (x y : Float) : Float :=
  let ay := magnitude y
  let yi := truncated ay
  let yf := ay - trunc ay
  if yf != 0 && x < 0 then notANumber
  else if yi ≥ 9223372036854775808 then
    if x == -1 then 1
    else if (magnitude x < 1 : Bool) == (y > 0 : Bool) then 0
    else infinity
  else
    let (yf, yi) := if yf > 0.5 then (yf - 1, yi + 1) else (yf, yi)
    let a := if yf != 0 then exponential (yf * logarithm x) else 1
    let (x1, xe) := fractionExponent x
    let (a, ae) := powerLoop 70 yi.toNat x1 xe a 0
    if y < 0 then scale (1 / a) (-ae) else scale a ae

def power (x y : Float) : Float :=
  if y == 0 || x == 1 then 1
  else if y == 1 then x
  else if x.isNaN || y.isNaN then notANumber
  else if x == 0 then
    if y < 0 then (if isSigned x && isOdd y then -infinity else infinity)
    else if isSigned x && isOdd y then x
    else 0
  else if y.isInf then
    if x == -1 then 1
    else if (magnitude x < 1 : Bool) == (y > 0 : Bool) then 0
    else infinity
  else if x.isInf then
    if x < 0 && isOdd y then (if y < 0 then withSign 0 x else x)
    else if y < 0 then 0
    else infinity
  else if y == 0.5 then x.sqrt
  else if y == -0.5 then 1 / x.sqrt
  else powerFinite x y

end SceneGraph.Elementary
