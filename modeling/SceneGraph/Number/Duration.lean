import SceneGraph.Number.Numeral

/-!
# Durations

Lengths of time in nanoseconds, written as numbers with units: `1h2m`, `150ms`, `1.5s`.
-/
set_option autoImplicit false

namespace SceneGraph

/-- A length of time. -/
structure Duration where
  nanoseconds : Int
deriving Repr, DecidableEq, Inhabited

namespace Duration

def ofMilliseconds (n : Int) : Duration := ⟨n * 1000000⟩

def ofSeconds (n : Int) : Duration := ⟨n * 1000000000⟩

/-! ## Writing -/

/-- The decimals of a fraction of `10^places`, without zeros at the end and with a point before them. -/
def decimals (places n : Nat) : String :=
  let digits := (List.range places).map fun i => n / Nat.pow 10 (places - 1 - i) % 10
  let kept := (digits.reverse.dropWhile (· = 0)).reverse
  if kept.isEmpty then "" else "." ++ String.join (kept.map toString)

/-- A number of units of `10^places` smaller ones. -/
def scaled (places n : Nat) : String := toString (n / Nat.pow 10 places) ++ decimals places (n % Nat.pow 10 places)

def renderMagnitude (n : Nat) : String :=
  if n = 0 then "0s"
  else if n < 1000 then toString n ++ "ns"
  else if n < 1000000 then scaled 3 n ++ "µs"
  else if n < 1000000000 then scaled 6 n ++ "ms"
  else
    let seconds := n / 1000000000
    let minutes := seconds / 60
    let hours := minutes / 60
    (if hours = 0 then "" else toString hours ++ "h")
      ++ (if minutes = 0 then "" else toString (minutes % 60) ++ "m")
      ++ toString (seconds % 60) ++ decimals 9 (n % 1000000000) ++ "s"

def render (d : Duration) : String :=
  if d.nanoseconds < 0 then "-" ++ renderMagnitude d.nanoseconds.natAbs else renderMagnitude d.nanoseconds.natAbs

/-! ## Reading -/

def unit? (name : String) : Option Nat :=
  match name with
  | "ns" => some 1
  | "us" | "µs" | "μs" => some 1000
  | "ms" => some 1000000
  | "s" => some 1000000000
  | "m" => some 60000000000
  | "h" => some 3600000000000
  | _ => none

def limit : Nat := 9223372036854775808

/-- The digits of a fraction as a number and the power of ten that it counts; digits beyond the range are
dropped. -/
def fraction : List Char → Nat → Float → Nat × Float
  | [], n, scale => (n, scale)
  | c :: rest, n, scale =>
    let m := n * 10 + (c.toNat - 48)
    if n > (limit - 1) / 10 || m > limit then (n, scale) else fraction rest m (scale * 10)

def term? (whole : Nat) (places : List Char) (unit : Nat) : Option Nat :=
  if whole > limit / unit then none
  else
    let (f, scale) := fraction places 0 1
    let extra := if f = 0 then 0 else (f.toUInt64.toFloat * (unit.toUInt64.toFloat / scale)).toUInt64.toNat
    let n := whole * unit + extra
    if n > limit then none else some n

def isNumberChar (c : Char) : Bool := c = '.' || c.isDigit

/-- Reads numbers with units to the end of the text; `fuel` bounds their number. -/
def readTerms : Nat → List Char → Nat → Option Nat
  | _, [], total => some total
  | 0, _ :: _, _ => none
  | fuel + 1, cs, total => do
    let whole := cs.takeWhile Char.isDigit
    let rest := cs.dropWhile Char.isDigit
    let (places, rest) := match rest with
      | '.' :: r => (r.takeWhile Char.isDigit, r.dropWhile Char.isDigit)
      | r => ([], r)
    if whole.isEmpty && places.isEmpty then none
    let value := whole.foldl (fun n c => n * 10 + (c.toNat - 48)) 0
    if value > limit then none
    let unit ← unit? (String.ofList (rest.takeWhile fun c => !isNumberChar c))
    let n ← term? value places unit
    if total + n > limit then none
    readTerms fuel (rest.dropWhile fun c => !isNumberChar c) (total + n)

def read? (s : String) : Option Duration := do
  let (negative, cs) := Numeral.splitSign s.toList
  if cs = ['0'] then return ⟨0⟩
  if cs.isEmpty then none
  let n ← readTerms cs.length cs 0
  if negative then return ⟨-(n : Int)⟩
  if n = limit then none
  return ⟨n⟩

end Duration

end SceneGraph
