import SceneGraph.Json.Value

/-!
# Reading JSON

`Json.readValue` takes the first value of a text and leaves the rest; `Json.parse` demands that
nothing but blanks follows. Lone surrogate escapes stand for the replacement character, and
nesting is limited to `maxDepth` levels.
-/
set_option autoImplicit false

namespace SceneGraph.Json

/-- Deepest nesting of lists and objects that a text may have. -/
def maxDepth : Nat := 10000

def isBlank (c : Char) : Bool := c = ' ' || c = '\t' || c = '\n' || c = '\r'

def skipBlanks (cs : List Char) : List Char := cs.dropWhile isBlank

/-! ## Strings -/

/-- A piece of a string: a character, or the 16-bit unit of an escape. -/
inductive Piece where
  | char (c : Char)
  | unit (n : Nat)

/-- Joins surrogate pairs; a surrogate without its partner becomes the replacement character. -/
def joinPieces : List Piece → List Char
  | [] => []
  | .char c :: rest => c :: joinPieces rest
  | .unit hi :: .unit lo :: rest =>
    if 0xD800 ≤ hi ∧ hi < 0xDC00 ∧ 0xDC00 ≤ lo ∧ lo < 0xE000 then
      Char.ofNat (0x10000 + (hi - 0xD800) * 0x400 + (lo - 0xDC00)) :: joinPieces rest
    else if 0xD800 ≤ hi ∧ hi < 0xE000 then '\uFFFD' :: joinPieces (.unit lo :: rest)
    else Char.ofNat hi :: joinPieces (.unit lo :: rest)
  | .unit n :: rest =>
    (if 0xD800 ≤ n ∧ n < 0xE000 then '\uFFFD' else Char.ofNat n) :: joinPieces rest

def hexDigit? (c : Char) : Option Nat :=
  if '0' ≤ c ∧ c ≤ '9' then some (c.toNat - 48)
  else if 'a' ≤ c ∧ c ≤ 'f' then some (c.toNat - 87)
  else if 'A' ≤ c ∧ c ≤ 'F' then some (c.toNat - 55)
  else none

def hexUnit? (a b c d : Char) : Option Nat := do
  return (← hexDigit? a) * 4096 + (← hexDigit? b) * 256 + (← hexDigit? c) * 16 + (← hexDigit? d)

/-- The character that a one-letter escape stands for. -/
def unescape? : Char → Option Char
  | '"' => some '"'
  | '\\' => some '\\'
  | '/' => some '/'
  | 'b' => some '\x08'
  | 'f' => some '\x0c'
  | 'n' => some '\n'
  | 'r' => some '\r'
  | 't' => some '\t'
  | _ => none

/-- The pieces of a string whose opening quote has been read, and the text after its closing quote. -/
def readPieces : List Char → List Piece → Option (List Piece × List Char)
  | '"' :: rest, acc => some (acc.reverse, rest)
  | '\\' :: 'u' :: a :: b :: c :: d :: rest, acc =>
    match hexUnit? a b c d with
    | some n => readPieces rest (.unit n :: acc)
    | none => none
  | '\\' :: l :: rest, acc =>
    match unescape? l with
    | some c => readPieces rest (.char c :: acc)
    | none => none
  | c :: rest, acc => if c.toNat < 0x20 || c = '\\' then none else readPieces rest (.char c :: acc)
  | [], _ => none

/-- A string whose opening quote has been read. -/
def readString (cs : List Char) : Option (String × List Char) :=
  (readPieces cs []).map fun (pieces, rest) => (String.ofList (joinPieces pieces), rest)

/-! ## Numbers -/

def spanDigits (cs : List Char) : List Char × List Char := cs.span Char.isDigit

/-- The number that a list of decimal digits denotes. -/
def digitsValue (cs : List Char) : Nat := cs.foldl (fun n c => n * 10 + (c.toNat - 48)) 0

/-- An integer part: a single zero, or digits that do not start with one. -/
def readWhole (cs : List Char) : Option (List Char × List Char) :=
  match spanDigits cs with
  | ([], _) => none
  | ('0' :: _ :: _, _) => (cs.head?).map fun c => ([c], cs.tail)
  | (ds, rest) => some (ds, rest)

/-- An optional fraction; a point needs a digit after it. -/
def readFraction (cs : List Char) : Option (List Char × List Char) :=
  match cs with
  | '.' :: rest =>
    match spanDigits rest with
    | ([], _) => none
    | (ds, rest) => some (ds, rest)
  | _ => some ([], cs)

/-- An optional exponent; its mark needs a digit after it. -/
def readExponent (cs : List Char) : Option (Int × List Char) :=
  let signed (negative : Bool) (rest : List Char) : Option (Int × List Char) :=
    match spanDigits rest with
    | ([], _) => none
    | (ds, rest) => some (if negative then -(digitsValue ds : Int) else digitsValue ds, rest)
  let marked (rest : List Char) : Option (Int × List Char) :=
    match rest with
    | '-' :: rest => signed true rest
    | '+' :: rest => signed false rest
    | rest => signed false rest
  match cs with
  | 'e' :: rest => marked rest
  | 'E' :: rest => marked rest
  | _ => some (0, cs)

def readNumber (cs : List Char) : Option (Decimal × List Char) := do
  let (negative, cs) := match cs with
    | '-' :: rest => (true, rest)
    | _ => (false, cs)
  let (whole, cs) ← readWhole cs
  let (fraction, cs) ← readFraction cs
  let (exponent, cs) ← readExponent cs
  return (⟨negative, digitsValue (whole ++ fraction), exponent - fraction.length⟩, cs)

/-! ## Values -/

mutual

def readNested : Nat → Nat → List Char → Option (Json × List Char)
  | 0, _, _ => none
  | fuel + 1, depth, cs =>
    match skipBlanks cs with
    | '\x7b' :: rest =>
      if depth = 0 then none
      else match skipBlanks rest with
        | '\x7d' :: rest => some (.obj [], rest)
        | rest => readMembers fuel (depth - 1) [] rest
    | '[' :: rest =>
      if depth = 0 then none
      else match skipBlanks rest with
        | ']' :: rest => some (.arr [], rest)
        | rest => readItems fuel (depth - 1) [] rest
    | '"' :: rest => (readString rest).map fun (s, rest) => (.str s, rest)
    | 't' :: 'r' :: 'u' :: 'e' :: rest => some (.bool true, rest)
    | 'f' :: 'a' :: 'l' :: 's' :: 'e' :: rest => some (.bool false, rest)
    | 'n' :: 'u' :: 'l' :: 'l' :: rest => some (.null, rest)
    | cs => (readNumber cs).map fun (d, rest) => (.num d, rest)

/-- The remaining items of a list, up to its closing bracket. -/
def readItems : Nat → Nat → List Json → List Char → Option (Json × List Char)
  | 0, _, _, _ => none
  | fuel + 1, depth, acc, cs =>
    match readNested fuel depth cs with
    | none => none
    | some (item, rest) =>
      match skipBlanks rest with
      | ',' :: rest => readItems fuel depth (item :: acc) rest
      | ']' :: rest => some (.arr (item :: acc).reverse, rest)
      | _ => none

/-- The remaining members of an object, up to its closing brace. -/
def readMembers : Nat → Nat → List (String × Json) → List Char → Option (Json × List Char)
  | 0, _, _, _ => none
  | fuel + 1, depth, acc, cs =>
    match skipBlanks cs with
    | '"' :: rest =>
      match readString rest with
      | none => none
      | some (name, rest) =>
        match skipBlanks rest with
        | ':' :: rest =>
          match readNested fuel depth rest with
          | none => none
          | some (value, rest) =>
            match skipBlanks rest with
            | ',' :: rest => readMembers fuel depth ((name, value) :: acc) rest
            | '\x7d' :: rest => some (.obj ((name, value) :: acc).reverse, rest)
            | _ => none
        | _ => none
    | _ => none

end

/-- The first value of a text and what follows it. Every step of the reader consumes a character, so
twice the length of the text bounds the number of nested steps. -/
def readValue (cs : List Char) : Option (Json × List Char) :=
  readNested (2 * cs.length + 2) maxDepth cs

/-- The value of a text that holds one value and nothing else. -/
def parse (s : String) : Option Json :=
  match readValue s.toList with
  | some (j, rest) => if skipBlanks rest = [] then some j else none
  | none => none

end SceneGraph.Json
