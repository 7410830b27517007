import SceneGraph.Number.Numeral
import SceneGraph.Yaml.Cursor

/-!
# Scalars in YAML texts

Reads the text of a scalar at a cursor: plain, in single or double quotes, or as a block of lines that are
kept or folded. Nothing is read where the text breaks a rule of the format.
-/
set_option autoImplicit false

namespace SceneGraph.Yaml

/-! ## Plain scalars -/

def endsPlain (inFlow : Bool) : List Char → Bool
  | [] => true
  | c :: rest => isGap c || (c = ':' && endsWord rest) || (inFlow && (isFlowChar c || c = '?'))

def beginsPlain (inFlow : Bool) : List Char → Bool
  | [] => false
  | c :: rest =>
    (!isGap c && !isIndicator c) || (c = '-' && !rest.head?.any isBlank)
      || (!inFlow && (c = '?' || c = ':') && !endsWord rest)

def takeWord (inFlow : Bool) : List Char → List Char
  | [] => []
  | c :: rest => if endsPlain inFlow (c :: rest) then [] else c :: takeWord inFlow rest

/-- Reads the words of a plain scalar after a gap. Outside flow collections its lines start at the column
`least` or right of it. The result tells whether the last gap had a line end. -/
def readPlain (inFlow : Bool) (least : Nat) :
    Nat → List Char → Gap → Cursor → Option (List Char × Bool × Cursor)
  | 0, _, _, _ => none
  | fuel + 1, out, gap, c =>
    if c.atBoundary || c.rest.head? = some '#' then some (out, gap.broken, c)
    else
      let word := takeWord inFlow c.rest
      if word.isEmpty then some (out, gap.broken, c)
      else
        let out := out ++ gap.fold ++ word
        let c := c.skip word.length
        match c.rest with
        | [] => some (out, false, c)
        | d :: _ =>
          if !isGap d then some (out, false, c)
          else do
            let (gap, c) ← Gap.read (c.rest.length + 1) least {} c
            if !inFlow && c.column < least then return (out, gap.broken, c)
            else readPlain inFlow least fuel out gap c

/-! ## Quoted scalars -/

def simpleEscape? (c : Char) : Option Char :=
  ([('0', 0), ('a', 7), ('b', 8), ('t', 9), ('\t', 9), ('n', 10), ('v', 11), ('f', 12), ('r', 13), ('e', 27),
    (' ', 32), ('"', 34), ('\'', 39), ('\\', 92), ('N', 0x85), ('_', 0xA0), ('L', 0x2028),
    ('P', 0x2029)].find? fun p => p.1 = c).map fun p => Char.ofNat p.2

def escapeWidth? (c : Char) : Option Nat :=
  match c with
  | 'x' => some 2
  | 'u' => some 4
  | 'U' => some 8
  | _ => none

def escapeCode? (digits : List Char) : Option Char := do
  let n ← Integer.magnitude? 16 digits
  if n < 0x110000 && !(0xD800 ≤ n && n < 0xE000) then some (Char.ofNat n) else none

/-- The character of an escape after its backslash, and how many characters it takes. -/
def readEscape? : List Char → Option (Char × Nat)
  | [] => none
  | c :: rest =>
    match escapeWidth? c with
    | some n =>
      let digits := rest.take n
      if digits.length < n || !digits.all fun d => (Integer.digitIn? 16 d).isSome then none
      else (escapeCode? digits).map fun x => (x, n + 1)
    | none => (simpleEscape? c).map fun x => (x, 1)

/-- Reads the characters of a quoted scalar up to a gap, a quote or an escaped line end. The result tells
whether there was one of the latter. -/
def readQuotedWord (single : Bool) : Nat → List Char → Cursor → Option (List Char × Bool × Cursor)
  | 0, _, _ => none
  | fuel + 1, out, c =>
    match c.rest with
    | [] => some (out, false, c)
    | d :: rest =>
      if isGap d then some (out, false, c)
      else if single then
        if d = '\'' then
          if rest.head? = some '\'' then readQuotedWord single fuel (out ++ ['\'']) (c.skip 2)
          else some (out, false, c)
        else readQuotedWord single fuel (out ++ [d]) (c.skip 1)
      else if d = '"' then some (out, false, c)
      else if d = '\\' then
        if rest.head?.any isBreak then some (out, true, (c.skip 1).breakLine.2)
        else do
          let (x, n) ← readEscape? rest
          readQuotedWord single fuel (out ++ [x]) (c.skip (n + 1))
      else readQuotedWord single fuel (out ++ [d]) (c.skip 1)

def readQuoted (single : Bool) : Nat → List Char → Cursor → Option (List Char × Cursor)
  | 0, _, _ => none
  | fuel + 1, out, c => do
    if c.atBoundary || c.rest.isEmpty then none
    else
      let (word, escaped, c) ← readQuotedWord single (c.rest.length + 1) [] c
      let out := out ++ word
      match c.rest with
      | [] => none
      | d :: _ =>
        if d = (if single then '\'' else '"') then return (out, c.skip 1)
        else
          let (gap, c) ← Gap.read (c.rest.length + 1) 0 { broken := escaped } c
          readQuoted single fuel (out ++ gap.fold) c

/-! ## Blocks of lines -/

/-- What becomes of the line ends after a block. -/
inductive Chomping where
  | strip
  | clip
  | keep
deriving Repr, DecidableEq

def Chomping.ofChar? (c : Char) : Option Chomping :=
  if c = '-' then some .strip else if c = '+' then some .keep else none

/-- Reads the marks after the indicator of a block: chomping and indentation, in any order. -/
def readBlockHeader (c : Cursor) : Option (Chomping × Nat × Cursor) :=
  let chomping (c : Cursor) : Option Chomping := c.rest.head?.bind Chomping.ofChar?
  let digit (c : Cursor) : Option Nat := c.rest.head?.bind fun d =>
    if d.isDigit then some (d.toNat - 48) else none
  match chomping c with
  | some k =>
    let c := c.skip 1
    match digit c with
    | some n => if n = 0 then none else some (k, n, c.skip 1)
    | none => some (k, 0, c)
  | none =>
    match digit c with
    | some n =>
      if n = 0 then none
      else
        let c := c.skip 1
        match chomping c with
        | some k => some (k, n, c.skip 1)
        | none => some (.clip, n, c)
    | none => some (.clip, 0, c)

/-- Moves over the rest of a line, which holds nothing but blanks and a comment, and over its end. -/
def finishLine (c : Cursor) : Option Cursor :=
  let c := c.dropWhile isBlank
  let c := if c.rest.head? = some '#' then c.toLineEnd else c
  if endsLine c.rest then some c.breakLine.2 else none

/-- Reads indentation and empty lines. `indent` is zero as long as it is not known. The result has the
texts of the line ends and the widest indentation. -/
def readBlanks (indent : Nat) : Nat → List Char → Nat → Cursor → Option (List Char × Nat × Cursor)
  | 0, _, _, _ => none
  | fuel + 1, breaks, widest, c =>
    let spaces := (c.rest.takeWhile (· = ' ')).length
    let c := c.skip (if indent = 0 then spaces else min spaces (indent - c.column))
    let widest := max widest c.column
    if (indent = 0 || c.column < indent) && c.rest.head? = some '\t' then none
    else match c.rest with
      | d :: _ =>
        if isBreak d then
          let (text, c) := c.breakLine
          readBlanks indent fuel (breaks ++ text) widest c
        else some (breaks, widest, c)
      | [] => some (breaks, widest, c)

/-- What has been read of a block. -/
structure BlockLines where
  out : List Char := []
  /-- The end of the last line. -/
  lead : List Char := []
  /-- The ends of the empty lines after it. -/
  more : List Char := []
  /-- The last line began with a blank. -/
  blank : Bool := false

/-- The text of a block before its next line. A line end between two lines that begin with no blank is
folded. -/
def BlockLines.joined (b : BlockLines) (literal blank : Bool) : List Char :=
  if !literal && !b.blank && !blank && b.lead.head? = some '\n' then
    b.out ++ (if b.more.isEmpty then [' '] else []) ++ b.more
  else b.out ++ b.lead ++ b.more

def readBlockLines (literal : Bool) (indent : Nat) :
    Nat → BlockLines → Cursor → Option (BlockLines × Cursor)
  | 0, _, _ => none
  | fuel + 1, b, c =>
    if c.column ≠ indent || c.rest.isEmpty then some (b, c)
    else do
      let blank := c.rest.head?.any isBlank
      let (line, c) := c.takeWhile fun d => !isBreak d
      let (lead, c) := c.breakLine
      let (more, _, c) ← readBlanks indent (c.rest.length + 1) [] 0 c
      readBlockLines literal indent fuel { out := b.joined literal blank ++ line, lead, more, blank } c

/-- Reads a block of lines after its indicator, inside a collection that is indented by `outer`. -/
def readBlock (literal : Bool) (outer : Int) (c : Cursor) : Option (List Char × Cursor) := do
  let (chomping, increment, c) ← readBlockHeader c
  let c ← finishLine c
  let fixed := if increment = 0 then 0 else if 0 ≤ outer then outer.toNat + increment else increment
  let (more, widest, c) ← readBlanks fixed (c.rest.length + 1) [] 0 c
  let indent := if fixed ≠ 0 then fixed else max widest (max (outer + 1).toNat 1)
  let (b, c) ← readBlockLines literal indent (c.rest.length + 1) { more } c
  return (match chomping with
    | .strip => b.out
    | .clip => b.out ++ b.lead
    | .keep => b.out ++ b.lead ++ b.more, c)

end SceneGraph.Yaml
