import SceneGraph.Yaml.Scalar

/-!
# YAML tokens

Splits a text into tokens. Indentation becomes tokens that open and close block collections. Whether a
value is the key of a mapping shows only at the colon after it, so the place of every value that may be a
key is kept, and its tokens are put in front of it later. `scan` stops at the first fault of the text and
tells that it did.
-/
set_option autoImplicit false

namespace SceneGraph.Yaml

inductive Token where
  | streamEnd
  | version (major minor : Nat)
  | handle (name expansion : String)
  | documentStart
  | documentEnd
  | blockSequence
  | blockMapping
  | blockEnd
  | flowSequence
  | flowSequenceEnd
  | flowMapping
  | flowMappingEnd
  | item
  | comma
  | key
  | value
  | alias (name : String)
  | anchor (name : String)
  | tag (handle suffix : String)
  | scalar (text : String) (isPlain : Bool)
deriving Repr, DecidableEq

/-- A place where the key of a mapping may have begun. -/
structure KeyPlace where
  /-- How many tokens came before it. -/
  number : Nat
  /-- It must be a key, because it stands where the keys of a block mapping stand. -/
  required : Bool
  index : Nat
  line : Nat
  column : Nat

/-- The state of scanning. -/
structure Scan where
  here : Cursor
  tokens : List Token := []
  count : Nat := 0
  /-- How many flow collections are open. -/
  flow : Nat := 0
  /-- The indentation of the innermost block collection. -/
  indent : Int := -1
  /-- The indentations of the collections around it. -/
  indents : List Int := []
  /-- A key may begin here. -/
  keyAllowed : Bool := true
  /-- The place of a key for every open flow collection, the innermost first. -/
  keys : List (Option KeyPlace) := [none]

namespace Scan

/-- The longest distance between the start of a key and its colon. -/
def keyLength : Nat := 1024

/-- How many flow collections may be open at once. -/
def flowLimit : Nat := 10000

def push (s : Scan) (t : Token) : Scan := { s with tokens := t :: s.tokens, count := s.count + 1 }

/-- Puts a token in front of later ones. -/
def insert (s : Scan) (number : Nat) (t : Token) : Scan :=
  let later := s.count - number
  { s with tokens := s.tokens.take later ++ t :: s.tokens.drop later, count := s.count + 1 }

def move (s : Scan) (c : Cursor) : Scan := { s with here := c }

def keyPlace (s : Scan) : Option KeyPlace := s.keys.headD none

def setKey (s : Scan) (k : Option KeyPlace) : Scan := { s with keys := k :: s.keys.drop 1 }

/-- Gives the place of a key up; one that is required must not be missing. -/
def dropKey (s : Scan) : Option Scan :=
  match s.keyPlace with
  | some k => if k.required then none else some (s.setKey none)
  | none => some s

/-- Keeps the place of a key that may begin here. -/
def saveKey (s : Scan) : Option Scan := do
  if !s.keyAllowed then return s
  else
    let c := s.here
    let place : KeyPlace :=
      { number := s.count, required := s.flow = 0 && s.indent = c.column, index := c.index, line := c.line
        column := c.column }
    return (← s.dropKey).setKey (some place)

/-- Opens a block collection, if the column is right of the indentation. -/
def roll (s : Scan) (column number : Nat) (t : Token) : Scan :=
  if s.flow = 0 && s.indent < column then
    { s.insert number t with indents := s.indent :: s.indents, indent := column }
  else s

/-- Closes the block collections right of a column. -/
def unroll (column : Int) : List Int → Scan → Scan
  | [], s => s
  | outer :: indents, s =>
    if s.flow = 0 && column < s.indent then
      unroll column indents { s.push .blockEnd with indent := outer, indents }
    else s

def unrollAll (s : Scan) : Scan := unroll (-1) s.indents s

/-! ## Gaps between tokens -/

/-- Moves over a comment, and over further ones on the next lines. -/
def skipComments : Nat → Cursor → Cursor
  | 0, c => c
  | fuel + 1, c =>
    let c := c.toLineEnd
    let gap := c.rest.takeWhile isGap
    if gap.length < 512 && (c.rest.drop gap.length).head? = some '#' then
      match Gap.read (gap.length + 1) 0 {} c with
      | some (_, c) => skipComments fuel c
      | none => c
    else c

/-- Moves over blanks, comments and line ends. Tabs are blanks where no key may begin. -/
def skipGap : Nat → Scan → Scan
  | 0, s => s
  | fuel + 1, s =>
    let c := s.here
    let c := if c.column = 0 && c.rest.head?.any (·.toNat = byteOrderMark) then c.skip 1 else c
    let c := c.dropWhile fun d => d = ' ' || (d = '\t' && (0 < s.flow || !s.keyAllowed))
    let c := if c.rest.head? = some '#' then skipComments (c.rest.length + 1) c else c
    match c.rest with
    | [] => s.move c
    | d :: _ =>
      if isBreak d then
        skipGap fuel { s with here := c.breakLine.2, keyAllowed := s.keyAllowed || s.flow = 0 }
      else s.move c

def skipLineComment (s : Scan) : Scan :=
  let c := s.here.dropWhile isBlank
  if c.rest.head? = some '#' then s.move c.toLineEnd else s

/-! ## Names and tags -/

def endsName : List Char → Bool
  | [] => true
  | c :: _ => isGap c || ['?', ':', ',', ']', '\x7d', '%', '@', '\x60'].contains c

def readName (c : Cursor) : Option (String × Cursor) :=
  let (name, c) := c.takeWhile isWordChar
  if name.isEmpty || !endsName c.rest then none else some (String.ofList name, c)

/-- Characters of tags, besides those of names. -/
def isTagChar (c : Char) : Bool :=
  isWordChar c || [';', '/', '?', ':', '@', '&', '=', '+', '$', '.', ',', '!', '~', '*', '\'', '(', ')', '[',
    ']', '%'].contains c

/-- The number of bytes of a character that begins with a byte. -/
def byteWidth (b : Nat) : Nat :=
  if b < 0x80 then 1
  else if 0xC0 ≤ b && b < 0xE0 then 2
  else if 0xE0 ≤ b && b < 0xF0 then 3
  else if 0xF0 ≤ b && b < 0xF8 then 4
  else 0

def escapedByte? : List Char → Option (Nat × List Char)
  | '%' :: a :: b :: rest => do
    return (16 * (← Integer.digitIn? 16 a) + (← Integer.digitIn? 16 b), rest)
  | _ => none

def readEscaped : Nat → List Char → Option (List Char)
  | 0, cs => some cs
  | n + 1, cs => do
    let (b, cs) ← escapedByte? cs
    if b / 64 = 2 then readEscaped n cs else none

def checkTag : Nat → List Char → Option Unit
  | 0, _ => none
  | _ + 1, [] => some ()
  | fuel + 1, c :: rest =>
    if c ≠ '%' then checkTag fuel rest
    else do
      let (b, rest) ← escapedByte? (c :: rest)
      if byteWidth b = 0 then none else checkTag fuel (← readEscaped (byteWidth b - 1) rest)

/-- The text of a tag; escapes of plain characters are read. -/
def tagText : List Char → List Char
  | '%' :: a :: b :: rest =>
    match escapedByte? ['%', a, b] with
    | some (n, _) => Char.ofNat n :: tagText rest
    | none => '%' :: tagText (a :: b :: rest)
  | c :: rest => c :: tagText rest
  | [] => []

def readTagText (c : Cursor) : Option (List Char × Cursor) := do
  let (text, c) := c.takeWhile isTagChar
  checkTag (text.length + 1) text
  return (tagText text, c)

/-- Reads what may be the handle of a tag: a mark, a name and another mark. -/
def readHandle (c : Cursor) : List Char × Cursor :=
  let (name, d) := (c.skip 1).takeWhile isWordChar
  if d.rest.head? = some '!' then ('!' :: name ++ ['!'], d.skip 1) else ('!' :: name, d)

def readTag (c : Cursor) : Option (Token × Cursor) := do
  let (t, c) ← if (c.rest.drop 1).head? = some '<' then do
      let (text, c) ← readTagText (c.skip 2)
      if text.isEmpty || c.rest.head? ≠ some '>' then none
      else pure (Token.tag "" (String.ofList text), c.skip 1)
    else do
      let (handle, c) := readHandle c
      let (text, c) ← readTagText c
      if 1 < handle.length && handle.getLast? = some '!' then
        if text.isEmpty then none else pure (Token.tag (String.ofList handle) (String.ofList text), c)
      else
        let suffix := handle.drop 1 ++ text
        pure (if suffix.isEmpty then Token.tag "" "!" else Token.tag "!" (String.ofList suffix), c)
  if endsWord c.rest then return (t, c) else none

/-! ## Directives -/

def readVersionPart (c : Cursor) : Option (Nat × Cursor) :=
  let (digits, c) := c.takeWhile Char.isDigit
  if digits.isEmpty || 2 < digits.length then none
  else (Integer.magnitude? 10 digits).map fun n => (n, c)

def readVersion (c : Cursor) : Option (Token × Cursor) := do
  let (major, c) ← readVersionPart (c.dropWhile isBlank)
  if c.rest.head? ≠ some '.' then none
  else
    let (minor, c) ← readVersionPart (c.skip 1)
    return (.version major minor, c)

def readHandleRule (c : Cursor) : Option (Token × Cursor) := do
  let c := c.dropWhile isBlank
  if c.rest.head? ≠ some '!' then none
  else
    let (handle, c) := readHandle c
    if handle.getLast? ≠ some '!' || !c.rest.head?.any isBlank then none
    else
      let (text, c) ← readTagText (c.dropWhile isBlank)
      if text.isEmpty || !endsWord c.rest then none
      else return (.handle (String.ofList handle) (String.ofList text), c)

def readDirective (c : Cursor) : Option (Token × Cursor) := do
  let (name, c) := c.takeWhile isWordChar
  if !endsWord c.rest then none
  else
    let (t, c) ← match String.ofList name with
      | "YAML" => readVersion c
      | "TAG" => readHandleRule c
      | _ => none
    return (t, ← finishLine c)

/-! ## Single tokens -/

def fetchEnd (s : Scan) : Option Scan := do
  let s ← s.unrollAll.dropKey
  return { s.push .streamEnd with keyAllowed := false }

def fetchDirective (s : Scan) : Option Scan := do
  let s ← s.unrollAll.dropKey
  let (t, c) ← readDirective (s.here.skip 1)
  return { (s.push t).move c with keyAllowed := false }

def fetchMark (s : Scan) (t : Token) : Option Scan := do
  let s ← s.unrollAll.dropKey
  return { (s.push t).move (s.here.skip 3) with keyAllowed := false }

def fetchFlowStart (s : Scan) (t : Token) : Option Scan := do
  let s ← s.saveKey
  if s.flow + 1 > flowLimit then none
  else return { (s.push t).move (s.here.skip 1) with
                flow := s.flow + 1, keys := none :: s.keys, keyAllowed := true }

def fetchFlowEnd (s : Scan) (t : Token) : Option Scan := do
  let s ← s.dropKey
  let s := if s.flow = 0 then s else { s with flow := s.flow - 1, keys := s.keys.drop 1 }
  return { (s.push t).move (s.here.skip 1) with keyAllowed := false }

def fetchComma (s : Scan) : Option Scan := do
  let s ← s.dropKey
  return { (s.push .comma).move (s.here.skip 1) with keyAllowed := true }

def fetchItem (s : Scan) : Option Scan := do
  if s.flow = 0 && !s.keyAllowed then none
  else
    let s ← (s.roll s.here.column s.count .blockSequence).dropKey
    return { (s.push .item).move (s.here.skip 1) with keyAllowed := true }

def fetchKey (s : Scan) : Option Scan := do
  if s.flow = 0 && !s.keyAllowed then none
  else
    let s ← (s.roll s.here.column s.count .blockMapping).dropKey
    return skipLineComment { (s.push .key).move (s.here.skip 1) with keyAllowed := s.flow = 0 }

/-- The place of a key that a colon here ends; it lies on the same line and not too far back. -/
def validKey (s : Scan) : Option (Option KeyPlace) :=
  match s.keyPlace with
  | none => some none
  | some k =>
    if k.line < s.here.line || k.index + keyLength < s.here.index then
      if k.required then none else some none
    else some (some k)

def fetchValue (s : Scan) : Option Scan := do
  match ← s.validKey with
  | some k =>
    let s := ((s.insert k.number .key).roll k.column k.number .blockMapping).setKey none
    return { (s.push .value).move (s.here.skip 1) with keyAllowed := false }
  | none =>
    if s.flow = 0 && !s.keyAllowed then none
    else
      let s := (s.roll s.here.column s.count .blockMapping).setKey none
      return skipLineComment { (s.push .value).move (s.here.skip 1) with keyAllowed := s.flow = 0 }

/-- Takes a token that may begin a key. -/
def fetchWith (s : Scan) (read : Cursor → Option (Token × Cursor)) : Option Scan := do
  let s ← s.saveKey
  let (t, c) ← read s.here
  return { (s.push t).move c with keyAllowed := false }

def fetchPlain (s : Scan) : Option Scan := do
  let s ← s.saveKey
  let c := s.here
  let (text, broken, c) ← readPlain (0 < s.flow) (s.indent + 1).toNat (c.rest.length + 1) [] {} c
  return { (s.push (.scalar (String.ofList text) true)).move c with keyAllowed := broken }

def fetchBlock (s : Scan) (literal : Bool) : Option Scan := do
  let s ← s.dropKey
  let (text, c) ← readBlock literal s.indent (s.here.skip 1)
  return { (s.push (.scalar (String.ofList text) false)).move c with keyAllowed := true }

/-- Reads a quoted scalar at its first quote. -/
def quotedToken (single : Bool) (c : Cursor) : Option (Token × Cursor) :=
  (readQuoted single (c.rest.length + 1) [] (c.skip 1)).map fun (text, c) =>
    (.scalar (String.ofList text) false, c)

def fetch (s : Scan) : Option Scan :=
  let s := s.skipGap (s.here.rest.length + 1)
  let s := unroll s.here.column s.indents s
  let c := s.here
  match c.rest with
  | [] => s.fetchEnd
  | d :: rest =>
    if c.column = 0 && d = '%' then s.fetchDirective
    else if c.atMark ['-', '-', '-'] then s.fetchMark .documentStart
    else if c.atMark ['.', '.', '.'] then s.fetchMark .documentEnd
    else if d = '[' then s.fetchFlowStart .flowSequence
    else if d = '\x7b' then s.fetchFlowStart .flowMapping
    else if d = ']' then s.fetchFlowEnd .flowSequenceEnd
    else if d = '\x7d' then s.fetchFlowEnd .flowMappingEnd
    else if d = ',' then s.fetchComma
    else if d = '-' && endsWord rest then s.fetchItem
    else if d = '?' && (0 < s.flow || endsWord rest) then s.fetchKey
    else if d = ':' && (0 < s.flow || endsWord rest) then s.fetchValue
    else if d = '*' then s.fetchWith fun c => (readName (c.skip 1)).map fun (n, c) => (.alias n, c)
    else if d = '&' then s.fetchWith fun c => (readName (c.skip 1)).map fun (n, c) => (.anchor n, c)
    else if d = '!' then s.fetchWith readTag
    else if d = '|' && s.flow = 0 then s.fetchBlock true
    else if d = '>' && s.flow = 0 then s.fetchBlock false
    else if d = '\'' then s.fetchWith (quotedToken true)
    else if d = '"' then s.fetchWith (quotedToken false)
    else if beginsPlain (0 < s.flow) c.rest then s.fetchPlain
    else none

/-- The numbers of tokens that may still turn out to begin a key. -/
def undecided (s : Scan) : List Nat :=
  s.keys.filterMap fun k => k.bind fun k =>
    if k.line < s.here.line || k.index + keyLength < s.here.index then none else some k.number

/-- Takes tokens up to the end of the text or to the first fault. -/
def run : Nat → Scan → Scan × Bool
  | 0, s => (s, true)
  | fuel + 1, s =>
    match s.fetch with
    | none => (s, true)
    | some s => if s.tokens.head? = some .streamEnd then (s, false) else run fuel s

end Scan

/-- The tokens of a text up to its first fault. -/
structure Scanned where
  tokens : List Token
  faulty : Bool
  /-- The tokens that, at the fault, may still begin a key. -/
  undecided : List Nat

/-- The tokens of a text. Every step takes a character. -/
def scan (cs : List Char) : Scanned :=
  let (s, faulty) := Scan.run (cs.length + 2) { here := { rest := cs } }
  { tokens := s.tokens.reverse, faulty, undecided := if faulty then s.undecided else [] }

/-- The fault of a text shows before the token with a number has been looked at. Two tokens more are taken
before that, and as many as it takes to decide whether it begins a key. -/
def Scanned.failsBy (s : Scanned) (number : Nat) : Bool :=
  s.faulty && (s.tokens.length < number + 3 || s.undecided.any (· ≤ number))

end SceneGraph.Yaml
