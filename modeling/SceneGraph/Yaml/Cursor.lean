/-!
# Places in a YAML text

The classes of characters that the format tells apart, and a cursor that walks a text and knows its line
and column. A line ends in a line feed, a carriage return, both, or one of three rarer separators.
-/
set_option autoImplicit false

namespace SceneGraph.Yaml

def isBlank (c : Char) : Bool := c = ' ' || c = '\t'

def isBreak (c : Char) : Bool :=
  c = '\n' || c = '\r' || c.toNat = 0x85 || c.toNat = 0x2028 || c.toNat = 0x2029

def isGap (c : Char) : Bool := isBlank c || isBreak c

/-- The characters of names: letters, digits, low lines and dashes. -/
def isWordChar (c : Char) : Bool := c.isAlphanum || c = '_' || c = '-'

def isFlowChar (c : Char) : Bool := c = ',' || c = '[' || c = ']' || c = '\x7b' || c = '\x7d'

/-- The characters that have a meaning of their own at the start of a value. -/
def isIndicator (c : Char) : Bool :=
  isFlowChar c
    || ['-', '?', ':', '#', '&', '*', '!', '|', '>', '\'', '"', '%', '@', '\x60'].contains c

/-- The mark that may begin a line and counts for nothing. -/
def byteOrderMark : Nat := 0xFEFF

/-- Characters that documents may not hold: control characters and code points that are not characters. -/
def isForbidden (c : Char) : Bool :=
  let n := c.toNat
  (n < 0x20 && n ≠ 9 && n ≠ 10 && n ≠ 13) || n = 0x7F || (0x80 ≤ n && n < 0xA0 && n ≠ 0x85)
    || n = 0xFFFE || n = 0xFFFF

/-- A blank, a line end or the end of the text comes next. -/
def endsWord : List Char → Bool
  | [] => true
  | c :: _ => isGap c

/-- A line end or the end of the text comes next. -/
def endsLine : List Char → Bool
  | [] => true
  | c :: _ => isBreak c

/-- A place in a text. -/
structure Cursor where
  rest : List Char
  index : Nat := 0
  line : Nat := 0
  column : Nat := 0

namespace Cursor

def skip (c : Cursor) : Nat → Cursor
  | 0 => c
  | n + 1 =>
    match c.rest with
    | [] => c
    | _ :: rest => skip { c with rest, index := c.index + 1, column := c.column + 1 } n

/-- Moves over characters of one line as long as they are of a kind, and gives them. -/
def takeWhile (c : Cursor) (p : Char → Bool) : List Char × Cursor :=
  let taken := c.rest.takeWhile p
  (taken, c.skip taken.length)

/-- Moves over characters of one line as long as they are of a kind. -/
def dropWhile (c : Cursor) (p : Char → Bool) : Cursor := (c.takeWhile p).2

def nextLine (c : Cursor) (taken : Nat) (rest : List Char) : Cursor :=
  { rest, index := c.index + taken, line := c.line + 1, column := 0 }

/-- Moves over a line end, if there is one, and gives the text that it stands for. -/
def breakLine (c : Cursor) : List Char × Cursor :=
  match c.rest with
  | '\r' :: '\n' :: rest => (['\n'], c.nextLine 2 rest)
  | d :: rest =>
    if !isBreak d then ([], c)
    else if d.toNat = 0x2028 || d.toNat = 0x2029 then ([d], c.nextLine 1 rest)
    else (['\n'], c.nextLine 1 rest)
  | [] => ([], c)

/-- A mark of three characters stands at the start of a line. -/
def atMark (mark : List Char) (c : Cursor) : Bool :=
  c.column = 0 && mark.isPrefixOf c.rest && endsWord (c.rest.drop mark.length)

/-- A document begins or ends here. -/
def atBoundary (c : Cursor) : Bool := c.atMark ['-', '-', '-'] || c.atMark ['.', '.', '.']

def toLineEnd (c : Cursor) : Cursor := c.dropWhile fun d => !isBreak d

end Cursor

/-! ## Gaps -/

/-- Blanks and line ends between two words. -/
structure Gap where
  /-- The blanks before the first line end. -/
  blanks : List Char := []
  /-- The text of the first line end. -/
  lead : List Char := []
  /-- The texts of the line ends after it. -/
  more : List Char := []
  /-- The gap has a line end. -/
  broken : Bool := false

namespace Gap

/-- The text that a gap stands for. Within a line blanks are kept. A line feed alone becomes a blank, and
before further line ends it is dropped. -/
def fold (g : Gap) : List Char :=
  if !g.broken then g.blanks
  else if g.lead.head? = some '\n' then if g.more.isEmpty then [' '] else g.more
  else g.lead ++ g.more

/-- Reads a gap. In a line of its own a tab left of the column `least` is refused. -/
def read : Nat → Nat → Gap → Cursor → Option (Gap × Cursor)
  | 0, _, _, _ => none
  | fuel + 1, least, g, c =>
    match c.rest with
    | [] => some (g, c)
    | d :: _ =>
      if isBlank d then
        if !g.broken then read fuel least { g with blanks := g.blanks ++ [d] } (c.skip 1)
        else if d = '\t' && c.column < least then none
        else read fuel least g (c.skip 1)
      else if isBreak d then
        let (text, c) := c.breakLine
        if g.broken then read fuel least { g with more := g.more ++ text } c
        else read fuel least { g with blanks := [], lead := text, broken := true } c
      else some (g, c)

end Gap

end SceneGraph.Yaml
