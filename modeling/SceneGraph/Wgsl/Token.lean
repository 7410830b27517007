/-!
# Tokens of the shading language

Splits shader text into names, numbers and symbols; comments and blanks are dropped. A closing angle
bracket is always a token of its own, since it may close a template list.
-/
set_option autoImplicit false

namespace SceneGraph.Wgsl

/-- A token of the shading language. -/
inductive Token where
  | name (s : String)
  | number
  | symbol (s : String)
deriving Repr, DecidableEq

def isBlank (c : Char) : Bool :=
  c == ' ' || c == '\t' || c == '\n' || c == '\r' || c == '\x0b' || c == '\x0c' || c.toNat == 0x85
    || c.toNat == 0x200E || c.toNat == 0x200F || c.toNat == 0x2028 || c.toNat == 0x2029

def isNameStart (c : Char) : Bool := c.isAlpha || c == '_' || c.toNat > 127

def isNamePart (c : Char) : Bool := isNameStart c || c.isDigit

def symbols : List String :=
  ["<<=", "->", "==", "!=", "<=", "&&", "||", "++", "--", "+=", "-=", "*=", "/=", "%=", "&=", "|=", "^=",
    "<<", "(", ")", "[", "]", "\x7b", "\x7d", ";", ":", ",", ".", "=", "+", "-", "*", "/", "%", "<", ">",
    "!", "~", "&", "|", "^", "@"]

/-- The symbol that a text begins with, and the rest of the text. -/
def symbol? (cs : List Char) : Option (String × List Char) :=
  (symbols.find? fun s => s.toList.isPrefixOf cs).map fun s => (s, cs.drop s.length)

def skipLine (cs : List Char) : List Char := cs.dropWhile (· != '\n')

/-- Skips a comment that may hold others, `depth` of them being open. -/
def skipComment : Nat → List Char → Option (List Char)
  | 0, cs => some cs
  | depth + 1, '*' :: '/' :: rest => skipComment depth rest
  | depth + 1, '/' :: '*' :: rest => skipComment (depth + 2) rest
  | depth + 1, _ :: rest => skipComment (depth + 1) rest
  | _ + 1, [] => none

/-- The exponent of a number, if one follows; a mark without digits is an error. -/
def exponent? (cs : List Char) : Option (List Char) :=
  match cs with
  | c :: rest =>
    if c == 'e' || c == 'E' then
      let digits := match rest with
        | '+' :: r => r
        | '-' :: r => r
        | r => r
      if (digits.head?.map Char.isDigit).getD false then some (digits.dropWhile Char.isDigit) else none
    else some cs
  | [] => some []

def dropMark (cs : List Char) : List Char :=
  match cs with
  | c :: rest => if c == 'f' || c == 'h' || c == 'u' || c == 'i' then rest else cs
  | [] => []

def isHexDigit (c : Char) : Bool := c.isDigit || ('a' ≤ c && c ≤ 'f') || ('A' ≤ c && c ≤ 'F')

/-- The text after a number; none when the number is malformed. -/
def skipNumber? (cs : List Char) : Option (List Char) := do
  let rest ← match cs with
    | '0' :: x :: rest =>
      if x == 'x' || x == 'X' then skipHex rest
      else skipDecimal cs
    | _ => skipDecimal cs
  if (rest.head?.map isNamePart).getD false then none else some rest
where
  /-- The text after the digits of a hexadecimal number, with its fraction and its exponent of two. -/
  skipHex (cs : List Char) : Option (List Char) := do
    let whole := cs.takeWhile isHexDigit
    let rest := cs.dropWhile isHexDigit
    let (digits, rest) := match rest with
      | '.' :: more => (whole ++ more.takeWhile isHexDigit, more.dropWhile isHexDigit)
      | _ => (whole, rest)
    if digits.isEmpty then none
    else match rest with
      | c :: more =>
        if c == 'p' || c == 'P' then do
          let power := match more with
            | '+' :: r => r
            | '-' :: r => r
            | r => r
          if (power.head?.map Char.isDigit).getD false then some (dropMark (power.dropWhile Char.isDigit))
          else none
        else some (dropMark rest)
      | [] => some []
  /-- The text after a decimal number. -/
  skipDecimal (cs : List Char) : Option (List Char) := do
    let whole := cs.takeWhile Char.isDigit
    let rest := cs.dropWhile Char.isDigit
    match rest with
    | '.' :: more => return dropMark (← exponent? (more.dropWhile Char.isDigit))
    | _ =>
      let after ← exponent? rest
      if whole.length > 1 && whole.head? == some '0' && after.length == rest.length && rest.head? != some 'f'
      then none
      else some (dropMark after)

/-- The tokens of a text; none when some part of it is no token. -/
def tokensFrom : Nat → List Char → Option (List Token)
  | 0, _ => none
  | _ + 1, [] => some []
  | fuel + 1, c :: rest =>
    if isBlank c then tokensFrom fuel rest
    else if c == '/' && rest.head? == some '/' then tokensFrom fuel (skipLine rest)
    else if c == '/' && rest.head? == some '*' then do tokensFrom fuel (← skipComment 1 (rest.drop 1))
    else if isNameStart c then do
      let name := (c :: rest).takeWhile isNamePart
      let ts ← tokensFrom fuel ((c :: rest).dropWhile isNamePart)
      return .name (String.ofList name) :: ts
    else if c.isDigit || (c == '.' && (rest.head?.map Char.isDigit).getD false) then do
      let ts ← tokensFrom fuel (← skipNumber? (c :: rest))
      return .number :: ts
    else do
      let (s, after) ← symbol? (c :: rest)
      let ts ← tokensFrom fuel after
      return .symbol s :: ts

def tokens? (cs : List Char) : Option (List Token) := tokensFrom (cs.length + 1) cs

end SceneGraph.Wgsl
