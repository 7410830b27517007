import SceneGraph.Bytes.Basic
import SceneGraph.Number.Wide
import SceneGraph.Text.Blank
import SceneGraph.Text.Identifier

/-!
# Tokens of schema documents

Schema documents are written in HCL. This module cuts a document into tokens: names, numbers,
operators, line ends, and the pieces of quoted and indented templates. Code may hold templates and
templates may hold code, so the scanner keeps a stack of what it is in. Comments vanish; one that runs
to the end of a line leaves its line end.
-/
set_option autoImplicit false

namespace SceneGraph.Hcl

inductive Token where
  | name (s : String)
  /-- A number; `fractional` tells whether it is written with a point. -/
  | number (value : Wide) (fractional : Bool)
  | op (s : String)
  | lineEnd
  | openQuote
  | closeQuote
  /-- The start of lines of text; `flush` ones lose their common indentation. -/
  | openLines (flush : Bool)
  | closeLines
  /-- Text within a template. -/
  | literal (s : String)
  /-- The start of code within a template; `trim` takes the blanks before it away. -/
  | openCode (trim : Bool)
  /-- The start of a directive within a template. -/
  | openDirective (trim : Bool)
  /-- The end of code or of a directive; `trim` takes the blanks after it away. -/
  | closeCode (trim : Bool)
deriving Repr, DecidableEq

/-- What the scanner is in. -/
inductive Frame where
  /-- Code, with so many open braces; code at the bottom is no part of a template. -/
  | code (braces : Nat) (isBottom : Bool)
  | quoted
  /-- Lines of text up to a line with the marker. -/
  | lines (marker : List Char) (atStart : Bool)
deriving Repr, DecidableEq

def isNameStart (c : Char) : Bool := Text.isNameStart c || c == '_'

def isNamePart (c : Char) : Bool := Text.isNameMore c || c == '-'

def skipBlockComment : List Char → Option (List Char)
  | '*' :: '/' :: rest => some rest
  | _ :: rest => skipBlockComment rest
  | [] => none

def afterLineEnd? : List Char → Option (List Char)
  | '\n' :: rest => some rest
  | '\r' :: '\n' :: rest => some rest
  | _ => none

/-! ## Templates -/

/-- A character by the value of hexadecimal digits; some values stand for none. -/
def charOfHex? (digits : List Char) : Option Char := do
  let ds ← digits.mapM Bytes.hexValue?
  let n := ds.foldl (fun n d => n * 16 + d.toNat) 0
  if n < 0xD800 ∨ (0xE000 ≤ n ∧ n < 0x110000) then some (Char.ofNat n) else none

/-- The character of an escape sequence, whose backslash has been read, and the text after it. -/
def escape? : List Char → Option (Char × List Char)
  | 'n' :: rest => some ('\n', rest)
  | 'r' :: rest => some ('\r', rest)
  | 't' :: rest => some ('\t', rest)
  | '"' :: rest => some ('"', rest)
  | '\\' :: rest => some ('\\', rest)
  | 'u' :: a :: b :: c :: d :: rest => (charOfHex? [a, b, c, d]).map fun ch => (ch, rest)
  | 'U' :: a :: b :: c :: d :: e :: f :: g :: h :: rest =>
    (charOfHex? [a, b, c, d, e, f, g, h]).map fun ch => (ch, rest)
  | _ => none

def opensCode : List Char → Bool
  | '$' :: '\x7b' :: _ => true
  | '%' :: '\x7b' :: _ => true
  | _ => false

/-- The start of code or of a directive, and the text after it. -/
def openCode? : List Char → Option (Token × List Char)
  | '$' :: '\x7b' :: '~' :: rest => some (.openCode true, rest)
  | '$' :: '\x7b' :: rest => some (.openCode false, rest)
  | '%' :: '\x7b' :: '~' :: rest => some (.openDirective true, rest)
  | '%' :: '\x7b' :: rest => some (.openDirective false, rest)
  | _ => none

/-- The text of a quoted template up to code, a directive or the closing quote; reversed characters come
before. A doubled mark stands for itself before a brace. -/
def readQuoted : Nat → List Char → List Char → Option (List Char × List Char)
  | 0, _, _ => none
  | fuel + 1, acc, cs =>
    if opensCode cs then some (acc.reverse, cs)
    else match cs with
      | [] => none
      | '"' :: _ => some (acc.reverse, cs)
      | '\n' :: _ => none
      | '\r' :: _ => none
      | '\\' :: rest => do
        let (c, rest) ← escape? rest
        readQuoted fuel (c :: acc) rest
      | '$' :: '$' :: '\x7b' :: rest => readQuoted fuel ('\x7b' :: '$' :: acc) rest
      | '%' :: '%' :: '\x7b' :: rest => readQuoted fuel ('\x7b' :: '%' :: acc) rest
      | c :: rest => readQuoted fuel (c :: acc) rest

/-- The text of a line up to code, a directive or behind its line end, and whether it has reached that;
reversed characters come before. -/
def readLine : List Char → List Char → Option (List Char × Bool × List Char)
  | _, [] => none
  | acc, '\n' :: rest => some (('\n' :: acc).reverse, true, rest)
  | acc, '\r' :: '\n' :: rest => some (('\n' :: '\r' :: acc).reverse, true, rest)
  | _, '\r' :: _ => none
  | acc, '$' :: '$' :: '\x7b' :: rest => readLine ('\x7b' :: '$' :: acc) rest
  | acc, '%' :: '%' :: '\x7b' :: rest => readLine ('\x7b' :: '%' :: acc) rest
  | acc, c :: rest =>
    if opensCode (c :: rest) then some (acc.reverse, false, c :: rest) else readLine (c :: acc) rest

/-- The start of lines of text: two angle brackets, perhaps a dash, a marker and a line end. -/
def openLines? (cs : List Char) : Option (Bool × List Char × List Char) :=
  let marked (flush : Bool) : List Char → Option (Bool × List Char × List Char)
    | c :: rest =>
      if isNameStart c then
        (afterLineEnd? (rest.dropWhile isNamePart)).map fun after =>
          (flush, c :: rest.takeWhile isNamePart, after)
      else none
    | [] => none
  match cs with
  | '<' :: '<' :: '-' :: rest => marked true rest
  | '<' :: '<' :: rest => marked false rest
  | _ => none

/-! ## Code -/

def operators : List String :=
  ["...", "==", "!=", "<=", ">=", "&&", "||", "=>", "::", "[", "]", "(", ")", "=", ",", ":", "?", "+", "-",
    "*", "/", "%", "!", "<", ">", "."]

def operator? (cs : List Char) : Option (String × List Char) :=
  (operators.find? fun op => op.toList.isPrefixOf cs).map fun op => (op, cs.drop op.length)

/-- Cuts the longest run of digits, points and exponents that does not end in a point. The characters
since the last such end come second, reversed. -/
def spanNumber (taken pending : List Char) : List Char → List Char × List Char
  | [] => (taken.reverse, pending.reverse)
  | c :: rest =>
    let after : List Char := c :: rest
    if c.isDigit then spanNumber (c :: (pending ++ taken)) [] rest
    else if c == '.' then spanNumber taken (c :: pending) rest
    else if c == 'e' || c == 'E' then
      match rest with
      | s :: d :: more =>
        if s.isDigit then spanNumber (s :: c :: (pending ++ taken)) [] (d :: more)
        else if (s == '+' || s == '-') && d.isDigit then
          spanNumber (d :: s :: c :: (pending ++ taken)) [] more
        else (taken.reverse, pending.reverse ++ after)
      | [d] => if d.isDigit then spanNumber (d :: c :: (pending ++ taken)) [] []
        else (taken.reverse, pending.reverse ++ after)
      | [] => (taken.reverse, pending.reverse ++ after)
    else (taken.reverse, pending.reverse ++ after)

def readNumber? (cs : List Char) : Option (Token × List Char) := do
  let (digits, rest) := spanNumber [] [] cs
  let value ← Wide.ofText? (String.ofList digits)
  return (.number value (digits.contains '.'), rest)

/-- The tokens of a text, given what the scanner is in. Every step takes a character or leaves a
template, so a multiple of the length of the text bounds their number. -/
def scan : Nat → List Frame → List Token → List Char → Option (List Token)
  | 0, _, _, _ => none
  | fuel + 1, frames, acc, cs =>
    match frames with
    | [] => none
    | .quoted :: outer =>
      match cs with
      | '"' :: rest => scan fuel outer (.closeQuote :: acc) rest
      | _ =>
        match openCode? cs with
        | some (t, rest) => scan fuel (.code 0 false :: frames) (t :: acc) rest
        | none => do
          let (text, rest) ← readQuoted (cs.length + 1) [] cs
          scan fuel frames (.literal (String.ofList text) :: acc) rest
    | .lines marker atStart :: outer =>
      match openCode? cs with
      | some (t, rest) => scan fuel (.code 0 false :: .lines marker false :: outer) (t :: acc) rest
      | none => do
        let (text, ended, rest) ← readLine [] cs
        if ended && atStart && Text.trim (String.ofList text) = String.ofList marker then
          scan fuel outer (.lineEnd :: .closeLines :: acc) rest
        else scan fuel (.lines marker ended :: outer) (.literal (String.ofList text) :: acc) rest
    | .code braces isBottom :: outer =>
      match cs with
      | [] => if isBottom then some acc.reverse else none
      | '\n' :: rest => scan fuel frames (.lineEnd :: acc) rest
      | '\r' :: '\n' :: rest => scan fuel frames (.lineEnd :: acc) rest
      | ' ' :: rest | '\t' :: rest => scan fuel frames acc rest
      | '#' :: rest => scan fuel frames acc (rest.dropWhile (· ≠ '\n'))
      | '/' :: '/' :: rest => scan fuel frames acc (rest.dropWhile (· ≠ '\n'))
      | '/' :: '*' :: rest => do scan fuel frames acc (← skipBlockComment rest)
      | '"' :: rest => scan fuel (.quoted :: frames) (.openQuote :: acc) rest
      | '\x7b' :: rest => scan fuel (.code (braces + 1) isBottom :: outer) (.op "\x7b" :: acc) rest
      | '\x7d' :: rest =>
        if braces = 0 && !isBottom then scan fuel outer (.closeCode false :: acc) rest
        else scan fuel (.code (braces - 1) isBottom :: outer) (.op "\x7d" :: acc) rest
      | '~' :: '\x7d' :: rest =>
        if braces = 0 && !isBottom then scan fuel outer (.closeCode true :: acc) rest else none
      | c :: rest =>
        match openLines? cs with
        | some (flush, marker, after) =>
          scan fuel (.lines marker true :: frames) (.openLines flush :: acc) after
        | none =>
          if isNameStart c then
            scan fuel frames (.name (String.ofList (c :: rest.takeWhile isNamePart)) :: acc)
              (rest.dropWhile isNamePart)
          else if c.isDigit then do
            let (t, after) ← readNumber? cs
            scan fuel frames (t :: acc) after
          else do
            let (op, after) ← operator? cs
            scan fuel frames (.op op :: acc) after

def tokens? (cs : List Char) : Option (List Token) := scan (2 * cs.length + 2) [.code 0 true] [] cs

end SceneGraph.Hcl
