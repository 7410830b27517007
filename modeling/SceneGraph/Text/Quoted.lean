import SceneGraph.Text.Printable

/-!
# Quoted text

Names inside diagnostics stand in double quotes: quotes and backslashes are escaped by a backslash,
printable characters stand for themselves, and all others are written as escapes.
-/
set_option autoImplicit false

namespace SceneGraph.Text

/-- Lower-case hexadecimal digits of `n`, padded on the left to `width`. -/
def hex (width n : Nat) : String :=
  let digits := Nat.toDigits 16 n
  String.ofList (List.replicate (width - digits.length) '0' ++ digits)

def letterEscape? : Char → Option Char
  | '\x07' => some 'a'
  | '\x08' => some 'b'
  | '\x0c' => some 'f'
  | '\n' => some 'n'
  | '\r' => some 'r'
  | '\t' => some 't'
  | '\x0b' => some 'v'
  | _ => none

/-- One character as it stands between two quotes of the given kind. -/
def escapeWithin (quote c : Char) : String :=
  if c = quote || c = '\\' then String.ofList ['\\', c]
  else if isPrintable c then c.toString
  else match letterEscape? c with
    | some l => String.ofList ['\\', l]
    | none =>
      if c.toNat < 0x20 || c.toNat = 0x7F then "\\x" ++ hex 2 c.toNat
      else if c.toNat < 0x10000 then "\\u" ++ hex 4 c.toNat
      else "\\U" ++ hex 8 c.toNat

/-- One character as it stands between double quotes. -/
def escapeChar (c : Char) : String := escapeWithin '"' c

/-- A byte in single quotes, as the character with its number. -/
def quotedByte (b : UInt8) : String := "'" ++ escapeWithin '\'' (Char.ofNat b.toNat) ++ "'"

/-- A text in double quotes, as diagnostics show names. -/
def quoted (s : String) : String :=
  "\"" ++ s.toList.foldl (fun acc c => acc ++ escapeChar c) "" ++ "\""

end SceneGraph.Text
