import SceneGraph.Json.Value
import SceneGraph.Text.Quoted

/-!
# Writing JSON

Two forms of one tree: `Json.compress` on a single line, and `Json.pretty` with two blanks per level.
Characters that a surrounding web page could take for markup are written as escapes.
-/
set_option autoImplicit false

namespace SceneGraph.Json

/-- One character of a string, between the quotes. -/
def writeChar (c : Char) : String :=
  match c with
  | '"' => "\\\""
  | '\\' => "\\\\"
  | '\x08' => "\\b"
  | '\x0c' => "\\f"
  | '\n' => "\\n"
  | '\r' => "\\r"
  | '\t' => "\\t"
  | c =>
    if c.toNat < 0x20 || c = '<' || c = '>' || c = '&' || c.toNat = 0x2028 || c.toNat = 0x2029 then
      "\\u" ++ Text.hex 4 c.toNat
    else c.toString

def writeString (s : String) : String :=
  "\"" ++ s.toList.foldl (fun acc c => acc ++ writeChar c) "" ++ "\""

def writeNumber (d : Decimal) : String := NumberStyle.document.layout d

mutual

def compress : Json → String
  | .null => "null"
  | .bool true => "true"
  | .bool false => "false"
  | .num d => writeNumber d
  | .str s => writeString s
  | .arr [] => "[]"
  | .arr (item :: items) => "[" ++ compress item ++ compressItems items ++ "]"
  | .obj [] => "\x7b\x7d"
  | .obj ((name, value) :: members) =>
    "\x7b" ++ writeString name ++ ":" ++ compress value ++ compressMembers members ++ "\x7d"

def compressItems : List Json → String
  | [] => ""
  | item :: items => "," ++ compress item ++ compressItems items

def compressMembers : List (String × Json) → String
  | [] => ""
  | (name, value) :: members =>
    "," ++ writeString name ++ ":" ++ compress value ++ compressMembers members

end

/-- A line break followed by the indentation of a level. -/
def newline (level : Nat) : String := "\n" ++ String.ofList (List.replicate (2 * level) ' ')

mutual

/-- The tree with one item or member per line. -/
def prettyAt (level : Nat) : Json → String
  | .null => "null"
  | .bool true => "true"
  | .bool false => "false"
  | .num d => writeNumber d
  | .str s => writeString s
  | .arr [] => "[]"
  | .arr (item :: items) =>
    "[" ++ newline (level + 1) ++ prettyAt (level + 1) item ++ prettyItems (level + 1) items
      ++ newline level ++ "]"
  | .obj [] => "\x7b\x7d"
  | .obj ((name, value) :: members) =>
    "\x7b" ++ newline (level + 1) ++ writeString name ++ ": " ++ prettyAt (level + 1) value
      ++ prettyMembers (level + 1) members ++ newline level ++ "\x7d"

/-- Further items, each after a comma on a line of its own. -/
def prettyItems (level : Nat) : List Json → String
  | [] => ""
  | item :: items => "," ++ newline level ++ prettyAt level item ++ prettyItems level items

/-- Further members, each after a comma on a line of its own. -/
def prettyMembers (level : Nat) : List (String × Json) → String
  | [] => ""
  | (name, value) :: members =>
    "," ++ newline level ++ writeString name ++ ": " ++ prettyAt level value
      ++ prettyMembers level members

end

def pretty (j : Json) : String := prettyAt 0 j

end SceneGraph.Json
