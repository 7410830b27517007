/-!
# Blanks

The characters that count as white space, and texts without them at their ends.
-/
set_option autoImplicit false

namespace SceneGraph.Text

def isBlank (c : Char) : Bool :=
  let n := c.toNat
  (0x09 ≤ n && n ≤ 0x0D) || n == 0x20 || n == 0x85 || n == 0xA0 || n == 0x1680
    || (0x2000 ≤ n && n ≤ 0x200A) || n == 0x2028 || n == 0x2029 || n == 0x202F || n == 0x205F || n == 0x3000

def dropTrailing (cs : List Char) : List Char := (cs.reverse.dropWhile isBlank).reverse

def trim (s : String) : String := String.ofList (dropTrailing (s.toList.dropWhile isBlank))

def contains (s part : String) : Bool := hasPart s.toList
where
  /-- Some tail of the characters begins with the part. -/
  hasPart : List Char → Bool
    | [] => part.isEmpty
    | c :: rest => part.toList.isPrefixOf (c :: rest) || hasPart rest

end SceneGraph.Text
