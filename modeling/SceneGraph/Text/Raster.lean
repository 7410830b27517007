import SceneGraph.Image.Basic
import SceneGraph.Text.Nfc

/-!
# Text as pixels

A fixed-width bitmap face, and texts that are drawn with it into images.
-/
set_option autoImplicit false

/-!
## The bitmap face

A fixed-width face of thirteen rows. A glyph is six pixels wide and set seven pixels apart; a row is
a number of six bits whose highest bit is the leftmost pixel.
-/

namespace SceneGraph.Text.Font

def advance : Nat := 7

def lineHeight : Nat := 13

/-- The glyphs of the printable ASCII characters, in order from the space on. -/
def asciiGlyphs : List (List Nat) :=
  [
    [0x00, 0x00, 0x00, 0x00, 0x00, 0x00, 0x00, 0x00, 0x00, 0x00, 0x00, 0x00, 0x00],
    [0x00, 0x00, 0x04, 0x04, 0x04, 0x04, 0x04, 0x04, 0x04, 0x00, 0x04, 0x00, 0x00],
    [0x00, 0x00, 0x0a, 0x0a, 0x0a, 0x00, 0x00, 0x00, 0x00, 0x00, 0x00, 0x00, 0x00],
    [0x00, 0x00, 0x00, 0x0a, 0x0a, 0x1f, 0x0a, 0x1f, 0x0a, 0x0a, 0x00, 0x00, 0x00],
    [0x00, 0x00, 0x00, 0x04, 0x0f, 0x14, 0x0e, 0x05, 0x1e, 0x04, 0x00, 0x00, 0x00],
    [0x00, 0x00, 0x11, 0x29, 0x12, 0x04, 0x04, 0x08, 0x12, 0x25, 0x22, 0x00, 0x00],
    [0x00, 0x00, 0x00, 0x00, 0x18, 0x24, 0x24, 0x18, 0x25, 0x22, 0x1d, 0x00, 0x00],
    [0x00, 0x00, 0x04, 0x04, 0x04, 0x00, 0x00, 0x00, 0x00, 0x00, 0x00, 0x00, 0x00],
    [0x00, 0x00, 0x02, 0x04, 0x04, 0x08, 0x08, 0x08, 0x04, 0x04, 0x02, 0x00, 0x00],
    [0x00, 0x00, 0x08, 0x04, 0x04, 0x02, 0x02, 0x02, 0x04, 0x04, 0x08, 0x00, 0x00],
    [0x00, 0x00, 0x00, 0x00, 0x12, 0x0c, 0x3f, 0x0c, 0x12, 0x00, 0x00, 0x00, 0x00],
    [0x00, 0x00, 0x00, 0x00, 0x04, 0x04, 0x1f, 0x04, 0x04, 0x00, 0x00, 0x00, 0x00],
    [0x00, 0x00, 0x00, 0x00, 0x00, 0x00, 0x00, 0x00, 0x00, 0x0e, 0x0c, 0x10, 0x00],
    [0x00, 0x00, 0x00, 0x00, 0x00, 0x00, 0x1f, 0x00, 0x00, 0x00, 0x00, 0x00, 0x00],
    [0x00, 0x00, 0x00, 0x00, 0x00, 0x00, 0x00, 0x00, 0x00, 0x04, 0x0e, 0x04, 0x00],
    [0x00, 0x00, 0x01, 0x01, 0x02, 0x02, 0x04, 0x08, 0x08, 0x10, 0x10, 0x00, 0x00],
    [0x00, 0x00, 0x0c, 0x12, 0x21, 0x21, 0x21, 0x21, 0x21, 0x12, 0x0c, 0x00, 0x00],
    [0x00, 0x00, 0x04, 0x0c, 0x14, 0x04, 0x04, 0x04, 0x04, 0x04, 0x1f, 0x00, 0x00],
    [0x00, 0x00, 0x1e, 0x21, 0x21, 0x01, 0x02, 0x0c, 0x10, 0x20, 0x3f, 0x00, 0x00],
    [0x00, 0x00, 0x3f, 0x01, 0x02, 0x04, 0x0e, 0x01, 0x01, 0x21, 0x1e, 0x00, 0x00],
    [0x00, 0x00, 0x02, 0x06, 0x0a, 0x12, 0x22, 0x22, 0x3f, 0x02, 0x02, 0x00, 0x00],
    [0x00, 0x00, 0x3f, 0x20, 0x20, 0x2e, 0x31, 0x01, 0x01, 0x21, 0x1e, 0x00, 0x00],
    [0x00, 0x00, 0x0e, 0x10, 0x20, 0x20, 0x2e, 0x31, 0x21, 0x21, 0x1e, 0x00, 0x00],
    [0x00, 0x00, 0x3f, 0x01, 0x02, 0x04, 0x04, 0x08, 0x08, 0x10, 0x10, 0x00, 0x00],
    [0x00, 0x00, 0x1e, 0x21, 0x21, 0x21, 0x1e, 0x21, 0x21, 0x21, 0x1e, 0x00, 0x00],
    [0x00, 0x00, 0x1e, 0x21, 0x21, 0x23, 0x1d, 0x01, 0x01, 0x02, 0x1c, 0x00, 0x00],
    [0x00, 0x00, 0x00, 0x00, 0x04, 0x0e, 0x04, 0x00, 0x00, 0x04, 0x0e, 0x04, 0x00],
    [0x00, 0x00, 0x00, 0x00, 0x04, 0x0e, 0x04, 0x00, 0x00, 0x0e, 0x0c, 0x10, 0x00],
    [0x00, 0x00, 0x01, 0x02, 0x04, 0x08, 0x10, 0x08, 0x04, 0x02, 0x01, 0x00, 0x00],
    [0x00, 0x00, 0x00, 0x00, 0x00, 0x3f, 0x00, 0x00, 0x3f, 0x00, 0x00, 0x00, 0x00],
    [0x00, 0x00, 0x10, 0x08, 0x04, 0x02, 0x01, 0x02, 0x04, 0x08, 0x10, 0x00, 0x00],
    [0x00, 0x00, 0x1e, 0x21, 0x21, 0x01, 0x02, 0x04, 0x04, 0x00, 0x04, 0x00, 0x00],
    [0x00, 0x00, 0x1e, 0x21, 0x21, 0x27, 0x29, 0x2b, 0x25, 0x20, 0x1e, 0x00, 0x00],
    [0x00, 0x00, 0x0c, 0x12, 0x21, 0x21, 0x21, 0x3f, 0x21, 0x21, 0x21, 0x00, 0x00],
    [0x00, 0x00, 0x3e, 0x11, 0x11, 0x11, 0x1e, 0x11, 0x11, 0x11, 0x3e, 0x00, 0x00],
    [0x00, 0x00, 0x1e, 0x21, 0x20, 0x20, 0x20, 0x20, 0x20, 0x21, 0x1e, 0x00, 0x00],
    [0x00, 0x00, 0x3e, 0x11, 0x11, 0x11, 0x11, 0x11, 0x11, 0x11, 0x3e, 0x00, 0x00],
    [0x00, 0x00, 0x3f, 0x20, 0x20, 0x20, 0x3c, 0x20, 0x20, 0x20, 0x3f, 0x00, 0x00],
    [0x00, 0x00, 0x3f, 0x20, 0x20, 0x20, 0x3c, 0x20, 0x20, 0x20, 0x20, 0x00, 0x00],
    [0x00, 0x00, 0x1e, 0x21, 0x20, 0x20, 0x20, 0x27, 0x21, 0x23, 0x1d, 0x00, 0x00],
    [0x00, 0x00, 0x21, 0x21, 0x21, 0x21, 0x3f, 0x21, 0x21, 0x21, 0x21, 0x00, 0x00],
    [0x00, 0x00, 0x1f, 0x04, 0x04, 0x04, 0x04, 0x04, 0x04, 0x04, 0x1f, 0x00, 0x00],
    [0x00, 0x00, 0x07, 0x02, 0x02, 0x02, 0x02, 0x02, 0x02, 0x22, 0x1c, 0x00, 0x00],
    [0x00, 0x00, 0x21, 0x22, 0x24, 0x28, 0x30, 0x28, 0x24, 0x22, 0x21, 0x00, 0x00],
    [0x00, 0x00, 0x20, 0x20, 0x20, 0x20, 0x20, 0x20, 0x20, 0x20, 0x3f, 0x00, 0x00],
    [0x00, 0x00, 0x21, 0x33, 0x33, 0x2d, 0x2d, 0x21, 0x21, 0x21, 0x21, 0x00, 0x00],
    [0x00, 0x00, 0x21, 0x21, 0x31, 0x29, 0x25, 0x23, 0x21, 0x21, 0x21, 0x00, 0x00],
    [0x00, 0x00, 0x1e, 0x21, 0x21, 0x21, 0x21, 0x21, 0x21, 0x21, 0x1e, 0x00, 0x00],
    [0x00, 0x00, 0x3e, 0x21, 0x21, 0x21, 0x3e, 0x20, 0x20, 0x20, 0x20, 0x00, 0x00],
    [0x00, 0x00, 0x1e, 0x21, 0x21, 0x21, 0x21, 0x21, 0x29, 0x25, 0x1e, 0x01, 0x00],
    [0x00, 0x00, 0x3e, 0x21, 0x21, 0x21, 0x3e, 0x28, 0x24, 0x22, 0x21, 0x00, 0x00],
    [0x00, 0x00, 0x1e, 0x21, 0x20, 0x20, 0x1e, 0x01, 0x01, 0x21, 0x1e, 0x00, 0x00],
    [0x00, 0x00, 0x1f, 0x04, 0x04, 0x04, 0x04, 0x04, 0x04, 0x04, 0x04, 0x00, 0x00],
    [0x00, 0x00, 0x21, 0x21, 0x21, 0x21, 0x21, 0x21, 0x21, 0x21, 0x1e, 0x00, 0x00],
    [0x00, 0x00, 0x21, 0x21, 0x21, 0x12, 0x12, 0x12, 0x0c, 0x0c, 0x0c, 0x00, 0x00],
    [0x00, 0x00, 0x21, 0x21, 0x21, 0x21, 0x2d, 0x2d, 0x33, 0x33, 0x21, 0x00, 0x00],
    [0x00, 0x00, 0x21, 0x21, 0x12, 0x12, 0x0c, 0x12, 0x12, 0x21, 0x21, 0x00, 0x00],
    [0x00, 0x00, 0x11, 0x11, 0x0a, 0x0a, 0x04, 0x04, 0x04, 0x04, 0x04, 0x00, 0x00],
    [0x00, 0x00, 0x3f, 0x01, 0x02, 0x04, 0x0c, 0x08, 0x10, 0x20, 0x3f, 0x00, 0x00],
    [0x00, 0x1e, 0x10, 0x10, 0x10, 0x10, 0x10, 0x10, 0x10, 0x10, 0x10, 0x1e, 0x00],
    [0x00, 0x00, 0x10, 0x10, 0x08, 0x08, 0x04, 0x02, 0x02, 0x01, 0x01, 0x00, 0x00],
    [0x00, 0x1e, 0x02, 0x02, 0x02, 0x02, 0x02, 0x02, 0x02, 0x02, 0x02, 0x1e, 0x00],
    [0x00, 0x00, 0x04, 0x0a, 0x11, 0x00, 0x00, 0x00, 0x00, 0x00, 0x00, 0x00, 0x00],
    [0x00, 0x00, 0x00, 0x00, 0x00, 0x00, 0x00, 0x00, 0x00, 0x00, 0x00, 0x3f, 0x00],
    [0x00, 0x08, 0x04, 0x00, 0x00, 0x00, 0x00, 0x00, 0x00, 0x00, 0x00, 0x00, 0x00],
    [0x00, 0x00, 0x00, 0x00, 0x00, 0x1e, 0x01, 0x1f, 0x21, 0x23, 0x1d, 0x00, 0x00],
    [0x00, 0x00, 0x20, 0x20, 0x20, 0x2e, 0x31, 0x21, 0x21, 0x31, 0x2e, 0x00, 0x00],
    [0x00, 0x00, 0x00, 0x00, 0x00, 0x1e, 0x21, 0x20, 0x20, 0x21, 0x1e, 0x00, 0x00],
    [0x00, 0x00, 0x01, 0x01, 0x01, 0x1d, 0x23, 0x21, 0x21, 0x23, 0x1d, 0x00, 0x00],
    [0x00, 0x00, 0x00, 0x00, 0x00, 0x1e, 0x21, 0x3f, 0x20, 0x21, 0x1e, 0x00, 0x00],
    [0x00, 0x00, 0x0e, 0x11, 0x10, 0x10, 0x3c, 0x10, 0x10, 0x10, 0x10, 0x00, 0x00],
    [0x00, 0x00, 0x00, 0x00, 0x00, 0x1d, 0x22, 0x22, 0x1c, 0x20, 0x1e, 0x21, 0x1e],
    [0x00, 0x00, 0x20, 0x20, 0x20, 0x2e, 0x31, 0x21, 0x21, 0x21, 0x21, 0x00, 0x00],
    [0x00, 0x00, 0x00, 0x04, 0x00, 0x0c, 0x04, 0x04, 0x04, 0x04, 0x1f, 0x00, 0x00],
    [0x00, 0x00, 0x00, 0x01, 0x00, 0x03, 0x01, 0x01, 0x01, 0x01, 0x11, 0x11, 0x0e],
    [0x00, 0x00, 0x20, 0x20, 0x20, 0x22, 0x24, 0x38, 0x24, 0x22, 0x21, 0x00, 0x00],
    [0x00, 0x00, 0x0c, 0x04, 0x04, 0x04, 0x04, 0x04, 0x04, 0x04, 0x1f, 0x00, 0x00],
    [0x00, 0x00, 0x00, 0x00, 0x00, 0x1a, 0x15, 0x15, 0x15, 0x15, 0x11, 0x00, 0x00],
    [0x00, 0x00, 0x00, 0x00, 0x00, 0x2e, 0x31, 0x21, 0x21, 0x21, 0x21, 0x00, 0x00],
    [0x00, 0x00, 0x00, 0x00, 0x00, 0x1e, 0x21, 0x21, 0x21, 0x21, 0x1e, 0x00, 0x00],
    [0x00, 0x00, 0x00, 0x00, 0x00, 0x2e, 0x31, 0x21, 0x31, 0x2e, 0x20, 0x20, 0x20],
    [0x00, 0x00, 0x00, 0x00, 0x00, 0x1d, 0x23, 0x21, 0x23, 0x1d, 0x01, 0x01, 0x01],
    [0x00, 0x00, 0x00, 0x00, 0x00, 0x2e, 0x11, 0x10, 0x10, 0x10, 0x10, 0x00, 0x00],
    [0x00, 0x00, 0x00, 0x00, 0x00, 0x1e, 0x21, 0x18, 0x06, 0x21, 0x1e, 0x00, 0x00],
    [0x00, 0x00, 0x00, 0x10, 0x10, 0x3c, 0x10, 0x10, 0x10, 0x11, 0x0e, 0x00, 0x00],
    [0x00, 0x00, 0x00, 0x00, 0x00, 0x21, 0x21, 0x21, 0x21, 0x23, 0x1d, 0x00, 0x00],
    [0x00, 0x00, 0x00, 0x00, 0x00, 0x11, 0x11, 0x11, 0x0a, 0x0a, 0x04, 0x00, 0x00],
    [0x00, 0x00, 0x00, 0x00, 0x00, 0x11, 0x11, 0x15, 0x15, 0x15, 0x0a, 0x00, 0x00],
    [0x00, 0x00, 0x00, 0x00, 0x00, 0x21, 0x12, 0x0c, 0x0c, 0x12, 0x21, 0x00, 0x00],
    [0x00, 0x00, 0x00, 0x00, 0x00, 0x21, 0x21, 0x21, 0x23, 0x1d, 0x01, 0x21, 0x1e],
    [0x00, 0x00, 0x00, 0x00, 0x00, 0x3f, 0x02, 0x04, 0x08, 0x10, 0x3f, 0x00, 0x00],
    [0x00, 0x07, 0x08, 0x08, 0x08, 0x04, 0x18, 0x04, 0x08, 0x08, 0x08, 0x07, 0x00],
    [0x00, 0x00, 0x04, 0x04, 0x04, 0x04, 0x04, 0x04, 0x04, 0x04, 0x04, 0x00, 0x00],
    [0x00, 0x1c, 0x02, 0x02, 0x02, 0x04, 0x03, 0x04, 0x02, 0x02, 0x02, 0x1c, 0x00],
    [0x00, 0x00, 0x09, 0x15, 0x12, 0x00, 0x00, 0x00, 0x00, 0x00, 0x00, 0x00, 0x00]]

def replacementGlyph : List Nat :=
  [0x00, 0x00, 0x0e, 0x1b, 0x15, 0x1d, 0x1b, 0x1b, 0x1f, 0x1b, 0x0e, 0x00, 0x00]

def glyph (c : Char) : List Nat :=
  if 0x20 ≤ c.toNat && c.toNat ≤ 0x7E then asciiGlyphs.getD (c.toNat - 0x20) replacementGlyph
  else replacementGlyph

/-- The pixels of a row of a glyph, one for each column up to the next glyph. -/
def rowPixels (row : Nat) : List Bool :=
  [row.testBit 5, row.testBit 4, row.testBit 3, row.testBit 2, row.testBit 1, row.testBit 0, false]

end SceneGraph.Text.Font

/-!
## Text as pixels

Draws a text with a face into an image of four bytes per pixel, rows from top to bottom.
-/

namespace SceneGraph

namespace Text

/-- A face that texts are drawn with. -/
structure Face where
  /-- The form in which a text is drawn. -/
  normalize : String → String
  /-- The rows of a line. -/
  lineHeight : Nat
  /-- The columns of a line. -/
  measure : List Char → Int
  /-- The pixels of a row of a line, from the left. -/
  pixels : List Char → Nat → List Bool

/-- The bitmap face. Widths are words of 32 bits in parts of 64 to a column. -/
def Face.bitmap : Face where
  normalize := nfc
  lineHeight := Font.lineHeight
  measure line := Int.bmod (Font.advance * line.length) (Nat.pow 2 26)
  pixels line row := line.flatMap fun c => Font.rowPixels ((Font.glyph c).getD row 0)

def lines (s : String) : List (List Char) := s.toList.splitOnP (· == '\n')

def pushPixel (c : Rgba) : Nat → ByteArray → ByteArray
  | 0, out => out
  | n + 1, out => pushPixel c n ((((out.push c.r).push c.g).push c.b).push c.a)

/-- The pixels of one row of a line, cut or padded to a width. -/
def Face.rowOf (face : Face) (width row : Nat) (line : List Char) : List Bool :=
  let drawn := (face.pixels line row).take width
  drawn ++ List.replicate (width - drawn.length) false

/-- The bytes of a row of pixels, each pixel repeated `scale` times. -/
def rowBytes (color : Rgba) (scale : Nat) (row : List Bool) : ByteArray :=
  row.foldl (fun out set => pushPixel (if set then color else ⟨0, 0, 0, 0⟩) scale out) .empty

def pushRepeated (bytes : ByteArray) : Nat → ByteArray → ByteArray
  | 0, out => out
  | n + 1, out => pushRepeated bytes n (out ++ bytes)

/-- The columns of the longest line. -/
def Face.width (face : Face) (ls : List (List Char)) : Nat := (ls.map fun line => (face.measure line).toNat).foldl max 0

/-- Draws a text in a color, each pixel as a square of `scale` pixels, or breaks off where there is no memory for it. A
text without columns is a single transparent pixel. -/
def rasterize (face : Face) (s : String) (color : Rgba) (scale : Int) : Except String Image := do
  let ls := lines (face.normalize s)
  let width := face.width ls
  let height := face.lineHeight * ls.length
  if width = 0 || height = 0 then return ⟨1, 1, pushPixel ⟨0, 0, 0, 0⟩ 1 .empty⟩
  -- The text is drawn once, and then scaled into an image of its own.
  let k := max scale.toNat 1
  Image.reserve (4 * width * height)
  Image.reserve (4 * (width * k) * (height * k))
  return ⟨width * k, height * k, ls.foldl (fun out line =>
    (List.range face.lineHeight).foldl (fun out row =>
      pushRepeated (rowBytes color k (face.rowOf width row line)) k out) out) .empty⟩

end Text

end SceneGraph
