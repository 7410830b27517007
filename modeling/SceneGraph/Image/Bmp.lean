import SceneGraph.Bytes.Basic
import SceneGraph.Image.Basic

/-!
# The BMP format

Reads images of palette entries of up to eight bits, or of three or four bytes per pixel. Rows are
padded to four bytes and stored from the bottom, or from the top when the height is negative.
-/
set_option autoImplicit false

namespace SceneGraph.Bmp

def signed (n : Nat) : Int := Int.bmod n (Nat.pow 2 32)

def headerSizes : List Nat := [40, 108, 124]

/-- The bits of a pixel of four bytes stand where they stand without masks. -/
def plainMasks (file : ByteArray) : Bool :=
  [54, 58, 62, 66].map (fun i => (Bytes.littleEndian? file i 4).getD 0)
    == [0xff0000, 0xff00, 0xff, 0xff000000]

/-- How the pixels of a row are stored. -/
inductive Layout where
  /-- Indices of so many bits into the palette at an offset. -/
  | indexed (bits colors : Nat)
  | color
  /-- The fourth byte is an alpha, or counts as opaque. -/
  | colorAlpha (honored : Bool)

def Layout.stride (l : Layout) (width : Nat) : Nat :=
  match l with
  | .indexed bits _ => ((width + 8 / bits - 1) / (8 / bits) + 3) / 4 * 4
  | .color => (3 * width + 3) / 4 * 4
  | .colorAlpha _ => 4 * width

/-- A pixel of the row at an offset; indices refer to the palette at another one. -/
def Layout.pixel (l : Layout) (file : ByteArray) (palette offset x : Nat) : Rgba :=
  let byte (i : Nat) : UInt8 := ((Bytes.littleEndian? file i 1).getD 0).toUInt8
  match l with
  | .indexed bits _ =>
    let i := (byte (offset + x * bits / 8)).toNat / Nat.pow 2 (8 - bits - x * bits % 8) % Nat.pow 2 bits
    let at4 := palette + 4 * i
    ⟨byte (at4 + 2), byte (at4 + 1), byte at4, 255⟩
  | .color => ⟨byte (offset + 3 * x + 2), byte (offset + 3 * x + 1), byte (offset + 3 * x), 255⟩
  | .colorAlpha honored =>
    let at4 := offset + 4 * x
    .ofStraight (byte (at4 + 2)) (byte (at4 + 1)) (byte at4) (if honored then byte (at4 + 3) else 255)

/-- The layout for a number of bits per pixel, with the bytes that its palette takes. -/
def layout? (file : ByteArray) (depth infoSize : Nat) : Option (Layout × Nat) := do
  match depth with
  | 24 => some (.color, 0)
  | 32 => some (.colorAlpha (40 < infoSize), 0)
  | 1 | 2 | 4 | 8 =>
    let stated ← Bytes.littleEndian? file 46 4
    let colors := if stated = 0 then Nat.pow 2 depth else stated
    if Nat.pow 2 depth < colors then none else some (.indexed depth colors, 4 * colors)
  | _ => none

/-- The bytes that a pixel takes in memory; indices are kept as they are. -/
def Layout.pixelBytes : Layout → Nat
  | .indexed _ _ => 1
  | .color | .colorAlpha _ => 4

/-- What stands before the pixels of a file. -/
structure Header where
  width : Nat
  /-- The number of rows, negative where the top row comes first. -/
  height : Int
  layout : Layout
  /-- Where the palette starts. -/
  palette : Nat
  /-- Where the pixels start. -/
  offset : Nat

def header? (file : ByteArray) : Option Header := do
  let mark ← Bytes.littleEndian? file 0 2
  let reserved ← Bytes.littleEndian? file 6 4
  let offset ← Bytes.littleEndian? file 10 4
  let infoSize ← Bytes.littleEndian? file 14 4
  if mark ≠ 0x4D42 || reserved ≠ 0 || !headerSizes.contains infoSize || file.size < 14 + infoSize then none
  let width := signed (← Bytes.littleEndian? file 18 4)
  let height := signed (← Bytes.littleEndian? file 22 4)
  let planes ← Bytes.littleEndian? file 26 2
  let depth ← Bytes.littleEndian? file 28 2
  let compression ← Bytes.littleEndian? file 30 4
  if width < 0 || planes ≠ 1 then none
  if compression ≠ 0 && !(compression = 3 && 40 < infoSize && plainMasks file) then none
  let (layout, palette) ← layout? file depth infoSize
  if offset ≠ 14 + infoSize + palette || file.size < offset then none
  return ⟨width.toNat, height, layout, 14 + infoSize, offset⟩

/-- The rows of a file in the order of the image. -/
def Header.rows (h : Header) : List Nat :=
  if h.height < 0 then List.range h.height.natAbs else (List.range h.height.natAbs).reverse

/-- Reads a file, given that there is memory for its pixels. -/
def decode (file : ByteArray) : Except ImageFault Image :=
  match header? file with
  | none => .error .unreadable
  | some h =>
    let stride := h.layout.stride h.width
    match Image.reserve (h.layout.pixelBytes * h.width * h.height.natAbs) with
    | .error words => .error (.overflow words)
    | .ok () =>
      if h.width ≠ 0 && file.size < h.offset + h.height.natAbs * stride then .error .unreadable
      else .ok ⟨h.width, h.height.natAbs, Rgba.bytes (h.rows.flatMap fun y =>
        (List.range h.width).map (h.layout.pixel file h.palette (h.offset + y * stride)))⟩

end SceneGraph.Bmp
