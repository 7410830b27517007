import SceneGraph.Bytes.Inflate
import SceneGraph.Image.Basic

/-!
# The PNG format

The file is a list of checked chunks: a header, perhaps a palette and transparency, and the deflated
pixel rows, each coded relative to its neighbours. Rows come in one pass, or in seven that fill a
pattern of eight by eight pixels.

Memory for all pixels is taken as soon as the header of the pixel stream is read, whatever follows it.
-/
set_option autoImplicit false

namespace SceneGraph.Png

/-- The bytes that every file begins with. -/
def signature : List UInt8 := [0x89, 0x50, 0x4E, 0x47, 0x0D, 0x0A, 0x1A, 0x0A]

/-! ## Chunks -/

/-- A chunk of a file. -/
structure Chunk where
  kind : String
  data : ByteArray
  /-- Where its data starts in the file. -/
  start : Nat

def kindOf (bytes : ByteArray) : String := String.ofList (bytes.toList.map fun b => Char.ofNat b.toNat)

/-- A chunk at an offset, with the offset after it; its checksum covers kind and data. -/
def chunkAt? (file : ByteArray) (offset : Nat) : Option (Chunk × Nat) := do
  let length ← Bytes.bigEndian? file offset 4
  let kind ← Bytes.slice? file (offset + 4) 4
  let data ← Bytes.slice? file (offset + 8) length
  let sum ← Bytes.bigEndian? file (offset + 8 + length) 4
  if (Bytes.crc32 (kind ++ data)).toNat = sum then some (⟨kindOf kind, data, offset + 8⟩, offset + 12 + length)
  else none

/-- The chunks from an offset up to the end mark, which is empty. -/
def chunksFrom? (file : ByteArray) : Nat → Nat → Option (List Chunk)
  | 0, _ => none
  | fuel + 1, offset => do
    let (c, next) ← chunkAt? file offset
    if c.kind = "IEND" then if c.data.size = 0 then some [] else none
    else
      let rest ← chunksFrom? file fuel next
      return c :: rest

/-! ## What stands before the pixels -/

/-- What the samples of a pixel mean. -/
inductive Model where
  | gray
  | color
  | palette
  | grayAlpha
  | colorAlpha
deriving Repr, DecidableEq

def Model.channels : Model → Nat
  | .gray | .palette => 1
  | .grayAlpha => 2
  | .color => 3
  | .colorAlpha => 4

/-- The model with a number, and the sample sizes that it allows. -/
def Model.ofNumber? : Nat → Option (Model × List Nat)
  | 0 => some (.gray, [1, 2, 4, 8, 16])
  | 2 => some (.color, [8, 16])
  | 3 => some (.palette, [1, 2, 4, 8])
  | 4 => some (.grayAlpha, [8, 16])
  | 6 => some (.colorAlpha, [8, 16])
  | _ => none

/-- What the header says. -/
structure Header where
  width : Nat
  height : Nat
  /-- The bits of a sample. -/
  depth : Nat
  model : Model
  interlaced : Bool

def Header.pixelBits (h : Header) : Nat := h.model.channels * h.depth

def header? (c : Chunk) : Option Header := do
  if c.data.size ≠ 13 then none
  let width ← Bytes.bigEndian? c.data 0 4
  let height ← Bytes.bigEndian? c.data 4 4
  let depth ← Bytes.bigEndian? c.data 8 1
  let (model, depths) ← Model.ofNumber? (← Bytes.bigEndian? c.data 9 1)
  let packing ← Bytes.bigEndian? c.data 10 2
  let interlace ← Bytes.bigEndian? c.data 12 1
  let inRange (n : Nat) : Bool := 0 < n && n < Nat.pow 2 31
  if packing ≠ 0 || 1 < interlace || !depths.contains depth || !inRange width || !inRange height
      || Nat.pow 2 60 ≤ width * height then none
  else some ⟨width, height, depth, model, interlace = 1⟩

/-- How far the chunks before the pixels have got. -/
inductive Stage where
  | start
  | header
  | palette
  | transparency
deriving Repr, DecidableEq

/-- What the chunks before the pixels say. -/
structure Setup where
  stage : Stage := .start
  header : Option Header := none
  palette : ByteArray := .empty
  transparency : Option ByteArray := none

/-- A palette has at most as many colors as a sample can name; only colors may come with one. -/
def paletteFits (h : Header) (data : ByteArray) : Bool :=
  let count := data.size / 3
  data.size % 3 = 0 && 0 < count && count ≤ min 256 (Nat.pow 2 h.depth)
    && h.model ≠ .gray && h.model ≠ .grayAlpha

/-- Transparency names one gray or one color, or gives alphas of palette entries. -/
def transparencyFits (h : Header) (stage : Stage) (data : ByteArray) : Bool :=
  match h.model with
  | .gray => stage = .header && data.size = 2
  | .color => (stage = .header || stage = .palette) && data.size = 6
  | .palette => stage = .palette && data.size ≤ 256
  | _ => false

/-- One chunk more before the pixels. Chunks of other kinds are skipped. -/
def Setup.add (s : Setup) (c : Chunk) : Option Setup := do
  if c.kind = "IHDR" then
    if s.stage ≠ .start then none
    return { s with stage := .header, header := some (← header? c) }
  else if c.kind = "PLTE" then
    if s.stage ≠ .header || !paletteFits (← s.header) c.data then none
    return { s with stage := .palette, palette := c.data }
  else if c.kind = "tRNS" then
    if !transparencyFits (← s.header) s.stage c.data then none
    return { s with stage := .transparency, transparency := some c.data }
  else return s

/-! ## The pixel stream -/

def adler32 (data : ByteArray) : Nat :=
  let (a, b) := data.foldl (fun (a, b) x =>
    let a := (a + x.toNat) % 65521
    (a, (b + a) % 65521)) (1, 0)
  b * 65536 + a

/-- The size of the header of a stream. A stream may name a dictionary, which must be the empty one. -/
def streamHeader? (data : ByteArray) : Option Nat := do
  let first ← Bytes.bigEndian? data 0 2
  if first % 31 ≠ 0 || first / 256 % 16 ≠ 8 || 7 < first / 4096 then none
  let named := first / 32 % 2 = 1
  if named && Bytes.bigEndian? data 2 4 ≠ some 1 then none
  return if named then 6 else 2

/-- The data of a stream with header and checksum, and the number of bytes that it takes. -/
def unpack? (data : ByteArray) : Option (ByteArray × Nat) := do
  let skip ← streamHeader? data
  let result := Inflate.inflate (data.extract skip data.size)
  let sum ← Bytes.bigEndian? data (skip + result.taken) 4
  if result.fault.isNone && sum = adler32 result.data then some (result.data, skip + result.taken + 4)
  else none

/-- The size of the pieces in which a file is taken. -/
def pieceSize : Nat := 4096

/-- The stream, which takes `used` bytes of the chunks, ends in the last piece of its chunk. -/
def endsInLastPiece : List Chunk → Nat → Bool
  | [], _ => true
  | c :: rest, used =>
    if c.data.size < used then endsInLastPiece rest (used - c.data.size)
    else c.start + c.data.size ≤ ((c.start + used - 1) / pieceSize + 1) * pieceSize

/-! ## Rows -/

/-- The one of three neighbours that is closest to their linear prediction. -/
def paeth (left up corner : Nat) : Nat :=
  let p : Int := (left : Int) + up - corner
  let dl := (p - left).natAbs
  let du := (p - up).natAbs
  let dc := (p - corner).natAbs
  if dl ≤ du && dl ≤ dc then left else if du ≤ dc then up else corner

def predict (filter : UInt8) (left up corner : Nat) : Option Nat :=
  match filter with
  | 0 => some 0
  | 1 => some left
  | 2 => some up
  | 3 => some ((left + up) / 2)
  | 4 => some (paeth left up corner)
  | _ => none

/-- Decodes a row below another one, `step` bytes to a pixel; `done` holds the bytes decoded so far. -/
def decodeRow (filter : UInt8) (step : Nat) (above : Array UInt8) :
    List UInt8 → Array UInt8 → Option (Array UInt8)
  | [], done => some done
  | x :: rest, done => do
    let i := done.size
    let back (a : Array UInt8) : Nat := if step ≤ i then (a.getD (i - step) 0).toNat else 0
    let p ← predict filter (back done) (above.getD i 0).toNat (back above)
    decodeRow filter step above rest (done.push (x.toNat + p).toUInt8)

/-- Decodes `count` rows of a number of bytes, and returns what follows them. -/
def decodeRows (step rowSize : Nat) :
    Nat → List UInt8 → Array UInt8 → Option (List (Array UInt8) × List UInt8)
  | 0, rest, _ => some ([], rest)
  | _ + 1, [], _ => none
  | count + 1, filter :: rest, above => do
    if rest.length < rowSize then none
    let row ← decodeRow filter step above (rest.take rowSize) #[]
    let (rows, rest) ← decodeRows step rowSize count (rest.drop rowSize) row
    return (row :: rows, rest)

/-! ## Pixels -/

def sample (depth : Nat) (row : Array UInt8) (i : Nat) : Nat :=
  let byte (j : Nat) : Nat := (row.getD j 0).toNat
  if depth = 16 then byte (2 * i) * 256 + byte (2 * i + 1)
  else byte (i * depth / 8) / Nat.pow 2 (8 - depth - i * depth % 8) % Nat.pow 2 depth

def widen (depth v : Nat) : Nat := v * (65535 / (Nat.pow 2 depth - 1))

/-- The transparent value of a channel, with 16 bits. -/
def transparentSample (depth : Nat) (data : ByteArray) (channel : Nat) : Nat :=
  let wide := (Bytes.bigEndian? data (2 * channel) 2).getD 0
  if depth = 16 then wide else wide * (255 / (Nat.pow 2 depth - 1)) % 256 * 257

/-- The alpha of a value that is opaque unless it is the transparent one. -/
def Setup.alphaOf (s : Setup) (depth : Nat) (values : List Nat) : Nat :=
  match s.transparency with
  | none => 0xffff
  | some data =>
    if values.zipIdx.all fun (v, i) => v = transparentSample depth data i then 0 else 0xffff

/-- A color of the palette; unlisted ones are black. -/
def Setup.color (s : Setup) (i : Nat) : Rgba :=
  let byte (j : Nat) : Nat := (Bytes.bigEndian? s.palette (3 * i + j) 1).getD 0 * 257
  let alpha := ((s.transparency.bind fun t => Bytes.bigEndian? t i 1).getD 255) * 257
  Rgba.ofWide (byte 0) (byte 1) (byte 2) alpha

def Setup.pixel (s : Setup) (h : Header) (row : Array UInt8) (x : Nat) : Rgba :=
  let value (j : Nat) : Nat := sample h.depth row (x * h.model.channels + j)
  let wide (j : Nat) : Nat := widen h.depth (value j)
  match h.model with
  | .gray => Rgba.ofWide (wide 0) (wide 0) (wide 0) (s.alphaOf h.depth [wide 0])
  | .color => Rgba.ofWide (wide 0) (wide 1) (wide 2) (s.alphaOf h.depth [wide 0, wide 1, wide 2])
  | .palette => s.color (value 0)
  | .grayAlpha => Rgba.ofWide (wide 0) (wide 0) (wide 0) (wide 1)
  | .colorAlpha => Rgba.ofWide (wide 0) (wide 1) (wide 2) (wide 3)

/-- A pass over the pixels: every so many columns and rows from a first one on. -/
structure Pass where
  stepX : Nat
  stepY : Nat
  firstX : Nat
  firstY : Nat

def interlacedPasses : List Pass :=
  [⟨8, 8, 0, 0⟩, ⟨8, 8, 4, 0⟩, ⟨4, 8, 0, 4⟩, ⟨4, 4, 2, 0⟩, ⟨2, 4, 0, 2⟩, ⟨2, 2, 1, 0⟩, ⟨1, 2, 0, 1⟩]

/-- The number of positions from `first` on, every `step` of them, below a size. -/
def Pass.count (size step first : Nat) : Nat := (size + step - 1 - first) / step

/-- Draws the passes into an image; nothing may be left of the data. -/
def Setup.draw (s : Setup) (h : Header) : List Pass → List UInt8 → Array Rgba → Option (Array Rgba)
  | [], data, image => if data.isEmpty then some image else none
  | p :: rest, data, image => do
    let width := Pass.count h.width p.stepX p.firstX
    let height := Pass.count h.height p.stepY p.firstY
    if width = 0 || height = 0 then s.draw h rest data image
    else
      let (rows, data) ←
        decodeRows ((h.pixelBits + 7) / 8) ((h.pixelBits * width + 7) / 8) height data #[]
      let image := rows.zipIdx.foldl (fun image (row, y) =>
        (List.range width).foldl (fun image x =>
          image.setIfInBounds ((p.firstY + y * p.stepY) * h.width + p.firstX + x * p.stepX)
            (s.pixel h row x)) image) image
      s.draw h rest data image

/-- The bytes that the rows of the passes take. -/
def Header.dataSize (h : Header) (passes : List Pass) : Nat :=
  passes.foldl (fun size p =>
    let width := Pass.count h.width p.stepX p.firstX
    if width = 0 then size
    else size + Pass.count h.height p.stepY p.firstY * (1 + (h.pixelBits * width + 7) / 8)) 0

/-! ## Files -/

/-- What the chunks before the pixels say, from an offset on, and where the chunks of the pixels start. -/
def leading? (file : ByteArray) : Nat → Setup → Nat → Option (Setup × Nat)
  | 0, _, _ => none
  | fuel + 1, s, offset => do
    let kind := kindOf (← Bytes.slice? file (offset + 4) 4)
    if kind = "IDAT" then some (s, offset)
    else if kind = "IEND" then none
    else
      let (c, next) ← chunkAt? file offset
      leading? file fuel (← s.add c) next

/-- The first bytes of the pixel stream, a number of them or as many as can be read. A chunk has to be sound only when
all of it is used. -/
def streamStart (file : ByteArray) : Nat → Nat → Nat → ByteArray
  | 0, _, _ => .empty
  | fuel + 1, count, offset =>
    match Bytes.bigEndian? file offset 4, (Bytes.slice? file (offset + 4) 4).map kindOf with
    | some length, some "IDAT" =>
      let part := file.extract (offset + 8) (offset + 8 + min length count)
      if count ≤ length then part
      else match chunkAt? file offset with
        | some (_, next) => part ++ streamStart file fuel (count - length) next
        | none => part
    | _, _ => .empty

/-- The bytes that a pixel takes in memory. Grays and indices are kept as they are unless some gray is transparent;
other pixels have four channels. -/
def Setup.pixelBytes (s : Setup) (h : Header) : Nat :=
  let single := h.model = .palette || h.model = .gray && s.transparency.isNone
  (if single then 1 else 4) * if h.depth = 16 then 2 else 1

def isPng (file : ByteArray) : Bool := (file.extract 0 8).toList = signature

/-- The memory that is taken for the pixels, if reading the file comes so far. -/
def reservation? (file : ByteArray) : Option Nat := do
  if !isPng file then none
  let (s, offset) ← leading? file (file.size + 1) {} 8
  let h ← s.header
  if h.model = .palette && s.palette.isEmpty then none
  let _ ← streamHeader? (streamStart file (file.size + 1) 6 offset)
  return s.pixelBytes h * h.width * h.height

/-- The image of a file. Once the pixel stream has ended, further pixel chunks do not matter. -/
def decode? (file : ByteArray) : Option Image := do
  if !isPng file then none
  let chunks ← chunksFrom? file (file.size + 1) 8
  let before := chunks.takeWhile fun c => c.kind ≠ "IDAT"
  let tail := chunks.drop before.length
  let run := tail.takeWhile fun c => c.kind = "IDAT"
  let after := tail.drop run.length
  let s ← before.foldlM Setup.add {}
  let h ← s.header
  if h.model = .palette && s.palette.isEmpty then none
  if run.isEmpty || after.any fun c => ["IHDR", "PLTE", "tRNS"].contains c.kind then none
  let (data, used) ← unpack? (run.foldl (fun out c => out ++ c.data) .empty)
  if !endsInLastPiece run used then none
  let passes := if h.interlaced then interlacedPasses else [⟨1, 1, 0, 0⟩]
  if data.size ≠ h.dataSize passes then none
  let pixels ← s.draw h passes data.toList (Array.replicate (h.width * h.height) ⟨0, 0, 0, 0⟩)
  return ⟨h.width, h.height, Rgba.bytes pixels.toList⟩

/-- Reads a file, given that there is memory for its pixels. -/
def decode (file : ByteArray) : Except ImageFault Image :=
  match Image.reserve ((reservation? file).getD 0) with
  | .error words => .error (.overflow words)
  | .ok () => (decode? file).elim (.error .unreadable) .ok

end SceneGraph.Png
