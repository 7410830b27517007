import SceneGraph.Export
import SceneGraph.Image.Png

/-!
# Writing pictures

Files of pictures from texels with straight alpha, four bytes each, the top row first. The pixels are
stored without compression.
-/
set_option autoImplicit false

namespace SceneGraph

/-! ## PNG -/

namespace Png

/-- The four bytes of a number, most significant first. -/
def bigEndian (n : UInt32) : List UInt8 := (Bytes.ofUInt32 n).reverse

/-- A chunk of a file: its length, kind, data and checksum. -/
def chunk (kind : String) (data : ByteArray) : ByteArray :=
  let body := kind.toUTF8 ++ data
  ⟨(bigEndian data.size.toUInt32).toArray⟩ ++ body ++ ⟨(bigEndian (Bytes.crc32 body)).toArray⟩

def blockSize : Nat := 65535

/-- A stored block; `final` marks the last one. -/
def storedBlock (final : Bool) (data : ByteArray) : ByteArray :=
  let low := (data.size % 256).toUInt8
  let high := (data.size / 256).toUInt8
  ⟨#[if final then 1 else 0, low, high, ~~~low, ~~~high]⟩ ++ data

/-- Data as a stream of stored blocks with header and checksum. -/
def pack (data : ByteArray) : ByteArray :=
  let count := (data.size + blockSize - 1) / blockSize
  let blocks := (List.range count).foldl (fun out i =>
    out ++ storedBlock (i + 1 == count) (data.extract (i * blockSize) ((i + 1) * blockSize))) .empty
  ⟨#[0x78, 0x01]⟩ ++ blocks ++ ⟨(bigEndian (adler32 data).toUInt32).toArray⟩

/-- The file of a picture of four channels. -/
def encode (width height : Nat) (texels : ByteArray) : ByteArray :=
  let size := bigEndian width.toUInt32 ++ bigEndian height.toUInt32
  let rows := (List.range height).foldl (fun out y =>
    out.push 0 ++ texels.extract (y * width * 4) ((y + 1) * width * 4)) ByteArray.empty
  ⟨signature.toArray⟩ ++ chunk "IHDR" ⟨(size ++ [8, 6, 0, 0, 0]).toArray⟩ ++ chunk "IDAT" (pack rows)
    ++ chunk "IEND" .empty

end Png

/-! ## BMP and TIFF -/

/-- Numbers of four bytes each, least significant first. -/
def Bytes.ofWords (ns : List Nat) : ByteArray := ⟨(ns.flatMap fun n => ofUInt32 n.toUInt32).toArray⟩

def blueFirst (texels : ByteArray) : ByteArray :=
  (List.range (texels.size / 4)).foldl (fun out i =>
    (((out.push (texels.get! (4 * i + 2))).push (texels.get! (4 * i + 1))).push (texels.get! (4 * i))).push
      (texels.get! (4 * i + 3))) .empty

/-- The BMP file of a picture: four bytes per pixel, the bottom row first. -/
def Bmp.encode (width height : Nat) (texels : ByteArray) : ByteArray :=
  let pixels := blueFirst texels
  let rows := (List.range height).foldl (fun out y =>
    let y := height - 1 - y
    out ++ pixels.extract (y * width * 4) ((y + 1) * width * 4)) ByteArray.empty
  "BM".toUTF8 ++ Bytes.ofWords [54 + rows.size, 0, 54, 40, width, height, 1 + 32 * 65536, 0, rows.size, 0, 0, 0, 0]
    ++ rows

namespace Tiff

def pixelOffset : Nat := 16

/-- An entry of the directory: a tag, the width of its values in bytes, their count, and the value or its
place. -/
def entry (tag size count value : Nat) : List Nat := [tag + (if size = 2 then 3 else 4) * 65536, count, value]

/-- The TIFF file of a picture: a header, the depths of the four channels, the pixels and the directory. -/
def encode (width height : Nat) (texels : ByteArray) : ByteArray :=
  let directory := entry 256 4 1 width ++ entry 257 4 1 height ++ entry 258 2 4 8 ++ entry 259 2 1 1
    ++ entry 262 2 1 2 ++ entry 273 4 1 pixelOffset ++ entry 277 2 1 4 ++ entry 278 4 1 height
    ++ entry 279 4 1 texels.size ++ entry 338 2 1 2
  Bytes.ofWords [0x002A4949, pixelOffset + texels.size, 0x00080008, 0x00080008] ++ texels ++ ⟨#[10, 0]⟩
    ++ Bytes.ofWords (directory ++ [0])

end Tiff

def Exported.bytes : Exported → ByteArray
  | .radiance data => data
  | .picture container width height texels =>
    match container with
    | .bmp => Bmp.encode width height texels
    | .tiff => Tiff.encode width height texels
    | _ => Png.encode width height texels

end SceneGraph
