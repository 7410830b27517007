import SceneGraph.Bytes.Basic
import SceneGraph.Gpu
import SceneGraph.Text.CaseFold
import SceneGraph.Text.Quoted
import SceneGraph.Text.Utf8

/-!
# Exporting captures

A texture read back from a device goes into a file whose kind follows from the extension. Textures of
bytes can go into any file; textures of floats keep their range only in radiance files, where three
channels share an exponent, and are refused elsewhere.
-/
set_option autoImplicit false

namespace SceneGraph

/-- A texture read back from a device, the top row first. -/
structure Capture where
  width : Int
  height : Int
  format : TextureFormat
  pixels : ByteArray

/-- The kinds of files. -/
inductive Container where
  | png
  | tiff
  | bmp
  | radiance
deriving Repr, DecidableEq

def Container.ofExtension? (ext : String) : Option Container :=
  match ext with
  | ".png" => some .png
  | ".tiff" => some .tiff
  | ".tif" => some .tiff
  | ".bmp" => some .bmp
  | ".hdr" => some .radiance
  | _ => none

def TextureFormat.isFloat (f : TextureFormat) : Bool := f = .rgba16Float || f = .rgba32Float

/-- Why a capture cannot be exported. -/
inductive ExportError where
  | unknownExtension (ext : String)
  /-- The file cannot hold floats. -/
  | formatMismatch (format : TextureFormat) (ext : String)
  | badSize (width height : Int) (format : TextureFormat) (bytes : Nat)
deriving Repr, DecidableEq

def ExportError.message : ExportError → String
  | .unknownExtension ext => "export: unknown file extension: " ++ Text.quoted ext
  | .formatMismatch format ext => "export: " ++ format.name ++ " content cannot be written as " ++ ext ++ "; use .hdr"
  | .badSize width height format bytes =>
    s!"export: pixel data does not match size: {width}x{height} " ++ format.name ++ s!" with {bytes} bytes"

namespace Capture

/-- The container of an extension, if it can hold the capture. -/
def containerFor (c : Capture) (ext : String) : Except ExportError Container :=
  match Container.ofExtension? ext with
  | none => .error (.unknownExtension ext)
  | some k =>
    if k ≠ .radiance && c.format.isFloat then .error (.formatMismatch c.format ext)
    else if c.width ≤ 0 || c.height ≤ 0 || (c.pixels.size : Int) ≠ c.width * c.height * c.format.bytesPerPixel then
      .error (.badSize c.width c.height c.format c.pixels.size)
    else .ok k

/-! ## Bytes -/

/-- A channel divided by its alpha, as far as a byte goes. -/
def unpremultiply (c a : UInt8) : UInt8 := (min (c.toNat * 255 / a.toNat) 255).toUInt8

def straighten (r g b a : UInt8) : List UInt8 :=
  if a = 0 || a = 255 then [r, g, b, a]
  else [unpremultiply r a, unpremultiply g a, unpremultiply b a, a]

def isBlueFirst (f : TextureFormat) : Bool := f = .bgra8Unorm || f = .bgra8UnormSrgb

/-- The texels of bytes in the order red, green, blue, alpha with straight alpha. -/
def straightBytes (f : TextureFormat) : List UInt8 → List UInt8
  | x :: y :: z :: a :: rest =>
    (if isBlueFirst f then straighten z y x a else straighten x y z a) ++ straightBytes f rest
  | _ => []

def straight (c : Capture) : ByteArray := ⟨(straightBytes c.format c.pixels.toList).toArray⟩

/-! ## Floats -/

/-- The bits of a subnormal fraction of sixteen bits in thirty-two, `exponent` being that of the fraction's
leading place; `places` bounds the shifts. -/
def normalizedHalf : Nat → UInt32 → UInt32 → UInt32
  | 0, exponent, fraction => ((exponent + 113) <<< 23) ||| ((fraction &&& 0x3ff) <<< 13)
  | places + 1, exponent, fraction =>
    if fraction &&& 0x400 = 0 then normalizedHalf places (exponent - 1) (fraction <<< 1)
    else ((exponent + 113) <<< 23) ||| ((fraction &&& 0x3ff) <<< 13)

def ofHalf (h : UInt16) : Float32 :=
  let sign := (h >>> 15).toUInt32 <<< 31
  let exponent := (h >>> 10).toUInt32 &&& 0x1f
  let fraction := h.toUInt32 &&& 0x3ff
  let magnitude : UInt32 :=
    if exponent = 0 then
      if fraction = 0 then 0 else normalizedHalf 10 0 fraction
    else if exponent = 0x1f then ((0xff : UInt32) <<< 23) ||| (fraction <<< 13)
    else ((exponent + 112) <<< 23) ||| (fraction <<< 13)
  Float32.ofBits (sign ||| magnitude)

/-- The floats of bytes in groups of four, the lowest byte first. -/
def floatsOf32 : List UInt8 → List Float32
  | a :: b :: c :: d :: rest =>
    Float32.ofBits (a.toUInt32 ||| (b.toUInt32 <<< 8) ||| (c.toUInt32 <<< 16) ||| (d.toUInt32 <<< 24))
      :: floatsOf32 rest
  | _ => []

/-- The floats of bytes in groups of two, the lowest byte first. -/
def floatsOf16 : List UInt8 → List Float32
  | a :: b :: rest => ofHalf (a.toUInt16 ||| (b.toUInt16 <<< 8)) :: floatsOf16 rest
  | _ => []

def channels (c : Capture) : List Float32 :=
  match c.format with
  | .rgba32Float => floatsOf32 c.pixels.toList
  | .rgba16Float => floatsOf16 c.pixels.toList
  | f => (straightBytes f c.pixels.toList).map fun b => b.toFloat32 / 255

/-! ## Radiance files -/

/-- The greater of two floats; none when one is no number. -/
def greater (x y : Float32) : Float32 :=
  if x.isNaN then x else if y.isNaN then y else if x < y then y else x

/-- A channel within the range of radiance files. -/
def clampRadiance (x : Float32) : Float32 :=
  let y := greater x 0
  if y.isNaN then y else if 1e30 < y then 1e30 else y

/-- A color as three bytes and a shared exponent. -/
def sharedExponent (r g b : Float32) : List UInt8 :=
  let r := clampRadiance r
  let g := clampRadiance g
  let b := clampRadiance b
  let v := greater (greater r g) b
  if v.isNaN || v < 1e-32 then [0, 0, 0, 0]
  else
    let (fraction, exponent) := v.toFloat.frExp
    let scale := fraction * 256 / v.toFloat
    [(r.toFloat * scale).toUInt8, (g.toFloat * scale).toUInt8, (b.toFloat * scale).toUInt8,
      (exponent + 128).toNat.toUInt8]

/-- The texels of a radiance file; alpha is dropped. -/
def radianceTexels : List Float32 → List UInt8
  | r :: g :: b :: _ :: rest => sharedExponent r g b ++ radianceTexels rest
  | _ => []

def radiance (c : Capture) : ByteArray :=
  let header := Text.toBytes s!"#?RADIANCE\nFORMAT=32-bit_rle_rgbe\n\n-Y {c.height} +X {c.width}\n"
  ⟨(header.toList ++ radianceTexels c.channels).toArray⟩

end Capture

/-- An exported file: a radiance file, or texels with straight alpha for an encoder of pictures. -/
inductive Exported where
  | radiance (bytes : ByteArray)
  | picture (container : Container) (width height : Nat) (texels : ByteArray)

/-- Exports a capture under an extension, whose case does not matter. -/
def Capture.toFile (c : Capture) (ext : String) : Except ExportError Exported := do
  match ← c.containerFor (Text.fold ext) with
  | .radiance => return .radiance c.radiance
  | k => return .picture k c.width.toNat c.height.toNat c.straight

end SceneGraph
