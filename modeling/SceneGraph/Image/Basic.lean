/-!
# Images

Images of four bytes per pixel, rows from top to bottom, colors multiplied by their alpha, and the memory that they
take.
-/
set_option autoImplicit false

namespace SceneGraph

/-- An image of four bytes per pixel. -/
structure Image where
  width : Nat
  height : Nat
  pixels : ByteArray

/-- The image holds four bytes for each of its pixels. -/
def Image.Filled (i : Image) : Prop := i.pixels.size = 4 * i.width * i.height

instance (i : Image) : Decidable i.Filled := inferInstanceAs (Decidable (_ = _))

/-- The bytes that a piece of memory can have at most; addresses have 48 bits. -/
def largestPiece : Nat := 281474976710656

/-- Memory for the pixels of an image, so many bytes of it. A program that asks for more than there can be breaks off
with these words. -/
def Image.reserve (bytes : Nat) : Except String Unit :=
  if Nat.pow 2 63 ≤ bytes then .error "image: NewRGBA Rectangle has huge or negative dimensions"
  else if largestPiece < bytes then .error "runtime error: makeslice: len out of range"
  else .ok ()

/-- Why a file gives no image. -/
inductive ImageFault where
  /-- The file is no image in a format that can be read. -/
  | unreadable
  /-- There is no memory for the pixels. -/
  | overflow (words : String)
deriving Repr, DecidableEq

/-- An image, provided that it is filled. -/
def Image.checked (i : Image) : Except ImageFault { i : Image // i.Filled } :=
  if h : i.Filled then .ok ⟨i, h⟩ else .error .unreadable

/-- A premultiplied color of four bytes. -/
structure Rgba where
  r : UInt8
  g : UInt8
  b : UInt8
  a : UInt8
deriving Repr, DecidableEq

/-- A channel multiplied by an alpha, both bytes; the product is taken with 16 bits of alpha. -/
def premultiply (c a : UInt8) : UInt8 := ((c.toNat * (a.toNat * 0x101) / 0xff) >>> 8).toUInt8

def Rgba.ofStraight (r g b a : UInt8) : Rgba := ⟨premultiply r a, premultiply g a, premultiply b a, a⟩

/-- The premultiplied color of a straight one with 16 bits per channel. -/
def Rgba.ofWide (r g b a : Nat) : Rgba :=
  let channel (c : Nat) : UInt8 := (c * a / 0xffff / 256).toUInt8
  ⟨channel r, channel g, channel b, (a / 256).toUInt8⟩

def Rgba.bytes (pixels : List Rgba) : ByteArray :=
  pixels.foldl (fun out p => (((out.push p.r).push p.g).push p.b).push p.a) .empty

end SceneGraph
