/-!
# Bytes

Little-endian numbers, hexadecimal texts, the two checksums that documents and signatures use, and base64.
-/
set_option autoImplicit false

namespace SceneGraph.Bytes

/-- The low 32 bits of an integer. -/
def wordOf (i : Int) : UInt32 := (i % 4294967296).toNat.toUInt32

/-- The four bytes of a 32-bit number, least significant first. -/
def ofUInt32 (n : UInt32) : List UInt8 :=
  [n.toUInt8, (n >>> 8).toUInt8, (n >>> 16).toUInt8, (n >>> 24).toUInt8]

/-- The bytes of single-precision numbers, four each. -/
def ofFloats (xs : List Float32) : ByteArray := ⟨(xs.flatMap fun x => ofUInt32 x.toBits).toArray⟩

/-- A number of `count` bytes at an offset, least significant first; absent bytes count as none. -/
def littleEndian? (bytes : ByteArray) (offset count : Nat) : Option Nat :=
  if offset + count ≤ bytes.size then
    some ((List.range count).foldr (fun i n => n * 256 + (bytes.get! (offset + i)).toNat) 0)
  else none

/-- A number of `count` bytes at an offset, most significant first. -/
def bigEndian? (bytes : ByteArray) (offset count : Nat) : Option Nat :=
  if offset + count ≤ bytes.size then
    some ((List.range count).foldl (fun n i => n * 256 + (bytes.get! (offset + i)).toNat) 0)
  else none

/-- The bytes from an offset on, `count` of them. -/
def slice? (bytes : ByteArray) (offset count : Nat) : Option ByteArray :=
  if offset + count ≤ bytes.size then some (bytes.extract offset (offset + count)) else none

/-- A hexadecimal digit in lower case. -/
def hexChar (n : UInt8) : Char :=
  if n < 10 then Char.ofNat (48 + n.toNat) else Char.ofNat (87 + n.toNat)

/-- The hexadecimal text of bytes, two digits each. -/
def toHex (bytes : ByteArray) : String :=
  bytes.foldl (fun s b => (s.push (hexChar (b >>> 4))).push (hexChar (b &&& 15))) ""

def hexValue? (c : Char) : Option UInt8 :=
  if '0' ≤ c ∧ c ≤ '9' then some (c.toNat - 48).toUInt8
  else if 'a' ≤ c ∧ c ≤ 'f' then some (c.toNat - 87).toUInt8
  else if 'A' ≤ c ∧ c ≤ 'F' then some (c.toNat - 55).toUInt8
  else none

def ofHexDigits? : List Char → ByteArray → Option ByteArray
  | [], acc => some acc
  | [_], _ => none
  | a :: b :: rest, acc =>
    match hexValue? a, hexValue? b with
    | some x, some y => ofHexDigits? rest (acc.push (x * 16 + y))
    | _, _ => none

def ofHex? (s : String) : Option ByteArray := ofHexDigits? s.toList ByteArray.empty

/-! ## Checksums -/

/-- The start value of the 64-bit FNV-1a hash. -/
def fnvOffset : UInt64 := 0xcbf29ce484222325

/-- One byte more in the 64-bit FNV-1a hash. -/
def fnvStep (h : UInt64) (b : UInt8) : UInt64 := (h ^^^ b.toUInt64) * 0x100000001b3

/-- The 64-bit FNV-1a hash of bytes. -/
def fnv1a (bytes : ByteArray) : UInt64 := bytes.foldl fnvStep fnvOffset

/-- The 64-bit FNV-1a hash of a list of bytes. -/
def fnvOfList (bytes : List UInt8) : UInt64 := bytes.foldl fnvStep fnvOffset

/-- The remainder after one bit of the CRC-32 polynomial. -/
def crcBit (c : UInt32) : UInt32 := if c &&& 1 == 1 then (0xEDB88320 : UInt32) ^^^ (c >>> 1) else c >>> 1

def crcStep (c : UInt32) (b : UInt8) : UInt32 :=
  (List.range 8).foldl (fun c _ => crcBit c) (c ^^^ b.toUInt32)

def crc32 (bytes : ByteArray) : UInt32 := (bytes.foldl crcStep 0xFFFFFFFF) ^^^ 0xFFFFFFFF

end SceneGraph.Bytes

/-!
## Base64

Bytes written with 64 characters, four for every three bytes, padded at the end. Line ends between the
characters do not count.
-/

namespace SceneGraph.Base64

def value? (c : Char) : Option Nat :=
  if 'A' ≤ c ∧ c ≤ 'Z' then some (c.toNat - 65)
  else if 'a' ≤ c ∧ c ≤ 'z' then some (c.toNat - 71)
  else if '0' ≤ c ∧ c ≤ '9' then some (c.toNat + 4)
  else if c = '+' then some 62
  else if c = '/' then some 63
  else none

/-- Appends the bytes of groups of four characters; only the last may be padded. -/
def decodeGroups : List Char → ByteArray → Option ByteArray
  | [], out => some out
  | [a, b, '=', '='], out => do
    let x ← value? a
    let y ← value? b
    return out.push (x * 4 + y / 16).toUInt8
  | [a, b, c, '='], out => do
    let x ← value? a
    let y ← value? b
    let z ← value? c
    return (out.push (x * 4 + y / 16).toUInt8).push (y % 16 * 16 + z / 4).toUInt8
  | a :: b :: c :: d :: rest, out => do
    let x ← value? a
    let y ← value? b
    let z ← value? c
    let w ← value? d
    decodeGroups rest
      (((out.push (x * 4 + y / 16).toUInt8).push (y % 16 * 16 + z / 4).toUInt8).push
        (z % 4 * 64 + w).toUInt8)
  | _, _ => none

def decode? (s : String) : Option ByteArray :=
  decodeGroups (s.toList.filter fun c => c != '\n' && c != '\r') .empty

end SceneGraph.Base64
