/-!
# Bytes as text

Documents arrive as bytes. A byte that is not part of a well-formed UTF-8 sequence stands for one
replacement character, so that every byte sequence denotes a text.
-/
set_option autoImplicit false

namespace SceneGraph.Text

def replacement : Char := '\uFFFD'

/-- The six payload bits of a continuation byte, when `b` is one within the given bounds. -/
def continuation? (lo hi : Nat) (b : Option UInt8) : Option Nat :=
  match b with
  | some b => if lo ≤ b.toNat ∧ b.toNat ≤ hi then some (b.toNat % 64) else none
  | none => none

/-- The character at the head of a byte sequence, with the number of further bytes that it takes. -/
def decodeHead (b : UInt8) (rest : List UInt8) : Char × Nat :=
  let n := b.toNat
  let one := rest[0]?
  let two := continuation? 0x80 0xBF rest[1]?
  let three := continuation? 0x80 0xBF rest[2]?
  if n < 0x80 then (Char.ofNat n, 0)
  else if n < 0xC2 then (replacement, 0)
  else if n < 0xE0 then
    match continuation? 0x80 0xBF one with
    | some x => (Char.ofNat ((n - 0xC0) * 64 + x), 1)
    | none => (replacement, 0)
  else if n < 0xF0 then
    let lo := if n = 0xE0 then 0xA0 else 0x80
    let hi := if n = 0xED then 0x9F else 0xBF
    match continuation? lo hi one, two with
    | some x, some y => (Char.ofNat ((n - 0xE0) * 4096 + x * 64 + y), 2)
    | _, _ => (replacement, 0)
  else if n < 0xF5 then
    let lo := if n = 0xF0 then 0x90 else 0x80
    let hi := if n = 0xF4 then 0x8F else 0xBF
    match continuation? lo hi one, two, three with
    | some x, some y, some z =>
      (Char.ofNat ((n - 0xF0) * 262144 + x * 4096 + y * 64 + z), 3)
    | _, _, _ => (replacement, 0)
  else (replacement, 0)

/-- The characters that a byte sequence denotes. -/
def decodeBytes : List UInt8 → List Char
  | [] => []
  | b :: rest =>
    let (c, used) := decodeHead b rest
    c :: decodeBytes (rest.drop used)
termination_by bs => bs.length
decreasing_by
  rw [List.length_drop, List.length_cons]
  omega

def ofBytes (bytes : ByteArray) : String := String.ofList (decodeBytes bytes.toList)

/-- The characters of a name. A byte that is no part of a character stands for a character of its own
from the last private plane, so that different bytes are different names. -/
def decodeName : List UInt8 → List Char
  | [] => []
  | b :: rest =>
    let (c, used) := decodeHead b rest
    (if c = replacement ∧ used = 0 then Char.ofNat (0x10FE00 + b.toNat) else c)
      :: decodeName (rest.drop used)
termination_by bs => bs.length
decreasing_by
  rw [List.length_drop, List.length_cons]
  omega

def ofNameBytes (bytes : ByteArray) : String := String.ofList (decodeName bytes.toList)

def toBytes (s : String) : ByteArray := s.toUTF8

end SceneGraph.Text
