import SceneGraph.Bytes.Basic
import SceneGraph.Text.Utf8

/-!
# Data URLs

A data URL carries its payload in itself, as base64 or with percent escapes.
-/
set_option autoImplicit false

namespace SceneGraph.DataUrl

/-- Why a text has no payload. -/
inductive Fault where
  | notADataUrl
  | noPayload
  | base64
  | escape
deriving Repr, DecidableEq

def Fault.message : Fault → String
  | .notADataUrl => "plan: not a data URL"
  | .noPayload => "plan: data URL has no payload"
  | .base64 => "illegal base64 data"
  | .escape => "invalid URL escape"

/-- Replaces percent escapes by the bytes that they stand for. -/
def unescape : List UInt8 → ByteArray → Option ByteArray
  | [], out => some out
  | 0x25 :: a :: b :: rest, out => do
    let x ← Bytes.hexValue? (Char.ofNat a.toNat)
    let y ← Bytes.hexValue? (Char.ofNat b.toNat)
    unescape rest (out.push (x * 16 + y))
  | x :: rest, out => if x = 0x25 then none else unescape rest (out.push x)

def decode (s : String) : Except Fault ByteArray :=
  if !"data:".toList.isPrefixOf s.toList then .error .notADataUrl
  else
    let rest := s.toList.drop 5
    let info := rest.takeWhile (· != ',')
    match rest.dropWhile (· != ',') with
    | [] => .error .noPayload
    | _ :: payload =>
      if ";base64".toList.isSuffixOf info then
        match Base64.decode? (String.ofList payload) with
        | some bytes => .ok bytes
        | none => .error .base64
      else match unescape (Text.toBytes (String.ofList payload)).toList .empty with
        | some bytes => .ok bytes
        | none => .error .escape

end SceneGraph.DataUrl
