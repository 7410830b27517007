import SceneGraph.Bytes.Inflate
import SceneGraph.Text.Utf8

/-!
# Zip archives

An archive is the list of its entries, found through the central directory at its end. Entries are
stored or deflated. Large archives state their sizes and offsets once more with 64 bits.
-/
set_option autoImplicit false

namespace SceneGraph.Zip

/-- Why an archive or an entry cannot be read. -/
inductive Fault where
  /-- The bytes break the rules of the format. -/
  | format
  /-- The bytes end too early. -/
  | truncated
  /-- A header is said to stand before the archive. -/
  | negativeOffset
  | unsupported
  | checksum
  /-- The payload cannot be inflated. -/
  | corrupt (offset : Nat)
deriving Repr, DecidableEq

def Fault.message : Fault → String
  | .format => "zip: not a valid zip file"
  | .truncated => "unexpected EOF"
  | .negativeOffset => "bytes.Reader.ReadAt: negative offset"
  | .unsupported => "zip: unsupported compression algorithm"
  | .checksum => "zip: checksum error"
  | .corrupt offset => (Inflate.Fault.corrupt offset).message

/-- The fault of an entry whose payload cannot be inflated. -/
def Fault.ofInflate : Inflate.Fault → Fault
  | .truncated => .truncated
  | .corrupt offset => .corrupt offset

/-- An entry of an archive: its name and its packed payload. -/
structure Entry where
  name : String
  method : Nat
  checksum : Nat
  size : Nat
  packed : ByteArray
  /-- Why the payload cannot be located. -/
  refusal : Option Fault := none
  /-- What the record after the payload says about the checksum, if there is to be such a record. -/
  descriptor : Option (Except Fault Nat) := none

def signed (n : Nat) : Int := Int.bmod n (Nat.pow 2 64)

/-! ## The directory -/

/-- The position of the end record: the last one in the archive, provided that its comment fits. -/
def endRecord? (data : ByteArray) : Option Nat :=
  let positions := (List.range (min (data.size + 1) 66561)).filterMap fun back =>
    if 22 ≤ back then some (data.size - back) else none
  match positions.find? fun i => Bytes.littleEndian? data i 4 == some 0x06054b50 with
  | some i => if ((Bytes.littleEndian? data (i + 20) 2).getD 0) + i + 22 ≤ data.size then some i else none
  | none => none

/-- Where the directory is said to be. -/
structure Extent where
  /-- The position of the record that says so. -/
  record : Nat
  count : Nat
  length : Nat
  offset : Nat

/-- The position of the end record with 64 bits, as the locator before the end record tells it. -/
def locate? (data : ByteArray) (record : Nat) : Option Nat := do
  if record < 20 then none
  let loc := record - 20
  let mark ← Bytes.littleEndian? data loc 4
  let disk ← Bytes.littleEndian? data (loc + 4) 4
  let pos ← Bytes.littleEndian? data (loc + 8) 8
  let disks ← Bytes.littleEndian? data (loc + 16) 4
  if mark ≠ 0x07064b50 || disk ≠ 0 || disks ≠ 1 || signed pos < 0 then none else some pos

/-- The extent of the directory by the record with 64 bits at a position. -/
def wideExtent (data : ByteArray) (pos : Nat) : Except Fault Extent :=
  let whole (skip count : Nat) := (Bytes.littleEndian? data (pos + skip) count).getD 0
  if data.size < pos + 56 then .error .truncated
  else if whole 0 4 ≠ 0x06064b50 then .error .format
  else if Nat.pow 2 63 ≤ whole 40 8 || Nat.pow 2 63 ≤ whole 48 8 then .error .format
  else .ok ⟨pos, whole 32 8, whole 40 8, whole 48 8⟩

def extent (data : ByteArray) : Except Fault Extent :=
  match endRecord? data with
  | none => .error .format
  | some record =>
    let whole (skip count : Nat) := (Bytes.littleEndian? data (record + skip) count).getD 0
    let narrow : Extent := ⟨record, whole 10 2, whole 12 4, whole 16 4⟩
    if narrow.count = 0xffff || narrow.length = 0xffff || narrow.offset = 0xffffffff then
      match locate? data record with
      | some pos => wideExtent data pos
      | none => .ok narrow
    else .ok narrow

/-- Why no directory entry can be read at a position. -/
inductive Stop where
  /-- What stands there is no entry, or the data ends within it. -/
  | fault (fault : Fault)
  /-- The data ends exactly where more of the entry is due. -/
  | ended
deriving Repr, DecidableEq

/-- The sizes and the offset of an entry, and which of them are stated elsewhere. -/
structure Place where
  size : Nat
  packedSize : Nat
  offset : Int
  wideSize : Bool
  widePacked : Bool
  wideOffset : Bool

/-- Takes from an extra field of 64-bit numbers what the entry left open. -/
def Place.widen (p : Place) (field : ByteArray) : Option Place := do
  let (p, skip) ←
    if p.wideSize then pure ({ p with size := ← Bytes.littleEndian? field 0 8, wideSize := false }, 8)
    else pure (p, 0)
  let (p, skip) ←
    if p.widePacked then
      pure ({ p with packedSize := ← Bytes.littleEndian? field skip 8, widePacked := false }, skip + 8)
    else pure (p, skip)
  if p.wideOffset then
    pure { p with offset := signed (← Bytes.littleEndian? field skip 8), wideOffset := false }
  else pure p

/-- Reads the extra fields of an entry from a position on. -/
def Place.readExtra (extra : ByteArray) : Nat → Nat → Place → Option Place
  | 0, _, p => some p
  | fuel + 1, pos, p =>
    match Bytes.littleEndian? extra pos 2, Bytes.littleEndian? extra (pos + 2) 2 with
    | some tag, some size =>
      match Bytes.slice? extra (pos + 4) size with
      | none => some p
      | some field => do
        let p ← if tag = 1 then p.widen field else some p
        readExtra extra fuel (pos + 4 + size) p
    | _, _ => some p

/-- A directory entry: what it says, before the payload is looked up. -/
structure Member where
  name : ByteArray
  flags : Nat
  method : Nat
  checksum : Nat
  place : Place

/-- The directory entry at a position, and the position after it. -/
def nextMember (data : ByteArray) (pos : Nat) : Except Stop (Member × Nat) :=
  let whole (skip count : Nat) := (Bytes.littleEndian? data (pos + skip) count).getD 0
  let rest := pos + 46
  let next := rest + whole 28 2 + whole 30 2 + whole 32 2
  if data.size ≤ pos then .error .ended
  else if data.size < rest then .error (.fault .truncated)
  else if whole 0 4 ≠ 0x02014b50 then .error (.fault .format)
  else if data.size = rest && rest < next then .error .ended
  else if data.size < next then .error (.fault .truncated)
  else
    let name := data.extract rest (rest + whole 28 2)
    let extra := data.extract (rest + whole 28 2) (rest + whole 28 2 + whole 30 2)
    let narrow : Place :=
      { size := whole 24 4, packedSize := whole 20 4, offset := whole 42 4,
        wideSize := whole 24 4 = 0xffffffff, widePacked := whole 20 4 = 0xffffffff,
        wideOffset := whole 42 4 = 0xffffffff }
    match narrow.readExtra extra (extra.size + 1) 0 with
    | none => .error (.fault .format)
    | some place =>
      if place.widePacked || place.wideOffset then .error (.fault .format)
      else .ok (⟨name, whole 8 2, whole 10 2, whole 16 4, place⟩, next)

/-- The entries from a position on up to the first that cannot be read, and why it cannot. Each takes
at least one byte, so the size of the archive bounds their number. -/
def readDirectory (data : ByteArray) : Nat → Nat → List Member × Stop
  | 0, _ => ([], .ended)
  | fuel + 1, pos =>
    match nextMember data pos with
    | .ok (entry, next) =>
      let (rest, stop) := readDirectory data fuel next
      (entry :: rest, stop)
    | .error stop => ([], stop)

/-! ## Payloads -/

/-- The bytes from a position on, at most `count` of them; there are none before the archive. -/
def payloadAt (data : ByteArray) (pos : Int) (count : Nat) : ByteArray :=
  if pos < 0 then .empty else data.extract pos.toNat (min (pos.toNat + count) data.size)

/-- The checksum in the record after a payload; a mark before it is optional. -/
def readDescriptor (data : ByteArray) (pos : Nat) : Except Fault Nat :=
  let skip := if Bytes.littleEndian? data pos 4 = some 0x08074b50 then pos + 4 else pos
  if data.size < skip + 12 then .error .truncated
  else .ok ((Bytes.littleEndian? data skip 4).getD 0)

/-- The entry that a directory entry describes; offsets count from `base`. -/
def Member.entry (data : ByteArray) (base : Int) (m : Member) : Entry :=
  let header := m.place.offset + base
  let found : Entry :=
    { name := Text.ofNameBytes m.name, method := m.method, checksum := m.checksum,
      size := m.place.size, packed := .empty }
  if header < 0 then { found with refusal := some .negativeOffset }
  else
    let pos := header.toNat
    if data.size < pos + 30 then { found with refusal := some .truncated }
    else if Bytes.littleEndian? data pos 4 ≠ some 0x04034b50 then { found with refusal := some .format }
    else
      let whole (skip : Nat) := (Bytes.littleEndian? data (pos + skip) 2).getD 0
      let body := pos + 30 + whole 26 + whole 28
      let size := m.place.packedSize
      let size := if signed size < 0 then 0 else size
      { found with
        packed := payloadAt data body size
        descriptor := if m.flags / 8 % 2 = 1 then some (readDescriptor data (body + size)) else none }

/-- The entries of an archive in directory order. Bytes before the archive are skipped: the size and
the offset of the directory tell where the archive starts, unless a directory entry stands at the
offset itself. Their number must be the announced one. -/
def read (data : ByteArray) : Except Fault (List Entry) := do
  let e ← extent data
  if e.record < e.length || data.size ≤ e.record - e.length then throw .format
  let skipped : Int := (e.record : Int) - e.length - e.offset
  let base := if skipped > 0 ∧ (nextMember data e.offset).isOk then 0 else skipped
  match readDirectory data (data.size + 1) (base + e.offset).toNat with
  | (_, .ended) => throw .truncated
  | (members, .fault fault) =>
    if members.length % 65536 = e.count % 65536 then return members.map (Member.entry data base)
    else throw fault

/-- The payload of an entry. A directory has none. What is produced must have the stated size, and
its checksum must be the stated one, if one is stated. -/
def Entry.unpack (e : Entry) : Except Fault ByteArray :=
  let verified (data : ByteArray) (fault : Option Fault) : Except Fault ByteArray :=
    if e.size < data.size then .error .format
    else match fault with
      | some fault => .error fault
      | none =>
        let sum := (Bytes.crc32 data).toNat
        if data.size ≠ e.size then .error .truncated
        else match e.descriptor with
          | some (.error fault) => .error fault
          | some (.ok stated) =>
            if stated ≠ e.checksum || sum ≠ e.checksum then .error .checksum else .ok data
          | none => if e.checksum ≠ 0 ∧ sum ≠ e.checksum then .error .checksum else .ok data
  match e.refusal with
  | some fault => .error fault
  | none =>
    if e.name.endsWith "/" then (if e.size = 0 then .ok .empty else .error .format)
    else match e.method with
      | 0 => verified e.packed none
      | 8 =>
        let result := Inflate.inflate e.packed
        verified result.data (result.fault.map .ofInflate)
      | _ => .error .unsupported

end SceneGraph.Zip
