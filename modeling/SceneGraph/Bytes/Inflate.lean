import SceneGraph.Bytes.Basic

/-!
# Inflating compressed data

The decompressor for the deflate format: stored blocks, and blocks coded with fixed or transmitted
canonical codes. Every symbol takes at least one bit, so the number of input bits bounds every loop.
Bytes are taken from the input only when a bit of them is needed, and what was produced before a fault
is kept beside it.
-/
set_option autoImplicit false

namespace SceneGraph.Inflate

/-- Why compressed data stops making sense. -/
inductive Fault where
  /-- The data ends within a block. -/
  | truncated
  /-- The bytes taken so far break the rules of the format. -/
  | corrupt (offset : Nat)
deriving Repr, DecidableEq

def Fault.message : Fault → String
  | .truncated => "unexpected EOF"
  | .corrupt offset => "flate: corrupt input before offset " ++ toString offset

/-- Compressed data, how far it was read, and what it has produced. -/
structure Source where
  data : ByteArray
  /-- The position of the next bit. -/
  pos : Nat := 0
  /-- The number of bytes taken. -/
  taken : Nat := 0
  out : ByteArray := .empty

abbrev Reader := ExceptT Fault (StateM Source)

/-- The bytes taken so far are malformed. -/
def corrupt {α : Type} : Reader α := do
  throw (.corrupt (← get).taken)

/-- Takes bytes until the next `n` bits are at hand. -/
def need (n : Nat) : Reader Unit := do
  let s ← get
  let last := (s.pos + n + 7) / 8
  if last ≤ s.taken then return
  else if last ≤ s.data.size then set { s with taken := last }
  else
    set { s with taken := max s.taken s.data.size }
    throw .truncated

/-- The number in the `n` bits from a position on, least significant first. -/
def bitsAt (data : ByteArray) (pos : Nat) : Nat → Nat
  | 0 => 0
  | n + 1 => (data.get! (pos / 8)).toNat >>> (pos % 8) % 2 + 2 * bitsAt data (pos + 1) n

/-- A number of `n` bits, least significant first. -/
def bits (n : Nat) : Reader Nat := do
  need n
  let s ← get
  set { s with pos := s.pos + n }
  return bitsAt s.data s.pos n

def emit (b : UInt8) : Reader Unit := modify fun s => { s with out := s.out.push b }

/-! ## Canonical codes -/

/-- A canonical code: the number of code words of each length, and the symbols in code order. -/
structure Code where
  counts : Array Nat
  symbols : Array Nat
  /-- The bits that must be at hand before a symbol is read. -/
  least : Nat

/-- The sum of the shares of all code words, in units of the longest word that the format allows. -/
def codeShare (lengths : List Nat) : Nat :=
  lengths.foldl (fun sum l => if l = 0 then sum else sum + 32768 >>> l) 0

/-- The words use up all bit sequences, or there is one word of one bit, or none at all. -/
def isSound (lengths : List Nat) : Bool :=
  let used := lengths.filter (· ≠ 0)
  used = [] || used = [1] || codeShare lengths = 32768

/-- The canonical code in which symbol `i` has a word of length `lengths[i]`; zero means no word. -/
def Code.ofLengths (lengths : List Nat) : Code :=
  let counts := (List.range 16).map fun l => if l = 0 then 0 else lengths.countP (· == l)
  let symbols := (List.range 15).flatMap fun l =>
    (lengths.zipIdx.filter fun p => p.1 == l + 1).map Prod.snd
  ⟨counts.toArray, symbols.toArray, (counts.findIdx? (· ≠ 0)).getD 0⟩

def Code.walk (c : Code) : Nat → Nat → Nat → Nat → Nat → Reader Nat
  | 0, _, _, _, _ => corrupt
  | fuel + 1, len, code, first, index => do
    let code := code + (← bits 1)
    let count := c.counts.getD len 0
    if code < first + count then
      match c.symbols[index + (code - first)]? with
      | some s => return s
      | none => corrupt
    else if c.symbols.size ≤ index + count then corrupt
    else c.walk fuel (len + 1) (2 * code) (2 * (first + count)) (index + count)

def Code.symbol (c : Code) : Reader Nat := do
  if c.symbols.isEmpty then corrupt
  else
    need c.least
    c.walk 15 1 0 0 0

/-! ## Blocks -/

/-- Base lengths and extra bits of length symbols. -/
def lengthTable : Array (Nat × Nat) :=
  #[(3, 0), (4, 0), (5, 0), (6, 0), (7, 0), (8, 0), (9, 0), (10, 0), (11, 1), (13, 1), (15, 1),
    (17, 1), (19, 2), (23, 2), (27, 2), (31, 2), (35, 3), (43, 3), (51, 3), (59, 3), (67, 4),
    (83, 4), (99, 4), (115, 4), (131, 5), (163, 5), (195, 5), (227, 5), (258, 0)]

/-- Base distances and extra bits of distance symbols. -/
def distanceTable : Array (Nat × Nat) :=
  #[(1, 0), (2, 0), (3, 0), (4, 0), (5, 1), (7, 1), (9, 2), (13, 2), (17, 3), (25, 3), (33, 4),
    (49, 4), (65, 5), (97, 5), (129, 6), (193, 6), (257, 7), (385, 7), (513, 8), (769, 8),
    (1025, 9), (1537, 9), (2049, 10), (3073, 10), (4097, 11), (6145, 11), (8193, 12), (12289, 12),
    (16385, 13), (24577, 13)]

/-- A base value plus its extra bits. -/
def extended (table : Array (Nat × Nat)) (i : Nat) : Reader Nat := do
  match table[i]? with
  | some (base, extra) => return base + (← bits extra)
  | none => corrupt

def copyBack (distance : Nat) : Nat → ByteArray → ByteArray
  | 0, out => out
  | n + 1, out => copyBack distance n (out.push (out.get! (out.size - distance)))

def codedBlock (literals distances : Code) : Nat → Reader Unit
  | 0 => corrupt
  | fuel + 1 => do
    let s ← literals.symbol
    if s < 256 then
      emit s.toUInt8
      codedBlock literals distances fuel
    else if s = 256 then return
    else
      let len ← extended lengthTable (s - 257)
      let distance ← extended distanceTable (← distances.symbol)
      if distance ≤ (← get).out.size then
        modify fun s => { s with out := copyBack distance len s.out }
        codedBlock literals distances fuel
      else corrupt

def fixedLiterals : Code :=
  Code.ofLengths (List.replicate 144 8 ++ List.replicate 112 9 ++ List.replicate 24 7 ++ List.replicate 8 8)

/-- The fixed code of distances; two of its words stand for none. -/
def fixedDistances : Code := Code.ofLengths (List.replicate 32 5)

/-- Positions of the transmitted lengths of the length code. -/
def lengthOrder : List Nat := [16, 17, 18, 0, 8, 7, 9, 6, 10, 5, 11, 4, 12, 3, 13, 2, 14, 1, 15]

/-- Run-length coded word lengths, latest first, until `total` are known. -/
def readLengths (code : Code) (total : Nat) : Nat → List Nat → Reader (List Nat)
  | 0, _ => corrupt
  | fuel + 1, acc => do
    if total ≤ acc.length then return acc.reverse
    else
      let s ← code.symbol
      let run (value least extra : Nat) : Reader (List Nat) := do
        let count := least + (← bits extra)
        if total < acc.length + count then corrupt
        else readLengths code total fuel (List.replicate count value ++ acc)
      if s < 16 then readLengths code total fuel (s :: acc)
      else if s = 16 then
        match acc with
        | last :: _ => run last 3 2
        | [] => corrupt
      else if s = 17 then run 0 3 3
      else run 0 11 7

def threeBits : Nat → Reader (List Nat)
  | 0 => return []
  | n + 1 => return (← bits 3) :: (← threeBits n)

/-- A block with transmitted codes. The word that ends the block must be at hand before any symbol. -/
def dynamicBlock (fuel : Nat) : Reader Unit := do
  let counts ← bits 14
  let literals := counts % 32 + 257
  let distances := counts / 32 % 32 + 1
  if 286 < literals || 30 < distances then corrupt
  else
    let given := lengthOrder.zip (← threeBits (counts / 1024 + 4))
    let lengths := (List.range 19).map fun i => (given.lookup i).getD 0
    if !isSound lengths then corrupt
    else
      let lengths ← readLengths (Code.ofLengths lengths) (literals + distances) fuel []
      let first := lengths.take literals
      let second := lengths.drop literals
      if !isSound first || !isSound second then corrupt
      else
        let code := Code.ofLengths first
        let code := { code with least := max code.least (first.getD 256 0) }
        codedBlock code (Code.ofLengths second) fuel

/-- A block stored as it is; when the data ends within it, what is there still counts. -/
def storedBlock : Reader Unit := do
  modify fun s => { s with pos := 8 * s.taken }
  let len ← bits 16
  let complement ← bits 16
  if len + complement ≠ 65535 then corrupt
  else
    let s ← get
    let last := min (s.taken + len) s.data.size
    set { s with pos := 8 * last, taken := last, out := s.out ++ s.data.extract s.taken last }
    if last < s.taken + len then throw .truncated

def blocks (size : Nat) : Nat → Reader Unit
  | 0 => corrupt
  | fuel + 1 => do
    let mark ← bits 3
    match mark / 2 with
    | 0 => storedBlock
    | 1 => codedBlock fixedLiterals fixedDistances size
    | 2 => dynamicBlock size
    | _ => corrupt
    if mark % 2 = 1 then return else blocks size fuel

/-- What became of a deflate stream. -/
structure Result where
  /-- The data produced before the end or the fault. -/
  data : ByteArray
  /-- The number of bytes that the stream takes. -/
  taken : Nat
  fault : Option Fault

/-- Inflates a deflate stream; what follows the stream does not matter. -/
def inflate (data : ByteArray) : Result :=
  let size := 8 * data.size + 1
  match (blocks size size).run.run { data } with
  | (.ok _, s) => ⟨s.out, s.taken, none⟩
  | (.error fault, s) => ⟨s.out, s.taken, some fault⟩

end SceneGraph.Inflate
