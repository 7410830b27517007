import SceneGraph.Number.Numeral
import SceneGraph.Text.Lower
import SceneGraph.Text.Quoted
import SceneGraph.Text.Utf8

/-!
# Command lines

A command line names a command, its operands and flags. Flags may stand anywhere, take their value from
the next word or after an equals sign, and short flags may be written together.
-/
set_option autoImplicit false

namespace SceneGraph.Command

/-- What a flag takes. -/
inductive FlagKind where
  | text
  | integer
  | switch
deriving Repr, DecidableEq

structure Flag where
  name : String
  short : Option Char := none
  kind : FlagKind
deriving Repr, DecidableEq

inductive Name where
  | root
  | compile
  | validate
  | graph
  | bake
  | serve
  | completion
  | help
deriving Repr, DecidableEq

namespace Name

def word : Name → String
  | .root => "sgc"
  | .compile => "compile"
  | .validate => "validate"
  | .graph => "graph"
  | .bake => "bake"
  | .serve => "serve"
  | .completion => "completion"
  | .help => "help"

def callable : List Name := [.compile, .validate, .graph, .bake, .serve, .completion, .help]

def ofWord? (w : String) : Option Name := callable.find? fun c => c.word == w

end Name

def leadingFlags : List Flag :=
  [⟨"config", none, .text⟩, ⟨"log-level", none, .text⟩, ⟨"log-format", none, .text⟩, ⟨"width", none, .integer⟩,
    ⟨"height", none, .integer⟩]

def sharedFlags : List Flag := leadingFlags ++ [⟨"help", some 'h', .switch⟩]

def flagsOf : Name → List Flag
  | .compile =>
    sharedFlags ++ [⟨"out", some 'o', .text⟩, ⟨"spirv", none, .switch⟩, ⟨"realize", none, .switch⟩]
  | .bake => sharedFlags ++ [⟨"out", some 'o', .text⟩, ⟨"ext", none, .text⟩]
  | .serve => sharedFlags ++ [⟨"addr", none, .text⟩]
  | _ => sharedFlags

/-- Why a command line cannot be used. -/
inductive UsageError where
  | unknownCommand (word : String) (similar : List String)
  | badFlag (word : String)
  | unknownFlag (name : String)
  | unknownShort (c : Char) (word : String)
  | noValue (word : String)
  | noShortValue (c : Char) (word : String)
  /-- A flag has a value that it cannot take; `reader` names what read it. -/
  | badValue (value : String) (flag : Flag) (reader : String) (fault : Integer.Fault)
  | operandCount (expected : Nat) (received : Nat)
  | tooManyOperands (limit : Nat) (received : Nat)
deriving Repr, DecidableEq

def Flag.title (f : Flag) : String :=
  match f.short with
  | some c => s!"-{c}, --" ++ f.name
  | none => "--" ++ f.name

def firstByte (c : Char) : UInt8 := (Text.toBytes (String.singleton c)).toList.headD 0

def UsageError.message : UsageError → String
  | .unknownCommand word similar =>
    "unknown command " ++ Text.quoted word ++ " for " ++ Text.quoted Name.root.word
      ++ if similar.isEmpty then ""
        else "\n\nDid you mean this?\n" ++ String.join (similar.map fun s => "\t" ++ s ++ "\n")
  | .badFlag word => "bad flag syntax: " ++ word
  | .unknownFlag name => "unknown flag: --" ++ name
  | .unknownShort c word => "unknown shorthand flag: " ++ Text.quotedByte (firstByte c) ++ " in -" ++ word
  | .noValue word => "flag needs an argument: " ++ word
  | .noShortValue c word => "flag needs an argument: " ++ Text.quotedByte (firstByte c) ++ " in -" ++ word
  | .badValue value flag reader fault =>
    "invalid argument " ++ Text.quoted value ++ " for " ++ Text.quoted flag.title ++ " flag: strconv." ++ reader
      ++ ": parsing " ++ Text.quoted value ++ ": " ++ fault.message
  | .operandCount expected received => s!"accepts {expected} arg(s), received {received}"
  | .tooManyOperands limit received => s!"accepts at most {limit} arg(s), received {received}"

/-! ## Finding the command -/

/-- A word is a flag that takes the next word as its value. -/
def takesNext (flags : List Flag) (w : String) : Bool :=
  match w.toList with
  | '-' :: '-' :: name =>
    !name.contains '=' && !flags.any fun f => f.name == String.ofList name && f.kind == .switch
  | ['-', c] => c ≠ '=' && c.toNat < 128 && !flags.any fun f => f.short == some c && f.kind == .switch
  | _ => false

def isFlagWord (w : String) : Bool := w.toList.head? = some '-'

def operandWords (flags : List Flag) : List String → List String
  | [] => []
  | w :: rest =>
    if w = "--" then []
    else if takesNext flags w then
      match rest with
      | _ :: next :: more => operandWords flags (next :: more)
      | _ => []
    else if w ≠ "" && !isFlagWord w then w :: operandWords flags rest
    else operandWords flags rest

def withoutOperand (flags : List Flag) (x : String) : List String → List String
  | [] => []
  | w :: rest =>
    if w = "--" then w :: rest
    else if takesNext flags w then
      match rest with
      | v :: more => w :: v :: withoutOperand flags x more
      | [] => [w]
    else if !isFlagWord w && w = x then rest
    else w :: withoutOperand flags x rest

/-- One row of the table of edit distances: the distances from a longer beginning of one word to all
beginnings of the other. -/
def distanceRow (c : UInt8) : List UInt8 → Nat → List Nat → List Nat
  | d :: ds, left, diagonal :: above :: more =>
    let best := min (min (left + 1) (above + 1)) (diagonal + if c = d then 0 else 1)
    best :: distanceRow c ds best (above :: more)
  | _, _, _ => []

/-- The edit distance of two words in bytes. -/
def distance (a b : List UInt8) : Nat :=
  let start := List.range (b.length + 1)
  let last := a.foldl (fun row c =>
    let left := row.headD 0 + 1
    left :: distanceRow c b left row) start
  last.getLastD 0

/-- The commands that a mistyped word may have meant. -/
def similarCommands (w : String) : List String :=
  let bytes (s : String) : List UInt8 := (Text.toBytes s).toList
  let typed := bytes (Text.lower w)
  ((Name.callable.filter (· ≠ .help)).map Name.word).filter fun name =>
    distance typed (bytes name) ≤ 2 || typed.isPrefixOf (bytes name)

/-- The command of a command line, and the words that are left for it. -/
def findCommand (words : List String) : Except UsageError (Name × List String) :=
  match operandWords leadingFlags words with
  | [] => .ok (.root, words)
  | w :: _ =>
    match Name.ofWord? w with
    | some c => .ok (c, withoutOperand leadingFlags w words)
    | none => .error (.unknownCommand w (similarCommands w))

/-! ## Reading flags -/

/-- The value of a flag. -/
inductive FlagValue where
  | text (s : String)
  | integer (i : Int)
  | switch (b : Bool)
deriving Repr, DecidableEq

def truth? (s : String) : Option Bool :=
  if ["1", "t", "T", "TRUE", "true", "True"].contains s then some true
  else if ["0", "f", "F", "FALSE", "false", "False"].contains s then some false
  else none

def readValue (f : Flag) (s : String) : Except UsageError FlagValue :=
  match f.kind with
  | .text => .ok (.text s)
  | .integer =>
    match Integer.read s with
    | .ok i => .ok (.integer i)
    | .error fault => .error (.badValue s f "ParseInt" fault)
  | .switch =>
    match truth? s with
    | some b => .ok (.switch b)
    | none => .error (.badValue s f "ParseBool" .malformed)

/-- What is read from a command line. -/
structure Arguments where
  operands : List String := []
  flags : List (String × FlagValue) := []
  wantsHelp : Bool := false

namespace Arguments

def text? (a : Arguments) (name : String) : Option String :=
  a.flags.reverse.findSome? fun e => match e with
    | (n, .text s) => if n = name then some s else none
    | _ => none

def integer? (a : Arguments) (name : String) : Option Int :=
  a.flags.reverse.findSome? fun e => match e with
    | (n, .integer i) => if n = name then some i else none
    | _ => none

def isOn (a : Arguments) (name : String) : Bool :=
  (a.flags.reverse.findSome? fun e => match e with
    | (n, .switch b) => if n = name then some b else none
    | _ => none).getD false

def set (a : Arguments) (f : Flag) (s : String) : Except UsageError Arguments := do
  return { a with flags := a.flags ++ [(f.name, ← readValue f s)] }

def operand (a : Arguments) (w : String) : Arguments := { a with operands := a.operands ++ [w] }

end Arguments

/-- Reads a long flag; `rest` are the words after it. -/
def readLong (flags : List Flag) (w : String) (rest : List String) (a : Arguments) :
    Except UsageError (Arguments × List String) :=
  let body := w.toList.drop 2
  match body with
  | [] => .error (.badFlag w)
  | c :: _ =>
    if c = '-' || c = '=' then .error (.badFlag w)
    else
      let name := String.ofList (body.takeWhile (· ≠ '='))
      match flags.find? fun f => f.name == name with
      | none => .error (.unknownFlag name)
      | some f =>
        match body.dropWhile (· ≠ '=') with
        | _ :: value => do return (← a.set f (String.ofList value), rest)
        | [] =>
          if f.kind = .switch then do return (← a.set f "true", rest)
          else match rest with
            | v :: more => do return (← a.set f v, more)
            | [] => .error (.noValue w)

def readShort (flags : List Flag) : List Char → List String → Arguments →
    Except UsageError (Arguments × List String)
  | [], rest, a => .ok (a, rest)
  | c :: cs, rest, a =>
    match flags.find? fun f => f.short == some c with
    | none => .error (.unknownShort c (String.ofList (c :: cs)))
    | some f =>
      match cs with
      | '=' :: v :: more => do return (← a.set f (String.ofList (v :: more)), rest)
      | _ =>
        if f.kind = .switch then
          match a.set f "true" with
          | .ok a => readShort flags cs rest a
          | .error e => .error e
        else if !cs.isEmpty then do return (← a.set f (String.ofList cs), rest)
        else match rest with
          | v :: more => do return (← a.set f v, more)
          | [] => .error (.noShortValue c (String.ofList (c :: cs)))

/-- Reads the words of a command; `fuel` bounds their number. -/
def readWords (flags : List Flag) : Nat → List String → Arguments → Except UsageError Arguments
  | 0, _, a => .ok a
  | _ + 1, [], a => .ok a
  | fuel + 1, w :: rest, a =>
    match w.toList with
    | ['-', '-'] => .ok (rest.foldl Arguments.operand a)
    | '-' :: '-' :: _ => do
      let (a, rest) ← readLong flags w rest a
      readWords flags fuel rest a
    | '-' :: c :: cs => do
      let (a, rest) ← readShort flags (c :: cs) rest a
      readWords flags fuel rest a
    | _ => readWords flags fuel rest (a.operand w)

def readArguments (c : Name) (words : List String) : Except UsageError Arguments := do
  let a ← readWords (flagsOf c) (words.length + 1) words {}
  return { a with wantsHelp := a.isOn "help" }

def checkOperands (c : Name) (a : Arguments) : Except UsageError Unit :=
  let n := a.operands.length
  match c with
  | .compile | .validate | .graph | .bake => if n = 1 then .ok () else .error (.operandCount 1 n)
  | .serve => if n ≤ 1 then .ok () else .error (.tooManyOperands 1 n)
  | _ => .ok ()

end SceneGraph.Command
