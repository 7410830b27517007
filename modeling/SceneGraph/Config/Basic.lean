import SceneGraph.Log
import SceneGraph.Number.Duration
import SceneGraph.Number.Numeral
import SceneGraph.Prepare.Basic
import SceneGraph.Text.Lower
import SceneGraph.Text.Quoted
import SceneGraph.Yaml.Resolve

/-!
# Configuration

The settings of the tool. They come from a document, where missing keys keep their defaults and unknown
ones are refused; then from the environment; and are checked at last. Every setting that breaks its rule
is reported. The level of the log is a name with an offset: `warn+2` lies above warnings and below errors.
-/
set_option autoImplicit false

namespace SceneGraph

/-! ## Log levels by number -/

namespace LogLevel

def number : LogLevel → Int
  | .debug => -4
  | .info => 0
  | .warn => 4
  | .error => 8

def all : List LogLevel := [.debug, .info, .warn, .error]

/-- The level with a name, in any case. -/
def ofName? (name : String) : Option LogLevel := all.find? fun l => l.name == name.toUpper

/-- The number of a written level; none when the name is unknown or the offset no integer. Numbers have
64 bits and wrap around. -/
def read? (s : String) : Option Int :=
  let cs := s.toList
  let name := cs.takeWhile fun c => c ≠ '+' && c ≠ '-'
  let offset := cs.drop name.length
  match ofName? (String.ofList name) with
  | none => none
  | some l =>
    if offset.isEmpty then some l.number
    else match Integer.readDecimal (String.ofList offset) with
      | .ok n => some (Int.bmod (l.number + n) (Nat.pow 2 64))
      | .error _ => none

/-- The number of a written level; unknown ones count as information. -/
def read (s : String) : Int := (read? s).getD LogLevel.info.number

def shownFrom (n : Int) : List LogLevel := all.filter fun l => n ≤ l.number

end LogLevel

/-! ## Settings -/

/-- The settings of the tool. -/
structure Config where
  logLevel : String := "info"
  logFormat : String := "text"
  /-- The size of outputs that do not state one. -/
  width : Int := 800
  height : Int := 600
  /-- Shaders are compiled to binaries. -/
  spirv : Bool := false
  address : String := "127.0.0.1:7878"
  /-- The longest message of a session in bytes. -/
  readLimit : Int := 16777216
  /-- The counts are served. -/
  metrics : Bool := true
  /-- How long a file must be quiet before it is loaded again. -/
  debounce : Duration := Duration.ofMilliseconds 150
  /-- The file of the node types; without one the built-in ones are used. -/
  schema : String := ""
  /-- The directory of image files; without one they are not read. -/
  baseDir : String := ""

namespace Config

/-! ## Documents -/

open Yaml (Resolved)

/-- The node itself, or the one that an alias holds. -/
def follow : Yaml.Node → Option Yaml.Node
  | .alias _ target => target
  | n => some n

/-- Reads a scalar; null keeps the old value. -/
def readScalar {α : Type} (read : Resolved → String → Option α) (old : α) (n : Yaml.Node) :
    Option α := do
  match ← follow n with
  | .scalar tag text isPlain =>
    match ← Yaml.resolve? tag text isPlain with
    | .null => return old
    | r => read r text
  | _ => none

/-- The text of a scalar; what is no text is taken as it is written. -/
def textOfScalar (r : Resolved) (text : String) : Option String :=
  match r with
  | .text s => some s
  | _ => some text

def readText : String → Yaml.Node → Option String := readScalar textOfScalar

/-- Reads an integer; fractions are cut off. -/
def readInt : Int → Yaml.Node → Option Int :=
  readScalar fun r _ => match r with
    | .int i => some i
    | .float x => if x ≤ 9223372036854775807 then some (toInt64 x) else none
    | _ => none

/-- Reads a truth value, also as one of the older words for it. -/
def readBool : Bool → Yaml.Node → Option Bool :=
  readScalar fun r _ => match r with
    | .bool b => some b
    | .text s =>
      if ["y", "Y", "yes", "on"].contains s then some true
      else if ["n", "N", "no", "off"].contains s then some false
      else none
    | _ => none

def readDuration : Duration → Yaml.Node → Option Duration :=
  readScalar fun r _ => match r with
    | .text s => Duration.read? s
    | _ => none

/-- The name that a key is; null is none. -/
def readName (key : Yaml.Node) : Option (Option String) :=
  readScalar (fun r text => (textOfScalar r text).map some) none key

/-- Reads entries into settings; a name may come only once. Of the names in `merged` entries do not count;
the others are added to them. The names that were read come back. -/
def readEntries (read : String → Yaml.Node → Config → Option Config) :
    Option (List String) → List String → List (Yaml.Node × Yaml.Node) → Config →
      Option (List String × Config)
  | merged, seen, [], c => some (merged.getD seen, c)
  | merged, seen, (key, value) :: rest, c =>
    if key.isMerge then readEntries read merged seen rest c
    else do
      match ← readName key with
      | none => readEntries read merged seen rest c
      | some name =>
        if merged.any fun names => names.contains name then readEntries read merged seen rest c
        else if seen.contains name then none
        else readEntries read (merged.map (name :: ·)) (name :: seen) rest (← read name value c)

/-- The mappings whose entries are merged into another. -/
def mergeSources (n : Yaml.Node) : Option (List (List (Yaml.Node × Yaml.Node))) :=
  let entriesOf (n : Yaml.Node) : Option (List (Yaml.Node × Yaml.Node)) :=
    match follow n with
    | some (.mapping entries) => some entries
    | _ => none
  match n with
  | .sequence items => items.mapM entriesOf
  | n => (entriesOf n).map fun entries => [entries]

mutual

/-- Reads a mapping into settings, and then the mappings that are merged into it: what is set already
counts more, and earlier ones count more than later ones. -/
def readMapping (read : String → Yaml.Node → Config → Option Config) :
    Nat → Option (List String) → List (Yaml.Node × Yaml.Node) → Config → Option (List String × Config)
  | 0, _, _, _ => none
  | fuel + 1, merged, entries, c => do
    if Yaml.Node.hasRepeats entries then none
    else
      let (names, c) ← readEntries read merged [] entries c
      match entries.find? fun e => e.1.isMerge with
      | none => return (names, c)
      | some (_, source) => readMerged read fuel names (← mergeSources source) c

/-- Reads mappings one after the other, without the names that came before. -/
def readMerged (read : String → Yaml.Node → Config → Option Config) :
    Nat → List String → List (List (Yaml.Node × Yaml.Node)) → Config → Option (List String × Config)
  | 0, _, _, _ => none
  | _ + 1, names, [], c => some (names, c)
  | fuel + 1, names, entries :: rest, c => do
    let (names, c) ← readMapping read fuel (some names) entries c
    readMerged read fuel names rest c

end

def readSection (fuel : Nat) (read : String → Yaml.Node → Config → Option Config) (n : Yaml.Node)
    (c : Config) : Option Config := do
  match ← follow n with
  | .mapping entries => return (← readMapping read fuel none entries c).2
  | n => readScalar (fun _ _ => none) c n

def readLog (name : String) (v : Yaml.Node) (c : Config) : Option Config :=
  match name with
  | "level" => (readText c.logLevel v).map fun x => { c with logLevel := x }
  | "format" => (readText c.logFormat v).map fun x => { c with logFormat := x }
  | _ => none

def readRender (name : String) (v : Yaml.Node) (c : Config) : Option Config :=
  match name with
  | "width" => (readInt c.width v).map fun x => { c with width := x }
  | "height" => (readInt c.height v).map fun x => { c with height := x }
  | "spirv" => (readBool c.spirv v).map fun x => { c with spirv := x }
  | _ => none

def readServer (name : String) (v : Yaml.Node) (c : Config) : Option Config :=
  match name with
  | "addr" => (readText c.address v).map fun x => { c with address := x }
  | "read_limit" => (readInt c.readLimit v).map fun x => { c with readLimit := x }
  | "metrics" => (readBool c.metrics v).map fun x => { c with metrics := x }
  | _ => none

def readWatch (name : String) (v : Yaml.Node) (c : Config) : Option Config :=
  match name with
  | "debounce" => (readDuration c.debounce v).map fun x => { c with debounce := x }
  | _ => none

def readTop (fuel : Nat) (name : String) (v : Yaml.Node) (c : Config) : Option Config :=
  match name with
  | "log" => readSection fuel readLog v c
  | "render" => readSection fuel readRender v c
  | "server" => readSection fuel readServer v c
  | "watch" => readSection fuel readWatch v c
  | "schema" => (readText c.schema v).map fun x => { c with schema := x }
  | "base_dir" => (readText c.baseDir v).map fun x => { c with baseDir := x }
  | _ => none

/-- Reads a document over settings; none when it is malformed or does not fit. Mappings are not merged
more often than the text is long. -/
def decode? (c : Config) (text : String) : Option Config :=
  let fuel := 2 * text.length + 2
  match Yaml.Node.parse text with
  | .malformed => none
  | .empty => some c
  | .document root => readSection fuel (readTop fuel) root c

/-! ## The environment -/

/-- Changes settings by a variable, if it is set and not empty. -/
def withVariable (env : String → Option String) (name : String) (f : String → Config → Config) (c : Config) :
    Config :=
  match env name with
  | some v => if v = "" then c else f v c
  | none => c

/-- The variables of the environment that change settings. -/
def environmentNames : List String :=
  ["SHADERGRAPH_LOG_LEVEL", "SHADERGRAPH_LOG_FORMAT", "SHADERGRAPH_ADDR", "SHADERGRAPH_WIDTH",
    "SHADERGRAPH_HEIGHT", "SHADERGRAPH_DEBOUNCE"]

/-- Changes settings by the environment; values that cannot be read are ignored. -/
def withEnvironment (env : String → Option String) (c : Config) : Config :=
  let number (v : String) (old : Int) : Int :=
    match Integer.readDecimal v with
    | .ok i => i
    | .error _ => old
  c |> withVariable env "SHADERGRAPH_LOG_LEVEL" (fun v c => { c with logLevel := Text.lower v })
    |> withVariable env "SHADERGRAPH_LOG_FORMAT" (fun v c => { c with logFormat := Text.lower v })
    |> withVariable env "SHADERGRAPH_ADDR" (fun v c => { c with address := v })
    |> withVariable env "SHADERGRAPH_WIDTH" (fun v c => { c with width := number v c.width })
    |> withVariable env "SHADERGRAPH_HEIGHT" (fun v c => { c with height := number v c.height })
    |> withVariable env "SHADERGRAPH_DEBOUNCE"
      (fun v c => { c with debounce := (Duration.read? v).getD c.debounce })

/-! ## Checks -/

/-- A setting that breaks a rule. -/
structure Violation where
  setting : String
  rule : String
  value : String
deriving Repr, DecidableEq

def Violation.message (v : Violation) : String :=
  "Config." ++ v.setting ++ " failed " ++ Text.quoted v.rule ++ " (value " ++ v.value ++ ")"

def checkOneOf (setting value : String) (words : List String) : List Violation :=
  if words.contains value then [] else [⟨setting, "oneof", value⟩]

/-- A number lies within bounds; the lower one is looked at first. -/
def checkRange (setting : String) (n : Int) (lo hi : Option Int) (value : String) : List Violation :=
  if lo.any (n < ·) then [⟨setting, "gte", value⟩]
  else if hi.any (· < n) then [⟨setting, "lte", value⟩]
  else []

/-- A part of a host name: letters, digits and dashes, no dash in front, at most 63 characters. -/
def isHostLabel (cs : List Char) : Bool :=
  match cs with
  | [] => false
  | c :: rest => c.isAlphanum && rest.length ≤ 62 && rest.all fun d => d.isAlphanum || d = '-'

def isHostName (cs : List Char) : Bool := (cs.splitOnP (· = '.')).all isHostLabel

def isPort (s : String) : Bool :=
  match Integer.readDecimal s with
  | .ok n => 1 ≤ n && n ≤ 65535
  | .error _ => false

def isBracket (c : Char) : Bool := c = '[' || c = ']'

/-- The host and the port of an address; a host in brackets may hold colons. -/
def splitAddress? (s : String) : Option (List Char × String) :=
  let cs := s.toList
  let port := (cs.reverse.takeWhile (· ≠ ':')).reverse
  if !cs.contains ':' then none
  else
    let host := cs.take (cs.length - port.length - 1)
    match host with
    | '[' :: rest =>
      if rest.getLast? = some ']' && !rest.dropLast.any isBracket && !port.any isBracket then
        some (rest.dropLast, String.ofList port)
      else none
    | _ => if host.contains ':' || cs.any isBracket then none else some (host, String.ofList port)

/-- A host name, which may be missing, and a port. -/
def isAddress (s : String) : Bool :=
  match splitAddress? s with
  | some (host, port) => isPort port && (host.isEmpty || isHostName host)
  | none => false

/-- An address is given and has a host and a port. -/
def checkAddress (setting value : String) : List Violation :=
  if value = "" then [⟨setting, "required", value⟩]
  else if isAddress value then []
  else [⟨setting, "hostname_port", value⟩]

def violations (c : Config) : List Violation :=
  checkOneOf "Log.Level" c.logLevel ["debug", "info", "warn", "error"]
    ++ checkOneOf "Log.Format" c.logFormat ["text", "json"]
    ++ checkRange "Render.Width" c.width (some 1) (some 16384) (toString c.width)
    ++ checkRange "Render.Height" c.height (some 1) (some 16384) (toString c.height)
    ++ checkAddress "Server.Addr" c.address
    ++ checkRange "Server.ReadLimit" c.readLimit (some 1024) none (toString c.readLimit)
    ++ checkRange "Watch.Debounce" c.debounce.nanoseconds (some 0) (some (Duration.ofSeconds 10).nanoseconds)
      c.debounce.render

end Config

/-- Why settings cannot be used. -/
inductive ConfigError where
  /-- The document is malformed or does not fit; `file` is its name, if it has one. -/
  | document (file : String)
  | invalid (violations : List Config.Violation)
  /-- The document could not be read from storage. -/
  | unreadable (text : String)
deriving Repr, DecidableEq

def ConfigError.message : ConfigError → String
  | .document file => "config: " ++ (if file = "" then "" else file ++ ": ") ++ "yaml"
  | .invalid vs => "config: invalid: " ++ "; ".intercalate (vs.map Config.Violation.message)
  | .unreadable text => "config: " ++ text

namespace Config

/-- The settings, if they keep all rules. -/
def check (c : Config) : Except ConfigError Config :=
  match c.violations with
  | [] => .ok c
  | vs => .error (.invalid vs)

def decode (c : Config) (file text : String) : Except ConfigError Config :=
  match c.decode? text with
  | some c => .ok c
  | none => .error (.document file)

/-- The settings of a document, without the environment. -/
def parse (text : String) : Except ConfigError Config := do
  let c ← ({} : Config).decode "" text
  c.check

end Config

end SceneGraph
