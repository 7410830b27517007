import SceneGraph.Bytes.Path
import SceneGraph.Log
import SceneGraph.Table

/-!
# Programs on storage

What a command does outside itself: it reads and writes files, makes directories, prints lines and
reports entries to the log. A program is a tree of such requests with a continuation for each answer. `Program.run`
carries it out on a tree of files.
-/
set_option autoImplicit false

namespace SceneGraph

/-- What is written into a file. -/
inductive FileContents where
  | bytes (data : ByteArray)
  | shaderBinary (wgsl : String)

/-- A computation with requests to storage. -/
inductive Program (α : Type) where
  | done (a : α)
  | readFile (path : String) (next : Except String ByteArray → Program α)
  | makeDirectory (path : String) (next : Except String Unit → Program α)
  | writeFile (path : String) (contents : FileContents) (next : Except String Unit → Program α)
  | print (line : String) (next : Program α)
  | report (entry : LogEntry) (next : Program α)

namespace Program

variable {α β : Type}

def bind : Program α → (α → Program β) → Program β
  | .done a, f => f a
  | .readFile path next, f => .readFile path fun r => (next r).bind f
  | .makeDirectory path next, f => .makeDirectory path fun r => (next r).bind f
  | .writeFile path contents next, f => .writeFile path contents fun r => (next r).bind f
  | .print line next, f => .print line (next.bind f)
  | .report entry next, f => .report entry (next.bind f)

instance : Monad Program where
  pure := .done
  bind := Program.bind

/-- The bytes of a file, or why it cannot be read. -/
def read (path : String) : Program (Except String ByteArray) := .readFile path .done

def makeDirectories (path : String) : Program (Except String Unit) := .makeDirectory path .done

def write (path : String) (contents : FileContents) : Program (Except String Unit) :=
  .writeFile path contents .done

def printLines : List String → Program Unit
  | [] => .done ()
  | l :: rest => .print l (printLines rest)

def reportAll : List LogEntry → Program Unit
  | [] => .done ()
  | e :: rest => .report e (reportAll rest)

end Program

/-- Files and directories by clean path. -/
structure FileTree where
  files : Table FileContents := []
  directories : List String := []

namespace FileTree

/-- The paths above a path, the highest first. -/
def ancestors (path : String) : List String :=
  let cs := Path.components path
  (List.range cs.length).filterMap fun i =>
    let front := "/".intercalate (cs.take i)
    if front = "" then none else some front

def isFile (t : FileTree) (path : String) : Bool := t.files.has path

def isDirectory (t : FileTree) (path : String) : Bool :=
  path = "." || path = "/" || t.directories.contains path

def add (t : FileTree) (path : String) (data : ByteArray) : FileTree :=
  { files := t.files.insert (Path.clean path) (.bytes data)
    directories := t.directories ++ (ancestors (Path.clean path)).filter fun d => !t.directories.contains d }

/-- Why a path leads nowhere. -/
inductive Obstacle where
  | missing
  | notADirectory
  | isADirectory
  | exists
deriving Repr, DecidableEq

def Obstacle.message : Obstacle → String
  | .missing => "no such file or directory"
  | .notADirectory => "not a directory"
  | .isADirectory => "is a directory"
  | .exists => "file exists"

def refuse {α : Type} (request path : String) (o : Obstacle) : Except String α :=
  .error (request ++ " " ++ path ++ ": " ++ o.message)

/-- Follows the components of a path from a place. All but the last place must be directories. -/
def walk (t : FileTree) : String → List String → Except Obstacle String
  | place, [] => .ok place
  | place, c :: rest =>
    if t.isFile place then .error .notADirectory
    else if !t.isDirectory place then .error .missing
    else if c = "" || c = "." then walk t place rest
    else if c = ".." then walk t (if place = "." then ".." else Path.dir place) rest
    else walk t (Path.join [place, c]) rest

/-- The place that a path leads to. There need not be anything. -/
def locate (t : FileTree) (path : String) : Except Obstacle String :=
  if path = "" then .error .missing
  else t.walk (if Path.isAbsolute path then "/" else ".") (Path.components path)

def read (t : FileTree) (path : String) : Except String ByteArray :=
  match t.locate path with
  | .error o => refuse "open" path o
  | .ok place =>
    match t.files.get? place with
    | some (.bytes data) => .ok data
    | some (.shaderBinary _) => .error ("read " ++ path ++ ": operation not supported")
    | none => if t.isDirectory place then refuse "read" path .isADirectory else refuse "open" path .missing

def trimmed (path : String) : String :=
  String.ofList (path.toList.reverse.dropWhile (· = '/')).reverse

def makeOne (t : FileTree) (path : String) : Except Obstacle FileTree := do
  let place ← t.locate (trimmed path)
  if t.isFile place || t.isDirectory place then .error .exists
  else .ok { t with directories := t.directories ++ [place] }

def leadsToDirectory (t : FileTree) (path : String) : Bool := (t.locate path).toOption.any t.isDirectory

def leadsToFile (t : FileTree) (path : String) : Bool := (t.locate path).toOption.any t.isFile

def parentOf (path : String) : String :=
  String.ofList ((trimmed path).toList.reverse.dropWhile (· ≠ '/')).tail.reverse

/-- Makes the last directory of a path whose other directories are there. -/
def makeLast (t : FileTree) (path : String) : Except String Unit × FileTree :=
  match t.makeOne path with
  | .ok t => (.ok (), t)
  | .error o => if t.leadsToDirectory path then (.ok (), t) else (refuse "mkdir" path o, t)

/-- Makes a directory and those above it; `fuel` bounds the length of the path. -/
def makeWithin : Nat → FileTree → String → Except String Unit × FileTree
  | 0, t, path => (refuse "mkdir" path .missing, t)
  | fuel + 1, t, path =>
    if t.leadsToDirectory path then (.ok (), t)
    else if t.leadsToFile path then (refuse "mkdir" path .notADirectory, t)
    else if parentOf path = "" then t.makeLast path
    else match makeWithin fuel t (parentOf path) with
      | (.ok (), t) => t.makeLast path
      | failed => failed

def makeDirectory (t : FileTree) (path : String) : Except String Unit × FileTree :=
  makeWithin (path.length + 1) t path

def write (t : FileTree) (path : String) (c : FileContents) : Except String Unit × FileTree :=
  match t.locate path with
  | .error o => (refuse "open" path o, t)
  | .ok place =>
    if t.isDirectory place then (refuse "open" path .isADirectory, t)
    else (.ok (), { t with files := t.files.insert place c })

end FileTree

/-- Carries out a program on a tree of files: its result, the tree afterwards and the printed lines. The
log is dropped. -/
def Program.run {α : Type} : Program α → FileTree → α × FileTree × List String
  | .done a, t => (a, t, [])
  | .readFile path next, t => (next (t.read path)).run t
  | .makeDirectory path next, t =>
    let r := t.makeDirectory path
    (next r.1).run r.2
  | .writeFile path contents next, t =>
    let r := t.write path contents
    (next r.1).run r.2
  | .print line next, t =>
    let (a, t, lines) := next.run t
    (a, t, line :: lines)
  | .report _ next, t => next.run t

end SceneGraph
